import TagRelay.Device
import TagRelay.Link

/-!
# The poll loop

The loop opens the link when it is not open, and otherwise polls every device once in
each poll period.  A cycle reads the devices one after the other, each with one batched
read, and hands every reply on for conversion.  A read that fails does not keep the
other devices from being read, unless the link is lost by it.

The loop is given as the routine of one turn, which says when the next cycle is due.
-/

namespace TagRelay.Poll

inductive Action where
  | link (action : Link.Action)
  /-- The time of the running connector, in milliseconds. -/
  | now
  /-- The time of the day, in Unix milliseconds. -/
  | wallClock
  /-- Whether the loop was asked to stop. -/
  | stopAsked
  /-- Waits; answers whether the loop was asked to stop meanwhile. -/
  | pause (millis : Nat)
  /-- Hands on a reply as soon as there is room for it; answers whether it was taken,
  which it is not when the loop is asked to stop or nobody is there to take it. -/
  | deliver (reply : Unconverted)

abbrev Action.Answer : Action → Type
  | .link action => action.Answer
  | .now => Nat
  | .wallClock => Int
  | .stopAsked | .pause _ | .deliver _ => Bool

abbrev Program (α : Type) := Routine Action.Answer α

def act (action : Action) : Program action.Answer := .perform action

/-- A routine on the link as a part of the loop. -/
abbrev onLink {α : Type} (routine : Link.Program α) : Program α := routine.through Action.link

/-- What the loop has to know. -/
structure Settings where
  target : Endpoint
  pollPeriod : Nat
  reconnectDelay : Nat
  idleTick : Nat
  devices : List Device

/-- One batched read of all tags of a device; without tags there is nothing to read. -/
def readTags (device : Device) : Link.Program (Except SessionError (List Reading)) :=
  if device.hasTags then Link.act (.call (.read device.tagPaths)) else pure (.ok [])

/-- Takes note of a failed read. -/
def readFailed (device : Device) (cause : SessionError) : Link.Program Unit := do
  Link.act (.count (.readFailure device.name))
  let _ ← Link.markLost cause

/-- Reads the devices that have tags, as long as the link is connected; answers whether
the loop goes on. -/
def cycle : List Device → Program Bool
  | [] => pure true
  | device :: rest => do
      if device.hasTags then
        let state ← act (.link .look)
        if state = .connected then
          match ← onLink (readTags device) with
          | .ok readings =>
              let time ← act .wallClock
              if ← act (.deliver ⟨device, readings, time⟩) then cycle rest else return false
          | .error cause =>
              onLink (readFailed device cause)
              cycle rest
        else return true
      else cycle rest

/-- Opens the link anew; after a failure the loop waits before it tries again. -/
def reopen (settings : Settings) (nextPoll : Nat) : Program (Option Nat) := do
  onLink Link.disconnect
  match ← onLink (Link.connect settings.target) with
  | .ok () => return some (← act .now)
  | .error _ =>
      if ← act (.pause settings.reconnectDelay) then return none else return some nextPoll

/-- Polls when a cycle is due, else sleeps for a while. -/
def pollOrRest (settings : Settings) (nextPoll : Nat) : Program (Option Nat) := do
  let now ← act .now
  if nextPoll ≤ now then
    if ← cycle settings.devices then
      act (.link (.count .pollCycle))
      return some (now + settings.pollPeriod)
    else return none
  else if ← act (.pause (min settings.idleTick (nextPoll - now))) then return none
  else return some nextPoll

/-- One turn of the loop; answers when the next cycle is due, or none at its end. -/
def turn (settings : Settings) (nextPoll : Nat) : Program (Option Nat) := do
  if ← act .stopAsked then return none
  let state ← act (.link .look)
  if state = .connected then pollOrRest settings nextPoll else reopen settings nextPoll

/-- What the loop does last. -/
def finish : Program Unit := onLink Link.stop

end TagRelay.Poll
