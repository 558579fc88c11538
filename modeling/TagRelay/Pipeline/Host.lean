import TagRelay.Link

/-!
# The host

Whoever started a connector lets time pass, sends calls through its link and shuts it
down.  Shutting down asks both tasks to stop and waits for them, but not for ever: the
link is stopped in any case, and a session that is in use until after the limit is left
to the poll loop, which closes it itself.
-/

namespace TagRelay.Host

inductive Action where
  | link (action : Link.Action)
  | now
  /-- Lets time pass. -/
  | rest (millis : Nat)
  /-- Asks both tasks to stop. -/
  | signalStop
  /-- Waits for both tasks to end; answers whether they have ended by the deadline. -/
  | join (deadline : Nat)
  /-- Closes the session; answers whether it was free for that by the deadline. -/
  | closeBefore (deadline : Nat)

abbrev Action.Answer : Action → Type
  | .link action => action.Answer
  | .now => Nat
  | .rest _ | .signalStop => Unit
  | .join _ | .closeBefore _ => Bool

abbrev Program (α : Type) := Routine Action.Answer α

def act (action : Action) : Program action.Answer := .perform action

/-- A routine on the link, performed by the host. -/
abbrev onLink {α : Type} (routine : Link.Program α) : Program α := routine.through Action.link

/-- Shuts down, waiting at most `limit` milliseconds for the tasks and again for the
session; answers whether the tasks have ended in time. -/
def shutdown (limit : Nat) : Program Bool := do
  act .signalStop
  let begun ← act .now
  let joined ← act (.join (begun + limit))
  act (.link .halt)
  act (.link .publish)
  let halted ← act .now
  let _ ← act (.closeBefore (halted + limit))
  return joined

end TagRelay.Host
