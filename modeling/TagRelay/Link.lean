import TagRelay.Metrics.Basic
import TagRelay.Routine
import TagRelay.Session.Basic

/-!
# The link to a server

A connector has one session, the state of its link and its metrics.  Opening, closing
and losing the link are routines over single actions: a look at the state, a move to
another state, a call of the session.  Once the state is `stopped` it stays so.

Nothing watches the session.  That it is lost is noticed by whoever sees a call fail.
-/

namespace TagRelay

namespace Link

inductive State where
  | disconnected
  | connecting
  | connected
  | stopped
  deriving Repr, DecidableEq

namespace State

/-- The state as a metric. -/
def gauge : State → Nat
  | .disconnected => 0
  | .connecting => 1
  | .connected => 2
  | .stopped => 3

def word : State → String
  | .disconnected => "disconnected"
  | .connecting => "connecting"
  | .connected => "connected"
  | .stopped => "stopped"

end State

/-- What can be done to a link in one go. -/
inductive Action where
  /-- Looks at the state. -/
  | look
  /-- Goes to a state, with its metric, unless stopped or there already; answers
  whether the state has changed. -/
  | move (next : State)
  /-- Stops, leaving the metric as it is. -/
  | halt
  /-- Brings the metric to the stopped state. -/
  | publish
  | call (c : Session.Call)
  | count (event : Metrics.Event)

abbrev Action.Answer : Action → Type
  | .look => State
  | .move _ => Bool
  | .halt | .publish | .count _ => Unit
  | .call c => c.Result

end Link

structure Link (σ : Type) where
  session : σ
  state : Link.State := .disconnected
  metrics : Metrics := {}

namespace Link

abbrev Program (α : Type) := Routine Action.Answer α

section Effects

variable {σ : Type}

def move (link : Link σ) (next : State) : Bool × Link σ :=
  if link.state = .stopped ∨ link.state = next then (false, link)
  else (true, { link with state := next, metrics.linkState := next.gauge })

def count (link : Link σ) (event : Metrics.Event) : Link σ :=
  { link with metrics := link.metrics.record event }

def call [TagSession σ] (link : Link σ) (c : Session.Call) : c.Result × Link σ :=
  let (result, session) := TagSession.call c link.session
  (result, { link with session := session })

/-- The effect of an action. -/
def perform [TagSession σ] : (action : Action) → Link σ → action.Answer × Link σ
  | .look, link => (link.state, link)
  | .move next, link => link.move next
  | .halt, link => ((), { link with state := .stopped })
  | .publish, link => ((), { link with metrics.linkState := State.stopped.gauge })
  | .call c, link => link.call c
  | .count event, link => ((), link.count event)

/-- Performs a routine with nothing in between. -/
def run [TagSession σ] {α : Type} (link : Link σ) (routine : Program α) : α × Link σ :=
  routine.run perform link

end Effects

/-! ## Routines -/

def act (action : Action) : Program action.Answer := .perform action

/-- Opens the session.  What the server tells about itself afterwards does not matter. -/
def connect (target : Endpoint) : Program (Except SessionError Unit) := do
  let state ← act .look
  if state = .stopped then return .error (.other "connector is stopped")
  let _ ← act (.move .connecting)
  match ← act (.call (.connect target)) with
  | .ok () =>
      let _ ← act (.move .connected)
      let _ ← act (.call .info)
      return .ok ()
  | .error cause =>
      let _ ← act (.move .disconnected)
      return .error cause

/-- Closes the session, also one that is closed already. -/
def disconnect : Program Unit := do
  let _ ← act (.call .close)
  let _ ← act (.move .disconnected)

/-- Takes note of a failed call; answers whether the link was lost by it. -/
def markLost (cause : SessionError) : Program Bool :=
  if cause.isSessionLost then act (.move .disconnected) else return false

/-- Stops for good and closes the session. -/
def stop : Program Unit := do
  act .halt
  act .publish
  let _ ← act (.call .close)

end Link

end TagRelay
