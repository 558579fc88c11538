import TagRelay.Device
import TagRelay.Metrics.Basic
import TagRelay.Pipeline.Sink
import TagRelay.Routine

/-!
# The conversion worker

The worker takes replies in the order in which they were handed on and sends one record
for each.  Where the conversion fails, the record holds nothing but the identity of the
device.  Neither that nor a record that is refused ends the worker.
-/

namespace TagRelay.Worker

inductive Action where
  /-- Waits for the next reply; none when the worker is asked to stop or there will be
  no more of them. -/
  | receive
  | count (event : Metrics.Event)
  /-- Offers a record to the sink; answers whether it was accepted. -/
  | send (record : Record)

abbrev Action.Answer : Action → Type
  | .receive => Option Unconverted
  | .count _ => Unit
  | .send _ => Bool

abbrev Program (α : Type) := Routine Action.Answer α

def act (action : Action) : Program action.Answer := .perform action

/-- The record for a reply, and how many failures it counts for. -/
def convert (reply : Unconverted) : Record × Nat :=
  match reply.device.converter.convert reply.device.toUplink reply.unit with
  | .ok conversion => (conversion.record, conversion.failures)
  | .error _ => (.identity reply.device.toUplink, 1)

def process (reply : Unconverted) : Program Unit := do
  act (.count .received)
  let (record, failures) := convert reply
  act (.count (.conversionFailures reply.device.name failures))
  if ← act (.send record) then act (.count .sent)

/-- Takes one reply; answers whether the worker goes on. -/
def turn : Program Bool := do
  match ← act .receive with
  | none => return false
  | some reply =>
      process reply
      return true

/-! ## A worker by itself -/

/-- A worker with all its replies in front of it, when no more will come. -/
structure Bench (κ : Type) where
  connector : String
  id : String
  waiting : List Unconverted
  stopAsked : Bool := false
  metrics : Metrics := {}
  sink : κ

namespace Bench

variable {κ : Type} [RecordSink κ]

def perform : (action : Action) → Bench κ → action.Answer × Bench κ
  | .receive, b =>
      if b.stopAsked then (none, b)
      else
        match b.waiting with
        | [] => (none, b)
        | reply :: rest => (some reply, { b with waiting := rest })
  | .count event, b => ((), { b with metrics := b.metrics.record event })
  | .send record, b =>
      let (accepted, sink) := RecordSink.send ⟨b.connector, b.id, record⟩ b.sink
      (accepted, { b with sink })

/-- At most so many turns. -/
def turns : Nat → Bench κ → Bench κ
  | 0, b => b
  | count + 1, b =>
      let (goesOn, b) := turn.run perform b
      if goesOn then turns count b else b

/-- Runs the worker to its end, which comes at the latest after the last reply. -/
def run (b : Bench κ) : Bench κ := b.turns (b.waiting.length + 1)

end Bench

end TagRelay.Worker
