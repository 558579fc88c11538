import Mathlib.Algebra.GroupWithZero.Nat
import TagRelay.Pipeline.Worker
import TagRelay.Proofs.Metrics.Shares
import TagRelay.Proofs.Routine

/-!
# What becomes of the waiting replies

A worker by itself takes the replies that wait for it until there are none or it is asked
to stop.  For each it offers one record, and whether the conversion fails and whether the
record is accepted decides what is counted and not how the worker goes on.
-/

namespace TagRelay

/-! ## Offers to a sink -/

/-- The answers of a sink to dispatches that are offered one after the other. -/
def RecordSink.offerAll {κ : Type} [RecordSink κ] : List Dispatch → κ → List Bool × κ
  | [], sink => ([], sink)
  | dispatch :: rest, sink =>
      let (accepted, sink) := RecordSink.send dispatch sink
      let (answers, sink) := offerAll rest sink
      (accepted :: answers, sink)

theorem RecordSink.offerAll_cons {κ : Type} [RecordSink κ] (dispatch : Dispatch)
    (rest : List Dispatch) (sink : κ) :
    offerAll (dispatch :: rest) sink =
      ((send dispatch sink).1 :: (offerAll rest (send dispatch sink).2).1,
        (offerAll rest (send dispatch sink).2).2) := rfl

namespace Worker

/-- What is sent for a reply, and how many failures it counts for. -/
inductive Yields (reply : Unconverted) : Record → Nat → Prop
  | converted {conversion : Conversion}
      (hok : reply.device.converter.convert reply.device.toUplink reply.unit = .ok conversion) :
      Yields reply conversion.record conversion.failures
  /-- Of a reply that cannot be converted nothing is left but the names of the device. -/
  | degraded {cause : ConnectorError}
      (herror : reply.device.converter.convert reply.device.toUplink reply.unit = .error cause) :
      Yields reply ⟨reply.device.name, reply.device.profile, [], []⟩ 1

theorem yields_convert (reply : Unconverted) :
    Yields reply (convert reply).1 (convert reply).2 := by
  rw [convert]
  cases hconvert : reply.device.converter.convert reply.device.toUplink reply.unit with
  | ok conversion => exact .converted hconvert
  | error cause => exact .degraded hconvert

namespace Bench

variable {κ : Type} [RecordSink κ]

/-! ## One reply -/

/-- What is offered to the sink for a reply. -/
def dispatch (b : Bench κ) (reply : Unconverted) : Dispatch :=
  ⟨b.connector, b.id, (convert reply).1⟩

/-- The counts after a reply, by the answer of the sink. -/
def counted (metrics : Metrics) (reply : Unconverted) (accepted : Bool) : Metrics :=
  let received := metrics.record .received
  let converted := received.record (.conversionFailures reply.device.name (convert reply).2)
  if accepted then converted.record .sent else converted

/-- The worker after it took the first reply. -/
def handle (b : Bench κ) (reply : Unconverted) : Bench κ :=
  let (accepted, sink) := RecordSink.send (b.dispatch reply) b.sink
  { b with
    waiting := b.waiting.tail
    metrics := counted b.metrics reply accepted
    sink := sink }

theorem run_act (action : Action) (b : Bench κ) :
    (act action).run perform b = perform action b := rfl

theorem run_process (b : Bench κ) (reply : Unconverted) :
    ((process reply).run perform b).2 =
      { b with
        metrics := counted b.metrics reply (RecordSink.send (b.dispatch reply) b.sink).1
        sink := (RecordSink.send (b.dispatch reply) b.sink).2 } := by
  rw [process, Routine.run_bind, Routine.run_bind, Routine.run_bind, run_act, run_act, run_act]
  cases haccepted : (RecordSink.send (b.dispatch reply) b.sink).1 with
  | true =>
      rw [dispatch] at haccepted
      simp [perform, haccepted, counted, dispatch]
      rfl
  | false =>
      rw [dispatch] at haccepted
      simp [perform, haccepted, counted, dispatch]
      rfl

theorem run_turn_of_cons {b : Bench κ} (hasked : b.stopAsked = false) {reply : Unconverted}
    {rest : List Unconverted} (hwaiting : b.waiting = reply :: rest) :
    turn.run perform b = (true, b.handle reply) := by
  have htaken : perform .receive b = (some reply, { b with waiting := rest }) := by
    simp [perform, hasked, hwaiting]
  rw [turn, Routine.run_bind, run_act, htaken]
  have hprocess := run_process { b with waiting := rest } reply
  calc (process reply >>= fun _ => pure true : Program Bool).run perform { b with waiting := rest }
      = (true, ((process reply).run perform { b with waiting := rest }).2) :=
        Routine.run_bind perform _ _ _
    _ = (true, b.handle reply) := by
        rw [hprocess, handle, hwaiting]
        rfl

theorem run_turn_of_nil {b : Bench κ} (hwaiting : b.waiting = []) :
    turn.run perform b = (false, b) := by
  have hnone : perform .receive b = (none, b) := by
    simp [perform, hwaiting]
  rw [turn, Routine.run_bind, run_act, hnone]
  rfl

theorem run_turn_of_asked {b : Bench κ} (hasked : b.stopAsked = true) :
    turn.run perform b = (false, b) := by
  have hnone : perform .receive b = (none, b) := by
    simp [perform, hasked]
  rw [turn, Routine.run_bind, run_act, hnone]
  rfl

/-! ## Several replies -/

/-- The worker after it took the first replies. -/
def handleAll (b : Bench κ) (replies : List Unconverted) : Bench κ := replies.foldl handle b

theorem handleAll_cons (b : Bench κ) (reply : Unconverted) (rest : List Unconverted) :
    b.handleAll (reply :: rest) = (b.handle reply).handleAll rest := rfl

/-- Turns that the worker makes before it is asked to stop take one reply each, as long as
there are any. -/
theorem turns_eq {b : Bench κ} (hasked : b.stopAsked = false) (count : Nat) :
    b.turns count = b.handleAll (b.waiting.take count) := by
  induction count generalizing b with
  | zero => rfl
  | succ count ih =>
      cases hwaiting : b.waiting with
      | nil =>
          rw [turns, run_turn_of_nil hwaiting]
          rfl
      | cons reply rest =>
          have hrest : (b.handle reply).waiting = rest := congrArg List.tail hwaiting
          have hstill : (b.handle reply).stopAsked = false := hasked
          rw [turns, run_turn_of_cons hasked hwaiting]
          calc (b.handle reply).turns count
              = (b.handle reply).handleAll (rest.take count) := by rw [ih hstill, hrest]
            _ = b.handleAll ((reply :: rest).take (count + 1)) := by
                rw [List.take_succ_cons, handleAll_cons]

theorem run_of_asked {b : Bench κ} (hasked : b.stopAsked = true) : b.run = b := by
  rw [run, turns, run_turn_of_asked hasked]
  rfl

/-- The failures that replies count for, of those whose device is as `which` says. -/
def failures (which : String → Bool) (replies : List Unconverted) : Nat :=
  ((replies.filter fun reply => which reply.device.name).map fun reply => (convert reply).2).sum

theorem failures_cons (which : String → Bool) (reply : Unconverted) (rest : List Unconverted) :
    failures which (reply :: rest) =
      (if which reply.device.name then (convert reply).2 else 0) + failures which rest := by
  cases hwhich : which reply.device.name <;> simp [failures, hwhich]

/-- What a worker has done to replies. -/
structure Handled (b : Bench κ) (replies : List Unconverted) (after : Bench κ) : Prop where
  waiting : after.waiting = b.waiting.drop replies.length
  sink : after.sink = (RecordSink.offerAll (replies.map b.dispatch) b.sink).2
  received : after.metrics.received = b.metrics.received + replies.length
  sent : after.metrics.sent =
    b.metrics.sent + (RecordSink.offerAll (replies.map b.dispatch) b.sink).1.count true
  failures : ∀ device, after.metrics.conversionFailures.count device =
    b.metrics.conversionFailures.count device + failures (Tally.sharing device) replies

theorem counted_received (metrics : Metrics) (reply : Unconverted) (accepted : Bool) :
    (counted metrics reply accepted).received = metrics.received + 1 := by
  cases accepted <;> simp [counted, Metrics.record_received, Metrics.Event.isReceived]

theorem counted_sent (metrics : Metrics) (reply : Unconverted) (accepted : Bool) :
    (counted metrics reply accepted).sent = metrics.sent + accepted.toNat := by
  cases accepted <;> simp [counted, Metrics.record_sent, Metrics.Event.isSent]

theorem count_record_conversionFailures (metrics : Metrics) (name device : String)
    (failures : Nat) :
    (metrics.record (.conversionFailures name failures)).conversionFailures.count device =
      metrics.conversionFailures.count device +
        if Tally.sharing device name then failures else 0 := by
  cases failures with
  | zero => simp [Metrics.record]
  | succ n => exact Tally.count_add device name (n + 1) metrics.conversionFailures

theorem counted_failures (metrics : Metrics) (reply : Unconverted) (accepted : Bool)
    (device : String) :
    (counted metrics reply accepted).conversionFailures.count device =
      metrics.conversionFailures.count device +
        if Tally.sharing device reply.device.name then (convert reply).2 else 0 := by
  have hcount := count_record_conversionFailures (metrics.record .received) reply.device.name
    device (convert reply).2
  cases accepted <;> exact hcount

theorem handled (b : Bench κ) (replies : List Unconverted) :
    Handled b replies (b.handleAll replies) := by
  induction replies generalizing b with
  | nil => constructor <;> simp [handleAll, RecordSink.offerAll, failures]
  | cons reply rest ih =>
      have hrest := ih (b.handle reply)
      rw [handleAll_cons]
      constructor
      · rw [hrest.waiting, List.length_cons, ← List.drop_tail]
        rfl
      · rw [hrest.sink]
        rfl
      · rw [hrest.received, handle, counted_received, List.length_cons]
        omega
      · rw [hrest.sent, List.map_cons, RecordSink.offerAll_cons, List.count_cons]
        rw [handle, counted_sent]
        cases haccepted : (RecordSink.send (b.dispatch reply) b.sink).1 with
        | true => exact Nat.add_right_comm _ _ _
        | false => rfl
      · intro device
        rw [hrest.failures, handle, counted_failures, failures_cons, Nat.add_assoc]

/-! ## A whole life -/

/-- The life of a worker that is asked to stop after some turns, or never. -/
def work (b : Bench κ) : (stop : Option Nat) → Bench κ
  | none => b.run
  | some count => { b.turns count with stopAsked := true : Bench κ }.run

/-- The replies that it takes. -/
def processed (b : Bench κ) : (stop : Option Nat) → List Unconverted
  | none => b.waiting
  | some count => b.waiting.take count

theorem work_none {b : Bench κ} (hasked : b.stopAsked = false) :
    b.work none = b.handleAll b.waiting := by
  rw [work, run, turns_eq hasked, List.take_of_length_le (Nat.le_succ _)]

theorem work_some {b : Bench κ} (hasked : b.stopAsked = false) (count : Nat) :
    b.work (some count) =
      { b.handleAll (b.waiting.take count) with stopAsked := true : Bench κ } := by
  rw [work, run_of_asked rfl, turns_eq hasked]

theorem handled_work {b : Bench κ} (hasked : b.stopAsked = false) (stop : Option Nat) :
    Handled b (b.processed stop) (b.work stop) := by
  cases stop with
  | none =>
      rw [work_none hasked]
      exact handled b b.waiting
  | some count =>
      rw [work_some hasked]
      have hdone := handled b (b.waiting.take count)
      exact ⟨hdone.waiting, hdone.sink, hdone.received, hdone.sent, hdone.failures⟩

theorem failures_congr {which other : String → Bool} {replies : List Unconverted}
    (hsame : ∀ reply ∈ replies, which reply.device.name = other reply.device.name) :
    failures which replies = failures other replies := by
  rw [failures, failures, List.filter_congr hsame]

/-- Whatever waits for a worker, whichever conversions fail and whatever the sink answers: the
worker takes all that waits, or if it is asked to stop what came before that, and then it is
at its end.  In this order it offers one record for each reply, which is that of the converter
or else the names of the device; it counts all of them as received and those that the sink
accepted as sent.  Its failures are shown with the device of the reply, and with every other
one that shares its fingerprint. -/
theorem drained (b : Bench κ) (hasked : b.stopAsked = false) (stop : Option Nat) :
    b.processed stop <+: b.waiting ∧ (stop = none → b.processed stop = b.waiting) ∧
    turn.run perform (b.work stop) = (false, b.work stop) ∧
    Handled b (b.processed stop) (b.work stop) ∧
    (∀ reply, Yields reply (convert reply).1 (convert reply).2) ∧
    ∀ device, (∀ reply ∈ b.processed stop,
        Tally.sharing device reply.device.name = true → reply.device.name = device) →
      (b.work stop).metrics.conversionFailures.count device =
        b.metrics.conversionFailures.count device + failures (· == device) (b.processed stop) := by
  have hhandled := handled_work hasked stop
  refine ⟨?_, ?_, ?_, hhandled, yields_convert, ?_⟩
  · cases stop with
    | none => exact List.prefix_rfl
    | some count => exact List.take_prefix count b.waiting
  · rintro rfl
    rfl
  · cases stop with
    | none =>
        apply run_turn_of_nil
        rw [hhandled.waiting]
        exact List.drop_length
    | some count =>
        apply run_turn_of_asked
        rw [work_some hasked]
  · intro device halone
    rw [hhandled.failures]
    refine congrArg _ (failures_congr ?_)
    intro reply hreply
    by_cases hname : reply.device.name = device
    · simp [hname, Tally.sharing_self]
    · have hapart : Tally.sharing device reply.device.name = false :=
        Bool.eq_false_iff.mpr fun hshared => hname (halone reply hreply hshared)
      simp [hname, hapart]

/-- A reply that cannot be converted, for it has no readings. -/
def silent (name : String) (acquiredAt : Int) : Unconverted where
  device :=
    { name := name
      profile := "default"
      tags := [⟨"temperature", "Boiler.Temperature", .timeseries, .gateway, none, none⟩]
      strategy := none
      updates := []
      methods := []
      converter := .standard }
  unit := ⟨[], acquiredAt⟩

/-- A worker with such replies of two devices. -/
def failing : Bench Mailbox where
  connector := "Boilers"
  id := "boilers"
  waiting := [silent "8yn0iYCKYHlIj4-BwPqk" 5, silent "GReLUrM4wMqfg9yzV3KQ" 6]
  sink := {}

/-- Each device has one failure and is shown with both. -/
theorem exists_foreign_failure :
    failures (· == "8yn0iYCKYHlIj4-BwPqk") failing.waiting = 1 ∧
      failing.run.metrics.conversionFailures.count "8yn0iYCKYHlIj4-BwPqk" = 2 ∧
      failures (· == "GReLUrM4wMqfg9yzV3KQ") failing.waiting = 1 ∧
      failing.run.metrics.conversionFailures.count "GReLUrM4wMqfg9yzV3KQ" = 2 := by
  decide +kernel

/-- Asked to stop before the second reply, the worker sends the first one. -/
theorem drained_of_failing :
    (failing.work (some 1)).metrics.received = 1 ∧ (failing.work (some 1)).metrics.sent = 1 ∧
      (failing.work (some 1)).waiting = [silent "GReLUrM4wMqfg9yzV3KQ" 6] ∧
      (failing.work (some 1)).metrics.conversionFailures.count "8yn0iYCKYHlIj4-BwPqk" = 1 := by
  obtain ⟨-, -, -, hhandled, -, hown⟩ := drained failing rfl (some 1)
  refine ⟨hhandled.received, hhandled.sent, hhandled.waiting, ?_⟩
  refine hown "8yn0iYCKYHlIj4-BwPqk" ?_
  intro reply hreply _
  obtain rfl : reply = silent "8yn0iYCKYHlIj4-BwPqk" 5 := List.mem_singleton.mp hreply
  rfl

end Bench

end Worker

end TagRelay
