import TagRelay.Proofs.Pipeline.Conservation
import TagRelay.Proofs.Pipeline.Scheduled

/-!
# Connectors with a clock

The parties take turns in any order, as before, and now a clock goes on between their steps.
What the loop does takes time of its own: a read, and the wait for room behind it, may take
any; a pause lasts as long as it was asked for, unless the loop is asked to stop; everything
else is done at once.  So time passes only as long as the loop's action may last, and what is
done is noted with the time at which it was over.
-/

namespace TagRelay

/-! ## How long an action lasts -/

namespace Poll.Action

/-- Whether an action of the loop that began at one time may still be going on at another. -/
def MayLast : Action → Nat → Nat → Prop
  | .link (.call (.read _)), begun, time => begun ≤ time
  | .deliver _, begun, time => begun ≤ time
  | .pause millis, begun, time => begun ≤ time ∧ time ≤ begun + millis
  | _, begun, time => time = begun

/-- What an answer tells of the time: the clock shows it, and a pause that was not broken off
has lasted as long as it was asked for. -/
def Tells : (action : Action) → action.Answer → Nat → Nat → Prop
  | .now, answer, _, time => answer = time
  | .pause millis, answer, begun, time => answer = false → time = begun + millis
  | _, _, _, _ => True

theorem mayLast_self (action : Action) (begun : Nat) : action.MayLast begun begun := by
  unfold MayLast
  split
  · exact Nat.le_refl begun
  · exact Nat.le_refl begun
  · exact ⟨Nat.le_refl begun, Nat.le_add_right begun _⟩
  · rfl

end Poll.Action

/-- A running connector with a clock. -/
structure Clocked (σ κ : Type) where
  parties : Interleaved σ κ
  clock : Nat := 0
  /-- When the loop began with what it is doing. -/
  since : Nat := 0

namespace Clocked

open Interleaved (Event loopEvents loopEffect Mannered)

variable {σ κ : Type}

/-- A connector that has just been started. -/
def start (c : Connector) (session : σ) (sink : κ) : Clocked σ κ where
  parties := .start c session sink

/-- The loop may still be busy at that time, or has ended. -/
def MayWait (p : Clocked σ κ) (time : Nat) : Prop :=
  match p.parties.loop.acting? with
  | some ⟨action, _⟩ => action.MayLast p.since time
  | none => p.parties.loop.hasEnded = true

section Runs

variable [TagSession σ] [RecordSink κ]

/-- Somebody takes a step, or time passes. -/
inductive Step (c : Connector) (p : Clocked σ κ) : List (Nat × Event) → Clocked σ κ → Prop
  | loopActs {action : Poll.Action} {next : action.Answer → Running.LoopStage}
      {answer : action.Answer} {q : Interleaved σ κ}
      (hacting : p.parties.loop.acting? = some ⟨action, next⟩)
      (heffect : loopEffect c action answer p.parties q)
      (htells : action.Tells answer p.since p.clock) :
      Step c p [(p.clock, .loop ⟨action, answer⟩)]
        { parties := { q with loop := next answer }, clock := p.clock, since := p.clock }
  /-- The loop goes on where a turn is done, or somebody else takes a step. -/
  | others {new : List Event} {q : Interleaved σ κ}
      (hstep : Interleaved.Step c p.parties new q) (hnew : loopEvents new = []) :
      Step c p (new.map fun event => (p.clock, event)) { p with parties := q }
  | passes {time : Nat} (htime : p.clock ≤ time) (hwaits : p.MayWait time) :
      Step c p [] { p with clock := time }

/-- Steps one after the other, with all that was done and its times. -/
inductive Run (c : Connector) (p : Clocked σ κ) : List (Nat × Event) → Clocked σ κ → Prop
  | refl : Run c p [] p
  | tail {log new : List (Nat × Event)} {q r : Clocked σ κ} (hrun : Run c p log q)
      (hstep : Step c q new r) : Run c p (log ++ new) r

variable {c : Connector} {p q r : Clocked σ κ} {log new : List (Nat × Event)}

theorem Run.trans {later : List (Nat × Event)} (hrun : Run c p log q)
    (hlater : Run c q later r) : Run c p (log ++ later) r := by
  induction hlater with
  | refl => simpa using hrun
  | tail _ hstep ih => simpa [List.append_assoc] using ih.tail hstep

/-- Without the clock, a run with a clock is one like any other. -/
theorem Run.parties (hrun : Run c p log q) :
    Interleaved.Run c p.parties (log.map Prod.snd) q.parties := by
  induction hrun with
  | refl => exact .refl
  | @tail log new q r hrun hstep ih =>
      rw [List.map_append]
      cases hstep with
      | loopActs hacting heffect htells => exact ih.tail (.loopActs hacting heffect)
      | others hstep hnew =>
          rw [List.map_map]
          exact ih.tail (by rwa [show Prod.snd ∘ (fun event => (q.clock, event)) = id from rfl,
            List.map_id])
      | passes htime hwaits => simpa using ih

end Runs

/-! ## What the loop has done when -/

/-- What the loop has done, with the times. -/
def loopLog (log : List (Nat × Event)) : List (Nat × Poll.Event) :=
  log.filterMap fun entry => entry.2.loop?.map fun event => (entry.1, event)

@[simp]
theorem loopLog_append (log later : List (Nat × Event)) :
    loopLog (log ++ later) = loopLog log ++ loopLog later :=
  List.filterMap_append

theorem loopLog_of_others {new : List Event} (hnew : loopEvents new = []) (time : Nat) :
    loopLog (new.map fun event => (time, event)) = [] := by
  rw [loopLog, List.filterMap_eq_nil_iff]
  intro entry hentry
  obtain ⟨event, hevent, rfl⟩ := List.mem_map.mp hentry
  have hnone : event.loop? = none := List.filterMap_eq_nil_iff.mp hnew event hevent
  simp [hnone]

/-! ## The clock of the loop -/

/-- The clock shows a time at which the loop may still be busy with what it is doing; where it
is done, no time has passed. -/
structure OnTime (p : Clocked σ κ) : Prop where
  acting : ∀ action next, p.parties.loop.acting? = some ⟨action, next⟩ →
    action.MayLast p.since p.clock
  done : p.parties.loop.acting? = none → p.parties.loop.hasEnded = false → p.clock = p.since

section Steps

variable [TagSession σ] [RecordSink κ] {c : Connector} {p q : Clocked σ κ}
  {log new : List (Nat × Event)}

/-- What is not an action of the loop leaves it where it is, or lets it go on where it was
done. -/
theorem loop_of_others {p q : Interleaved σ κ} {new : List Event}
    (hstep : Interleaved.Step c p new q) (hmannered : Mannered p) (hnew : loopEvents new = []) :
    q.loop = p.loop ∨ ∃ stage, p.loop.following? c.pollSettings = some stage ∧ q.loop = stage := by
  rcases hstep.loop_or_guest hmannered with
    ⟨action, next, answer, r, -, -, rfl, -⟩ | ⟨stage, hstage, -, rfl⟩ | ⟨hloop, -⟩
  · simp [loopEvents, Event.loop?] at hnew
  · exact Or.inr ⟨stage, hstage, rfl⟩
  · exact Or.inl hloop

theorem OnTime.step (htime : p.OnTime) (hmannered : Mannered p.parties)
    (hstep : Step c p new q) : q.OnTime := by
  cases hstep with
  | loopActs hacting heffect htells =>
      exact ⟨fun action _ _ => action.mayLast_self p.clock, fun _ _ => rfl⟩
  | others hstep hnew =>
      rcases loop_of_others hstep hmannered hnew with hloop | ⟨stage, hstage, -⟩
      · exact ⟨by rw [hloop]; exact htime.acting, by rw [hloop]; exact htime.done⟩
      · -- The loop was done with its turn, and since then no time has passed.
        have hnone := Running.LoopStage.acting?_eq_none hstage
        have hrunning : p.parties.loop.hasEnded = false := by
          cases hloop : p.parties.loop with
          | ended => simp [hloop, Running.LoopStage.following?] at hstage
          | turn | finish => rfl
        have hnow : p.clock = p.since := htime.done hnone hrunning
        exact ⟨fun action _ _ => hnow ▸ action.mayLast_self p.clock, fun _ _ => hnow⟩
  | @passes time _ hwaits =>
      constructor
      · intro action next hacting
        simpa [MayWait, hacting] using hwaits
      · intro hnone hrunning
        simp [MayWait, hnone, hrunning] at hwaits

theorem onTime_of_run {session : σ} {sink : κ} (hrun : Run c (start c session sink) log p) :
    p.OnTime := by
  induction hrun with
  | refl => exact ⟨fun action _ _ => action.mayLast_self 0, fun _ _ => rfl⟩
  | tail hrun hstep ih =>
      exact ih.step ((Interleaved.mannered_start c session sink).run hrun.parties) hstep

end Steps

end Clocked

end TagRelay
