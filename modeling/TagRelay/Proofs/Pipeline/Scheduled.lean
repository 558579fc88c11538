import TagRelay.Proofs.Link.Sequence
import TagRelay.Proofs.Pipeline.Untimed

/-!
# What a running connector does

The scheduler of a running connector as a relation, with a log of all actions in their order
and without the bounds on its work.  The loop and the worker settle when both have to wait;
the host performs its routines in between; and what happens from outside is told by a script.
What the scheduler computes within its bounds is what the relation says.
-/

namespace TagRelay.Running

open Interleaved (Event)

variable {σ κ : Type} [TagSession σ] [RecordSink κ]

/-! ## The loop and the worker -/

omit [RecordSink κ] in
/-- What the loop does in its next step. -/
def loopDoes (r : Running σ κ) : List Event :=
  match r.loop.acting? with
  | none => []
  | some ⟨action, _⟩ =>
      match r.tryPoll action with
      | .answered answer _ => [.loop ⟨action, answer⟩]
      | .waits _ _ => []

omit [TagSession σ] in
/-- What the worker does in its next step. -/
def workerDoes (r : Running σ κ) : List Event :=
  match r.worker.acting? with
  | none => []
  | some ⟨action, _⟩ =>
      match r.tryWorker action with
      | .answered answer _ => [.worker ⟨action, answer⟩]
      | .waits _ _ => []

omit [RecordSink κ] in
theorem stepLoop_of_acting {r : Running σ κ} {action : Poll.Action}
    {next : action.Answer → LoopStage} (hacting : r.loop.acting? = some ⟨action, next⟩) :
    r.stepLoop = r.stepPoll action next := by
  unfold stepLoop
  split <;> rename_i hloop <;> rw [hloop] at hacting
  case h_2 | h_5 =>
    simp only [LoopStage.acting?, Option.some.injEq, Sigma.mk.injEq] at hacting
    obtain ⟨rfl, hnext⟩ := hacting
    cases hnext
    rfl
  all_goals simp [LoopStage.acting?] at hacting

omit [RecordSink κ] in
theorem stepLoop_of_following {r : Running σ κ} {stage : LoopStage}
    (hstage : r.loop.following? r.connector.pollSettings = some stage) :
    r.stepLoop = some { r with loop := stage } := by
  unfold stepLoop
  split <;> rename_i hloop <;> rw [hloop] at hstage
  case h_3 | h_4 | h_6 =>
    obtain rfl := Option.some.inj hstage
    rfl
  all_goals simp [LoopStage.following?] at hstage

theorem LoopStage.acting?_eq_none {settings : Poll.Settings} {stage following : LoopStage}
    (hstage : stage.following? settings = some following) : stage.acting? = none := by
  cases stage with
  | turn rest | finish rest =>
      cases rest with
      | done => rfl
      | act => simp [LoopStage.following?] at hstage
  | ended => rfl

/-- What a step of the loop comes to. -/
inductive LoopStep (r : Running σ κ) : List Event → Running σ κ → Prop
  | acts {action : Poll.Action} {next : action.Answer → LoopStage} {answer : action.Answer}
      {after : Running σ κ} (hacting : r.loop.acting? = some ⟨action, next⟩)
      (hattempt : r.tryPoll action = .answered answer after) :
      LoopStep r [.loop ⟨action, answer⟩]
        { after with loop := next answer, loopProgress := .fresh }
  | waits {action : Poll.Action} {next : action.Answer → LoopStage} {progress : Progress}
      {after : Running σ κ} (hacting : r.loop.acting? = some ⟨action, next⟩)
      (hattempt : r.tryPoll action = .waits progress after)
      (hprogress : progress ≠ r.loopProgress) :
      LoopStep r [] { after with loopProgress := progress }
  | goesOn {stage : LoopStage}
      (hstage : r.loop.following? r.connector.pollSettings = some stage) :
      LoopStep r [] { r with loop := stage }

omit [RecordSink κ] in
theorem loopStep_of_stepLoop {r after : Running σ κ} (hstep : r.stepLoop = some after) :
    LoopStep r r.loopDoes after := by
  rw [loopDoes]
  cases hacting : r.loop.acting? with
  | some acting =>
      obtain ⟨action, next⟩ := acting
      rw [stepLoop_of_acting hacting, stepPoll] at hstep
      dsimp only
      cases hattempt : r.tryPoll action with
      | answered answer between =>
          rw [hattempt] at hstep
          obtain rfl := Option.some.inj hstep
          exact .acts hacting hattempt
      | waits progress between =>
          rw [hattempt] at hstep
          dsimp only at hstep
          split at hstep
          · simp at hstep
          · rename_i hprogress
            obtain rfl := Option.some.inj hstep
            exact .waits hacting hattempt hprogress
  | none =>
      cases hstage : r.loop.following? r.connector.pollSettings with
      | some stage =>
          rw [stepLoop_of_following hstage] at hstep
          obtain rfl := Option.some.inj hstep
          exact .goesOn hstage
      | none =>
          unfold stepLoop at hstep
          split at hstep <;> rename_i hloop <;> rw [hloop] at hacting hstage
          case h_1 => simp at hstep
          all_goals simp [LoopStage.acting?, LoopStage.following?] at hacting hstage

/-- What a step of the worker comes to. -/
inductive WorkerStep (r : Running σ κ) : List Event → Running σ κ → Prop
  | acts {action : Worker.Action} {next : action.Answer → WorkerStage} {answer : action.Answer}
      {after : Running σ κ} (hacting : r.worker.acting? = some ⟨action, next⟩)
      (hattempt : r.tryWorker action = .answered answer after) :
      WorkerStep r [.worker ⟨action, answer⟩] { after with worker := next answer }
  | goesOn {stage : WorkerStage} (hstage : r.worker.following? = some stage) :
      WorkerStep r [] { r with worker := stage }

omit [TagSession σ] in
theorem workerStep_of_stepWorker {r after : Running σ κ} (hstep : r.stepWorker = some after) :
    WorkerStep r r.workerDoes after := by
  rw [workerDoes]
  unfold stepWorker at hstep
  split at hstep <;> rename_i hworker <;> rw [hworker]
  · simp at hstep
  · rename_i action next
    dsimp only [WorkerStage.acting?]
    cases hattempt : r.tryWorker action with
    | answered answer between =>
        rw [hattempt] at hstep
        obtain rfl := Option.some.inj hstep
        have hacting : (WorkerStage.turn (.act action next)).acting? =
            some ⟨action, fun answer => .turn (next answer)⟩ := rfl
        exact .acts (by rw [hworker]; exact hacting) hattempt
    | waits progress between => simp [hattempt] at hstep
  · obtain rfl := Option.some.inj hstep
    exact .goesOn (by rw [hworker]; rfl)
  · obtain rfl := Option.some.inj hstep
    exact .goesOn (by rw [hworker]; rfl)

/-- The loop and the worker go on until both have to wait. -/
inductive Settles : Running σ κ → List Event → Running σ κ → Prop
  | quiet {r : Running σ κ} (hloop : r.stepLoop = none) (hworker : r.stepWorker = none) :
      Settles r [] r
  | loop {r after last : Running σ κ} {log : List Event} (hstep : r.stepLoop = some after)
      (hrest : Settles after log last) : Settles r (r.loopDoes ++ log) last
  | worker {r after last : Running σ κ} {log : List Event} (hloop : r.stepLoop = none)
      (hstep : r.stepWorker = some after) (hrest : Settles after log last) :
      Settles r (r.workerDoes ++ log) last

/-- What is done until the loop and the worker have to wait, if they do within the bound. -/
def settleLog : Nat → Running σ κ → Option (List Event)
  | 0, _ => none
  | bound + 1, r =>
      match r.stepLoop with
      | some after => (settleLog bound after).map (r.loopDoes ++ ·)
      | none =>
          match r.stepWorker with
          | some after => (settleLog bound after).map (r.workerDoes ++ ·)
          | none => some []

theorem settles_of_log {bound : Nat} {r : Running σ κ} {log : List Event}
    (hlog : r.settleLog bound = some log) : Settles r log (r.settle bound) := by
  induction bound generalizing r log with
  | zero => cases hlog
  | succ bound ih =>
      rw [settleLog] at hlog
      rw [settle]
      cases hnext : r.stepLoop with
      | some after =>
          simp only [hnext] at hlog ⊢
          obtain ⟨later, hlater, rfl⟩ := Option.map_eq_some_iff.mp hlog
          exact .loop hnext (ih hlater)
      | none =>
          cases hnext' : r.stepWorker with
          | some after =>
              simp only [hnext, hnext'] at hlog ⊢
              obtain ⟨later, hlater, rfl⟩ := Option.map_eq_some_iff.mp hlog
              exact .worker hnext hnext' (ih hlater)
          | none =>
              simp only [hnext, hnext'] at hlog ⊢
              obtain rfl := Option.some.inj hlog
              exact .quiet hnext hnext'

/-! ## The host -/

/-- The host performs a routine, while the loop and the worker settle whenever it waits. -/
inductive Performs {α : Type} :
    Host.Program α → Progress → Running σ κ → List Event → α → Running σ κ → Prop
  | done {result : α} {progress : Progress} {r : Running σ κ} :
      Performs (.done result) progress r [] result r
  | answered {action : Host.Action} {next : action.Answer → Host.Program α}
      {progress : Progress} {r after last : Running σ κ} {answer : action.Answer}
      {log : List Event} {result : α}
      (hattempt : r.tryHost progress action = .answered answer after)
      (hrest : Performs (next answer) .fresh after log result last) :
      Performs (.act action next) progress r (.host ⟨action, answer⟩ :: log) result last
  | settled {action : Host.Action} {next : action.Answer → Host.Program α}
      {progress waiting : Progress} {r before settled after last : Running σ κ}
      {answer : action.Answer} {log later : List Event} {result : α}
      (hattempt : r.tryHost progress action = .waits waiting before)
      (hsettles : Settles before log settled)
      (hagain : settled.tryHost waiting action = .answered answer after)
      (hrest : Performs (next answer) .fresh after later result last) :
      Performs (.act action next) progress r (log ++ .host ⟨action, answer⟩ :: later) result last
  | passed {action : Host.Action} {next : action.Answer → Host.Program α}
      {progress waiting still : Progress} {r before settled after timed last : Running σ κ}
      {log later : List Event} {result : α}
      (hattempt : r.tryHost progress action = .waits waiting before)
      (hsettles : Settles before log settled)
      (hagain : settled.tryHost waiting action = .waits still after)
      (hpass : after.passTime still action = some timed)
      (hrest : Performs (.act action next) still timed later result last) :
      Performs (.act action next) progress r (log ++ later) result last

section Inversion

variable {α : Type} {action : Host.Action} {next : action.Answer → Host.Program α}
  {progress : Progress} {r last : Running σ κ} {log : List Event} {result : α}

theorem Performs.of_done {answer : α}
    (hperforms : Performs (.done answer) progress r log result last) :
    log = [] ∧ answer = result ∧ last = r := by
  cases hperforms
  exact ⟨rfl, rfl, rfl⟩

theorem Performs.of_answered {answer : action.Answer} {after : Running σ κ}
    (hperforms : Performs (.act action next) progress r log result last)
    (hattempt : r.tryHost progress action = .answered answer after) :
    ∃ later, log = .host ⟨action, answer⟩ :: later ∧
      Performs (next answer) .fresh after later result last := by
  cases hperforms with
  | answered hattempt' hrest =>
      rw [hattempt] at hattempt'
      cases hattempt'
      exact ⟨_, rfl, hrest⟩
  | settled hattempt' | passed hattempt' =>
      rw [hattempt] at hattempt'
      cases hattempt'

/-- Whoever has to wait tries again after the tasks have settled, and goes on or lets time
pass. -/
theorem Performs.of_waits {waiting : Progress} {before : Running σ κ}
    (hperforms : Performs (.act action next) progress r log result last)
    (hattempt : r.tryHost progress action = .waits waiting before) :
    ∃ soon later settled, log = soon ++ later ∧ Settles before soon settled ∧
      ((∃ answer after rest, settled.tryHost waiting action = .answered answer after ∧
          later = .host ⟨action, answer⟩ :: rest ∧
          Performs (next answer) .fresh after rest result last) ∨
        ∃ still after timed, settled.tryHost waiting action = .waits still after ∧
          after.passTime still action = some timed ∧
          Performs (.act action next) still timed later result last) := by
  cases hperforms with
  | answered hattempt' =>
      rw [hattempt] at hattempt'
      cases hattempt'
  | settled hattempt' hsettles hagain hrest =>
      rw [hattempt] at hattempt'
      cases hattempt'
      exact ⟨_, _, _, rfl, hsettles, Or.inl ⟨_, _, _, hagain, rfl, hrest⟩⟩
  | passed hattempt' hsettles hagain hpass hrest =>
      rw [hattempt] at hattempt'
      cases hattempt'
      exact ⟨_, _, _, rfl, hsettles, Or.inr ⟨_, _, _, hagain, hpass, hrest⟩⟩

end Inversion

/-- What is done while the host performs a routine, if it comes to the end of it and
everybody else to rest within the bounds. -/
def hostLog {α : Type} : Nat → Host.Program α → Progress → Running σ κ → Option (List Event)
  | 0, _, _, _ => none
  | _ + 1, .done _, _, _ => some []
  | bound + 1, .act action next, progress, r =>
      match r.tryHost progress action with
      | .answered answer after =>
          (hostLog bound (next answer) .fresh after).map (.host ⟨action, answer⟩ :: ·)
      | .waits waiting before =>
          (before.settleLog settleBound).bind fun log =>
            match (before.settle settleBound).tryHost waiting action with
            | .answered answer after =>
                (hostLog bound (next answer) .fresh after).map fun later =>
                  log ++ .host ⟨action, answer⟩ :: later
            | .waits still after =>
                (after.passTime still action).bind fun timed =>
                  (hostLog bound (.act action next) still timed).map (log ++ ·)

theorem performs_of_log {α : Type} {bound : Nat} {program : Host.Program α}
    {progress : Progress} {r : Running σ κ} {log : List Event}
    (hlog : hostLog bound program progress r = some log) :
    ∃ result, Performs program progress r log result (host bound program progress r).2 := by
  induction bound generalizing program progress r log with
  | zero => cases hlog
  | succ bound ih =>
      cases program with
      | done result =>
          obtain rfl := Option.some.inj hlog
          exact ⟨result, .done⟩
      | act action next =>
          rw [hostLog] at hlog
          rw [host]
          cases hattempt : r.tryHost progress action with
          | answered answer after =>
              simp only [hattempt] at hlog ⊢
              obtain ⟨later, hlater, rfl⟩ := Option.map_eq_some_iff.mp hlog
              obtain ⟨result, hrest⟩ := ih hlater
              exact ⟨result, .answered hattempt hrest⟩
          | waits waiting before =>
              simp only [hattempt] at hlog ⊢
              obtain ⟨soon, hsoon, hlog⟩ := Option.bind_eq_some_iff.mp hlog
              have hsettles := settles_of_log hsoon
              cases hagain : (before.settle settleBound).tryHost waiting action with
              | answered answer after =>
                  simp only [hagain] at hlog ⊢
                  obtain ⟨later, hlater, rfl⟩ := Option.map_eq_some_iff.mp hlog
                  obtain ⟨result, hrest⟩ := ih hlater
                  exact ⟨result, .settled hattempt hsettles hagain hrest⟩
              | waits still after =>
                  simp only [hagain] at hlog ⊢
                  obtain ⟨timed, hpass, hlog⟩ := Option.bind_eq_some_iff.mp hlog
                  obtain ⟨later, hlater, rfl⟩ := Option.map_eq_some_iff.mp hlog
                  obtain ⟨result, hrest⟩ := ih hlater
                  simp only [hpass]
                  exact ⟨result, .passed hattempt hsettles hagain hpass hrest⟩

def runLog {α : Type} (r : Running σ κ) (program : Host.Program α) : Option (List Event) :=
  hostLog hostBound program .fresh r

/-! ## Scripts -/

/-- What happens from outside. -/
inductive Happening (κ : Type) where
  | advance (millis : Nat)
  | answer (request : Remote.Request)
  | update (u : Remote.Update)
  | prepare (preparation : Memory.Preparation)
  /-- The server drops the connection. -/
  | drop
  /-- Something becomes of the sink. -/
  | resink (change : κ → κ)
  | shutdown

section Scripts

variable {κ : Type} [RecordSink κ]

/-- What comes of a happening. -/
inductive Happens : Running Memory κ → Happening κ → List Event → Running Memory κ → Prop
  | advance {r last : Running Memory κ} {log : List Event} {millis : Nat}
      (hperforms : Performs (Host.act (.rest millis)) .fresh r log () last) :
      Happens r (.advance millis) log last
  | answer {r last : Running Memory κ} {log : List Event} {request : Remote.Request}
      {reply : Remote.Reply}
      (hperforms : Performs (Host.onLink (r.connector.passThrough.answer request)) .fresh r log
        reply last) :
      Happens r (.answer request) log last
  | update {r last : Running Memory κ} {log : List Event} {u : Remote.Update}
      {replies : Except Remote.Failure (List (String × Remote.Reply))}
      (hperforms : Performs (Host.onLink (r.connector.passThrough.update u)) .fresh r log
        replies last) :
      Happens r (.update u) log last
  | prepare (r : Running Memory κ) (preparation : Memory.Preparation) :
      Happens r (.prepare preparation) []
        { r with link.session := r.link.session.prepare preparation }
  | drop (r : Running Memory κ) :
      Happens r .drop [] { r with link.session := r.link.session.drop }
  | resink (r : Running Memory κ) (change : κ → κ) :
      Happens r (.resink change) [] { r with sink := change r.sink }
  | shutdown {r last : Running Memory κ} {log : List Event} {joined : Bool}
      (hperforms : Performs (Host.shutdown r.connector.server.stopTimeout) .fresh r log joined
        last) :
      Happens r .shutdown log last

/-- Happenings one after the other. -/
inductive Plays : Running Memory κ → List (Happening κ) → List Event → Running Memory κ → Prop
  | nil (r : Running Memory κ) : Plays r [] [] r
  | cons {r between last : Running Memory κ} {h : Happening κ} {rest : List (Happening κ)}
      {log later : List Event} (hfirst : Happens r h log between)
      (hrest : Plays between rest later last) : Plays r (h :: rest) (log ++ later) last

/-- What is computed for a happening. -/
def happen (r : Running Memory κ) : Happening κ → Running Memory κ
  | .advance millis => r.advance millis
  | .answer request => (r.answer request).2
  | .update u => (r.update u).2
  | .prepare preparation => { r with link.session := r.link.session.prepare preparation }
  | .drop => { r with link.session := r.link.session.drop }
  | .resink change => { r with sink := change r.sink }
  | .shutdown => r.shutdown.2

/-- What is done on a happening, if all of it is done within the bounds. -/
def happenLog (r : Running Memory κ) : Happening κ → Option (List Event)
  | .advance millis => r.runLog (Host.act (.rest millis))
  | .answer request => r.runLog (Host.onLink (r.connector.passThrough.answer request))
  | .update u => r.runLog (Host.onLink (r.connector.passThrough.update u))
  | .shutdown => r.runLog (Host.shutdown r.connector.server.stopTimeout)
  | .prepare _ | .drop | .resink _ => some []

/-- What is computed within the bounds is what comes of the happening. -/
theorem happens_of_log {r : Running Memory κ} {h : Happening κ} {log : List Event}
    (hlog : r.happenLog h = some log) : Happens r h log (r.happen h) := by
  cases h with
  | advance millis =>
      obtain ⟨_, hperforms⟩ := performs_of_log hlog
      exact .advance hperforms
  | answer request =>
      obtain ⟨_, hperforms⟩ := performs_of_log hlog
      exact .answer hperforms
  | update u =>
      obtain ⟨_, hperforms⟩ := performs_of_log hlog
      exact .update hperforms
  | shutdown =>
      obtain ⟨_, hperforms⟩ := performs_of_log hlog
      exact .shutdown hperforms
  | prepare preparation =>
      obtain rfl := Option.some.inj hlog
      exact .prepare r preparation
  | drop =>
      obtain rfl := Option.some.inj hlog
      exact .drop r
  | resink change =>
      obtain rfl := Option.some.inj hlog
      exact .resink r change

/-- What is done during a script, if all of it is done within the bounds. -/
def playLog : Running Memory κ → List (Happening κ) → Option (List Event)
  | _, [] => some []
  | r, h :: rest =>
      (r.happenLog h).bind fun log => (playLog (r.happen h) rest).map (log ++ ·)

theorem plays_of_log {r : Running Memory κ} {script : List (Happening κ)} {log : List Event}
    (hlog : playLog r script = some log) : Plays r script log (script.foldl happen r) := by
  induction script generalizing r log with
  | nil =>
      obtain rfl := Option.some.inj hlog
      exact .nil r
  | cons h rest ih =>
      obtain ⟨first, hfirst, hlog⟩ := Option.bind_eq_some_iff.mp hlog
      obtain ⟨later, hlater, rfl⟩ := Option.map_eq_some_iff.mp hlog
      exact .cons (happens_of_log hfirst) (ih hlater)

end Scripts

end TagRelay.Running
