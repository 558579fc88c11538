import TagRelay.Proofs.Metrics.Shares
import TagRelay.Proofs.Pipeline.Dues
import TagRelay.Proofs.Pipeline.Twins

/-!
# What a run looks like

Of a running connector one can tell what it has read and what it makes of that, whether or
not all of it was handed on and counted already.  In this view neither the worker nor a loop
that does what is due changes anything.
-/

namespace TagRelay

/-! ## Histories of the link -/

/-- The state that a link has got to by an action. -/
def Link.movedBy : (action : Link.Action) → action.Answer → Option Link.State
  | .move next, true => some next
  | .halt, _ => some .stopped
  | _, _ => none

namespace Interleaved

def Event.moved? : Event → Option Link.State
  | .loop ⟨.link action, answer⟩ => Link.movedBy action answer
  | .host ⟨.link action, answer⟩ => Link.movedBy action answer
  | .remote ⟨action, answer⟩ => Link.movedBy action answer
  | _ => none

/-- The states that the link has got to, one after the other. -/
def history (events : List Event) : List Link.State := events.filterMap Event.moved?

theorem history_append (events later : List Event) :
    history (events ++ later) = history events ++ history later :=
  List.filterMap_append

theorem history_append_one (events : List Event) (e : Event) :
    history (events ++ [e]) = history events ++ e.moved?.toList := by
  rw [history_append]
  cases hmoved : e.moved? <;> simp [history, hmoved]

/-! ## Late reads -/

def Event.isSignal : Event → Bool
  | .host ⟨.signalStop, _⟩ => true
  | _ => false

/-- Whether the tasks were asked to stop. -/
def signalled (events : List Event) : Bool := events.any Event.isSignal

/-- What the loop has read after the tasks were asked to stop. -/
def late : List Event → List (List String × List Reading)
  | [] => []
  | e :: rest => if e.isSignal then Poll.acquired (loopEvents rest) else late rest

theorem late_eq_nil {events : List Event} (hsignalled : signalled events = false) :
    late events = [] := by
  induction events with
  | nil => rfl
  | cons e rest ih =>
      rw [signalled, List.any_cons, Bool.or_eq_false_iff] at hsignalled
      rw [late, hsignalled.1, ih hsignalled.2]
      rfl

theorem signalled_append (events later : List Event) :
    signalled (events ++ later) = (signalled events || signalled later) :=
  List.any_append

theorem late_append (events later : List Event) :
    late (events ++ later) = late events ++
      if signalled events then Poll.acquired (loopEvents later) else late later := by
  induction events with
  | nil => rfl
  | cons e rest ih =>
      rw [List.cons_append, late, late]
      cases hsignal : e.isSignal with
      | true =>
          have hsignalled : signalled (e :: rest) = true := by
            rw [signalled, List.any_cons, hsignal, Bool.true_or]
          rw [hsignalled, if_pos rfl, if_pos rfl, if_pos rfl, loopEvents_append, Poll.acquired,
            List.filterMap_append]
          rfl
      | false =>
          have hsignalled : signalled (e :: rest) = signalled rest := by
            rw [signalled, List.any_cons, hsignal, Bool.false_or]
            rfl
          rw [hsignalled, if_neg Bool.false_ne_true, if_neg Bool.false_ne_true, ih]

theorem late_append_loop (events : List Event) (e : Poll.Event) :
    late (events ++ [.loop e]) =
      late events ++ if signalled events then (Poll.acquired? e).toList else [] := by
  have hone : Poll.acquired (loopEvents [.loop e]) = (Poll.acquired? e).toList :=
    Poll.acquired_append_one [] e
  rw [late_append, hone]
  rfl

/-- What is late is what the loop does. -/
theorem late_append_of_loopEvents {later : List Event} (hlater : loopEvents later = [])
    (events : List Event) : late (events ++ later) = late events := by
  have hnone : late later = [] := by
    induction later with
    | nil => rfl
    | cons e rest ih =>
        obtain ⟨hfirst, hrest⟩ := List.append_eq_nil_iff.mp
          ((loopEvents_append [e] rest).symm.trans hlater)
        rw [late, ih hrest, hrest]
        exact ite_self _
  rw [late_append, hlater, hnone]
  exact (congrArg _ (ite_self _)).trans (List.append_nil _)

end Interleaved

namespace Running

open Interleaved (Event Accounts history late loopEvents signalled workerEvents loopEffect
  loopEffect_others loopEffect_queue workerEffect workerEffect_others workerEffect_queue)
open Poll (acquired acquired? batch delivered delivered?)
open Worker (handling)

variable {κ : Type}

/-! ## Views -/

/-- The time of the day. -/
def today {σ : Type} (r : Running σ κ) : Int := r.epoch + r.clock

/-- The replies that were handed on or are due. -/
def replies (past : List Event) (r : Running Memory κ) : List Unconverted :=
  delivered (loopEvents past) ++ (r.loop.dues r.stopAsked r.today).replies

/-- What a run has come to, when all that is due is reckoned as done. -/
structure View where
  core : Core
  session : Memory
  state : Link.State
  pollCycles : Nat
  stage : LoopStage
  replies : List Unconverted
  failures : Tally String
  history : List Link.State

def view (past : List Event) (r : Running Memory κ) : View where
  core := r.core
  session := r.link.session
  state := r.link.state
  pollCycles := r.link.metrics.pollCycles
  stage := (r.loop.dues r.stopAsked r.today).stage
  replies := replies past r
  failures := Tally.addAll (r.loop.dues r.stopAsked r.today).failures r.link.metrics.readFailures
  history := history past

theorem view_of_sound {settings : Poll.Settings} {r : Running Memory κ}
    (hsound : Sound settings r.stopAsked r.loop) (past : List Event) :
    (view past r).stage = r.loop ∧ (view past r).replies = delivered (loopEvents past) ∧
      (view past r).failures = r.link.metrics.readFailures := by
  simp only [view, replies, hsound.dues, List.append_nil]
  exact ⟨trivial, trivial, rfl⟩

/-! ## Attempts of one run -/

section Attempts

variable {r after : Running Memory κ}

theorem tried_self (r : Running Memory κ) (user : User) (progress : Progress)
    (action : Link.Action) :
    Tried r r action (r.tryLink user progress action) (r.tryLink user progress action) :=
  have hbeside : Link.Beside [] r.link r.link := ⟨⟨_, rfl, by simp⟩, rfl, rfl⟩
  tried_tryLink rfl hbeside user progress action

theorem tryPoll_answered {action : Poll.Action} {answer : action.Answer}
    (hworker : r.worker.hasEnded = true → r.stopAsked = true)
    (hattempt : r.tryPoll action = .answered answer after) :
    after.today = r.today ∧ Fits r.stopAsked r.today action answer := by
  cases action with
  | link action =>
      have htried := tried_self r .loop r.loopProgress action
      rw [tryPoll] at hattempt
      rw [hattempt] at htried
      cases htried
      exact ⟨rfl, trivial⟩
  | now | wallClock | stopAsked =>
      cases hattempt
      exact ⟨rfl, by trivial⟩
  | pause millis =>
      rw [tryPoll, tryPause_eq] at hattempt
      cases hstop : r.stopAsked with
      | true =>
          rw [hstop, if_pos rfl] at hattempt
          cases hattempt
          exact ⟨rfl, rfl⟩
      | false =>
          rw [hstop, if_neg Bool.false_ne_true] at hattempt
          split at hattempt
          · cases hattempt
            exact ⟨rfl, rfl⟩
          · cases hattempt
  | deliver reply =>
      simp only [tryPoll, tryDeliver] at hattempt
      cases hstop : r.stopAsked with
      | true =>
          simp only [hstop, true_or, if_true, Attempt.answered.injEq] at hattempt
          obtain ⟨rfl, rfl⟩ := hattempt
          exact ⟨rfl, rfl⟩
      | false =>
          have hworker : r.worker.hasEnded = false := by
            rw [Bool.eq_false_iff]
            intro hended
            rw [hworker hended] at hstop
            cases hstop
          simp only [hstop, hworker, Bool.false_eq_true, or_self, if_false] at hattempt
          split at hattempt
          · cases hattempt
            exact ⟨rfl, rfl⟩
          · cases hattempt

theorem tryPoll_waits {action : Poll.Action} {progress : Progress}
    (hattempt : r.tryPoll action = .waits progress after) : after.today = r.today := by
  cases action with
  | link action =>
      have htried := tried_self r .loop r.loopProgress action
      rw [tryPoll] at hattempt
      rw [hattempt] at htried
      cases htried
      rfl
  | now | wallClock | stopAsked => cases hattempt
  | pause millis =>
      rw [tryPoll, tryPause_eq] at hattempt
      split at hattempt
      · cases hattempt
      · split at hattempt <;> cases hattempt
        rfl
  | deliver reply =>
      simp only [tryPoll, tryDeliver] at hattempt
      split at hattempt
      · cases hattempt
      · split at hattempt <;> cases hattempt
        rfl

/-- What is due is never kept waiting but by a queue that is full. -/
theorem Owing.waits {settings : Poll.Settings} {stopping : Bool}
    (howing : Owing settings stopping r.loop)
    {action : Poll.Action} {next : action.Answer → LoopStage}
    (hacting : r.loop.acting? = some ⟨action, next⟩) {progress : Progress}
    (hattempt : r.tryPoll action = .waits progress after) :
    progress = .fresh ∧ r.connector.server.queueCapacity ≤ r.queue.length := by
  generalize r.loop = stage at howing hacting
  cases howing with
  | stamps | counts => cases hacting; cases hattempt
  | delivers hnext =>
      cases hacting
      simp only [tryPoll, tryDeliver] at hattempt
      split at hattempt
      · cases hattempt
      · split at hattempt
        · cases hattempt
        · rename_i hfull
          cases hattempt
          exact ⟨rfl, Nat.le_of_not_lt hfull⟩

end Attempts

/-! ## One run -/

/-- How one run stands after all that it has done. -/
structure Side (c : Connector) (past : List Event) (r : Running Memory κ) : Prop where
  connector : r.connector = c
  accounts : Accounts c past (r.untimed .away [])
  standing : Standing c.pollSettings r.stopAsked r.loopProgress r.loop
  asked : r.stopAsked = signalled past
  batches : acquired (loopEvents past) = (replies past r).map batch ++ late past
  devices : ∀ reply ∈ replies past r, reply.device ∈ c.pollSettings.devices
  /-- Nobody asks the tasks to stop while a reply is on its way. -/
  still : r.stopAsked = true → r.queue = [] ∧ handling (workerEvents past) = .idle

section Sides

variable {c : Connector} {past log : List Event} {r after : Running Memory κ}

theorem Side.asked_of_worker (hside : Side c past r) (hended : r.worker.hasEnded = true) :
    r.stopAsked = true :=
  hside.accounts.stopAsked_of_worker_ended hended

theorem loopEvents_append_loop (past : List Event) (e : Poll.Event) :
    loopEvents (past ++ [.loop e]) = loopEvents past ++ [e] :=
  Interleaved.loopEvents_append past [.loop e]

theorem workerEvents_append_loop (past : List Event) (e : Poll.Event) :
    workerEvents (past ++ [.loop e]) = workerEvents past := by
  rw [Interleaved.workerEvents_append]
  exact List.append_nil _

theorem replies_append {settings : Poll.Settings} {e : Poll.Event} {stage : LoopStage}
    {gained : List Unconverted}
    (hentered : Entered settings r.stopAsked r.today r.loop e stage gained)
    (hloop : after.loop = stage) (hasked : after.stopAsked = r.stopAsked)
    (htoday : after.today = r.today) :
    replies (past ++ [.loop e]) after = replies past r ++ gained := by
  have hreplies := hentered.replies
  calc replies (past ++ [.loop e]) after
      = delivered (loopEvents past) ++ ((delivered? e).toList ++
          (stage.dues r.stopAsked r.today).replies) := by
        rw [replies, loopEvents_append_loop, Poll.delivered_append_one, hloop, hasked, htoday,
          List.append_assoc]
    _ = delivered (loopEvents past) ++ ((r.loop.dues r.stopAsked r.today).replies ++ gained) := by
        rw [hreplies]
    _ = replies past r ++ gained := (List.append_assoc _ _ _).symm

/-- What only takes time or the session changes nothing, if there are the same replies then. -/
theorem Side.unmoved (hside : Side c past r) (hunmoved : Unmoved r after)
    (hreplies : replies past after = replies past r)
    (hstanding : Standing c.pollSettings r.stopAsked after.loopProgress r.loop) :
    Side c past after := by
  have hsame := hunmoved.untimed .away []
  have hloop : after.loop = r.loop := congrArg Interleaved.loop hsame
  have hasked : after.stopAsked = r.stopAsked := congrArg Interleaved.stopAsked hsame
  have hqueue : after.queue = r.queue := congrArg Interleaved.queue hsame
  constructor
  · exact hunmoved.connector.trans hside.connector
  · rw [hsame]
    exact hside.accounts
  · rw [hasked, hloop]
    exact hstanding
  · exact hasked.trans hside.asked
  · rw [hreplies]
    exact hside.batches
  · rw [hreplies]
    exact hside.devices
  · rw [hasked, hqueue]
    exact hside.still

/-! ### Steps of the loop -/

theorem Side.loopActs (hside : Side c past r) {action : Poll.Action}
    {next : action.Answer → LoopStage} {answer : action.Answer}
    (hacting : r.loop.acting? = some ⟨action, next⟩)
    (hattempt : r.tryPoll action = .answered answer after) :
    Side c (past ++ [.loop ⟨action, answer⟩])
      { after with loop := next answer, loopProgress := .fresh } := by
  obtain ⟨htoday, hfits⟩ := tryPoll_answered hside.asked_of_worker hattempt
  have hfollows := tryPoll_follows r action
  rw [hattempt] at hfollows
  obtain ⟨hconnector, heffect⟩ := hfollows
  obtain rfl := hside.connector
  replace heffect : loopEffect r.connector action answer (r.untimed .away [])
    (after.untimed .away []) := heffect .away []
  have hasked : after.stopAsked = r.stopAsked := (loopEffect_others heffect).2.2.2.1
  obtain ⟨⟨gained, hentered⟩, hstanding⟩ :
      (∃ gained, Entered r.connector.pollSettings r.stopAsked r.today r.loop ⟨action, answer⟩
        (next answer) gained) ∧
        Standing r.connector.pollSettings r.stopAsked .fresh (next answer) := by
    rcases hside.standing with hsound | ⟨-, howing⟩
    · exact hsound.acts hacting hfits
    · obtain ⟨hentered, -, hstanding⟩ := howing.acts hacting hfits
      exact ⟨⟨[], hentered⟩, hstanding⟩
  have hreplies : replies (past ++ [.loop ⟨action, answer⟩])
      { after with loop := next answer, loopProgress := .fresh } = replies past r ++ gained :=
    replies_append hentered rfl hasked htoday
  constructor
  · exact hconnector
  · exact hside.accounts.loopActs hacting heffect
  · rw [← hasked] at hstanding
    exact hstanding
  · rw [Interleaved.signalled_append]
    exact (hasked.trans hside.asked).trans (Bool.or_false _).symm
  · rw [hreplies, loopEvents_append_loop, Poll.acquired_append_one, hside.batches,
      Interleaved.late_append_loop, List.map_append, hentered.acquired, ← hside.asked]
    -- Before the signal nothing is late, and from then on nothing is gained.
    cases hstop : r.stopAsked with
    | true => simp
    | false => simp [Interleaved.late_eq_nil (hside.asked.symm.trans hstop)]
  · rw [hreplies]
    exact List.forall_mem_append.mpr ⟨hside.devices, hentered.devices⟩
  · intro hstopping
    replace hstopping : r.stopAsked = true := hasked.symm.trans hstopping
    obtain ⟨hqueue, hidle⟩ := hside.still hstopping
    rw [hstopping] at hfits
    have hafter : after.queue = r.queue ++ (delivered? ⟨action, answer⟩).toList :=
      (loopEffect_queue heffect).1
    rw [delivered?_eq_none hfits, hqueue] at hafter
    rw [workerEvents_append_loop]
    exact ⟨hafter, hidle⟩

theorem Side.loopStep (hside : Side c past r) (hstep : LoopStep r log after) :
    Side c (past ++ log) after := by
  cases hstep with
  | acts hacting hattempt => exact hside.loopActs hacting hattempt
  | @waits action next progress between hacting hattempt hprogress =>
      have hunmoved := tryPoll_follows r action
      rw [hattempt] at hunmoved
      have hloop : between.loop = r.loop := congrArg Interleaved.loop (hunmoved.untimed .away [])
      have hasked : between.stopAsked = r.stopAsked :=
        congrArg Interleaved.stopAsked (hunmoved.untimed .away [])
      rw [List.append_nil]
      refine hside.unmoved ⟨hunmoved.connector, hunmoved.untimed⟩ ?_ ?_
      · change delivered _ ++ (between.loop.dues between.stopAsked between.today).replies = _
        rw [hloop, hasked, tryPoll_waits hattempt, replies]
      · rcases hside.standing with hsound | ⟨hfresh, howing⟩
        · exact Or.inl hsound
        · obtain ⟨rfl, -⟩ := howing.waits hacting hattempt
          exact absurd hfresh.symm hprogress
  | @goesOn stage hstage =>
      obtain rfl := hside.connector
      have hsound : Sound r.connector.pollSettings r.stopAsked r.loop := by
        rcases hside.standing with hsound | ⟨-, howing⟩
        · exact hsound
        · rw [howing.following?_eq_none] at hstage
          cases hstage
      have hafter := hsound.goesOn hstage
      have hreplies : replies past { r with loop := stage } = replies past r := by
        change delivered _ ++ (stage.dues _ _).replies = _
        rw [hafter.dues, replies, hsound.dues]
      have haccounts := hside.accounts.loopGoesOn hstage
      rw [List.append_nil] at haccounts ⊢
      constructor
      · rfl
      · exact haccounts
      · exact Or.inl hafter
      · exact hside.asked
      · rw [hreplies]
        exact hside.batches
      · rw [hreplies]
        exact hside.devices
      · exact hside.still

/-- Handing on a reply and counting a failure leave everything else as it is. -/
structure Paid (r after : Running Memory κ) (stage : LoopStage) (e : Poll.Event) : Prop where
  core : after.core = r.core
  session : after.link.session = r.link.session
  state : after.link.state = r.link.state
  pollCycles : after.link.metrics.pollCycles = r.link.metrics.pollCycles
  failures :
    Tally.addAll (stage.dues r.stopAsked r.today).failures after.link.metrics.readFailures =
      Tally.addAll (r.loop.dues r.stopAsked r.today).failures r.link.metrics.readFailures
  moved : Event.moved? (.loop e) = none

theorem Owing.paid {settings : Poll.Settings} (howing : Owing settings r.stopAsked r.loop)
    {action : Poll.Action} {next : action.Answer → LoopStage} {answer : action.Answer}
    (hacting : r.loop.acting? = some ⟨action, next⟩)
    (hattempt : r.tryPoll action = .answered answer after)
    (hfits : Fits r.stopAsked r.today action answer) :
    Paid r after (next answer) ⟨action, answer⟩ := by
  generalize hloop : r.loop = stage at howing hacting
  cases howing with
  | stamps hdevice hnext =>
      cases hacting
      cases hattempt
      exact ⟨rfl, rfl, rfl, rfl, by rw [hloop]; rfl, rfl⟩
  | delivers hnext =>
      cases hacting
      obtain rfl : answer = !r.stopAsked := hfits
      simp only [tryPoll, tryDeliver] at hattempt
      split at hattempt
      · obtain ⟨-, rfl⟩ := Attempt.answered.inj hattempt
        exact ⟨rfl, rfl, rfl, rfl, by rw [hloop, hnext.dues]; rfl, rfl⟩
      · split at hattempt
        · obtain ⟨-, rfl⟩ := Attempt.answered.inj hattempt
          exact ⟨rfl, rfl, rfl, rfl, by rw [hloop, hnext.dues]; rfl, rfl⟩
        · cases hattempt
  | counts hnext =>
      cases hacting
      cases hattempt
      exact ⟨rfl, rfl, rfl, rfl, by rw [hloop, hnext.dues]; rfl, rfl⟩

/-- A loop that does what is due changes nothing in the view. -/
theorem Side.view_of_owing (hside : Side c past r) (hfresh : r.loopProgress = .fresh)
    (howing : Owing c.pollSettings r.stopAsked r.loop)
    (hstep : LoopStep r log after) : view (past ++ log) after = view past r := by
  cases hstep with
  | @acts action next answer between hacting hattempt =>
      obtain ⟨htoday, hfits⟩ := tryPoll_answered hside.asked_of_worker hattempt
      obtain ⟨hentered, hstage, -⟩ := howing.acts hacting hfits
      have hpaid := howing.paid hacting hattempt hfits
      have hasked : between.stopAsked = r.stopAsked := congrArg Core.stopAsked hpaid.core
      have hreplies : replies (past ++ [.loop ⟨action, answer⟩])
          { between with loop := next answer, loopProgress := .fresh } = replies past r ++ [] :=
        replies_append hentered rfl hasked htoday
      rw [List.append_nil] at hreplies
      have hcore : { between with loop := next answer, loopProgress := .fresh }.core = r.core := by
        calc { between.core with progress := .fresh }
            = { r.core with progress := .fresh } := by rw [hpaid.core]
          _ = r.core := by rw [← hfresh]; rfl
      have hhistory : history (past ++ [.loop ⟨action, answer⟩]) = history past := by
        rw [Interleaved.history_append_one, hpaid.moved]
        exact List.append_nil _
      have htoday : { between with loop := next answer, loopProgress := .fresh }.today = r.today :=
        htoday
      rw [view, view, hcore, hreplies, hhistory, htoday]
      dsimp only
      rw [hasked, hpaid.session, hpaid.state, hpaid.pollCycles, hpaid.failures, hstage]
  | waits hacting hattempt hprogress =>
      obtain ⟨rfl, -⟩ := howing.waits hacting hattempt
      exact absurd hfresh.symm hprogress
  | goesOn hstage =>
      obtain rfl := hside.connector
      rw [howing.following?_eq_none] at hstage
      cases hstage

/-! ### Steps of the worker -/

/-- The worker leaves everything that the view shows as it is. -/
theorem view_of_tryWorker [RecordSink κ] {action : Worker.Action} {answer : action.Answer}
    (hmay : Worker.MayHandle action (workerEvents past))
    (hattempt : r.tryWorker action = .answered answer after) (next : WorkerStage) :
    view (past ++ [.worker ⟨action, answer⟩]) { after with worker := next } = view past r := by
  have hevents : loopEvents (past ++ [.worker ⟨action, answer⟩]) = loopEvents past := by
    rw [Interleaved.loopEvents_append]
    exact List.append_nil _
  have hhistory : history (past ++ [.worker ⟨action, answer⟩]) = history past := by
    rw [Interleaved.history_append_one]
    exact List.append_nil _
  rw [view, view, replies, replies, hevents, hhistory]
  cases action with
  | receive =>
      simp only [tryWorker, tryReceive] at hattempt
      split at hattempt
      · cases hattempt
        rfl
      · split at hattempt
        · cases hattempt
          rfl
        · split at hattempt <;> cases hattempt
          rfl
  | count event =>
      cases hattempt
      cases event with
      | received | sent => rfl
      | conversionFailures device count => cases count <;> rfl
      | pollCycle | readFailure | call => exact hmay.elim
  | send record =>
      cases hattempt
      rfl

/-- A worker with nothing in hand has nothing in hand afterwards, if it takes nothing. -/
theorem handling_of_idle {events : List Worker.Event} {action : Worker.Action}
    {answer : action.Answer} (hmay : Worker.MayHandle action events)
    (hidle : handling events = .idle) (htaken : Worker.taken? ⟨action, answer⟩ = none) :
    handling (events ++ [⟨action, answer⟩]) = .idle := by
  rw [Worker.handling_append_one, hidle]
  cases action with
  | receive =>
      cases answer with
      | none => rfl
      | some reply => cases htaken
  | count event =>
      cases event with
      | received =>
          obtain ⟨reply, hreply⟩ := hmay
          cases hidle.symm.trans hreply
      | pollCycle | sent | readFailure | conversionFailures | call => rfl
  | send record =>
      obtain ⟨reply, hreply, -⟩ := hmay
      cases hidle.symm.trans hreply

theorem Side.workerStep [RecordSink κ] (hside : Side c past r)
    (hstep : WorkerStep r log after) :
    Side c (past ++ log) after ∧ view (past ++ log) after = view past r := by
  cases hstep with
  | @acts action next answer between hacting hattempt =>
      obtain rfl := hside.connector
      have hmay : Worker.MayHandle action (workerEvents past) :=
        (hside.accounts.worker.acts hacting rfl).1
      have hfollows := tryWorker_follows r action
      rw [hattempt] at hfollows
      obtain ⟨hconnector, heffect⟩ := hfollows
      replace heffect : workerEffect r.connector action answer (r.untimed .away [])
        (between.untimed .away []) := heffect .away []
      have hview := view_of_tryWorker hmay hattempt (next answer)
      have hreplies := congrArg View.replies hview
      have hloop : between.loop = r.loop := (workerEffect_others heffect).2.2.1
      have hasked : between.stopAsked = r.stopAsked := congrArg (·.core.stopAsked) hview
      have hprogress : between.loopProgress = r.loopProgress := congrArg (·.core.progress) hview
      have hevents : loopEvents (past ++ [.worker ⟨action, answer⟩]) = loopEvents past := by
        rw [Interleaved.loopEvents_append]
        exact List.append_nil _
      refine ⟨⟨hconnector, hside.accounts.workerActs hacting heffect, ?_, ?_, ?_, ?_, ?_⟩, hview⟩
      · have hstanding := hside.standing
        rw [← hloop, ← hasked, ← hprogress] at hstanding
        exact hstanding
      · rw [Interleaved.signalled_append]
        exact (hasked.trans hside.asked).trans (Bool.or_false _).symm
      · rw [hevents, hside.batches, Interleaved.late_append_of_loopEvents rfl]
        exact congrArg (fun replies => replies.map batch ++ late past) hreplies.symm
      · intro reply hreply
        refine hside.devices reply ?_
        rw [show replies past r = _ from hreplies.symm]
        exact hreply
      · intro hstopping
        obtain ⟨hqueue, hidle⟩ := hside.still (hasked.symm.trans hstopping)
        have htaken : r.queue = (Worker.taken? ⟨action, answer⟩).toList ++ between.queue :=
          workerEffect_queue heffect
        rw [hqueue] at htaken
        obtain ⟨htaken, hqueue⟩ := List.append_eq_nil_iff.mp htaken.symm
        refine ⟨hqueue, ?_⟩
        rw [Interleaved.workerEvents_append]
        exact handling_of_idle hmay hidle (Option.toList_eq_nil_iff.mp htaken)
  | goesOn hstage =>
      have haccounts := hside.accounts.workerGoesOn hstage
      rw [List.append_nil] at haccounts ⊢
      exact ⟨⟨hside.connector, haccounts, hside.standing, hside.asked, hside.batches,
        hside.devices, hside.still⟩, rfl⟩

/-! ### At rest -/

/-- Nothing is on its way. -/
structure Calm (c : Connector) (past : List Event) (r : Running Memory κ) : Prop where
  sound : Sound c.pollSettings r.stopAsked r.loop
  queue : r.queue = []
  idle : handling (workerEvents past) = .idle

theorem tryWorker_waits [RecordSink κ] {action : Worker.Action} {progress : Progress}
    (hattempt : r.tryWorker action = .waits progress after) :
    action = .receive ∧ r.stopAsked = false ∧ r.queue = [] := by
  cases action with
  | receive =>
      simp only [tryWorker, tryReceive] at hattempt
      split at hattempt
      · cases hattempt
      · rename_i hasked
        split at hattempt
        · cases hattempt
        · rename_i hqueue
          exact ⟨rfl, Bool.eq_false_iff.mpr hasked, hqueue⟩
  | count | send => cases hattempt

theorem Side.worker_rests [RecordSink κ] (hside : Side c past r) (hworker : r.stepWorker = none) :
    r.queue = [] ∧ handling (workerEvents past) = .idle ∧ r.worker.hasEnded = r.stopAsked := by
  unfold Running.stepWorker at hworker
  split at hworker
  · rename_i hended
    have hended : r.worker.hasEnded = true := by rw [hended]; rfl
    have hasked := hside.asked_of_worker hended
    obtain ⟨hqueue, hidle⟩ := hside.still hasked
    exact ⟨hqueue, hidle, hended.trans hasked.symm⟩
  · rename_i action next hturn
    have hacting : r.worker.acting? = some ⟨action, fun answer => .turn (next answer)⟩ := by
      rw [hturn]
      rfl
    cases hattempt : r.tryWorker action with
    | answered answer between => simp [hattempt] at hworker
    | waits progress between =>
        obtain ⟨rfl, hasked, hqueue⟩ := tryWorker_waits hattempt
        refine ⟨hqueue, (hside.accounts.worker.acts hacting rfl).1, ?_⟩
        rw [hturn, hasked]
        rfl
  · cases hworker
  · cases hworker

/-- Where both tasks have to wait nothing is on its way, and the worker has ended if it was
asked to. -/
theorem Side.calm [RecordSink κ] (hside : Side c past r)
    (hcapacity : 0 < c.server.queueCapacity) (hloop : r.stepLoop = none)
    (hworker : r.stepWorker = none) : Calm c past r ∧ r.worker.hasEnded = r.stopAsked := by
  obtain ⟨hqueue, hidle, hended⟩ := hside.worker_rests hworker
  refine ⟨⟨?_, hqueue, hidle⟩, hended⟩
  rcases hside.standing with hsound | ⟨-, howing⟩
  · exact hsound
  · -- There is room in the queue, so the loop does what is due.
    obtain ⟨action, next, hacting⟩ := howing.acting
    rw [stepLoop_of_acting hacting, stepPoll] at hloop
    cases hattempt : r.tryPoll action with
    | answered answer between => simp [hattempt] at hloop
    | waits progress between =>
        obtain ⟨-, hfull⟩ := howing.waits hacting hattempt
        rw [hqueue, hside.connector] at hfull
        exact absurd hfull (Nat.not_le_of_gt hcapacity)

end Sides

end Running

end TagRelay
