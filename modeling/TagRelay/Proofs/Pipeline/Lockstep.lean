import TagRelay.Proofs.Pipeline.Abreast

/-!
# Two connectors in lockstep

Two connectors that are abreast come to rest abreast, although their tasks may take different
steps until then: a step that only one of them takes shows in neither view, and all others
they take together.  So the host finds them alike whenever it acts.
-/

namespace TagRelay.Running

open Interleaved (Event history loopEvents signalled workerEvents)
open Worker (handling)

variable {κ : Type}

/-- Two runs that are abreast, each as it should be. -/
structure Both (c : Connector) (extra : List String) (past past' : List Event)
    (r s : Running Memory κ) : Prop where
  first : Side c past r
  second : Side c past' s
  abreast : Abreast extra c.pollSettings.devices (view past r) (view past' s)

/-- Two runs as the host finds them: nothing is on its way in either. -/
structure Level (c : Connector) (extra : List String) (past past' : List Event)
    (r s : Running Memory κ) : Prop extends Both c extra past past' r s where
  calm : Calm c past r
  calm' : Calm c past' s
  worker : s.worker.hasEnded = r.worker.hasEnded

section Settling

variable {c : Connector} {extra : List String} {past past' log log' : List Event}
  {r s after last last' : Running Memory κ}

/-- A step of which nothing shows. -/
theorem Both.first_unseen (hboth : Both c extra past past' r s)
    (hside : Side c (past ++ log) after) (hview : view (past ++ log) after = view past r) :
    Both c extra (past ++ log) past' after s :=
  ⟨hside, hboth.second, hview ▸ hboth.abreast⟩

theorem Both.second_unseen (hboth : Both c extra past past' r s)
    (hside : Side c (past' ++ log) after) (hview : view (past' ++ log) after = view past' s) :
    Both c extra past (past' ++ log) r after :=
  ⟨hboth.first, hside, hview ▸ hboth.abreast⟩

theorem loop_of_abreast {settings : Poll.Settings} {devices : List Device}
    (habreast : Abreast extra devices (view past r) (view past' s))
    (hsound : Sound settings r.stopAsked r.loop)
    (hsound' : Sound settings s.stopAsked s.loop) : s.loop = r.loop := by
  obtain ⟨hstage, -⟩ := view_of_sound hsound past
  obtain ⟨hstage', -⟩ := view_of_sound hsound' past'
  rw [← hstage, ← hstage', habreast.stage]

theorem Both.steps (hboth : Both c extra past past' r s)
    (hlate : noneLate extra (past ++ r.loopDoes) = true)
    (hsound : Sound c.pollSettings r.stopAsked r.loop)
    (hsound' : Sound c.pollSettings s.stopAsked s.loop) :
    StepsAbreast extra c.pollSettings.devices past past' r s :=
  steps_of_sound hboth.abreast (by rw [hboth.first.connector]) hboth.first.asked hlate hsound
    (loop_of_abreast hboth.abreast hsound hsound')

variable [RecordSink κ]

/-- A loop that has something to do for a read does so before the tasks come to rest. -/
theorem Side.catches_up (hcapacity : 0 < c.server.queueCapacity) (hside : Side c past r)
    (hsettles : Settles r log last) :
    ∃ soon later between, log = soon ++ later ∧ Side c (past ++ soon) between ∧
      view (past ++ soon) between = view past r ∧
      Sound c.pollSettings between.stopAsked between.loop ∧ Settles between later last := by
  induction hsettles generalizing past with
  | @quiet r hloop hworker =>
      refine ⟨[], [], r, rfl, ?_, ?_, ?_, .quiet hloop hworker⟩
      · rwa [List.append_nil]
      · rw [List.append_nil]
      · exact (hside.calm hcapacity hloop hworker).1.sound
  | @loop r after last log hstep hrest ih =>
      rcases hside.standing with hsound | ⟨hfresh, howing⟩
      · refine ⟨[], r.loopDoes ++ log, r, rfl, ?_, ?_, hsound, .loop hstep hrest⟩
        · rwa [List.append_nil]
        · rw [List.append_nil]
      · have hdone := loopStep_of_stepLoop hstep
        obtain ⟨soon, later, between, rfl, hbetween, hview, hsound, hsettles⟩ :=
          ih (hside.loopStep hdone)
        rw [hside.view_of_owing hfresh howing hdone] at hview
        rw [List.append_assoc] at hbetween hview
        exact ⟨r.loopDoes ++ soon, later, between, (List.append_assoc _ _ _).symm, hbetween,
          hview, hsound, hsettles⟩
  | @worker r after last log hloop hstep hrest ih =>
      obtain ⟨hafter, hsame⟩ := hside.workerStep (workerStep_of_stepWorker hstep)
      obtain ⟨soon, later, between, rfl, hbetween, hview, hsound, hsettles⟩ := ih hafter
      rw [hsame] at hview
      rw [List.append_assoc] at hbetween hview
      exact ⟨r.workerDoes ++ soon, later, between, (List.append_assoc _ _ _).symm, hbetween,
        hview, hsound, hsettles⟩

/-- Once the first run has come to rest, the second one only does what does not show. -/
theorem Both.winds_down (hcapacity : 0 < c.server.queueCapacity)
    (hboth : Both c extra past past' r s) (hlate : noneLate extra past = true)
    (hloop : r.stepLoop = none)
    (hsound : Sound c.pollSettings r.stopAsked r.loop) (hsettles : Settles s log last) :
    Both c extra past (past' ++ log) r last ∧ Calm c (past' ++ log) last ∧
      last.worker.hasEnded = last.stopAsked := by
  rw [← List.append_nil past, ← loopDoes_of_rests hloop] at hlate
  induction hsettles generalizing past' with
  | quiet hloop' hworker' =>
      rw [List.append_nil]
      exact ⟨hboth, hboth.second.calm hcapacity hloop' hworker'⟩
  | @loop s after last log hstep hrest ih =>
      rw [← List.append_assoc]
      have hdone := loopStep_of_stepLoop hstep
      rcases hboth.second.standing with hsound' | ⟨hfresh, howing⟩
      · -- A step that shows is one that both runs take.
        rcases hboth.steps hlate hsound hsound' with ⟨-, hloop'⟩ | ⟨after, after', hloop', -⟩
        · rw [hloop'] at hstep
          cases hstep
        · rw [hloop] at hloop'
          cases hloop'
      · exact ih (hboth.second_unseen (hboth.second.loopStep hdone)
          (hboth.second.view_of_owing hfresh howing hdone))
  | worker hloop' hstep hrest ih =>
      rw [← List.append_assoc]
      obtain ⟨hafter, hsame⟩ := hboth.second.workerStep (workerStep_of_stepWorker hstep)
      exact ih (hboth.second_unseen hafter hsame)

/-- Both runs come to rest abreast. -/
theorem Both.settle (hcapacity : 0 < c.server.queueCapacity)
    (hboth : Both c extra past past' r s) (hlate : noneLate extra (past ++ log) = true)
    (hsettles : Settles r log last) (hsettles' : Settles s log' last') :
    Level c extra (past ++ log) (past' ++ log') last last' := by
  induction hsettles generalizing past past' s log' with
  | quiet hloop hworker =>
      obtain ⟨hcalm, hended⟩ := hboth.first.calm hcapacity hloop hworker
      rw [List.append_nil] at hlate ⊢
      obtain ⟨hboth, hcalm', hended'⟩ :=
        hboth.winds_down hcapacity hlate hloop hcalm.sound hsettles'
      refine ⟨hboth, hcalm, hcalm', ?_⟩
      rw [hended, hended']
      exact congrArg Core.stopAsked hboth.abreast.core
  | @loop r after last log hstep hrest ih =>
      rw [← List.append_assoc] at hlate ⊢
      have hdone := loopStep_of_stepLoop hstep
      rcases hboth.first.standing with hsound | ⟨hfresh, howing⟩
      · obtain ⟨soon, later, between, rfl, hbetween, hview, hsound', hsettles'⟩ :=
          hboth.second.catches_up hcapacity hsettles'
        replace hboth := hboth.second_unseen hbetween hview
        rw [← List.append_assoc]
        rcases hboth.steps (noneLate_of_append hlate) hsound hsound' with
          ⟨hloop, -⟩ | ⟨next, next', hnext, hnext', habreast⟩
        · rw [hloop] at hstep
          cases hstep
        · obtain rfl : next = after := Option.some.inj (hnext.symm.trans hstep)
          cases hsettles' with
          | quiet hloop' => rw [hnext'] at hloop'; cases hloop'
          | worker hloop' => rw [hnext'] at hloop'; cases hloop'
          | @loop _ after' _ log hstep' hrest' =>
              obtain rfl : next' = after' := Option.some.inj (hnext'.symm.trans hstep')
              rw [← List.append_assoc]
              exact ih ⟨hboth.first.loopStep hdone,
                hboth.second.loopStep (loopStep_of_stepLoop hstep'), habreast⟩ hlate hrest'
      · exact ih (hboth.first_unseen (hboth.first.loopStep hdone)
          (hboth.first.view_of_owing hfresh howing hdone)) hlate hsettles'
  | worker hloop hstep hrest ih =>
      rw [← List.append_assoc] at hlate ⊢
      obtain ⟨hafter, hsame⟩ := hboth.first.workerStep (workerStep_of_stepWorker hstep)
      exact ih (hboth.first_unseen hafter hsame) hlate hsettles'

end Settling

/-! ## The host -/

section Hosting

variable {c : Connector} {extra : List String} {past past' log log' : List Event}
  {r s r' s' : Running Memory κ}

/-- Neither the loop nor the worker has done any of this, and they were not asked to stop. -/
structure Foreign (log : List Event) : Prop where
  loop : loopEvents log = []
  worker : workerEvents log = []
  signal : signalled log = false

theorem foreign_nil : Foreign [] := ⟨rfl, rfl, rfl⟩

theorem foreign_host {e : Host.Event} (hsignal : (Event.host e).isSignal = false) :
    Foreign [.host e] := by
  refine ⟨rfl, rfl, ?_⟩
  rw [signalled, List.any_cons, hsignal]
  rfl

theorem Foreign.asked (hforeign : Foreign log) (r : Running Memory κ) :
    r.stopAsked = (r.stopAsked || signalled log) := by
  rw [hforeign.signal, Bool.or_false]

/-- Neither the loop nor the worker has anything to do with it, but they may be asked to
stop. -/
structure Aside (log : List Event) (r r' : Running Memory κ) : Prop where
  connector : r'.connector = r.connector
  loop : r'.loop = r.loop
  progress : r'.loopProgress = r.loopProgress
  worker : r'.worker = r.worker
  queue : r'.queue = r.queue
  stopAsked : r'.stopAsked = (r.stopAsked || signalled log)
  flow : r.link.metrics.SameFlow r'.link.metrics
  ofLoop : loopEvents log = []
  ofWorker : workerEvents log = []

theorem Aside.asked (haside : Aside log r r') (hasked : r.stopAsked = true) :
    r'.stopAsked = true := by
  rw [haside.stopAsked, hasked, Bool.true_or]

theorem Aside.sound (haside : Aside log r r')
    (hsound : Sound c.pollSettings r.stopAsked r.loop) :
    Sound c.pollSettings r'.stopAsked r.loop := by
  rw [haside.stopAsked]
  cases signalled log with
  | true =>
      rw [Bool.or_true]
      exact hsound.stops
  | false =>
      rw [Bool.or_false]
      exact hsound

theorem view_of_aside (haside : Aside log r r')
    (hsound : Sound c.pollSettings r.stopAsked r.loop) (past : List Event) :
    view (past ++ log) r' =
      { view past r with
        core := r'.core
        session := r'.link.session
        state := r'.link.state
        pollCycles := r'.link.metrics.pollCycles
        history := history past ++ history log } := by
  simp only [view, replies, haside.loop, hsound.dues, (haside.sound hsound).dues,
    haside.flow.readFailures, Interleaved.loopEvents_append, haside.ofLoop, List.append_nil,
    Interleaved.history_append]

theorem Calm.aside (hcalm : Calm c past r) (haside : Aside log r r') :
    Calm c (past ++ log) r' := by
  refine ⟨haside.loop ▸ haside.sound hcalm.sound, haside.queue.trans hcalm.queue, ?_⟩
  rw [Interleaved.workerEvents_append, haside.ofWorker, List.append_nil]
  exact hcalm.idle

theorem Side.aside (hside : Side c past r) (hcalm : Calm c past r) (haside : Aside log r r') :
    Side c (past ++ log) r' := by
  have hreplies : replies (past ++ log) r' = replies past r :=
    congrArg View.replies (view_of_aside haside hcalm.sound past)
  have hafter := hcalm.aside haside
  constructor
  · exact haside.connector.trans hside.connector
  · exact hside.accounts.others haside.ofLoop haside.ofWorker haside.loop haside.worker
      haside.queue haside.asked haside.flow
  · exact Or.inl hafter.sound
  · rw [haside.stopAsked, hside.asked, Interleaved.signalled_append]
  · rw [Interleaved.loopEvents_append, haside.ofLoop, List.append_nil, hreplies,
      Interleaved.late_append_of_loopEvents haside.ofLoop]
    exact hside.batches
  · rw [hreplies]
    exact hside.devices
  · exact fun _ => ⟨hafter.queue, hafter.idle⟩

/-- What does not concern the tasks leaves two runs level, if it is the same in both. -/
theorem Level.aside (hlevel : Level c extra past past' r s) (haside : Aside log r r')
    (haside' : Aside log' s s') (hcore : s'.core = r'.core)
    (hbeside : Link.Beside extra r'.link s'.link) (hhistory : history log' = history log) :
    Level c extra (past ++ log) (past' ++ log') r' s' := by
  have habreast := hlevel.abreast
  refine ⟨⟨?_, ?_, ?_⟩, ?_, ?_, ?_⟩
  · exact hlevel.first.aside hlevel.calm haside
  · exact hlevel.second.aside hlevel.calm' haside'
  · rw [view_of_aside haside hlevel.calm.sound, view_of_aside haside' hlevel.calm'.sound]
    refine ⟨hcore, hbeside.session, hbeside.state, hbeside.pollCycles, habreast.stage,
      habreast.replies, habreast.failures, ?_⟩
    rw [hhistory]
    exact congrArg (· ++ history log) habreast.history
  · exact hlevel.calm.aside haside
  · exact hlevel.calm'.aside haside'
  · rw [haside.worker, haside'.worker]
    exact hlevel.worker

/-! ### Single actions -/

theorem Level.held (hlevel : Level c extra past past' r s) (user : Option User)
    (line : List User) (hforeign : Foreign log) (hforeign' : Foreign log')
    (hhistory : history log' = history log) :
    Level c extra (past ++ log) (past' ++ log') (r.held user line) (s.held user line) := by
  have hmoved : ∀ {log : List Event}, Foreign log → ∀ q : Running Memory κ,
      Aside log q (q.held user line) := fun hforeign q =>
    ⟨rfl, rfl, rfl, rfl, rfl, hforeign.asked q, Metrics.SameFlow.refl _, hforeign.loop,
      hforeign.worker⟩
  refine hlevel.aside (hmoved hforeign r) (hmoved hforeign' s) ?_ hlevel.abreast.beside hhistory
  exact congrArg (fun core : Core => { core with user := user, line := line }) hlevel.abreast.core

theorem Level.performed (hlevel : Level c extra past past' r s) {action : Link.Action}
    (hflow : ∀ link : Link Memory, link.metrics.SameFlow (link.perform action).2.metrics)
    (hbeside : Link.Beside extra (r.link.perform action).2 (s.link.perform action).2)
    (user : Option User) (line : List User) (hforeign : Foreign log) (hforeign' : Foreign log')
    (hhistory : history log' = history log) :
    Level c extra (past ++ log) (past' ++ log') (r.performed action user line)
      (s.performed action user line) := by
  have hmoved : ∀ {log : List Event}, Foreign log → ∀ q : Running Memory κ,
      Aside log q (q.performed action user line) := fun hforeign q =>
    ⟨rfl, rfl, rfl, rfl, rfl, hforeign.asked q, hflow q.link, hforeign.loop, hforeign.worker⟩
  refine hlevel.aside (hmoved hforeign r) (hmoved hforeign' s) ?_ hbeside hhistory
  exact congrArg (fun core : Core => { core with user := user, line := line }) hlevel.abreast.core

/-- Two runs in which nothing has changed. -/
theorem Level.same (hlevel : Level c extra past past' r s) (hforeign : Foreign log)
    (hforeign' : Foreign log') (hhistory : history log' = history log) :
    Level c extra (past ++ log) (past' ++ log') r s := by
  have hsame : ∀ {log : List Event}, Foreign log → ∀ q : Running Memory κ, Aside log q q :=
    fun hforeign q => ⟨rfl, rfl, rfl, rfl, rfl, hforeign.asked q, Metrics.SameFlow.refl _,
      hforeign.loop, hforeign.worker⟩
  exact hlevel.aside (hsame hforeign r) (hsame hforeign' s) hlevel.abreast.core
    hlevel.abreast.beside hhistory

/-- The host has an answer in both runs, which is the same unless it has read, or it has to
wait in both. -/
inductive HostTried (c : Connector) (extra : List String) (past past' : List Event)
    (action : Host.Action) :
    Attempt Memory κ action.Answer → Attempt Memory κ action.Answer → Prop
  | answered {answer answer' : action.Answer} {r' s' : Running Memory κ}
      (hanswer : answer' = answer ∨ ∃ paths, action = .link (.call (.read paths)))
      (hlevel : Level c extra (past ++ [.host ⟨action, answer⟩])
        (past' ++ [.host ⟨action, answer'⟩]) r' s') :
      HostTried c extra past past' action (.answered answer r') (.answered answer' s')
  | waits {progress : Progress} {r' s' : Running Memory κ}
      (hlevel : Level c extra past past' r' s') :
      HostTried c extra past past' action (.waits progress r') (.waits progress s')

theorem HostTried.same (action : Host.Action) (hlevel : Level c extra past past' r s)
    (answer : action.Answer) (hsignal : (Event.host ⟨action, answer⟩).isSignal = false) :
    HostTried c extra past past' action (.answered answer r) (.answered answer s) :=
  .answered (Or.inl rfl) (hlevel.same (foreign_host hsignal) (foreign_host hsignal) rfl)

theorem Level.waiting (hlevel : Level c extra past past' r s) (user : Option User)
    (line : List User) : Level c extra past past' (r.held user line) (s.held user line) := by
  have hheld := hlevel.held user line foreign_nil foreign_nil rfl
  rwa [List.append_nil, List.append_nil] at hheld

theorem hostTried_link (hlevel : Level c extra past past' r s) (progress : Progress)
    {action : Link.Action}
    (hflow : ∀ link : Link Memory, link.metrics.SameFlow (link.perform action).2.metrics)
    (hbeside : Link.Beside extra (r.link.perform action).2 (s.link.perform action).2)
    (hanswer : (s.link.perform action).1 = (r.link.perform action).1 ∨
      ∃ paths, action = .call (.read paths)) :
    HostTried c extra past past' (.link action) (r.tryLink .host progress action)
      (s.tryLink .host progress action) := by
  have htried := tried_tryLink hlevel.abreast.core hlevel.abreast.beside .host progress action
  generalize r.tryLink .host progress action = attempt at htried ⊢
  generalize s.tryLink .host progress action = attempt' at htried ⊢
  cases htried with
  | performed user line =>
      refine .answered (hanswer.imp_right fun ⟨paths, h⟩ => ⟨paths, congrArg _ h⟩) ?_
      refine hlevel.performed hflow hbeside user line (foreign_host rfl) (foreign_host rfl) ?_
      rcases hanswer with hanswer | ⟨paths, rfl⟩
      · rw [hanswer]
      · rfl
  | waits waiting user line => exact .waits (hlevel.waiting user line)

theorem leave_held (r : Running Memory κ) (user : Option User) (line : List User)
    (leaving : User) :
    (r.held user line).leave leaving =
      r.held (if user = some leaving then line.head? else user)
        (if user = some leaving then line.tail else line.erase leaving) := by
  rw [leave, release_eq]
  by_cases huser : user = some leaving
  · rw [if_pos huser, if_pos huser]
    exact if_pos huser
  · rw [if_neg huser, if_neg huser]
    exact if_neg huser

theorem hostTried_closeBefore (hlevel : Level c extra past past' r s) (progress : Progress)
    (deadline : Nat) :
    HostTried c extra past past' (.closeBefore deadline) (r.tryClose progress deadline)
      (s.tryClose progress deadline) := by
  have hcore : s.core = r.core := hlevel.abreast.core
  have hclock : s.clock = r.clock := congrArg Core.clock hcore
  have htried := tried_tryCall hcore hlevel.abreast.beside .host progress .close
  rw [tryClose, tryClose]
  rcases htried.outcomes with ⟨user, line, hattempt, hattempt'⟩ |
    ⟨waiting, user, line, hattempt, hattempt'⟩
  · rw [hattempt, hattempt']
    refine .answered (Or.inl rfl) ?_
    have hclose : ∀ paths, Link.Action.call .close ≠ .call (.read paths) := by simp
    exact hlevel.performed (Link.perform_sameFlow (by simp))
      (hlevel.abreast.beside.perform hclose).2 user line (foreign_host rfl) (foreign_host rfl) rfl
  · rw [hattempt, hattempt']
    change HostTried c extra past past' (.closeBefore deadline)
      (if deadline ≤ r.clock then .answered false ((r.held user line).leave .host)
        else .waits waiting (r.held user line))
      (if deadline ≤ s.clock then .answered false ((s.held user line).leave .host)
        else .waits waiting (s.held user line))
    rw [hclock]
    split
    · refine .answered (Or.inl rfl) ?_
      rw [leave_held, leave_held]
      exact hlevel.held _ _ (foreign_host rfl) (foreign_host rfl) rfl
    · exact .waits (hlevel.waiting user line)

/-- Whatever the host does apart from asking the tasks to stop, it does in both runs. -/
theorem hostTried (hlevel : Level c extra past past' r s) (progress : Progress)
    {action : Host.Action}
    (haction : Host.Plain action ∨ ∃ paths, action = .link (.call (.read paths))) :
    HostTried c extra past past' action (r.tryHost progress action)
      (s.tryHost progress action) := by
  have hcore : s.core = r.core := hlevel.abreast.core
  have hclock : s.clock = r.clock := congrArg Core.clock hcore
  rcases haction with hplain | ⟨paths, rfl⟩
  · cases action with
    | link action =>
        have hread : ∀ paths, action ≠ .call (.read paths) := by
          rintro paths rfl
          exact hplain
        obtain ⟨hanswer, hbeside⟩ := hlevel.abreast.beside.perform hread
        refine hostTried_link hlevel progress ?_ hbeside (Or.inl hanswer)
        intro link
        cases action with
        | count event =>
            obtain ⟨method, code, rfl⟩ := hplain
            exact ⟨rfl, rfl, rfl⟩
        | look | move | halt | publish | call => exact Link.perform_sameFlow (by simp) link
    | now =>
        rw [tryHost, tryHost, hclock]
        exact .same .now hlevel r.clock rfl
    | rest millis =>
        rw [tryHost, tryHost, tryRest_eq, tryRest_eq, hclock]
        split
        · exact .same (.rest millis) hlevel () rfl
        · exact .waits hlevel
    | signalStop => exact hplain.elim
    | join deadline =>
        have hloop := loop_of_abreast hlevel.abreast hlevel.calm.sound hlevel.calm'.sound
        rw [tryHost, tryHost, tryJoin, tryJoin, hloop, hlevel.worker, hclock]
        split
        · exact .same (.join deadline) hlevel true rfl
        · split
          · exact .same (.join deadline) hlevel false rfl
          · exact .waits hlevel
    | closeBefore deadline => exact hostTried_closeBefore hlevel progress deadline
  · exact hostTried_link hlevel progress (Link.perform_sameFlow (by simp))
      (hlevel.abreast.beside.read paths).2 (Or.inr ⟨paths, rfl⟩)

theorem Level.passTime (hlevel : Level c extra past past' r s) {progress : Progress}
    {action : Host.Action} (hpass : r.passTime progress action = some r')
    (hpass' : s.passTime progress action = some s') : Level c extra past past' r' s' := by
  have hcore : s.core = r.core := hlevel.abreast.core
  have hclock : s.clock = r.clock := congrArg Core.clock hcore
  have hprogress : s.loopProgress = r.loopProgress := congrArg Core.progress hcore
  obtain ⟨time, htime, rfl⟩ := Option.map_eq_some_iff.mp hpass
  obtain ⟨time', htime', rfl⟩ := Option.map_eq_some_iff.mp hpass'
  rw [hclock, hprogress] at htime'
  obtain rfl : time = time' := Option.some.inj (htime.symm.trans htime')
  have hmoved : ∀ q : Running Memory κ, Aside [] q { q with clock := time } := fun q =>
    ⟨rfl, rfl, rfl, rfl, rfl, foreign_nil.asked q, Metrics.SameFlow.refl _, rfl, rfl⟩
  have hafter := hlevel.aside (hmoved r) (hmoved s)
    (congrArg (fun core : Core => { core with clock := time }) hcore) hlevel.abreast.beside rfl
  rwa [List.append_nil, List.append_nil] at hafter

/-! ### Routines -/

/-- What is left of a routine in two runs: the same, or what comes after different answers to
a read. -/
inductive Alike {α : Type} : Host.Program α → Host.Program α → Prop
  | same {program : Host.Program α} (htolerant : Host.Tolerant program) : Alike program program
  | closing {program program' : Host.Program α} (hclosing : Host.Closing program)
      (hclosing' : Host.Closing program') : Alike program program'

variable [RecordSink κ] {α : Type}

theorem Level.closing (hlevel : Level c extra past past' r s)
    {program program' : Host.Program α} (hclosing : Host.Closing program)
    (hclosing' : Host.Closing program') {progress progress' : Progress} {result result' : α}
    (hperforms : Performs program progress r log result r')
    (hperforms' : Performs program' progress' s log' result' s') :
    Level c extra (past ++ log) (past' ++ log') r' s' := by
  cases hclosing with
  | counts method code answer =>
    cases hclosing' with
    | counts method' code' answer' =>
      obtain ⟨later, rfl, hrest⟩ := hperforms.of_answered rfl
      obtain ⟨rfl, rfl, rfl⟩ := hrest.of_done
      obtain ⟨later', rfl, hrest'⟩ := hperforms'.of_answered rfl
      obtain ⟨rfl, rfl, rfl⟩ := hrest'.of_done
      have hcounted : ∀ (q : Running Memory κ) (method : String) (code : Nat),
          Aside [.host ⟨.link (.count (.call method code)), ()⟩] q
            { q with link := q.link.count (.call method code) } := fun q _ _ =>
        ⟨rfl, rfl, rfl, rfl, rfl, (foreign_host rfl).asked q, ⟨rfl, rfl, rfl⟩, rfl, rfl⟩
      obtain ⟨hsession, hstate, hcycles⟩ := hlevel.abreast.beside
      exact hlevel.aside (hcounted r method code) (hcounted s method' code')
        hlevel.abreast.core ⟨hsession, hstate, hcycles⟩ rfl

omit [RecordSink κ] in
/-- A tolerant routine goes on alike after the same answer, and after a read in any case. -/
theorem alike_of_tolerant {action : Host.Action} {next : action.Answer → Host.Program α}
    (htolerant : Host.Tolerant (.act action next)) :
    (Host.Plain action ∨ ∃ paths, action = .link (.call (.read paths))) ∧
      ∀ answer answer', answer' = answer ∨ (∃ paths, action = .link (.call (.read paths))) →
        Alike (next answer) (next answer') := by
  cases htolerant with
  | acts hplain hnext =>
      refine ⟨Or.inl hplain, ?_⟩
      rintro answer answer' (rfl | ⟨paths, rfl⟩)
      · exact .same (hnext answer')
      · exact hplain.elim
  | @reads paths next hnext =>
      exact ⟨Or.inr ⟨paths, rfl⟩, fun answer answer' _ => .closing (hnext answer) (hnext answer')⟩

/-- Where the host has to wait in the first run it has to in the second one as well, and both
come to rest before it tries again. -/
theorem Level.resumes (hcapacity : 0 < c.server.queueCapacity)
    (hlevel : Level c extra past past' r s) {action : Host.Action}
    {next : action.Answer → Host.Program α}
    (haction : Host.Plain action ∨ ∃ paths, action = .link (.call (.read paths)))
    {progress waiting : Progress} {before settled : Running Memory κ} {result' : α}
    (hlate : noneLate extra (past ++ log) = true)
    (hattempt : r.tryHost progress action = .waits waiting before)
    (hsettles : Settles before log settled)
    (hperforms' : Performs (.act action next) progress s log' result' s') :
    ∃ soon later settled', log' = soon ++ later ∧
      Level c extra (past ++ log) (past' ++ soon) settled settled' ∧
      ((∃ answer after rest, settled'.tryHost waiting action = .answered answer after ∧
          later = .host ⟨action, answer⟩ :: rest ∧
          Performs (next answer) .fresh after rest result' s') ∨
        ∃ still after timed, settled'.tryHost waiting action = .waits still after ∧
          after.passTime still action = some timed ∧
          Performs (.act action next) still timed later result' s') := by
  have htried := hostTried hlevel progress haction
  rw [hattempt] at htried
  generalize hattempt' : s.tryHost progress action = attempt' at htried
  cases htried with
  | waits hlevel =>
      obtain ⟨soon, later, settled', hlog, hsettles', hresumes⟩ := hperforms'.of_waits hattempt'
      exact ⟨soon, later, settled', hlog, hlevel.toBoth.settle hcapacity hlate hsettles hsettles',
        hresumes⟩

/-- A tolerant routine is performed in both runs, and they are level at its end. -/
theorem Level.performs (hcapacity : 0 < c.server.queueCapacity)
    (hlevel : Level c extra past past' r s) {program program' : Host.Program α}
    (halike : Alike program program') {progress : Progress} {result result' : α}
    (hlate : noneLate extra (past ++ log) = true)
    (hperforms : Performs program progress r log result r')
    (hperforms' : Performs program' progress s log' result' s') :
    Level c extra (past ++ log) (past' ++ log') r' s' := by
  induction hperforms generalizing program' s past past' log' result' with
  | done =>
      cases halike with
      | same =>
          obtain ⟨rfl, -, rfl⟩ := hperforms'.of_done
          exact hlevel.same foreign_nil foreign_nil rfl
      | closing hclosing => cases hclosing
  | @answered action next progress r after last answer log result hattempt hrest ih =>
      cases halike with
      | closing hclosing hclosing' =>
          exact hlevel.closing hclosing hclosing' (.answered hattempt hrest) hperforms'
      | same htolerant =>
          obtain ⟨haction, hnext⟩ := alike_of_tolerant htolerant
          have htried := hostTried hlevel progress haction
          rw [hattempt] at htried
          generalize hattempt' : s.tryHost progress action = attempt' at htried
          cases htried with
          | answered hanswer hlevel =>
              obtain ⟨later', rfl, hrest'⟩ := hperforms'.of_answered hattempt'
              rw [List.append_cons] at hlate
              rw [List.append_cons, List.append_cons past']
              exact ih hlevel (hnext _ _ hanswer) hlate hrest'
  | @settled action next progress waiting r before settled after last answer log later result
      hattempt hsettles hagain hrest ih =>
      cases halike with
      | closing hclosing hclosing' =>
          exact hlevel.closing hclosing hclosing' (.settled hattempt hsettles hagain hrest)
            hperforms'
      | same htolerant =>
          obtain ⟨haction, hnext⟩ := alike_of_tolerant htolerant
          rw [← List.append_assoc] at hlate
          obtain ⟨soon, later', settled', rfl, hlevel, hresumes⟩ :=
            hlevel.resumes hcapacity haction (noneLate_of_append hlate) hattempt hsettles
              hperforms'
          rw [← List.append_assoc, ← List.append_assoc]
          have htried := hostTried hlevel waiting haction
          rw [hagain] at htried
          rcases hresumes with ⟨answer', after', rest, hagain', rfl, hrest'⟩ |
            ⟨still, after', timed, hagain', -⟩
          · rw [hagain'] at htried
            cases htried with
            | answered hanswer hlevel =>
                rw [List.append_cons] at hlate
                rw [List.append_cons, List.append_cons (past' ++ soon)]
                exact ih hlevel (hnext _ _ hanswer) hlate hrest'
          · rw [hagain'] at htried
            cases htried
  | @passed action next progress waiting still r before settled after timed last log later result
      hattempt hsettles hagain hpass hrest ih =>
      cases halike with
      | closing hclosing hclosing' =>
          exact hlevel.closing hclosing hclosing' (.passed hattempt hsettles hagain hpass hrest)
            hperforms'
      | same htolerant =>
          obtain ⟨haction, hnext⟩ := alike_of_tolerant htolerant
          rw [← List.append_assoc] at hlate
          obtain ⟨soon, later', settled', rfl, hlevel, hresumes⟩ :=
            hlevel.resumes hcapacity haction (noneLate_of_append hlate) hattempt hsettles
              hperforms'
          rw [← List.append_assoc, ← List.append_assoc]
          have htried := hostTried hlevel waiting haction
          rw [hagain] at htried
          rcases hresumes with ⟨answer', after', rest, hagain', -⟩ |
            ⟨still', after', timed', hagain', hpass', hrest'⟩
          · rw [hagain'] at htried
            cases htried
          · rw [hagain'] at htried
            cases htried with
            | waits hlevel =>
                exact ih (hlevel.passTime hpass hpass') (.same htolerant) hlate hrest'

end Hosting

end TagRelay.Running
