import TagRelay.Proofs.Pipeline.View

/-!
# Two connectors abreast

Two runs whose sessions differ only in what they reject look the same, but for the replies
and failures of the devices with rejected tags.  A loop at which nothing is due takes the same
step in both runs, even when its read is answered in one of them and rejected in the other.
Then one of the two has a reply to hand on and the other one a failure to count, which each
does by itself.
-/

namespace TagRelay.Running

open Interleaved (Event history late loopEvents signalled workerEvents)
open Poll (Plain Steady delivered delivered?)

variable {κ : Type}

/-! ## Devices with rejected tags -/

/-- None of the tags of the device is among these. -/
def spares (extra : List String) (device : Device) : Bool :=
  device.tagPaths.all fun path => !extra.contains path

theorem spares_iff {extra : List String} {device : Device} :
    spares extra device = true ↔ ∀ path ∈ device.tagPaths, path ∉ extra := by
  simp [spares]

/-- None of these tags was read after the tasks had been asked to stop. -/
def noneLate (extra : List String) (log : List Event) : Bool :=
  (late log).all fun read => read.1.all fun path => !extra.contains path

theorem noneLate_of_append {extra : List String} {past log : List Event}
    (hlate : noneLate extra (past ++ log) = true) : noneLate extra past = true := by
  rw [noneLate, Interleaved.late_append, List.all_append] at hlate
  exact (Bool.and_eq_true_iff.mp hlate).1

theorem spares_of_noneLate {extra : List String} {past : List Event} {device : Device}
    {readings : List Reading} (hsignalled : signalled past = true)
    (hlate : noneLate extra
      (past ++ [.loop ⟨.link (.call (.read device.tagPaths)), .ok readings⟩]) = true) :
    spares extra device = true := by
  rw [noneLate, Interleaved.late_append_loop, hsignalled, if_pos rfl, List.all_append] at hlate
  have hread := (Bool.and_eq_true_iff.mp hlate).2
  exact List.all_eq_true.mp hread _ (List.mem_singleton.mpr rfl)

/-- The count that goes by this name is none of a device with such tags. -/
def Clear (extra : List String) (devices : List Device) (name : String) : Prop :=
  ∀ device ∈ devices, spares extra device = false → Tally.sharing name device.name = false

/-- The second run is like the first one, in which reads of `extra` are not rejected as well. -/
structure Abreast (extra : List String) (devices : List Device) (v w : View) : Prop where
  core : w.core = v.core
  session : Memory.Rejecting extra v.session w.session
  state : w.state = v.state
  pollCycles : w.pollCycles = v.pollCycles
  stage : w.stage = v.stage
  replies : w.replies = v.replies.filter fun reply => spares extra reply.device
  failures : ∀ name, Clear extra devices name →
    Tally.count name w.failures = Tally.count name v.failures
  history : w.history = v.history

section Steps

variable {extra : List String} {devices : List Device} {past past' : List Event}
  {r s : Running Memory κ}

theorem Abreast.beside (habreast : Abreast extra devices (view past r) (view past' s)) :
    Link.Beside extra r.link s.link :=
  ⟨habreast.session, habreast.state, habreast.pollCycles⟩

theorem today_of_core (hcore : s.core = r.core) : s.today = r.today := by
  have hepoch : s.epoch = r.epoch := congrArg Core.epoch hcore
  have hclock : s.clock = r.clock := congrArg Core.clock hcore
  rw [today, today, hepoch, hclock]

/-! ## Answers to the loop -/

/-- What is due in two runs. -/
structure Matching (extra : List String) (devices : List Device) (dues dues' : Dues) : Prop where
  stage : dues'.stage = dues.stage
  replies : dues'.replies = dues.replies.filter fun reply => spares extra reply.device
  failures : ∀ name, Clear extra devices name →
    dues'.failures.countP (Tally.sharing name) = dues.failures.countP (Tally.sharing name)

theorem matching_sound (stage : LoopStage) :
    Matching extra devices { stage := stage } { stage := stage } := ⟨rfl, rfl, fun _ _ => rfl⟩

/-- Both loops have an answer, and what is due then matches. -/
theorem abreast_of_answers (habreast : Abreast extra devices (view past r) (view past' s))
    {settings : Poll.Settings} (hsound : Sound settings r.stopAsked r.loop)
    (hsound' : Sound settings s.stopAsked s.loop) {e e' : Poll.Event}
    {r' s' : Running Memory κ} {stage stage' : LoopStage} (htoday : r'.today = r.today)
    (hasked : r'.stopAsked = r.stopAsked) (hcore : s'.core = r'.core)
    (hbeside : Link.Beside extra r'.link s'.link)
    (hfailures : r'.link.metrics.readFailures = r.link.metrics.readFailures)
    (hfailures' : s'.link.metrics.readFailures = s.link.metrics.readFailures)
    (hdelivered : delivered? e = none) (hdelivered' : delivered? e' = none)
    (hmoved : Event.moved? (.loop e') = Event.moved? (.loop e))
    (hmatching : Matching extra devices (stage.dues r.stopAsked r.today)
      (stage'.dues r.stopAsked r.today)) :
    Abreast extra devices
      (view (past ++ [.loop e]) { r' with loop := stage, loopProgress := .fresh })
      (view (past' ++ [.loop e']) { s' with loop := stage', loopProgress := .fresh }) := by
  have htoday' : s'.today = r.today := (today_of_core hcore).trans htoday
  have hasked' : s'.stopAsked = r.stopAsked := (congrArg Core.stopAsked hcore).trans hasked
  obtain ⟨-, hdone, hcounted⟩ := view_of_sound hsound past
  obtain ⟨-, hdone', hcounted'⟩ := view_of_sound hsound' past'
  have hreplies := habreast.replies
  rw [hdone, hdone'] at hreplies
  constructor
  · exact congrArg (fun core : Core => { core with progress := .fresh }) hcore
  · exact hbeside.session
  · exact hbeside.state
  · exact hbeside.pollCycles
  · change (stage'.dues s'.stopAsked s'.today).stage = (stage.dues r'.stopAsked r'.today).stage
    rw [hasked, hasked', htoday, htoday', hmatching.stage]
  · change delivered (loopEvents (past' ++ [.loop e'])) ++
        (stage'.dues s'.stopAsked s'.today).replies =
      (delivered (loopEvents (past ++ [.loop e])) ++
        (stage.dues r'.stopAsked r'.today).replies).filter _
    rw [loopEvents_append_loop, loopEvents_append_loop, Poll.delivered_append_one,
      Poll.delivered_append_one, hdelivered, hdelivered', hasked, hasked', htoday, htoday',
      hmatching.replies]
    simp only [Option.toList_none, List.append_nil, List.filter_append, hreplies]
  · intro name hclear
    change Tally.count name (Tally.addAll (stage'.dues s'.stopAsked s'.today).failures
      s'.link.metrics.readFailures) = Tally.count name (Tally.addAll
        (stage.dues r'.stopAsked r'.today).failures r'.link.metrics.readFailures)
    have hcounts := habreast.failures name hclear
    rw [hcounted, hcounted'] at hcounts
    rw [Tally.count_addAll, Tally.count_addAll, hasked, hasked', htoday, htoday', hfailures,
      hfailures', hmatching.failures name hclear, hcounts]
  · have hhistory : history past' = history past := habreast.history
    change history (past' ++ [.loop e']) = history (past ++ [.loop e])
    rw [Interleaved.history_append_one, Interleaved.history_append_one, hhistory, hmoved]

/-! ## Steps of both loops -/

/-- Both loops take a step, after which they are abreast, or both have to wait. -/
def StepsAbreast (extra : List String) (devices : List Device) (past past' : List Event)
    (r s : Running Memory κ) : Prop :=
  r.stepLoop = none ∧ s.stepLoop = none ∨
    ∃ after after', r.stepLoop = some after ∧ s.stepLoop = some after' ∧
      Abreast extra devices (view (past ++ r.loopDoes) after) (view (past' ++ s.loopDoes) after')

theorem stepLoop_of_answered {after : Running Memory κ} {action : Poll.Action}
    {next : action.Answer → LoopStage} {answer : action.Answer}
    (hacting : r.loop.acting? = some ⟨action, next⟩)
    (hattempt : r.tryPoll action = .answered answer after) :
    r.stepLoop = some { after with loop := next answer, loopProgress := .fresh } ∧
      r.loopDoes = [.loop ⟨action, answer⟩] := by
  refine ⟨by rw [stepLoop_of_acting hacting, stepPoll, hattempt], ?_⟩
  rw [loopDoes, hacting]
  dsimp only
  rw [hattempt]

theorem stepLoop_of_waits {after : Running Memory κ} {action : Poll.Action}
    {next : action.Answer → LoopStage} {progress : Progress}
    (hacting : r.loop.acting? = some ⟨action, next⟩)
    (hattempt : r.tryPoll action = .waits progress after) :
    r.stepLoop = (if progress = r.loopProgress then none
      else some { after with loopProgress := progress }) ∧ r.loopDoes = [] := by
  refine ⟨by rw [stepLoop_of_acting hacting, stepPoll, hattempt], ?_⟩
  rw [loopDoes, hacting]
  dsimp only
  rw [hattempt]

/-- A loop that takes no step does nothing. -/
theorem loopDoes_of_rests (hrests : r.stepLoop = none) : r.loopDoes = [] := by
  cases hacting : r.loop.acting? with
  | none => rw [loopDoes, hacting]
  | some acting =>
      obtain ⟨action, next⟩ := acting
      cases hattempt : r.tryPoll action with
      | answered answer after =>
          rw [(stepLoop_of_answered hacting hattempt).1] at hrests
          cases hrests
      | waits progress after => exact (stepLoop_of_waits hacting hattempt).2

theorem steps_of_answers {action : Poll.Action} {next : action.Answer → LoopStage}
    (hacting : r.loop.acting? = some ⟨action, next⟩)
    (hacting' : s.loop.acting? = some ⟨action, next⟩)
    {answer answer' : action.Answer} {r' s' : Running Memory κ}
    (hattempt : r.tryPoll action = .answered answer r')
    (hattempt' : s.tryPoll action = .answered answer' s')
    (habreast : Abreast extra devices
      (view (past ++ [.loop ⟨action, answer⟩])
        { r' with loop := next answer, loopProgress := .fresh })
      (view (past' ++ [.loop ⟨action, answer'⟩])
        { s' with loop := next answer', loopProgress := .fresh })) :
    StepsAbreast extra devices past past' r s := by
  obtain ⟨hstep, hlog⟩ := stepLoop_of_answered hacting hattempt
  obtain ⟨hstep', hlog'⟩ := stepLoop_of_answered hacting' hattempt'
  rw [← hlog, ← hlog'] at habreast
  exact Or.inr ⟨_, _, hstep, hstep', habreast⟩

theorem steps_of_waits {action : Poll.Action} {next : action.Answer → LoopStage}
    (hacting : r.loop.acting? = some ⟨action, next⟩)
    (hacting' : s.loop.acting? = some ⟨action, next⟩)
    {progress : Progress} {r' s' : Running Memory κ} (hcore : s.core = r.core)
    (hattempt : r.tryPoll action = .waits progress r')
    (hattempt' : s.tryPoll action = .waits progress s')
    (habreast : Abreast extra devices (view past { r' with loopProgress := progress })
      (view past' { s' with loopProgress := progress })) :
    StepsAbreast extra devices past past' r s := by
  have hprogress : s.loopProgress = r.loopProgress := congrArg Core.progress hcore
  obtain ⟨hstep, hlog⟩ := stepLoop_of_waits hacting hattempt
  obtain ⟨hstep', hlog'⟩ := stepLoop_of_waits hacting' hattempt'
  rw [hprogress] at hstep'
  split at hstep
  · rename_i hsame
    rw [if_pos hsame] at hstep'
    exact Or.inl ⟨hstep, hstep'⟩
  · rename_i hother
    rw [if_neg hother] at hstep'
    refine Or.inr ⟨_, _, hstep, hstep', ?_⟩
    rw [hlog, hlog', List.append_nil, List.append_nil]
    exact habreast

/-- What is only waited for, and who has the session, is alike in both runs. -/
theorem abreast_of_core (habreast : Abreast extra devices (view past r) (view past' s))
    {r' s' : Running Memory κ} (hcore : s'.core = r'.core) (hlink : r'.link = r.link)
    (hlink' : s'.link = s.link)
    (hdues : r'.loop.dues r'.stopAsked r'.today = r.loop.dues r.stopAsked r.today)
    (hdues' : s'.loop.dues s'.stopAsked s'.today = s.loop.dues s.stopAsked s.today) :
    Abreast extra devices (view past r') (view past' s') := by
  have hview : view past r' = { view past r with core := r'.core } := by
    simp only [view, replies, hlink, hdues]
  have hview' : view past' s' = { view past' s with core := s'.core } := by
    simp only [view, replies, hlink', hdues']
  rw [hview, hview']
  exact { habreast with core := hcore }

/-! ### Single actions -/

section Actions

variable {settings : Poll.Settings} {stage : LoopStage}

theorem sound_of_abreast (habreast : Abreast extra devices (view past r) (view past' s))
    (hsound : Sound settings r.stopAsked r.loop) (hloop : s.loop = r.loop) :
    Sound settings s.stopAsked s.loop := by
  have hasked : s.stopAsked = r.stopAsked := congrArg Core.stopAsked habreast.core
  rw [hasked, hloop]
  exact hsound

theorem tried_tryPoll (habreast : Abreast extra devices (view past r) (view past' s))
    (action : Link.Action) :
    Tried r s action (r.tryPoll (.link action)) (s.tryPoll (.link action)) := by
  have hprogress : s.loopProgress = r.loopProgress := congrArg (·.progress) habreast.core
  rw [tryPoll, tryPoll, hprogress]
  exact tried_tryLink habreast.core habreast.beside .loop r.loopProgress action

/-- Both loops do the same to the link, and what is due then matches. -/
theorem steps_link (habreast : Abreast extra devices (view past r) (view past' s))
    (hsound : Sound settings r.stopAsked r.loop) (hloop : s.loop = r.loop) {action : Link.Action}
    {next : action.Answer → LoopStage}
    (hacting : r.loop.acting? = some ⟨.link action, next⟩)
    (hbeside : Link.Beside extra (r.link.perform action).2 (s.link.perform action).2)
    (hfailures : ∀ link : Link Memory,
      (link.perform action).2.metrics.readFailures = link.metrics.readFailures)
    (hmoved : Link.movedBy action (s.link.perform action).1 =
      Link.movedBy action (r.link.perform action).1)
    (hmatching : r.loopDoes = [.loop ⟨.link action, (r.link.perform action).1⟩] →
      Matching extra devices ((next (r.link.perform action).1).dues r.stopAsked r.today)
        ((next (s.link.perform action).1).dues r.stopAsked r.today)) :
    StepsAbreast extra devices past past' r s := by
  have hacting' : s.loop.acting? = some ⟨.link action, next⟩ := hloop ▸ hacting
  have hcore : s.core = r.core := habreast.core
  have htried := tried_tryPoll habreast action
  generalize hattempt : r.tryPoll (.link action) = attempt at htried
  generalize hattempt' : s.tryPoll (.link action) = attempt' at htried
  cases htried with
  | performed user line =>
      refine steps_of_answers hacting hacting' hattempt hattempt' ?_
      refine abreast_of_answers habreast hsound (sound_of_abreast habreast hsound hloop) rfl rfl
        ?_ hbeside (hfailures r.link) (hfailures s.link) rfl rfl hmoved
        (hmatching (stepLoop_of_answered hacting hattempt).2)
      exact congrArg (fun core : Core => { core with user := user, line := line }) hcore
  | waits progress user line =>
      refine steps_of_waits hacting hacting' hcore hattempt hattempt' ?_
      refine abreast_of_core habreast ?_ rfl rfl rfl rfl
      exact congrArg
        (fun core : Core => { core with user := user, line := line, progress := progress }) hcore

/-- Both loops do something that does not read, and have the same answer. -/
theorem steps_plain (habreast : Abreast extra devices (view past r) (view past' s))
    (hsound : Sound settings r.stopAsked r.loop) (hloop : s.loop = r.loop) {action : Poll.Action}
    {next : action.Answer → LoopStage} (hplain : Plain action)
    (hacting : r.loop.acting? = some ⟨action, next⟩)
    (hnext : ∀ answer, Sound settings r.stopAsked (next answer)) :
    StepsAbreast extra devices past past' r s := by
  have hmatching : ∀ answer, Matching extra devices ((next answer).dues r.stopAsked r.today)
      ((next answer).dues r.stopAsked r.today) := by
    intro answer
    rw [(hnext answer).dues]
    exact matching_sound _
  cases action with
  | link action =>
      have hread : ∀ paths, action ≠ .call (.read paths) := by
        rintro paths rfl
        exact hplain
      obtain ⟨hanswer, hbeside⟩ := habreast.beside.perform hread
      refine steps_link habreast hsound hloop hacting hbeside ?_ (by rw [hanswer]) ?_
      · intro link
        cases action with
        | count event =>
            obtain rfl : event = .pollCycle := hplain
            rfl
        | look | move | halt | publish | call =>
            exact (Link.perform_sameFlow (by simp) link).readFailures
      · intro _
        rw [hanswer]
        exact hmatching _
  | now =>
      have hacting' : s.loop.acting? = some ⟨.now, next⟩ := hloop ▸ hacting
      have hclock : s.clock = r.clock := congrArg Core.clock habreast.core
      refine steps_of_answers hacting hacting' rfl rfl ?_
      refine abreast_of_answers habreast hsound (sound_of_abreast habreast hsound hloop) rfl rfl
        habreast.core habreast.beside rfl rfl rfl rfl rfl ?_
      rw [hclock]
      exact hmatching _
  | wallClock | stopAsked | pause | deliver => exact hplain.elim

theorem steps_stopAsked (habreast : Abreast extra devices (view past r) (view past' s))
    (hsound : Sound settings r.stopAsked r.loop) (hloop : s.loop = r.loop)
    {next : Bool → LoopStage} (hacting : r.loop.acting? = some ⟨.stopAsked, next⟩)
    (hnext : Sound settings r.stopAsked (next r.stopAsked)) :
    StepsAbreast extra devices past past' r s := by
  have hacting' : s.loop.acting? = some ⟨.stopAsked, next⟩ := hloop ▸ hacting
  have hasked : s.stopAsked = r.stopAsked := congrArg Core.stopAsked habreast.core
  refine steps_of_answers hacting hacting' rfl rfl ?_
  refine abreast_of_answers habreast hsound (sound_of_abreast habreast hsound hloop) rfl rfl
    habreast.core habreast.beside rfl rfl rfl rfl rfl ?_
  rw [hasked, hnext.dues]
  exact matching_sound _

theorem steps_pause (habreast : Abreast extra devices (view past r) (view past' s))
    (hsound : Sound settings r.stopAsked r.loop) (hloop : s.loop = r.loop) {millis : Nat}
    {next : Bool → LoopStage} (hacting : r.loop.acting? = some ⟨.pause millis, next⟩)
    (hnext : Sound settings r.stopAsked (next r.stopAsked)) :
    StepsAbreast extra devices past past' r s := by
  have hacting' : s.loop.acting? = some ⟨.pause millis, next⟩ := hloop ▸ hacting
  have hasked : s.stopAsked = r.stopAsked := congrArg Core.stopAsked habreast.core
  have hclock : s.clock = r.clock := congrArg Core.clock habreast.core
  have hprogress : s.loopProgress = r.loopProgress := congrArg Core.progress habreast.core
  have hattempt := tryPause_eq r r.loopProgress millis
  have hattempt' := tryPause_eq s s.loopProgress millis
  obtain ⟨time, htime⟩ : ∃ time, r.loopProgress.over r.clock millis = time := ⟨_, rfl⟩
  have htime' : s.loopProgress.over r.clock millis = time := by rw [hprogress, htime]
  rw [htime] at hattempt
  rw [hasked, hclock, htime'] at hattempt'
  have hanswered : ∀ {answer : Bool}, r.tryPause r.loopProgress millis = .answered answer r →
      s.tryPause s.loopProgress millis = .answered answer s → answer = r.stopAsked →
      StepsAbreast extra devices past past' r s := by
    rintro answer hattempt hattempt' rfl
    refine steps_of_answers hacting hacting' hattempt hattempt' ?_
    refine abreast_of_answers habreast hsound (sound_of_abreast habreast hsound hloop) rfl rfl
      habreast.core habreast.beside rfl rfl rfl rfl rfl ?_
    rw [hnext.dues]
    exact matching_sound _
  cases hstop : r.stopAsked with
  | true =>
      rw [hstop, if_pos rfl] at hattempt hattempt'
      exact hanswered hattempt hattempt' hstop.symm
  | false =>
      rw [hstop, if_neg Bool.false_ne_true] at hattempt hattempt'
      by_cases hover : time ≤ r.clock
      · rw [if_pos hover] at hattempt hattempt'
        exact hanswered hattempt hattempt' hstop.symm
      · rw [if_neg hover] at hattempt hattempt'
        refine steps_of_waits hacting hacting' habreast.core hattempt hattempt' ?_
        refine abreast_of_core habreast ?_ rfl rfl rfl rfl
        exact congrArg (fun core : Core => { core with progress := .until time }) habreast.core

/-- What is due after a read that is only rejected in the second run matches, unless the loop
was asked to stop before. -/
theorem matching_of_compared {device : Device} {next : Except SessionError (List Reading) →
      Poll.Program (Option Nat)} {given : Bool → Poll.Program (Option Nat)}
    (hdevice : device ∈ devices)
    (hok : ∀ readings, next (.ok readings) =
      .act .wallClock fun time => .act (.deliver ⟨device, readings, time⟩) given)
    (herror : ∀ cause, next (.error cause) =
      .act (.link (.count (.readFailure device.name))) fun _ =>
        if cause.isSessionLost then .act (.link (.move .disconnected)) fun _ => given true
        else given true)
    {result result' : Except SessionError (List Reading)} {stopping : Bool}
    (hcompared : Memory.Compared extra device.tagPaths result result')
    (hlate : stopping = true → ∀ readings, result = .ok readings → spares extra device = true)
    (time : Int) :
    Matching extra devices ((LoopStage.turn (next result)).dues stopping time)
      ((LoopStage.turn (next result')).dues stopping time) := by
  cases hcompared with
  | failed cause =>
      rw [herror]
      exact ⟨rfl, rfl, fun _ _ => rfl⟩
  | rejected hcause hcause' =>
      rw [herror, herror, hcause, hcause']
      exact ⟨rfl, rfl, fun _ _ => rfl⟩
  | answered readings hspared =>
      rw [hok]
      have hspared : spares extra device = true := spares_iff.mpr hspared
      refine ⟨rfl, ?_, fun _ _ => rfl⟩
      cases stopping with
      | true => rfl
      | false =>
          change [_] = List.filter _ [_]
          simp [hspared]
  | parted readings hcause htouched =>
      rw [hok, herror, hcause]
      have htouched : ¬ spares extra device = true := by
        rw [spares_iff]
        intro hspared
        obtain ⟨path, hpath, hextra⟩ := htouched
        exact hspared path hpath hextra
      have hgoesOn : stopping = false := by
        rw [Bool.eq_false_iff]
        intro hstopping
        exact htouched (hlate hstopping readings rfl)
      rw [hgoesOn]
      refine ⟨rfl, ?_, ?_⟩
      · change [] = List.filter _ [_]
        simp [htouched]
      · intro name hclear
        have hunshared := hclear device hdevice (Bool.eq_false_iff.mpr htouched)
        change List.countP _ [device.name] = List.countP _ []
        rw [List.countP_cons_of_neg (by rw [hunshared]; exact Bool.false_ne_true)]

/-- Where nothing is due before and after it, going on shows as a new stage. -/
theorem view_of_goesOn {following : LoopStage} (hsound : Sound settings r.stopAsked r.loop)
    (hafter : Sound settings r.stopAsked following) :
    view past { r with loop := following } = { view past r with stage := following } := by
  simp only [view, replies, hafter.dues, hsound.dues]
  rfl

theorem steps_goesOn (habreast : Abreast extra devices (view past r) (view past' s))
    (hsound : Sound r.connector.pollSettings r.stopAsked r.loop) (hloop : s.loop = r.loop)
    {following : LoopStage}
    (hstage : r.loop.following? r.connector.pollSettings = some following) :
    StepsAbreast extra devices past past' r s := by
  have hconnector : s.connector = r.connector := congrArg Core.connector habreast.core
  have hafter := hsound.goesOn hstage
  have hlog : r.loopDoes = [] := by rw [loopDoes, LoopStage.acting?_eq_none hstage]
  have hlog' : s.loopDoes = [] := by rw [loopDoes, hloop, LoopStage.acting?_eq_none hstage]
  have hstep' : s.stepLoop = some { s with loop := following } := by
    apply stepLoop_of_following
    rw [hloop, hconnector, hstage]
  refine Or.inr ⟨_, _, stepLoop_of_following hstage, hstep', ?_⟩
  rw [hlog, hlog', List.append_nil, List.append_nil]
  have hasked : s.stopAsked = r.stopAsked := congrArg Core.stopAsked habreast.core
  rw [view_of_goesOn hsound hafter,
    view_of_goesOn (sound_of_abreast habreast hsound hloop) (hasked ▸ hafter)]
  exact { habreast with stage := rfl }

end Actions

/-! ### Any action -/

/-- Loops that are abreast with nothing due go on abreast. -/
theorem steps_of_sound {settings : Poll.Settings}
    (habreast : Abreast extra settings.devices (view past r) (view past' s))
    (hsettings : r.connector.pollSettings = settings) (hasked : r.stopAsked = signalled past)
    (hlate : noneLate extra (past ++ r.loopDoes) = true)
    (hsound : Sound settings r.stopAsked r.loop) (hloop : s.loop = r.loop) :
    StepsAbreast extra settings.devices past past' r s := by
  obtain ⟨stopping, hstopping⟩ : ∃ stopping, r.stopAsked = stopping := ⟨_, rfl⟩
  have hgoesOn : ∀ {following : LoopStage}, r.loop.following? settings = some following →
      StepsAbreast extra settings.devices past past' r s := by
    subst hsettings
    exact fun hstage => steps_goesOn habreast hsound hloop hstage
  have hstage := hsound
  rw [hstopping] at hsound
  generalize hr : r.loop = stage at hsound hgoesOn
  cases hsound with
  | polls hsteady =>
      cases hsteady with
      | done hpost =>
          obtain ⟨nextPoll, rfl⟩ := Option.isSome_iff_exists.mp hpost
          exact hgoesOn rfl
      | acts hplain hnext =>
          refine steps_plain habreast hstage hloop hplain (by rw [hr]; rfl) ?_
          exact fun answer => .polls (hnext answer)
      | asks hstopped hlast hnext =>
          refine steps_stopAsked habreast hstage hloop (by rw [hr]; rfl) ?_
          exact sound_of_asked (hlast ▸ hstopped) hnext
      | sleeps hstopped hlast hnext =>
          refine steps_pause habreast hstage hloop (by rw [hr]; rfl) ?_
          exact sound_of_asked (hlast ▸ hstopped) hnext
      | reads given hdevice hok herror hstopped hlast hrest =>
          obtain ⟨hcompared, hbeside⟩ := habreast.beside.read _
          refine steps_link habreast hstage hloop (by rw [hr]; rfl) hbeside (fun _ => rfl) rfl ?_
          intro hdoes
          refine matching_of_compared hdevice hok herror hcompared ?_ r.today
          intro hasks readings hread
          rw [hasked] at hasks
          rw [hdoes, hread] at hlate
          exact spares_of_noneLate hasks hlate
  | ends => exact hgoesOn rfl
  | @finishes rest honly =>
      cases rest with
      | done => exact hgoesOn rfl
      | act action next =>
          obtain ⟨hplain, hnext⟩ := (Routine.obeys_ofActions_act _ _ _ _ _).mp honly
          refine steps_plain habreast hstage hloop hplain (by rw [hr]; rfl) ?_
          intro answer
          rw [hstopping]
          exact .finishes (hnext answer)
  | ended =>
      refine Or.inl ⟨by unfold stepLoop; rw [hr], by unfold stepLoop; rw [hloop, hr]⟩

end Steps

end TagRelay.Running
