import TagRelay.Proofs.Pipeline.Clocked

/-!
# Running connectors keep time

The scheduler moves its clock to the earliest moment for which somebody waits.  Where only
reads take time, and nobody but the loop uses the session, what it does while time passes is a
run with a clock: the loop has no place in a line to keep, and it never waits for longer than
what it has begun may last.
-/

namespace TagRelay.Running

open Interleaved (Event loopEvents)

variable {σ κ : Type}

/-- All calls of the session but reads are over at once. -/
def OnlyReadsLast (σ : Type) [TagSession σ] : Prop :=
  ∀ (c : Session.Call) (session : σ), (∀ paths, c ≠ .read paths) →
    TagSession.delay c session = 0

theorem onlyReadsLast_memory : OnlyReadsLast Memory := by
  intro c session hread
  cases c with
  | read paths => exact absurd rfl (hread paths)
  | connect | close | write | info => rfl

/-- The connector with its clock, while nobody shuts it down and there are no calls from the
platform. -/
def clocked (r : Running σ κ) (since : Nat) : Clocked σ κ where
  parties := r.untimed .away []
  clock := r.clock
  since := since

/-! ## What the loop waits for -/

/-- With what progress the loop waits for an action that it began at some time, and who has
the session then. -/
inductive Awaits (since : Nat) : Poll.Action → Progress → Option User → Prop
  | read (paths : List String) (time : Nat) :
      Awaits since (.link (.call (.read paths))) (.until time) (some .loop)
  | pause (millis : Nat) : Awaits since (.pause millis) (.until (since + millis)) none
  | deliver (reply : Unconverted) : Awaits since (.deliver reply) .fresh none

/-- Nobody but the loop uses the session, and what the loop began at some time is not over
yet. -/
inductive Alone (r : Running σ κ) (since : Nat) : Prop
  | begins (hline : r.line = []) (hprogress : r.loopProgress = .fresh) (huser : r.user = none)
      (hclock : r.clock = since)
  | awaits {action : Poll.Action} {next : action.Answer → LoopStage} (hline : r.line = [])
      (hacting : r.loop.acting? = some ⟨action, next⟩)
      (hawaits : Awaits since action r.loopProgress r.user)
      (hlasts : action.MayLast since r.clock)
  | ended (hended : r.loop.hasEnded = true)

/-- What an attempt of the loop comes to if nobody else uses the session. -/
def Attempt.Keeps (r : Running σ κ) (since : Nat) (action : Poll.Action) :
    Attempt σ κ action.Answer → Prop
  | .answered answer after => after.line = [] ∧ after.user = none ∧ after.clock = r.clock ∧
      action.Tells answer since r.clock
  | .waits progress after => after.line = [] ∧ after.clock = r.clock ∧ after.loop = r.loop ∧
      Awaits since action progress after.user ∧
      ∀ millis, action = .pause millis → r.clock < since + millis

section Sessions

variable [TagSession σ] {r : Running σ κ} {since : Nat}

theorem completeCall_keeps (hline : r.line = []) (c : Session.Call) :
    (r.completeCall c).Keeps r since (.link (.call c)) := by
  simp [completeCall, Attempt.Keeps, release, hline, Poll.Action.Tells]

omit [TagSession σ] in
theorem Alone.of_acting {action : Poll.Action} {next : action.Answer → LoopStage}
    (halone : Alone r since) (hacting : r.loop.acting? = some ⟨action, next⟩) :
    r.line = [] ∧
      ((r.loopProgress = .fresh ∧ r.user = none ∧ r.clock = since) ∨
        Awaits since action r.loopProgress r.user ∧ action.MayLast since r.clock) := by
  cases halone with
  | begins hline hprogress huser hclock => exact ⟨hline, Or.inl ⟨hprogress, huser, hclock⟩⟩
  | awaits hline hacting' hawaits hlasts =>
      rw [hacting] at hacting'
      cases hacting'
      exact ⟨hline, Or.inr ⟨hawaits, hlasts⟩⟩
  | ended hended =>
      rw [LoopStage.eq_ended hended] at hacting
      cases hacting

omit [TagSession σ] in
theorem Alone.mayLast {action : Poll.Action} {next : action.Answer → LoopStage}
    (halone : Alone r since) (hacting : r.loop.acting? = some ⟨action, next⟩) :
    action.MayLast since r.clock := by
  rcases (halone.of_acting hacting).2 with ⟨-, -, hclock⟩ | ⟨-, hlasts⟩
  · rw [hclock]
    exact action.mayLast_self since
  · exact hlasts

omit [TagSession σ] in
/-- Only while it reads the loop has the session. -/
theorem Alone.free {action : Poll.Action} {next : action.Answer → LoopStage}
    (halone : Alone r since) (hacting : r.loop.acting? = some ⟨action, next⟩)
    (hread : ∀ paths, action ≠ .link (.call (.read paths))) : r.line = [] ∧ r.user = none := by
  obtain ⟨hline, ⟨-, huser, -⟩ | ⟨hawaits, -⟩⟩ := halone.of_acting hacting
  · exact ⟨hline, huser⟩
  · generalize r.loopProgress = progress, r.user = user at hawaits
    cases hawaits with
    | read paths => exact absurd rfl (hread paths)
    | pause | deliver => exact ⟨hline, rfl⟩

theorem tryCall_keeps (hlast : OnlyReadsLast σ) {c : Session.Call} {next : c.Result → LoopStage}
    (hacting : r.loop.acting? = some ⟨.link (.call c), next⟩) (halone : Alone r since) :
    (r.tryCall .loop r.loopProgress c).Keeps r since (.link (.call c)) := by
  obtain ⟨hline, ⟨hprogress, huser, hclock⟩ | ⟨hawaits, -⟩⟩ := halone.of_acting hacting
  · rw [hprogress, tryCall, huser]
    dsimp only
    rw [beginCall]
    dsimp only
    split
    · exact completeCall_keeps (r := { r with user := some .loop }) hline c
    · rename_i hdelay
      cases c with
      | read paths => exact ⟨hline, rfl, rfl, .read paths _, by rintro _ ⟨⟩⟩
      | connect | close | write | info =>
          refine absurd (hlast _ _ ?_) hdelay
          rintro _ ⟨⟩
  · generalize hprogress : r.loopProgress = progress at hawaits
    generalize huser : r.user = user at hawaits
    cases hawaits with
    | read paths time =>
        rw [tryCall]
        split
        · exact completeCall_keeps hline _
        · exact ⟨hline, rfl, rfl, huser ▸ .read paths time, by rintro _ ⟨⟩⟩

omit [TagSession σ] in
theorem tryPause_keeps {millis : Nat} {next : Bool → LoopStage}
    (hacting : r.loop.acting? = some ⟨.pause millis, next⟩) (halone : Alone r since) :
    (r.tryPause r.loopProgress millis).Keeps r since (.pause millis) := by
  obtain ⟨-, hto⟩ : since ≤ r.clock ∧ r.clock ≤ since + millis := halone.mayLast hacting
  obtain ⟨hline, hbegun⟩ := halone.of_acting hacting
  have huser := (halone.free hacting (by rintro _ ⟨⟩)).2
  have hpause : r.tryPause r.loopProgress millis =
      if r.stopAsked then .answered true r
      else if since + millis ≤ r.clock then .answered false r
      else .waits (.until (since + millis)) r := by
    rcases hbegun with ⟨hprogress, -, hclock⟩ | ⟨hawaits, -⟩
    · rw [hprogress, ← hclock]
      rfl
    · generalize r.loopProgress = progress, r.user = user at hawaits
      cases hawaits
      rfl
  rw [hpause]
  split
  · exact ⟨hline, huser, rfl, by rintro ⟨⟩⟩
  · split
    · rename_i hover
      exact ⟨hline, huser, rfl, fun _ => Nat.le_antisymm hto hover⟩
    · rename_i hahead
      refine ⟨hline, rfl, rfl, huser ▸ .pause millis, ?_⟩
      rintro _ ⟨⟩
      exact Nat.lt_of_not_le hahead

theorem tryPoll_keeps (hlast : OnlyReadsLast σ) {action : Poll.Action}
    {next : action.Answer → LoopStage} (hacting : r.loop.acting? = some ⟨action, next⟩)
    (halone : Alone r since) : (r.tryPoll action).Keeps r since action := by
  cases action with
  | link action =>
      cases action with
      | call c => exact tryCall_keeps hlast hacting halone
      | look | move | halt | publish | count =>
          obtain ⟨hline, huser⟩ := halone.free hacting (by rintro _ ⟨⟩)
          exact ⟨hline, huser, rfl, trivial⟩
  | now =>
      obtain ⟨hline, huser⟩ := halone.free hacting (by rintro _ ⟨⟩)
      exact ⟨hline, huser, rfl, rfl⟩
  | wallClock | stopAsked =>
      obtain ⟨hline, huser⟩ := halone.free hacting (by rintro _ ⟨⟩)
      exact ⟨hline, huser, rfl, trivial⟩
  | pause millis => exact tryPause_keeps hacting halone
  | deliver reply =>
      obtain ⟨hline, huser⟩ := halone.free hacting (by rintro _ ⟨⟩)
      simp only [tryPoll, tryDeliver]
      split
      · exact ⟨hline, huser, rfl, trivial⟩
      · split
        · exact ⟨hline, huser, rfl, trivial⟩
        · exact ⟨hline, rfl, rfl, huser ▸ .deliver reply, by rintro _ ⟨⟩⟩

end Sessions

/-! ## Steps -/

/-- A run with a clock leads from one to the other, in which the loop does what is told. -/
structure Paces [TagSession σ] [RecordSink κ] (r : Running σ κ) (since : Nat) (log : List Event)
    (last : Running σ κ) (later : Nat) : Prop where
  connector : last.connector = r.connector
  alone : Alone last later
  run : ∃ timed, Clocked.Run r.connector (r.clocked since) timed (last.clocked later) ∧
    loopEvents (timed.map Prod.snd) = loopEvents log

section Steps

variable [TagSession σ] [RecordSink κ] {r after last : Running σ κ} {since later final : Nat}
  {log rest : List Event}

theorem Paces.refl (halone : Alone r since) : Paces r since [] r since where
  connector := rfl
  alone := halone
  run := ⟨[], .refl, rfl⟩

theorem Paces.trans (hpaces : Paces r since log after later)
    (hlater : Paces after later rest last final) : Paces r since (log ++ rest) last final where
  connector := hlater.connector.trans hpaces.connector
  alone := hlater.alone
  run := by
    obtain ⟨timed, hrun, htimed⟩ := hpaces.run
    obtain ⟨timed', hrun', htimed'⟩ := hlater.run
    rw [hpaces.connector] at hrun'
    refine ⟨timed ++ timed', hrun.trans hrun', ?_⟩
    rw [List.map_append, Interleaved.loopEvents_append, Interleaved.loopEvents_append, htimed,
      htimed']

theorem paces_of_step {timed : List (Nat × Event)} (hconnector : last.connector = r.connector)
    (halone : Alone last later)
    (hstep : Clocked.Step r.connector (r.clocked since) timed (last.clocked later))
    (htimed : timed.map Prod.snd = log) : Paces r since log last later where
  connector := hconnector
  alone := halone
  run := ⟨[] ++ timed, .tail .refl hstep, congrArg loopEvents htimed⟩

/-- An answer ends what the loop has begun; an attempt that has to wait leaves the time as it
is. -/
theorem paces_of_loopStep (hlast : OnlyReadsLast σ) (halone : Alone r since)
    (hstep : LoopStep r log last) : ∃ later, Paces r since log last later := by
  cases hstep with
  | @acts action next answer after hacting hattempt =>
      have hkeeps := tryPoll_keeps hlast hacting halone
      have hfollows := tryPoll_follows r action
      rw [hattempt] at hkeeps hfollows
      obtain ⟨hline, huser, hclock, htells⟩ := hkeeps
      obtain ⟨hconnector, heffect⟩ := hfollows
      have hacts : Clocked.Step r.connector (r.clocked since) [(r.clock, .loop ⟨action, answer⟩)]
          (({ after with loop := next answer, loopProgress := .fresh } : Running σ κ).clocked
            r.clock) := by
        rw [clocked, hclock]
        exact Clocked.Step.loopActs (p := r.clocked since) hacting (heffect .away []) htells
      exact ⟨r.clock, paces_of_step hconnector (.begins hline rfl huser hclock) hacts rfl⟩
  | @waits action next progress after hacting hattempt hprogress =>
      have hkeeps := tryPoll_keeps hlast hacting halone
      have hunmoved := tryPoll_follows r action
      rw [hattempt] at hkeeps hunmoved
      obtain ⟨hline, hclock, hloop, hawaits, -⟩ := hkeeps
      have hlasts := halone.mayLast hacting
      have hsame : ({ after with loopProgress := progress } : Running σ κ).clocked since =
          r.clocked since := by
        change Clocked.mk (after.untimed .away []) after.clock since = _
        rw [hunmoved.untimed, hclock]
        rfl
      have hacting' : after.loop.acting? = some ⟨action, next⟩ :=
        (congrArg LoopStage.acting? hloop).trans hacting
      refine ⟨since, hunmoved.connector, .awaits hline hacting' hawaits ?_, [], ?_, rfl⟩
      · exact hclock.symm ▸ hlasts
      · rw [hsame]
        exact .refl
  | goesOn hstage =>
      have hnone := LoopStage.acting?_eq_none hstage
      refine ⟨since, paces_of_step rfl ?_ (.others (.loopGoesOn hstage) rfl) rfl⟩
      cases halone with
      | begins hline hprogress huser hclock => exact .begins hline hprogress huser hclock
      | awaits _ hacting => simp [hnone] at hacting
      | ended hended =>
          rw [LoopStage.eq_ended hended] at hstage
          cases hstage

omit [TagSession σ] [RecordSink κ] in
/-- What does not concern the loop leaves it alone. -/
theorem Alone.congr (halone : Alone r since) (hline : last.line = r.line)
    (huser : last.user = r.user) (hloop : last.loop = r.loop)
    (hprogress : last.loopProgress = r.loopProgress) (hclock : last.clock = r.clock) :
    Alone last since := by
  cases halone with
  | begins hline' hprogress' huser' hclock' =>
      exact .begins (hline.trans hline') (hprogress.trans hprogress') (huser.trans huser')
        (hclock.trans hclock')
  | awaits hline' hacting hawaits hlasts =>
      rw [← hprogress, ← huser] at hawaits
      rw [← hclock] at hlasts
      exact .awaits (hline.trans hline') ((congrArg LoopStage.acting? hloop).trans hacting) hawaits
        hlasts
  | ended hended => exact .ended ((congrArg LoopStage.hasEnded hloop).trans hended)

omit [TagSession σ] in
theorem Alone.tryWorker (halone : Alone r since) {action : Worker.Action} {answer : action.Answer}
    (hattempt : r.tryWorker action = .answered answer after) :
    Alone after since ∧ after.clock = r.clock := by
  cases action with
  | receive =>
      simp only [Running.tryWorker, tryReceive] at hattempt
      split at hattempt
      · cases hattempt
        exact ⟨halone, rfl⟩
      · split at hattempt
        · cases hattempt
          exact ⟨halone.congr rfl rfl rfl rfl rfl, rfl⟩
        · split at hattempt <;> cases hattempt
          exact ⟨halone, rfl⟩
  | count | send =>
      cases hattempt
      exact ⟨halone.congr rfl rfl rfl rfl rfl, rfl⟩

theorem paces_of_workerStep (halone : Alone r since) (hstep : WorkerStep r log last) :
    Paces r since log last since := by
  cases hstep with
  | @acts action next answer after hacting hattempt =>
      obtain ⟨hconnector, heffect⟩ :=
        (hattempt ▸ tryWorker_follows r action : Attempt.Follows r _ (.answered answer after))
      obtain ⟨halone', hclock⟩ := halone.tryWorker hattempt
      have hacts : Clocked.Step r.connector (r.clocked since) [(r.clock, .worker ⟨action, answer⟩)]
          (({ after with worker := next answer } : Running σ κ).clocked since) := by
        rw [clocked, hclock]
        exact Clocked.Step.others (p := r.clocked since)
          (.workerActs hacting (heffect .away [])) rfl
      exact paces_of_step hconnector (halone'.congr rfl rfl rfl rfl rfl) hacts rfl
  | goesOn hstage =>
      exact paces_of_step rfl (halone.congr rfl rfl rfl rfl rfl)
        (.others (.workerGoesOn hstage) rfl) rfl

/-- While the loop and the worker settle, no time passes. -/
theorem paces_of_settles (hlast : OnlyReadsLast σ) (hsettles : Settles r log last)
    (halone : Alone r since) : ∃ later, Paces r since log last later := by
  induction hsettles generalizing since with
  | quiet => exact ⟨since, .refl halone⟩
  | loop hstep _ ih =>
      obtain ⟨between, hpaces⟩ := paces_of_loopStep hlast halone (loopStep_of_stepLoop hstep)
      obtain ⟨later, hlater⟩ := ih hpaces.alone
      exact ⟨later, hpaces.trans hlater⟩
  | worker _ hstep _ ih =>
      have hpaces := paces_of_workerStep halone (workerStep_of_stepWorker hstep)
      obtain ⟨later, hlater⟩ := ih hpaces.alone
      exact ⟨later, hpaces.trans hlater⟩

/-! ## Time -/

theorem earliest_spec {clock time : Nat} {moments : List Nat}
    (hearliest : earliest clock moments = some time) :
    clock < time ∧ ∀ moment ∈ moments, clock < moment → time ≤ moment := by
  obtain ⟨hmem, hleast⟩ := List.min?_eq_some_iff.mp hearliest
  refine ⟨by simpa using (List.mem_filter.mp hmem).2, fun moment hmoment hahead => ?_⟩
  exact hleast moment (List.mem_filter.mpr ⟨hmoment, by simpa using hahead⟩)

omit [RecordSink κ] in
theorem ended_of_quiet (hquiet : r.stepLoop = none) (hnone : r.loop.acting? = none) :
    r.loop.hasEnded = true := by
  cases hstage : r.loop.following? r.connector.pollSettings with
  | some stage =>
      rw [stepLoop_of_following hstage] at hquiet
      cases hquiet
  | none =>
      cases hloop : r.loop with
      | ended => rfl
      | turn rest =>
          rw [hloop] at hnone hstage
          cases rest with
          | act => cases hnone
          | done result => cases result <;> cases hstage
      | finish rest =>
          rw [hloop] at hnone hstage
          cases rest with
          | act => cases hnone
          | done => cases hstage

omit [RecordSink κ] in
/-- What the loop waits for when it has settled, and that a pause is not over then. -/
theorem Alone.awaits_of_quiet (hlast : OnlyReadsLast σ) (halone : Alone r since)
    (hquiet : r.stepLoop = none) {action : Poll.Action} {next : action.Answer → LoopStage}
    (hacting : r.loop.acting? = some ⟨action, next⟩) :
    Awaits since action r.loopProgress r.user ∧
      ∀ millis, action = .pause millis → r.clock < since + millis := by
  have hkeeps := tryPoll_keeps hlast hacting halone
  rw [stepLoop_of_acting hacting, stepPoll] at hquiet
  cases hattempt : r.tryPoll action with
  | answered answer after =>
      rw [hattempt] at hquiet
      cases hquiet
  | waits progress after =>
      rw [hattempt] at hquiet hkeeps
      obtain rfl : progress = r.loopProgress := by simpa using hquiet
      obtain ⟨-, -, -, hstill, hahead⟩ := hkeeps
      refine ⟨?_, hahead⟩
      rcases (halone.of_acting hacting).2 with ⟨hprogress, huser, -⟩ | ⟨hawaits, -⟩
      · rw [hprogress] at hstill ⊢
        rw [huser]
        generalize after.user = user at hstill
        cases hstill
        exact .deliver _
      · exact hawaits

omit [RecordSink κ] in
/-- A loop that has settled may wait until the moment for which it waits. -/
theorem Alone.mayWait (hlast : OnlyReadsLast σ) (halone : Alone r since)
    (hquiet : r.stepLoop = none) {time : Nat} (htime : r.clock ≤ time)
    (hmoment : ∀ moment ∈ r.loopProgress.moment, r.clock < moment → time ≤ moment) :
    (r.clocked since).MayWait time ∧ Alone { r with clock := time } since := by
  cases hacting : r.loop.acting? with
  | none =>
      have hended := ended_of_quiet hquiet hacting
      refine ⟨?_, .ended hended⟩
      simpa [Clocked.MayWait, clocked, untimed, hacting] using hended
  | some acting =>
      obtain ⟨action, next⟩ := acting
      obtain ⟨hawaits, hahead⟩ := halone.awaits_of_quiet hlast hquiet hacting
      have hline := (halone.of_acting hacting).1
      have hlasts : action.MayLast since time := by
        have hnow := halone.mayLast hacting
        generalize hprogress : r.loopProgress = progress, r.user = user at hawaits
        cases hawaits with
        | read | deliver => exact Nat.le_trans hnow htime
        | pause millis =>
            have hin : since + millis ∈ r.loopProgress.moment := by
              simp [hprogress, Progress.moment]
            exact ⟨Nat.le_trans hnow.1 htime, hmoment _ hin (hahead millis rfl)⟩
      exact ⟨by simpa [Clocked.MayWait, clocked, untimed, hacting] using hlasts,
        .awaits hline hacting hawaits hlasts⟩

/-! ## The host -/

theorem settles_quiet (hsettles : Settles r log last) : last.stepLoop = none := by
  induction hsettles with
  | quiet hloop _ => exact hloop
  | loop _ _ ih => exact ih
  | worker _ _ _ ih => exact ih

omit [RecordSink κ] in
theorem eq_of_tryRest_answered {millis : Nat} {progress : Progress} {answer : Unit}
    (hattempt : r.tryHost progress (.rest millis) = .answered answer after) : after = r := by
  change r.tryRest progress millis = _ at hattempt
  unfold tryRest at hattempt
  extract_lets time at hattempt
  split at hattempt
  · cases hattempt
    rfl
  · cases hattempt

omit [RecordSink κ] in
theorem eq_of_tryRest_waits {millis : Nat} {progress waiting : Progress}
    (hattempt : r.tryHost progress (.rest millis) = .waits waiting after) : after = r := by
  change r.tryRest progress millis = _ at hattempt
  unfold tryRest at hattempt
  extract_lets time at hattempt
  split at hattempt
  · cases hattempt
  · cases hattempt
    rfl

/-- Time passes for as long as the loop may wait. -/
theorem paces_passTime (hlast : OnlyReadsLast σ) (halone : Alone r since)
    (hquiet : r.stepLoop = none) {progress : Progress} {millis : Nat}
    (hpass : r.passTime progress (.rest millis) = some last) : Paces r since [] last since := by
  obtain ⟨time, hearliest, rfl⟩ := Option.map_eq_some_iff.mp hpass
  obtain ⟨hahead, hearliest⟩ := earliest_spec hearliest
  have htime := Nat.le_of_lt hahead
  obtain ⟨hwaits, halone'⟩ := halone.mayWait hlast hquiet htime fun moment hmoment =>
    hearliest moment (by simp [hmoment])
  exact paces_of_step rfl halone' (.passes htime hwaits) rfl

/-- While the host lets time pass, what is done is a run with a clock. -/
theorem paces_of_performs {α : Type} (hlast : OnlyReadsLast σ) {program : Host.Program α}
    {progress : Progress} {result : α} (hperforms : Performs program progress r log result last)
    (hrests : Routine.Only (fun action => ∃ millis, action = .rest millis) program)
    (halone : Alone r since) : ∃ later, Paces r since log last later := by
  induction hperforms generalizing since with
  | done => exact ⟨since, .refl halone⟩
  | answered hattempt _ ih =>
      obtain ⟨⟨millis, rfl⟩, hnext⟩ := (Routine.obeys_ofActions_act _ _ _ _ _).mp hrests
      obtain rfl := eq_of_tryRest_answered hattempt
      obtain ⟨later, hpaces⟩ := ih (hnext _) halone
      exact ⟨later, { hpaces with run := hpaces.run }⟩
  | settled hattempt hsettles hagain _ ih =>
      obtain ⟨⟨millis, rfl⟩, hnext⟩ := (Routine.obeys_ofActions_act _ _ _ _ _).mp hrests
      obtain rfl := eq_of_tryRest_waits hattempt
      obtain rfl := eq_of_tryRest_answered hagain
      obtain ⟨between, hpaces⟩ := paces_of_settles hlast hsettles halone
      obtain ⟨later, hlater⟩ := ih (hnext _) hpaces.alone
      exact ⟨later, hpaces.trans { hlater with run := hlater.run }⟩
  | passed hattempt hsettles hagain hpass _ ih =>
      obtain ⟨⟨millis, rfl⟩, -⟩ := (Routine.obeys_ofActions_act _ _ _ _ _).mp hrests
      obtain rfl := eq_of_tryRest_waits hattempt
      obtain rfl := eq_of_tryRest_waits hagain
      obtain ⟨between, hpaces⟩ := paces_of_settles hlast hsettles halone
      have hpassed := paces_passTime hlast hpaces.alone (settles_quiet hsettles) hpass
      obtain ⟨later, hlater⟩ := ih hrests hpassed.alone
      exact ⟨later, hpaces.trans (hpassed.trans hlater)⟩

/-- Letting time pass after the start is a run with a clock. -/
theorem clocked_run (hlast : OnlyReadsLast σ) {c : Connector} {session : σ} {sink : κ}
    {epoch : Int} {millis : Nat}
    (hlog : (start c session sink epoch).runLog (Host.act (.rest millis)) = some log) :
    ∃ timed since, Clocked.Run c (Clocked.start c session sink) timed
        (((start c session sink epoch).advance millis).clocked since) ∧
      loopEvents (timed.map Prod.snd) = loopEvents log := by
  obtain ⟨_, hperforms⟩ := performs_of_log hlog
  obtain ⟨since, hpaces⟩ := paces_of_performs hlast hperforms
    (Routine.only_perform ⟨millis, rfl⟩) (.begins rfl rfl rfl rfl)
  obtain ⟨timed, hrun, htimed⟩ := hpaces.run
  exact ⟨timed, since, hrun, htimed⟩

end Steps

end TagRelay.Running
