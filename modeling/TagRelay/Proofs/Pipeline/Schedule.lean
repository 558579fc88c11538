import TagRelay.Proofs.Config.Checks
import TagRelay.Proofs.Pipeline.CallOrder
import TagRelay.Proofs.Pipeline.TimeRules
import TagRelay.Proofs.Pipeline.Timekeeping

/-!
# The loop keeps its schedule

The rules for the loop's time, followed through a whole run with a clock, as long as nobody
has asked the loop to stop.  Until then the others leave the link as it is: the host's first
act in shutting down is to ask for it, and the platform's calls cannot move a link.
-/

namespace TagRelay

open Poll (isCall endsSpell failed? spell? wasStopped OnSchedule Spell cycleStart)
open Poll.Timing (Between InTime)

namespace Interleaved

variable {σ κ : Type} [TagSession σ] [RecordSink κ] {c : Connector} {p q : Interleaved σ κ}
  {new : List Event}

/-- Who was asked to stop stays so. -/
theorem Step.stopAsked (hstep : Step c p new q) (hasked : p.stopAsked = true) :
    q.stopAsked = true := by
  cases hstep with
  | loopActs hacting heffect =>
      obtain ⟨-, -, -, hsame, -⟩ := loopEffect_others heffect
      exact hsame.trans hasked
  | workerActs hacting heffect =>
      obtain ⟨-, -, -, hsame, -⟩ := workerEffect_others heffect
      exact hsame.trans hasked
  | hostActs hacting heffect => exact (hostEffect_stopAsked heffect hasked :)
  | remoteActs hacting heffect =>
      rw [heffect.2]
      exact hasked
  | loopGoesOn | workerGoesOn | hostGoesOn | remoteBegins => exact hasked

/-- The host is not shutting down, or has only just begun to. -/
def HostStage.Early (limit : Nat) (stage : HostStage) : Prop :=
  stage = .away ∨ stage = .turn (Host.shutdown limit)

/-- The first act in shutting down is to ask for it. -/
theorem HostStage.Early.acts {limit : Nat} {stage : HostStage} (hearly : stage.Early limit)
    {action : Host.Action} {next : action.Answer → HostStage}
    (hacting : stage.acting? = some ⟨action, next⟩) : action = .signalStop := by
  rcases hearly with rfl | rfl
  · simp [acting?] at hacting
  · exact (congrArg Sigma.fst (Option.some.inj hacting)).symm

theorem HostStage.Early.goesOn {limit : Nat} {stage following : HostStage}
    (hearly : stage.Early limit) (hfollowing : stage.following? limit = some following) :
    following.Early limit := by
  rcases hearly with rfl | rfl
  · exact Or.inr (Option.some.inj hfollowing).symm
  · cases hfollowing

/-- As long as the loop is not asked to stop, the host is early, and the others leave the state
of the link as it is. -/
theorem Step.others_before_stop (hstep : Step c p new q) (hmannered : Mannered p)
    (hearly : p.host.Early c.server.stopTimeout) (hgoing : q.stopAsked = false)
    (hnew : loopEvents new = []) :
    q.host.Early c.server.stopTimeout ∧ q.link.state = p.link.state := by
  cases hstep with
  | loopActs hacting heffect => simp [loopEvents, Event.loop?] at hnew
  | workerActs hacting heffect =>
      obtain ⟨hhost, -, -, -, hlink⟩ := workerEffect_others heffect
      refine ⟨(congrArg (HostStage.Early c.server.stopTimeout) hhost).mpr hearly, ?_⟩
      rcases hlink with hlink | ⟨event, hlink⟩ <;> exact (congrArg Link.state hlink :)
  | hostActs hacting heffect =>
      obtain rfl := hearly.acts hacting
      rw [heffect] at hgoing
      cases hgoing
  | hostGoesOn hstage => exact ⟨hearly.goesOn hstage, rfl⟩
  | remoteActs hacting heffect =>
      obtain ⟨-, rfl⟩ := heffect
      have hbehaves := hmannered.remote _ (List.mem_of_getElem? hacting)
      have hmay := ((Routine.obeys_ofActions_act _ _ _ _ _).mp hbehaves).1
      refine ⟨hearly, (Link.perform_state _ p.link).trans ?_⟩
      rename_i action _ _
      cases action with
      | look | call | count => rfl
      | move | halt | publish => exact hmay.elim
  | loopGoesOn | workerGoesOn | remoteBegins => exact ⟨hearly, rfl⟩

end Interleaved

namespace Clocked

open Interleaved (Event Mannered HostStage loopEvents)
open Poll (Timing.View)

variable {σ κ : Type} {c : Connector} {p q : Clocked σ κ} {log new : List (Nat × Event)}

/-! ## Keeping time -/

/-- What the loop's time depends on, in a run. -/
def timeView (log : List (Nat × Event)) (p : Clocked σ κ) : Timing.View where
  log := loopLog log
  since := p.since
  state := p.parties.link.state

/-- Every call of the session after a failure to connect was made just when it was due. -/
def Prompt (delay : Nat) (log : List (Nat × Poll.Event)) : Prop :=
  ∀ earlier time e, earlier ++ [(time, e)] <+: log → isCall e = true →
    ∀ since, failed? earlier = some since → time = since + delay

theorem Prompt.append_one {delay time : Nat} {log : List (Nat × Poll.Event)} {e : Poll.Event}
    (hprompt : Prompt delay log) (hlast : isCall e = true →
      ∀ since, failed? log = some since → time = since + delay) :
    Prompt delay (log ++ [(time, e)]) := by
  intro earlier time' e' hprefix
  rcases List.prefix_concat_iff.mp hprefix with hwhole | hbefore
  · obtain ⟨rfl, hentry⟩ := List.append_inj' hwhole rfl
    cases hentry
    exact hlast
  · exact hprompt earlier time' e' hbefore

/-- The loop keeps time: what is left of it obeys the rules for it, and what it has done was
prompt. -/
structure KeepsTime (c : Connector) (log : List (Nat × Event)) (p : Clocked σ κ) : Prop where
  loop : p.parties.loop.Obeys (Poll.Timing.rules c.pollSettings) (Between c.pollSettings)
    (fun _ => False) (timeView log p)
  prompt : Prompt c.server.reconnectDelay (loopLog log)
  host : p.parties.host.Early c.server.stopTimeout

theorem keepsTime_start (htick : 0 < c.server.idleTick) (session : σ) (sink : κ) :
    KeepsTime c [] (start c session sink) where
  loop := Poll.Timing.obeys_turn htick ⟨0, rfl, Or.inl (Poll.Timing.Closed.apart ⟨rfl, rfl, rfl⟩)⟩
  prompt earlier time e hprefix := by simp [loopLog] at hprefix
  host := Or.inl rfl

/-- What is done until the clock shows is in time. -/
theorem KeepsTime.inTime (hp : KeepsTime c log p) (htime : p.OnTime) :
    InTime c.pollSettings (loopLog log) p.clock := by
  have hloop := hp.loop
  cases hacting : p.parties.loop.acting? with
  | some acting =>
      obtain ⟨action, next⟩ := acting
      exact ((hloop.acts hacting rfl).1 p.clock (htime.acting action next hacting)).1
  | none =>
      have hdone := htime.done hacting
      cases hstage : p.parties.loop with
      | ended =>
          rw [hstage] at hloop
          exact hloop.elim
      | turn rest =>
          cases rest with
          | act action next => simp [hstage, Running.LoopStage.acting?] at hacting
          | done result =>
              rw [hstage] at hloop hdone
              rw [hdone rfl]
              exact Between.inTime hloop
      | finish rest =>
          cases rest with
          | act action next => simp [hstage, Running.LoopStage.acting?] at hacting
          | done result =>
              rw [hstage] at hloop
              exact hloop.elim

section Runs

variable [TagSession σ] [RecordSink κ]

/-- Who was asked to stop stays so. -/
theorem Step.stopAsked (hstep : Step c p new q) (hasked : p.parties.stopAsked = true) :
    q.parties.stopAsked = true := by
  cases hstep with
  | loopActs hacting heffect _ =>
      exact (Interleaved.Step.loopActs hacting heffect).stopAsked hasked
  | others hstep _ => exact hstep.stopAsked hasked
  | passes _ _ => exact hasked

/-- Whoever takes a step, and however long the loop is busy, it keeps time. -/
theorem KeepsTime.step (htick : 0 < c.server.idleTick) (hp : KeepsTime c log p)
    (hmannered : Mannered p.parties) (htime : p.OnTime)
    (hworker : p.parties.worker.hasEnded = true → p.parties.stopAsked = true)
    (hstep : Step c p new q) (hgoing : q.parties.stopAsked = false) :
    KeepsTime c (log ++ new) q := by
  cases hstep with
  | @loopActs action next answer r hacting heffect htells =>
      have hlog : loopLog (log ++ [(p.clock, .loop ⟨action, answer⟩)]) =
          loopLog log ++ [(p.clock, ⟨action, answer⟩)] :=
        loopLog_append log _
      have hlasts := htime.acting action next hacting
      obtain ⟨hmay, hnext⟩ := hp.loop.acts hacting rfl
      obtain ⟨hstate, hreported⟩ := Interleaved.state_of_loopEffect heffect
      obtain ⟨hhost, -, -, hsame, -⟩ := Interleaved.loopEffect_others heffect
      have hgoesOn : wasStopped ⟨action, answer⟩ = false := by
        by_contra hstopped
        have hasked : p.parties.stopAsked = true :=
          (Interleaved.stopAsked_of_wasStopped heffect (by simpa using hstopped)).elim id hworker
        rw [← hsame, hgoing] at hasked
        cases hasked
      constructor
      case loop =>
        refine hnext answer _ ⟨p.clock, hlasts, htells, hgoesOn, hreported, ?_⟩
        rw [timeView, hlog]
        exact congrArg (Timing.View.mk _ _) hstate
      case prompt =>
        rw [hlog]
        exact hp.prompt.append_one fun hcall =>
          (hmay p.clock hlasts).2 (Poll.Timing.isCall_of_event hcall)
      case host => exact (congrArg (HostStage.Early _) hhost).mpr hp.host
  | @others events r hstep hnew =>
      have hlog : loopLog (log ++ events.map fun event => (p.clock, event)) = loopLog log := by
        rw [loopLog_append, loopLog_of_others hnew, List.append_nil]
      obtain ⟨hhost, hstate⟩ := hstep.others_before_stop hmannered hp.host hgoing hnew
      have hview : timeView (log ++ events.map fun event => (p.clock, event))
          { p with parties := r } = timeView log p := by
        rw [timeView, hlog]
        exact congrArg (Timing.View.mk _ _) hstate
      constructor
      case loop =>
        rw [hview]
        rcases loop_of_others hstep hmannered hnew with hloop | ⟨stage, hstage, hloop⟩
        · rw [hloop]
          exact hp.loop
        · rw [hloop]
          exact hp.loop.goesOn hstage (fun _ => Poll.Timing.obeys_turn htick)
            (by rintro ⟨_, ⟨⟩, _⟩)
      case prompt =>
        rw [hlog]
        exact hp.prompt
      case host => exact hhost
  | passes _ hwaits =>
      rw [List.append_nil]
      exact ⟨hp.loop, hp.prompt, hp.host⟩

theorem keepsTime_of_run (htick : 0 < c.server.idleTick) {session : σ} {sink : κ}
    (hrun : Run c (start c session sink) log p) (hgoing : p.parties.stopAsked = false) :
    KeepsTime c log p := by
  induction hrun with
  | refl => exact keepsTime_start htick session sink
  | @tail log new p q hrun hstep ih =>
      have hbefore : p.parties.stopAsked = false := by
        by_contra hasked
        rw [Bool.not_eq_false] at hasked
        rw [hstep.stopAsked hasked] at hgoing
        cases hgoing
      have hmannered := (Interleaved.mannered_start c session sink).run hrun.parties
      have haccounts := Interleaved.accounts_of_run hrun.parties
      exact (ih hbefore).step htick hmannered (onTime_of_run hrun)
        haccounts.stopAsked_of_worker_ended hstep hgoing

/-! ## The schedule -/

omit [TagSession σ] [RecordSink κ] in
theorem idleTick_pos {server : Config.Server} (hvalid : server.violations = []) :
    0 < server.idleTick :=
  Nat.pos_of_ne_zero (server.violations_eq_nil_iff.mp hvalid).idleTick

/-- What the log since the session was connected, at `first`, tells of the cycles: each starts
as soon as the one before it has ended and the period is over, and the first one at once. -/
structure KeptSchedule (server : Config.Server) (first : Nat) (log : List (Nat × Poll.Event))
    (clock : Nat) : Prop where
  onSchedule : OnSchedule server.pollPeriod first clock (Spell.of first log).starts
    (Spell.of first log).ends
  apart : ∀ k start next, (Spell.of first log).starts[k]? = some start →
    (Spell.of first log).starts[k + 1]? = some next → start + server.pollPeriod ≤ next
  /-- The starts follow from the lengths of the cycles. -/
  determined : ∀ length : Nat → Nat,
    (∀ k start stop, (Spell.of first log).starts[k]? = some start →
      (Spell.of first log).ends[k]? = some stop → stop = start + length k) →
    ∀ k start, (Spell.of first log).starts[k]? = some start →
      start = cycleStart first server.pollPeriod length k
  /-- No pause is over at once. -/
  pauses : first + (Spell.of first log).pauses ≤ clock

/-- What the log since connecting the session has failed tells of the session: it is called
again just when the delay is over. -/
structure KeptDelay (server : Config.Server) (failed : Nat) (log : List (Nat × Poll.Event))
    (clock : Nat) : Prop where
  next : ∀ before time e after, log = before ++ (time, e) :: after →
    (∀ entry ∈ before, isCall entry.2 = false) → isCall e = true →
    time = failed + server.reconnectDelay
  notBeyond : (∀ entry ∈ log, isCall entry.2 = false) → clock ≤ failed + server.reconnectDelay

/-- As long as nobody has asked the loop to stop, the cycles of a session that was connected
and not lost since are on schedule, and a session that could not be connected is left alone
for just as long as it was told.  How long the loop pauses in between makes no difference. -/
theorem schedule_of_run (hvalid : c.server.violations = []) {session : σ} {sink : κ}
    (hrun : Run c (start c session sink) log p) (hgoing : p.parties.stopAsked = false) :
    (∀ earlier first target rest,
      loopLog log = earlier ++ (first, ⟨.link (.call (.connect target)), .ok ()⟩) :: rest →
      (∀ entry ∈ rest, endsSpell entry.2 = false) →
      KeptSchedule c.server first rest p.clock) ∧
    ∀ earlier failed target cause rest,
      loopLog log = earlier ++ (failed, ⟨.link (.call (.connect target)), .error cause⟩) :: rest →
      KeptDelay c.server failed rest p.clock := by
  have hkeeps := keepsTime_of_run (idleTick_pos hvalid) hrun hgoing
  have hin := hkeeps.inTime (onTime_of_run hrun)
  constructor
  · intro earlier first target rest hlog hrest
    have hspell : spell? (loopLog log) = some (.of first rest) := by
      rw [hlog]
      exact Poll.spell?_of_connected earlier first target hrest
    obtain ⟨hschedule, hpauses⟩ := hin.spell _ hspell
    rw [Spell.first_of] at hschedule hpauses
    exact ⟨hschedule, fun _ _ _ => hschedule.apart, fun _ hlength _ _ => hschedule.start_eq hlength,
      hpauses⟩
  · intro earlier failed target cause rest hlog
    constructor
    · rintro before time e after rfl hbefore hcall
      refine hkeeps.prompt _ time e ?_ hcall failed
        (Poll.failed?_of_failed earlier failed target cause hbefore)
      rw [hlog]
      exact ⟨after, by simp⟩
    · intro hnone
      refine hin.failed failed ?_
      rw [hlog]
      exact Poll.failed?_of_failed earlier failed target cause hnone

omit [TagSession σ] [RecordSink κ] in
theorem map_snd_loopLog (log : List (Nat × Event)) :
    (loopLog log).map Prod.snd = loopEvents (log.map Prod.snd) := by
  rw [loopLog, loopEvents, List.map_filterMap, List.filterMap_map]
  congr 1
  funext entry
  rw [Option.map_map]
  exact Option.map_id'

theorem exists_entry {entries : List (Nat × Poll.Event)} {index : Nat} {e : Poll.Event}
    (he : (entries.map Prod.snd)[index]? = some e) :
    ∃ earlier time rest, entries = earlier ++ (time, e) :: rest ∧
      rest.map Prod.snd = (entries.map Prod.snd).drop (index + 1) := by
  rw [List.getElem?_map] at he
  obtain ⟨⟨time, _⟩, hentry, rfl⟩ := Option.map_eq_some_iff.mp he
  obtain ⟨hindex, hentry⟩ := List.getElem?_eq_some_iff.mp hentry
  refine ⟨entries.take index, time, entries.drop (index + 1), ?_, List.map_drop⟩
  rw [← hentry, List.getElem_cons_drop, List.take_append_drop]

/-- A connector whose times are short. -/
def kiln : Connector :=
  { Running.boilers ["kiln"] with
    server := { pollPeriod := 5, idleTick := 3, reconnectDelay := 3 } }

/-- What is done in some time where the server refuses the first connection. -/
def kilnEvents : List Event :=
  ((Running.start kiln ((Memory.failConnects {} 1).delayReads 1) ({} : Mailbox) 0).runLog
    (Host.act (.rest 21))).getD []

/-- The second attempt to connect succeeds, and four cycles are over. -/
theorem schedule_of_run_of_kiln :
    ∃ log p, Run kiln (start kiln ((Memory.failConnects {} 1).delayReads 1) ({} : Mailbox)) log p ∧
      p.parties.stopAsked = false ∧ p.clock = 21 ∧
      (∃ earlier failed target cause rest,
        loopLog log =
          earlier ++ (failed, ⟨.link (.call (.connect target)), .error cause⟩) :: rest ∧
        KeptDelay kiln.server failed rest p.clock) ∧
      ∃ earlier first target rest,
        loopLog log = earlier ++ (first, ⟨.link (.call (.connect target)), .ok ()⟩) :: rest ∧
        (rest.map Prod.snd).countP Poll.countsCycle = 4 ∧
        KeptSchedule kiln.server first rest p.clock := by
  have hlog : (Running.start kiln ((Memory.failConnects {} 1).delayReads 1)
      ({} : Mailbox) 0).runLog (Host.act (.rest 21)) = some kilnEvents := by rfl
  obtain ⟨log, since, hrun, hevents⟩ := Running.clocked_run Running.onlyReadsLast_memory hlog
  rw [← map_snd_loopLog] at hevents
  have hfails : (loopEvents kilnEvents)[6]? = some ⟨.link (.call (.connect
      ⟨"Matrikon.OPC.Simulation.1", "localhost"⟩)), .error (.connectFailed
        "Matrikon.OPC.Simulation.1" "localhost" "server unavailable")⟩ := by rfl
  have hopens : (loopEvents kilnEvents)[15]? = some ⟨.link (.call (.connect
      ⟨"Matrikon.OPC.Simulation.1", "localhost"⟩)), .ok ()⟩ := by rfl
  have hkept : ∀ e ∈ (loopEvents kilnEvents).drop 16, endsSpell e = false := by decide +kernel
  rw [← hevents] at hfails hopens hkept
  obtain ⟨hcycles, hdelay⟩ := schedule_of_run (by rfl) hrun (by rfl)
  obtain ⟨earlier, failed, rest, hsplit, -⟩ := exists_entry hfails
  obtain ⟨earlier', first, rest', hsplit', hrest⟩ := exists_entry hopens
  refine ⟨log, _, hrun, rfl, rfl, ⟨earlier, failed, _, _, rest, hsplit,
    hdelay _ _ _ _ _ hsplit⟩, earlier', first, _, rest', hsplit', ?_,
    hcycles _ _ _ _ hsplit' ?_⟩
  · rw [hrest, hevents]
    decide +kernel
  · intro entry hentry
    exact hkept entry.2 (hrest ▸ List.mem_map_of_mem hentry)

end Runs

end Clocked

end TagRelay
