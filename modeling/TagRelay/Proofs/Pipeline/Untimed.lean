import TagRelay.Proofs.Pipeline.Interleaved
import TagRelay.Session.Memory

/-!
# Running connectors without time

The scheduler of a running connector chooses one order of the parties' actions, with a
clock, waiting times and a line before the session.  Without these, everything that it
does is a run of interleaved steps.  So what holds of all such runs holds of every
running connector.
-/

namespace TagRelay.Running

open Interleaved (HostStage Run Step linkEffect loopEffect workerEffect hostEffect)

variable {σ κ β : Type}

/-- A running connector without its clock and without the line before the session. -/
def untimed (r : Running σ κ) (host : HostStage) (remote : List (Link.Program Unit)) :
    Interleaved σ κ where
  link := r.link
  sink := r.sink
  stopAsked := r.stopAsked
  queue := r.queue
  loop := r.loop
  worker := r.worker
  host := host
  remote := remote

/-! ## Attempts -/

/-- Nothing has changed but the time and the line before the session. -/
structure Unmoved (r after : Running σ κ) : Prop where
  connector : after.connector = r.connector
  untimed : ∀ host remote, after.untimed host remote = r.untimed host remote

/-- An attempt has the effect that goes with its answer, or none at all if it waits. -/
def Attempt.Follows (r : Running σ κ) (effect : β → Interleaved σ κ → Interleaved σ κ → Prop) :
    Attempt σ κ β → Prop
  | .answered answer after => after.connector = r.connector ∧
      ∀ host remote, effect answer (r.untimed host remote) (after.untimed host remote)
  | .waits _ after => Unmoved r after

theorem Unmoved.refl (r : Running σ κ) : Unmoved r r := ⟨rfl, fun _ _ => rfl⟩

theorem release_unmoved (r : Running σ κ) : Unmoved r r.release := by
  rw [release]
  split <;> exact ⟨rfl, fun _ _ => rfl⟩

theorem leave_unmoved (r : Running σ κ) (user : User) : Unmoved r (r.leave user) := by
  rw [leave]
  split
  · exact release_unmoved r
  · exact ⟨rfl, fun _ _ => rfl⟩

section Sessions

variable [TagSession σ] (r : Running σ κ)

theorem completeCall_follows (c : Session.Call) :
    (r.completeCall c).Follows r (linkEffect (.call c)) := by
  have hrelease := release_unmoved { r with link := (r.link.call c).2 }
  refine ⟨hrelease.connector, fun host remote => ⟨rfl, ?_⟩⟩
  exact hrelease.untimed host remote

theorem beginCall_follows (user : User) (c : Session.Call) :
    (r.beginCall user c).Follows r (linkEffect (.call c)) := by
  rw [beginCall]
  dsimp only
  split
  · exact completeCall_follows { r with user := some user } c
  · exact ⟨rfl, fun _ _ => rfl⟩

theorem tryCall_follows (user : User) (progress : Progress) (c : Session.Call) :
    (r.tryCall user progress c).Follows r (linkEffect (.call c)) := by
  unfold tryCall
  cases progress with
  | fresh =>
      dsimp only
      split
      · exact beginCall_follows r user c
      · exact ⟨rfl, fun _ _ => rfl⟩
  | queued =>
      dsimp only
      split
      · exact beginCall_follows r user c
      · exact Unmoved.refl r
  | «until» time =>
      dsimp only
      split
      · exact completeCall_follows r c
      · exact Unmoved.refl r

theorem tryLink_follows (user : User) (progress : Progress) (action : Link.Action) :
    (r.tryLink user progress action).Follows r (linkEffect action) := by
  cases action with
  | call c => exact tryCall_follows r user progress c
  | look | move | halt | publish | count => exact ⟨rfl, fun _ _ => ⟨rfl, rfl⟩⟩

theorem tryPoll_follows (action : Poll.Action) :
    (r.tryPoll action).Follows r (loopEffect r.connector action) := by
  cases action with
  | link action => exact tryLink_follows r .loop r.loopProgress action
  | now | wallClock => exact ⟨rfl, fun _ _ => rfl⟩
  | stopAsked => exact ⟨rfl, fun _ _ => ⟨rfl, rfl⟩⟩
  | pause millis =>
      change (r.tryPause r.loopProgress millis).Follows r _
      unfold tryPause
      extract_lets time
      split
      · rename_i hstop
        exact ⟨rfl, fun _ _ => ⟨fun _ => hstop, rfl⟩⟩
      · split
        · exact ⟨rfl, fun _ _ => ⟨by simp, rfl⟩⟩
        · exact Unmoved.refl r
  | deliver reply =>
      simp only [tryPoll, tryDeliver]
      split
      · rename_i hgiven
        exact ⟨rfl, fun _ _ => ⟨hgiven, rfl⟩⟩
      · rename_i hgoesOn
        split
        · rename_i hroom
          have hworker : r.worker.hasEnded = false := by
            simpa using fun hended => hgoesOn (Or.inr hended)
          exact ⟨rfl, fun _ _ => ⟨hroom, hworker, rfl⟩⟩
        · exact Unmoved.refl r

omit [TagSession σ] in
theorem tryWorker_follows [RecordSink κ] (action : Worker.Action) :
    (r.tryWorker action).Follows r (workerEffect r.connector action) := by
  cases action with
  | receive =>
      simp only [tryWorker, tryReceive]
      split
      · rename_i hstop
        exact ⟨rfl, fun _ _ => ⟨Or.inl hstop, rfl⟩⟩
      · split
        · rename_i hqueue
          exact ⟨rfl, fun _ _ => ⟨hqueue, rfl⟩⟩
        · rename_i hqueue
          split
          · rename_i hended
            exact ⟨rfl, fun _ _ => ⟨Or.inr ⟨hqueue, hended⟩, rfl⟩⟩
          · exact Unmoved.refl r
  | count event => exact ⟨rfl, fun _ _ => rfl⟩
  | send record => exact ⟨rfl, fun _ _ => ⟨rfl, rfl⟩⟩

theorem tryHost_follows (progress : Progress) (action : Host.Action) :
    (r.tryHost progress action).Follows r (hostEffect action) := by
  cases action with
  | link action => exact tryLink_follows r .host progress action
  | now | signalStop => exact ⟨rfl, fun _ _ => rfl⟩
  | rest millis =>
      change (r.tryRest progress millis).Follows r _
      unfold tryRest
      extract_lets time
      split
      · exact ⟨rfl, fun _ _ => rfl⟩
      · exact Unmoved.refl r
  | join deadline =>
      simp only [tryHost, tryJoin]
      split
      · rename_i hended
        exact ⟨rfl, fun _ _ => ⟨fun _ => hended, rfl⟩⟩
      · split
        · exact ⟨rfl, fun _ _ => ⟨by simp, rfl⟩⟩
        · exact Unmoved.refl r
  | closeBefore deadline =>
      have hfollows := tryCall_follows r .host progress .close
      simp only [tryHost, tryClose]
      split
      · rename_i hattempt
        rw [hattempt] at hfollows
        exact ⟨hfollows.1, fun host remote => (hfollows.2 host remote).2⟩
      · rename_i progress after hattempt
        rw [hattempt] at hfollows
        split
        · have hleave := leave_unmoved after .host
          refine ⟨hleave.connector.trans hfollows.connector, fun host remote => ?_⟩
          exact (hleave.untimed host remote).trans (hfollows.untimed host remote)
        · exact hfollows

end Sessions

/-! ## The loop and the worker -/

section Tasks

variable [TagSession σ] [RecordSink κ] {r after later : Running σ κ}

/-- A run leads from one to the other, wherever the host is and whatever calls there are. -/
structure Leads (r after : Running σ κ) : Prop where
  connector : after.connector = r.connector
  run : ∀ host remote, ∃ events,
    Run r.connector (r.untimed host remote) events (after.untimed host remote)

theorem Unmoved.leads (hunmoved : Unmoved r after) : Leads r after where
  connector := hunmoved.connector
  run host remote := ⟨[], by rw [hunmoved.untimed]; exact .refl⟩

theorem Leads.trans (hleads : Leads r after) (hlater : Leads after later) : Leads r later where
  connector := hlater.connector.trans hleads.connector
  run host remote := by
    obtain ⟨events, hrun⟩ := hleads.run host remote
    obtain ⟨events', hrun'⟩ := hlater.run host remote
    rw [hleads.connector] at hrun'
    exact ⟨events ++ events', hrun.trans hrun'⟩

theorem leads_of_step (hconnector : after.connector = r.connector)
    (hstep : ∀ host remote, ∃ new,
      Step r.connector (r.untimed host remote) new (after.untimed host remote)) :
    Leads r after where
  connector := hconnector
  run host remote := by
    obtain ⟨new, hstep⟩ := hstep host remote
    exact ⟨[] ++ new, .tail .refl hstep⟩

theorem stepPoll_leads {action : Poll.Action} {next : action.Answer → LoopStage}
    (hacting : r.loop.acting? = some ⟨action, next⟩)
    (hstep : r.stepPoll action next = some after) : Leads r after := by
  have hfollows := tryPoll_follows r action
  unfold stepPoll at hstep
  cases hattempt : r.tryPoll action with
  | answered answer answered =>
      rw [hattempt] at hstep hfollows
      obtain ⟨hconnector, heffect⟩ := hfollows
      obtain rfl := Option.some.inj hstep
      exact leads_of_step hconnector fun host remote =>
        ⟨_, Step.loopActs hacting (heffect host remote)⟩
  | waits progress waiting =>
      rw [hattempt] at hstep hfollows
      dsimp only at hstep
      split at hstep
      · simp at hstep
      · obtain rfl := Option.some.inj hstep
        exact Unmoved.leads ⟨hfollows.connector, hfollows.untimed⟩

/-- What the scheduler does for the loop is a step of it, or nothing but waiting. -/
theorem stepLoop_leads (hstep : r.stepLoop = some after) : Leads r after := by
  unfold stepLoop at hstep
  split at hstep
  · simp at hstep
  · rename_i hloop
    exact stepPoll_leads (by rw [hloop]; rfl) hstep
  · rename_i hloop
    obtain rfl := Option.some.inj hstep
    exact leads_of_step rfl fun host remote => ⟨[], Step.loopGoesOn (by simp [untimed, hloop]; rfl)⟩
  · rename_i hloop
    obtain rfl := Option.some.inj hstep
    exact leads_of_step rfl fun host remote => ⟨[], Step.loopGoesOn (by simp [untimed, hloop]; rfl)⟩
  · rename_i hloop
    exact stepPoll_leads (by rw [hloop]; rfl) hstep
  · rename_i hloop
    obtain rfl := Option.some.inj hstep
    exact leads_of_step rfl fun host remote => ⟨[], Step.loopGoesOn (by simp [untimed, hloop]; rfl)⟩

theorem stepWorker_leads (hstep : r.stepWorker = some after) : Leads r after := by
  unfold stepWorker at hstep
  split at hstep
  · simp at hstep
  · rename_i action next hworker
    have hfollows := tryWorker_follows r action
    cases hattempt : r.tryWorker action with
    | answered answer answered =>
        rw [hattempt] at hstep hfollows
        obtain ⟨hconnector, heffect⟩ := hfollows
        obtain rfl := Option.some.inj hstep
        exact leads_of_step hconnector fun host remote =>
          ⟨_, Step.workerActs (by simp [untimed, hworker]; rfl) (heffect host remote)⟩
    | waits progress waiting => simp [hattempt] at hstep
  · rename_i hworker
    obtain rfl := Option.some.inj hstep
    exact leads_of_step rfl fun host remote =>
      ⟨[], Step.workerGoesOn (by simp [untimed, hworker]; rfl)⟩
  · rename_i hworker
    obtain rfl := Option.some.inj hstep
    exact leads_of_step rfl fun host remote =>
      ⟨[], Step.workerGoesOn (by simp [untimed, hworker]; rfl)⟩

theorem settle_leads (bound : Nat) (r : Running σ κ) : Leads r (r.settle bound) := by
  induction bound generalizing r with
  | zero => exact (Unmoved.refl r).leads
  | succ bound ih =>
      rw [settle]
      split
      · rename_i after hstep
        exact (stepLoop_leads hstep).trans (ih after)
      · split
        · rename_i after hstep
          exact (stepWorker_leads hstep).trans (ih after)
        · exact (Unmoved.refl r).leads

end Tasks

/-! ## The host -/

section Host

variable [TagSession σ] [RecordSink κ] {α : Type}

/-- Where what is left of a routine of the host stands in a run: a place that is kept up
with every answer. -/
def KeepsUp (stands : Host.Program α → HostStage → List (Link.Program Unit) → Prop) : Prop :=
  ∀ action next host remote, stands (.act action next) host remote →
    ∀ answer (r after : Running σ κ),
      (∀ host remote, hostEffect action answer (r.untimed host remote)
        (after.untimed host remote)) →
      ∃ events host' remote', stands (next answer) host' remote' ∧
        Run r.connector (r.untimed host remote) events (after.untimed host' remote')

variable {stands : Host.Program α → HostStage → List (Link.Program Unit) → Prop}

/-- What a routine of the host leads to, when it stands somewhere. -/
def Ends (stands : Host.Program α → HostStage → List (Link.Program Unit) → Prop)
    (host : HostStage) (remote : List (Link.Program Unit)) (r : Running σ κ)
    (ended : Option α × Running σ κ) : Prop :=
  ended.2.connector = r.connector ∧ ∃ events host' remote' rest, stands rest host' remote' ∧
    Run r.connector (r.untimed host remote) events (ended.2.untimed host' remote') ∧
    ∀ result, ended.1 = some result → rest = .done result

theorem Leads.ends {host : HostStage} {remote : List (Link.Program Unit)} {r after : Running σ κ}
    {ended : Option α × Running σ κ} (hleads : Leads r after)
    (hends : Ends stands host remote after ended) : Ends stands host remote r ended := by
  obtain ⟨hconnector, events', host', remote', rest, hstands, hrun', hrest⟩ := hends
  obtain ⟨events, hrun⟩ := hleads.run host remote
  rw [hleads.connector] at hrun' hconnector
  exact ⟨hconnector, events ++ events', host', remote', rest, hstands, hrun.trans hrun', hrest⟩

theorem ends_of_answered (hkeeps : KeepsUp (σ := σ) (κ := κ) stands) {host : HostStage}
    {remote : List (Link.Program Unit)} {action : Host.Action}
    {next : action.Answer → Host.Program α} {answer : action.Answer} {progress : Progress}
    {r after : Running σ κ} {ended : Option α × Running σ κ}
    (hstands : stands (.act action next) host remote)
    (hattempt : r.tryHost progress action = .answered answer after)
    (hends : ∀ host' remote', stands (next answer) host' remote' →
      Ends stands host' remote' after ended) : Ends stands host remote r ended := by
  have hfollows := tryHost_follows r progress action
  rw [hattempt] at hfollows
  obtain ⟨hconnector, heffect⟩ := hfollows
  obtain ⟨events, host', remote', hstands', hrun⟩ :=
    hkeeps action next host remote hstands answer r after heffect
  obtain ⟨hconnector', events', host'', remote'', rest, hstands'', hrun', hrest⟩ :=
    hends host' remote' hstands'
  rw [hconnector] at hconnector' hrun'
  exact ⟨hconnector', events ++ events', host'', remote'', rest, hstands'', hrun.trans hrun', hrest⟩

/-- While the host performs a routine, everything that happens is a run. -/
theorem host_ends (hkeeps : KeepsUp (σ := σ) (κ := κ) stands) (bound : Nat)
    (program : Host.Program α) (progress : Progress) (r : Running σ κ) (host : HostStage)
    (remote : List (Link.Program Unit)) (hstands : stands program host remote) :
    Ends stands host remote r (Running.host bound program progress r) := by
  induction bound generalizing program progress r host remote with
  | zero => exact ⟨rfl, [], host, remote, program, hstands, .refl, by simp [Running.host]⟩
  | succ bound ih =>
      cases program with
      | done result =>
          refine ⟨rfl, [], host, remote, .done result, hstands, .refl, ?_⟩
          simp [Running.host]
      | act action next =>
          rw [Running.host]
          cases hattempt : r.tryHost progress action with
          | answered answer after =>
              exact ends_of_answered hkeeps hstands hattempt (ih (next answer) .fresh after)
          | waits progress' after =>
              have hunmoved := tryHost_follows r progress action
              rw [hattempt] at hunmoved
              refine (hunmoved.leads.trans (settle_leads settleBound after)).ends ?_
              dsimp only
              cases hattempt' : (after.settle settleBound).tryHost progress' action with
              | answered answer after' =>
                  exact ends_of_answered hkeeps hstands hattempt' (ih (next answer) .fresh after')
              | waits progress'' after' =>
                  have hunmoved' := tryHost_follows (after.settle settleBound) progress' action
                  rw [hattempt'] at hunmoved'
                  refine hunmoved'.leads.ends ?_
                  dsimp only
                  split
                  · rename_i later hpass
                    obtain ⟨time, -, rfl⟩ := Option.map_eq_some_iff.mp hpass
                    exact ih (.act action next) progress'' { after' with clock := time } host
                      remote hstands
                  · exact ⟨rfl, [], host, remote, .act action next, hstands, .refl, by simp⟩

end Host

/-! ## Operations -/

/-- What may be asked of a running connector, apart from shutting it down. -/
inductive Operation where
  | advance (millis : Nat)
  | answer (request : Remote.Request)
  | update (u : Remote.Update)

section Operations

variable [TagSession σ] [RecordSink κ]

def operate (r : Running σ κ) : Operation → Running σ κ
  | .advance millis => r.advance millis
  | .answer request => (r.answer request).2
  | .update u => (r.update u).2

/-- What is left of a routine that only lets time pass stands nowhere. -/
def standsAside (host : HostStage) (remote : List (Link.Program Unit))
    (program : Host.Program Unit) (host' : HostStage) (remote' : List (Link.Program Unit)) :
    Prop :=
  host' = host ∧ remote' = remote ∧
    Routine.Only (fun action => ∃ millis, action = .rest millis) program

theorem standsAside_keepsUp (host : HostStage) (remote : List (Link.Program Unit)) :
    KeepsUp (σ := σ) (κ := κ) (standsAside host remote) := by
  rintro action next host remote ⟨rfl, rfl, hobeys⟩ answer r after heffect
  obtain ⟨⟨millis, rfl⟩, hnext⟩ := (Routine.obeys_ofActions_act _ _ _ _ _).mp hobeys
  have hsame : after.untimed host remote = r.untimed host remote := heffect host remote
  exact ⟨[], host, remote, ⟨rfl, rfl, hnext answer⟩, by rw [hsame]; exact .refl⟩

/-- What is left of a call from the platform stands last among the calls. -/
def standsLast {α : Type} (host : HostStage) (remote : List (Link.Program Unit))
    (program : Host.Program α) (host' : HostStage) (remote' : List (Link.Program Unit)) : Prop :=
  host' = host ∧ ∃ routine : Link.Program α, program = Host.onLink routine ∧
    remote' = remote ++ [do let _ ← routine]

theorem standsLast_keepsUp {α : Type} (host : HostStage) (remote : List (Link.Program Unit)) :
    KeepsUp (σ := σ) (κ := κ) (standsLast (α := α) host remote) := by
  rintro action next host _ ⟨rfl, routine, hprogram, rfl⟩ answer r after heffect
  cases routine with
  | done result => simp [Routine.through] at hprogram
  | act action' next' =>
      simp only [Routine.through, Routine.act.injEq] at hprogram
      obtain ⟨rfl, hnext⟩ := hprogram
      obtain rfl := eq_of_heq hnext
      have hacting : (remote ++ [do let _ ← Routine.act action' next'])[remote.length]? =
          some (.act action' fun answer => do let _ ← next' answer) := by
        rw [List.getElem?_concat_length]
        rfl
      have hset : (remote ++ [do let _ ← Routine.act action' next']).set remote.length
          (do let _ ← next' answer) = remote ++ [do let _ ← next' answer] := by
        simp
      have hstep : Step r.connector
          (r.untimed host (remote ++ [do let _ ← Routine.act action' next']))
          [.remote ⟨action', answer⟩]
          (after.untimed host (remote ++ [do let _ ← next' answer])) := by
        rw [← hset]
        exact Step.remoteActs hacting (heffect host _)
      exact ⟨_, host, _, ⟨rfl, next' answer, rfl, rfl⟩, .tail .refl hstep⟩

/-- Shutting down is what the host of a run does. -/
def standsAsHost (remote : List (Link.Program Unit)) (program : Host.Program Bool)
    (host' : HostStage) (remote' : List (Link.Program Unit)) : Prop :=
  host' = .turn program ∧ remote' = remote

theorem standsAsHost_keepsUp (remote : List (Link.Program Unit)) :
    KeepsUp (σ := σ) (κ := κ) (standsAsHost remote) := by
  rintro action next _ remote ⟨rfl, rfl⟩ answer r after heffect
  have hacting : (r.untimed (.turn (.act action next)) remote).host.acting? =
      some ⟨action, fun answer => .turn (next answer)⟩ := rfl
  have hstep := Step.hostActs (c := r.connector) hacting (heffect _ remote)
  exact ⟨_, .turn (next answer), remote, ⟨rfl, rfl⟩, .tail .refl hstep⟩

/-- Whatever is asked of a running connector, what it does is a run. -/
theorem operate_run (r : Running σ κ) (op : Operation) (host : HostStage)
    (remote : List (Link.Program Unit)) :
    (r.operate op).connector = r.connector ∧ ∃ events remote',
      Run r.connector (r.untimed host remote) events ((r.operate op).untimed host remote') := by
  cases op with
  | advance millis =>
      have hstands : standsAside host remote (Host.act (.rest millis)) host remote :=
        ⟨rfl, rfl, Routine.only_perform ⟨millis, rfl⟩⟩
      obtain ⟨hconnector, events, _, _, rest, ⟨rfl, rfl, -⟩, hrun, -⟩ :=
        host_ends (standsAside_keepsUp host remote) hostBound _ .fresh r host remote hstands
      exact ⟨hconnector, events, _, hrun⟩
  | answer request =>
      have hbegins : Step r.connector (r.untimed host remote) [] (r.untimed host
          (remote ++ [do let _ ← r.connector.passThrough.answer request])) :=
        Step.remoteBegins (.answer request)
      obtain ⟨hconnector, events, _, remote', rest, ⟨rfl, -⟩, hrun, -⟩ :=
        host_ends (standsLast_keepsUp host remote) hostBound _ .fresh r host _
          ⟨rfl, r.connector.passThrough.answer request, rfl, rfl⟩
      exact ⟨hconnector, [] ++ [] ++ events, remote', (Run.refl.tail hbegins).trans hrun⟩
  | update u =>
      have hbegins : Step r.connector (r.untimed host remote) [] (r.untimed host
          (remote ++ [do let _ ← r.connector.passThrough.update u])) :=
        Step.remoteBegins (.update u)
      obtain ⟨hconnector, events, _, remote', rest, ⟨rfl, -⟩, hrun, -⟩ :=
        host_ends (standsLast_keepsUp host remote) hostBound _ .fresh r host _
          ⟨rfl, r.connector.passThrough.update u, rfl, rfl⟩
      exact ⟨hconnector, [] ++ [] ++ events, remote', (Run.refl.tail hbegins).trans hrun⟩

theorem operate_run_of_list (ops : List Operation) (r : Running σ κ) (host : HostStage)
    (remote : List (Link.Program Unit)) :
    (ops.foldl operate r).connector = r.connector ∧ ∃ events remote',
      Run r.connector (r.untimed host remote) events
        ((ops.foldl operate r).untimed host remote') := by
  induction ops generalizing r remote with
  | nil => exact ⟨rfl, [], remote, .refl⟩
  | cons op ops ih =>
      obtain ⟨hconnector, events, remote', hrun⟩ := operate_run r op host remote
      obtain ⟨hconnector', events', remote'', hrun'⟩ := ih (r.operate op) remote'
      rw [hconnector] at hconnector' hrun'
      exact ⟨hconnector', events ++ events', remote'', hrun.trans hrun'⟩

/-- Whatever has been asked of a connector since it was started, it stands where a run
has led. -/
theorem exists_run (c : Connector) (session : σ) (sink : κ) (epoch : Int)
    (ops : List Operation) :
    ∃ events remote, Run c (Interleaved.start c session sink) events
      ((ops.foldl operate (start c session sink epoch)).untimed .away remote) :=
  (operate_run_of_list ops (start c session sink epoch) .away []).2

theorem shutdown_run (r : Running σ κ) (remote : List (Link.Program Unit)) :
    r.shutdown.2.connector = r.connector ∧
    ∃ events host, Run r.connector (r.untimed .away remote) events
        (r.shutdown.2.untimed host remote) ∧
      ∀ joined, r.shutdown.1 = some joined → host = .ended joined := by
  have hbegins : Step r.connector (r.untimed .away remote) []
      (r.untimed (.turn (Host.shutdown r.connector.server.stopTimeout)) remote) :=
    Step.hostGoesOn rfl
  obtain ⟨hconnector, events, host, remote', rest, ⟨hhost, hremote⟩, hrun, hrest⟩ :=
    host_ends (standsAsHost_keepsUp remote) hostBound _ .fresh r _ remote ⟨rfl, rfl⟩
  subst hhost hremote
  have hshut := (Run.refl.tail hbegins).trans hrun
  refine ⟨hconnector, ?_⟩
  cases hresult : r.shutdown.1 with
  | none => exact ⟨_, .turn rest, hshut, by simp⟩
  | some joined =>
      obtain rfl := hrest joined hresult
      have hends : Step r.connector (r.shutdown.2.untimed (.turn (.done joined)) remote') []
          (r.shutdown.2.untimed (.ended joined) remote') :=
        Step.hostGoesOn rfl
      refine ⟨_, .ended joined, hshut.tail hends, ?_⟩
      rintro _ ⟨⟩
      rfl

/-- So it does when it was shut down, whatever is asked of it afterwards. -/
theorem exists_run_of_shutdown (c : Connector) (session : σ) (sink : κ) (epoch : Int)
    (ops later : List Operation) :
    ∃ events host remote, Run c (Interleaved.start c session sink) events
        ((later.foldl operate
          (ops.foldl operate (start c session sink epoch)).shutdown.2).untimed host remote) ∧
      ∀ joined, (ops.foldl operate (start c session sink epoch)).shutdown.1 = some joined →
        host = .ended joined := by
  obtain ⟨hconnector, events, remote, hrun⟩ :=
    operate_run_of_list ops (start c session sink epoch) .away []
  generalize ops.foldl operate (start c session sink epoch) = r at hconnector hrun
  obtain ⟨hconnector', events', host, hrun', hhost⟩ := shutdown_run r remote
  obtain ⟨-, events'', remote', hrun''⟩ := operate_run_of_list later r.shutdown.2 host remote
  rw [hconnector'] at hrun''
  rw [hconnector] at hrun' hrun''
  exact ⟨events ++ events' ++ events'', host, remote', (hrun.trans hrun').trans hrun'', hhost⟩

end Operations

/-! ## A small connector -/

/-- A device with one tag. -/
def boiler (name : String) : Device where
  name := name
  profile := "default"
  tags := [⟨"temperature", "Boiler.Temperature", .timeseries, .gateway, none, none⟩]
  strategy := none
  updates := []
  methods := []
  converter := .standard

/-- A connector that polls such devices. -/
def boilers (names : List String) : Connector where
  name := "Boilers"
  id := "boilers"
  server := {}
  devices := Connector.rosterOf (names.map boiler)
  type := "opcda"

example : ((start (boilers ["north"]) ({} : Memory) ({} : Mailbox) 0).operate
    (.advance 6000)).shutdown.2.link.session.calls = ⟨1, 3, 2, 0, 1⟩ := by rfl

end TagRelay.Running
