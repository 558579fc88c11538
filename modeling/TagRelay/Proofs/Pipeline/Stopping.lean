import TagRelay.Proofs.Pipeline.Parties
import TagRelay.Proofs.Pipeline.Untimed
import TagRelay.Proofs.Session.Openness

/-!
# Stopping for good

Shutting down may give up waiting while the loop is still in the middle of a call: then
the session that the host has closed may be opened once more.  But the loop closes it
again before it ends, and after that nobody opens it.  In the end the link is stopped,
and its session closed, in whatever order everything was done.
-/

namespace TagRelay.Interleaved

open Routine Session Poll

variable {σ κ : Type} [TagSession σ] {c : Connector} {p q : Interleaved σ κ}
  {events new : List Event} {isOpen : σ → Prop}

/-! ## The end of the loop -/

/-- A link that is stopped, says so, and has its session closed. -/
structure Shut (isOpen : σ → Prop) (link : Link σ) : Prop where
  state : link.state = .stopped
  gauge : link.metrics.linkState = Link.State.stopped.gauge
  closed : ¬ isOpen link.session

/-- Between the two, nothing of what belongs to a link that is shut was undone. -/
structure KeepsShut (isOpen : σ → Prop) (link after : Link σ) : Prop where
  state : link.state = .stopped → after.state = .stopped
  gauge : link.metrics.linkState = Link.State.stopped.gauge →
    after.metrics.linkState = Link.State.stopped.gauge
  closed : isOpen after.session → isOpen link.session

omit [TagSession σ] in
theorem KeepsShut.refl (link : Link σ) : KeepsShut isOpen link link := ⟨id, id, id⟩

omit [TagSession σ] in
theorem KeepsShut.trans {link after later : Link σ} (hfirst : KeepsShut isOpen link after)
    (hsecond : KeepsShut isOpen after later) : KeepsShut isOpen link later where
  state := hsecond.state ∘ hfirst.state
  gauge := hsecond.gauge ∘ hfirst.gauge
  closed := hfirst.closed ∘ hsecond.closed

omit [TagSession σ] in
theorem Shut.kept {link after : Link σ} (hkeeps : KeepsShut isOpen link after)
    (hshut : Shut isOpen link) : Shut isOpen after where
  state := hkeeps.state hshut.state
  gauge := hkeeps.gauge hshut.gauge
  closed := fun hopen => hshut.closed (hkeeps.closed hopen)

/-- Who neither moves the link nor opens its session keeps it shut. -/
theorem GuestMay.keepsShut (hopenness : Openness isOpen) {action : Link.Action}
    (hmay : GuestMay action) (link : Link σ) :
    KeepsShut isOpen link (link.perform action).2 where
  state hstopped := by rw [Link.perform_state, hstopped, Link.Action.stateAfter_stopped]
  gauge hgauge := by
    rw [Link.perform_gauge]
    cases action with
    | move next => exact hmay.elim
    | publish => rfl
    | look | halt | call | count => exact hgauge
  closed hopen := by
    rw [Link.perform_session] at hopen
    cases action with
    | call c =>
        rcases hopenness.opened c link.session hopen with hopen | ⟨target, rfl⟩
        · exact hopen
        · exact hmay.elim
    | look | move | halt | publish | count => exact hopen

/-- The loop is free to do anything, as far as stopping is concerned. -/
def stopRules (isOpen : σ → Prop) : Rules Poll.Action.Answer (Link σ) where
  others := KeepsShut isOpen
  allows _ _ := True
  effect action _ link after := after = action.linkAfter link

/-- However the others interfere, the loop leaves the link shut when it ends: what each of
its last three actions has done is kept until the end. -/
theorem finish_shuts (hopenness : Openness isOpen) (link : Link σ) :
    Obeys (stopRules isOpen) (fun _ => Shut isOpen) finish link := by
  unfold finish Link.stop
  rw [obeys_through, obeys_bind]
  intro first _
  refine ⟨trivial, ?_⟩
  rintro _ halted rfl
  have hstate : ((Poll.Action.link .halt).linkAfter first).state = .stopped := rfl
  rw [obeys_done, obeys_bind]
  intro second hsecond
  refine ⟨trivial, ?_⟩
  rintro _ published rfl
  have hstate' : ((Poll.Action.link .publish).linkAfter second).state = .stopped :=
    hsecond.state hstate
  rw [obeys_done, obeys_bind]
  intro third hthird
  refine ⟨trivial, ?_⟩
  rintro _ closed rfl
  exact ⟨hthird.state hstate', hthird.gauge rfl, hopenness.close third.session⟩

/-! ## Runs -/

section Runs

variable [RecordSink κ]

/-- The loop will leave the link shut, and a link that was halted by the host is stopped. -/
structure WillShut (isOpen : σ → Prop) (events : List Event) (p : Interleaved σ κ) : Prop where
  loop : p.loop.Obeys (stopRules isOpen) (fun _ _ => True) (Shut isOpen) p.link
  halted : .host ⟨.link .halt, ()⟩ ∈ events → p.link.state = .stopped

omit [RecordSink κ] in
theorem willShut_start (c : Connector) (isOpen : σ → Prop) (session : σ) (sink : κ) :
    WillShut isOpen [] (start c session sink) where
  loop := obeys_of_allows (fun _ _ => trivial) (fun _ _ => trivial) _ _
  halted hmem := absurd hmem List.not_mem_nil

/-- Whatever is done, it is done to the link by one action or none. -/
theorem Step.link (hstep : Step c p new q) (hmannered : Mannered p) :
    q.link = p.link ∨ ∃ a, q.link = (p.link.perform a).2 := by
  rcases hstep.loop_or_guest hmannered with
    ⟨action, next, answer, r, -, heffect, -, rfl⟩ | ⟨stage, -, -, rfl⟩ | ⟨-, -, hlink⟩
  · have hlink := loopEffect_link heffect
    cases action with
    | link action => exact Or.inr ⟨action, hlink⟩
    | now | wallClock | stopAsked | pause | deliver => exact Or.inl hlink
  · exact Or.inl rfl
  · exact hlink.imp_right fun ⟨action, _, hlink⟩ => ⟨action, hlink⟩

theorem Step.stopped (hstep : Step c p new q) (hmannered : Mannered p)
    (hstate : p.link.state = .stopped) : q.link.state = .stopped := by
  rcases hstep.link hmannered with hlink | ⟨action, hlink⟩
  · rw [hlink, hstate]
  · rw [hlink, Link.perform_state, hstate, Link.Action.stateAfter_stopped]

theorem Step.halted (hstep : Step c p new q) (hmem : .host ⟨.link .halt, ()⟩ ∈ new) :
    q.link.state = .stopped := by
  cases hstep with
  | hostActs hacting heffect =>
      have hevent := List.mem_singleton.mp hmem
      cases hevent
      rw [heffect.2]
      rfl
  | loopActs | workerActs | remoteActs => simp at hmem
  | loopGoesOn | workerGoesOn | hostGoesOn | remoteBegins => simp at hmem

theorem WillShut.step (hopenness : Openness isOpen) (hp : WillShut isOpen events p)
    (hmannered : Mannered p) (hstep : Step c p new q) : WillShut isOpen (events ++ new) q where
  loop := by
    have hfinish : Obeys (stopRules isOpen) (fun _ => Shut isOpen) finish p.link :=
      finish_shuts hopenness p.link
    rcases hstep.loop_or_guest hmannered with
      ⟨action, next, answer, r, hacting, heffect, -, rfl⟩ | ⟨stage, hstage, -, rfl⟩ |
        ⟨hloop, -, hlink⟩
    · have hnext := (hp.loop.acts hacting (KeepsShut.refl p.link)).2
      exact hnext answer r.link (loopEffect_link heffect)
    · exact hp.loop.goesOn hstage
        (fun _ _ => obeys_of_allows (fun _ _ => trivial) (fun _ _ => trivial) _ _)
        (fun _ => hfinish)
    · have hkeeps : KeepsShut isOpen p.link q.link := by
        rcases hlink with hlink | ⟨action, hmay, hlink⟩
        · rw [hlink]
          exact KeepsShut.refl p.link
        · rw [hlink]
          exact hmay.keepsShut hopenness p.link
      rw [hloop]
      exact hp.loop.others KeepsShut.trans (fun _ => id) Shut.kept hkeeps
  halted hmem := by
    rcases List.mem_append.mp hmem with hmem | hmem
    · exact hstep.stopped hmannered (hp.halted hmem)
    · exact hstep.halted hmem

theorem willShut_of_run (hopenness : Openness isOpen) {session : σ} {sink : κ}
    (hrun : Run c (start c session sink) events p) : WillShut isOpen events p := by
  induction hrun with
  | refl => exact willShut_start c isOpen session sink
  | tail hrun hstep ih => exact ih.step hopenness ((mannered_start c session sink).run hrun) hstep

/-- A loop that has ended does nothing any more. -/
theorem Step.hasEnded (hstep : Step c p new q) (hmannered : Mannered p)
    (hended : p.loop.hasEnded = true) : q.loop.hasEnded = true := by
  have hloop : p.loop = .ended := Running.LoopStage.eq_ended hended
  rcases hstep.loop_or_guest hmannered with
    ⟨action, next, answer, r, hacting, -⟩ | ⟨stage, hstage, -⟩ | ⟨hsame, -⟩
  · simp [hloop, Running.LoopStage.acting?] at hacting
  · simp [hloop, Running.LoopStage.following?] at hstage
  · rw [hsame, hended]

theorem hasEnded_of_run (hmannered : Mannered p) (hrun : Run c p events q)
    (hended : p.loop.hasEnded = true) : q.loop.hasEnded = true := by
  induction hrun with
  | refl => exact hended
  | tail hrun hstep ih => exact hstep.hasEnded (hmannered.run hrun) ih

/-- In every run, from the moment when shutting down has halted the link it is stopped in
whatever comes later; once the loop has ended the session is closed, and nothing that comes
later opens it; and where both have ended, with the tasks joined in time or not, the session
is closed and both the link and its metric are stopped. -/
theorem shut_of_run (hopenness : Openness isOpen) {session : σ} {sink : κ}
    (hrun : Run c (start c session sink) events p) :
    (.host ⟨.link .halt, ()⟩ ∈ events →
      ∀ later q, Run c p later q → q.link.state = .stopped) ∧
    (p.loop.hasEnded = true → ∀ later q, Run c p later q → ¬ isOpen q.link.session) ∧
    (∀ joined, p.host = .ended joined → p.loop.hasEnded = true →
      ¬ isOpen p.link.session ∧ p.link.state = .stopped ∧
        p.link.metrics.linkState = Link.State.stopped.gauge) := by
  have hmannered : Mannered p := (mannered_start c session sink).run hrun
  refine ⟨?_, ?_, ?_⟩
  · intro hmem later q hlater
    have hq := willShut_of_run hopenness (hrun.trans hlater)
    exact hq.halted (List.mem_append_left later hmem)
  · intro hended later q hlater
    have hq := willShut_of_run hopenness (hrun.trans hlater)
    exact (hq.loop.ended (hasEnded_of_run hmannered hlater hended)).closed
  · intro joined _ hended
    have hshut := (willShut_of_run hopenness hrun).loop.ended hended
    exact ⟨hshut.closed, hshut.state, hshut.gauge⟩

/-- A read that outlives the shutdown: neither wait of the host is long enough, and the
session is closed when the loop ends later. -/
theorem shut_of_slow_read :
    ∃ events p, Run (Running.boilers ["north"])
        (start (Running.boilers ["north"]) (Memory.delayReads {} 20000) ({} : Mailbox)) events p ∧
      p.host = .ended false ∧ p.loop.hasEnded = true ∧
      ¬ p.link.session.isOpen = true ∧ p.link.state = .stopped ∧
      p.link.metrics.linkState = Link.State.stopped.gauge := by
  obtain ⟨events, host, remote, hrun, hhost⟩ := Running.exists_run_of_shutdown
    (Running.boilers ["north"]) (Memory.delayReads {} 20000) ({} : Mailbox) 0 [.advance 10]
    [.advance 30000]
  obtain rfl : host = .ended false := hhost false rfl
  obtain ⟨-, -, hboth⟩ := shut_of_run Memory.openness hrun
  exact ⟨events, _, hrun, rfl, rfl, hboth false rfl rfl⟩

end Runs

end TagRelay.Interleaved
