import TagRelay.Proofs.Pipeline.CallRules
import TagRelay.Proofs.Pipeline.Untimed

/-!
# The order of the loop's calls

The rules that every turn obeys, followed through a whole run: in every interleaving with
the worker, the host and the platform the loop keeps order in its calls of the session.
-/

namespace TagRelay.Poll

/-! ## Histories that grow -/

@[simp]
theorem exchanges_append_one (events : List Event) (e : Event) :
    exchanges (events ++ [e]) = exchanges events ++ (exchange? e).toList := by
  cases hcall : exchange? e <;> simp [exchanges, List.filterMap_append, hcall]

@[simp]
theorem turnReads_append_one (events : List Event) (e : Event) :
    turnReads (events ++ [e]) = readsAfter e (turnReads events) := by
  simp [turnReads, List.foldl_append]

theorem foldl_readsAfter {cycle : List Event} (hcycle : ∀ e ∈ cycle, beginsTurn e = false)
    (seen : List (List String)) :
    cycle.foldl (fun seen e => readsAfter e seen) seen = seen ++ reads cycle := by
  induction cycle generalizing seen with
  | nil => simp [reads]
  | cons e cycle ih =>
      have hbegins : beginsTurn e = false := hcycle e List.mem_cons_self
      have hreads : reads (e :: cycle) = (readPaths? e).toList ++ reads cycle := by
        cases hpaths : readPaths? e <;> simp [reads, hpaths]
      rw [List.foldl_cons, ih fun x hx => hcycle x (List.mem_cons_of_mem e hx), hreads]
      simp [readsAfter, hbegins]

/-- What was read since a turn began. -/
theorem turnReads_append {events cycle : List Event} {answer : Bool}
    (hcycle : ∀ e ∈ cycle, beginsTurn e = false) :
    turnReads (events ++ ⟨.stopAsked, answer⟩ :: cycle) = reads cycle := by
  rw [turnReads, List.foldl_append, List.foldl_cons, foldl_readsAfter hcycle]
  simp [readsAfter, beginsTurn]

end TagRelay.Poll

namespace TagRelay.Interleaved

open Poll Session

variable {σ κ : Type} [TagSession σ] {c : Connector} {p q : Interleaved σ κ}
  {events new : List Event} {isOpen : σ → Prop}

/-! ## Runs -/

/-- What the loop's calls depend on, in a run. -/
def callView (isOpen : σ → Prop) (events : List Event) (p : Interleaved σ κ) : Poll.View where
  calls := exchanges (loopEvents events)
  reads := turnReads (loopEvents events)
  state := p.link.state
  isOpen := isOpen p.link.session

theorem openAfter_of_loopEffect (hopenness : Openness isOpen) {action : Poll.Action}
    {answer : action.Answer} (heffect : loopEffect c action answer p q) :
    OpenAfter action (isOpen p.link.session) (isOpen q.link.session) := by
  have hlink := loopEffect_link heffect
  cases action with
  | link action =>
      rw [hlink, Poll.Action.linkAfter, Link.perform_session]
      cases action with
      | call c =>
          cases c with
          | connect target => trivial
          | close => exact hopenness.close p.link.session
          | read | write | info =>
              intro hopen
              rcases hopenness.opened _ _ hopen with hopen | ⟨target, htarget⟩
              · exact hopen
              · simp at htarget
      | look | move | halt | publish | count => exact id
  | now | wallClock | stopAsked | pause | deliver =>
      rw [hlink]
      exact id

theorem state_of_loopEffect {action : Poll.Action} {answer : action.Answer}
    (heffect : loopEffect c action answer p q) :
    q.link.state = stateAfter action p.link.state ∧ Reported action answer p.link.state := by
  have hlink := loopEffect_link heffect
  cases action with
  | link action =>
      refine ⟨(congrArg Link.state hlink).trans (Link.perform_state action p.link), ?_⟩
      cases action with
      | look => exact heffect.1
      | move | halt | publish | call | count => trivial
  | now | wallClock | stopAsked | pause | deliver =>
      exact ⟨congrArg Link.state hlink, trivial⟩

/-- What a step of the loop does is what the rules for its calls say. -/
theorem callRules_effect (hopenness : Openness isOpen) {action : Poll.Action}
    {answer : action.Answer} {stage : Running.LoopStage}
    (heffect : loopEffect c action answer p q) :
    (callRules c.pollSettings.devices).effect action answer (callView isOpen events p)
      (callView isOpen (events ++ [.loop ⟨action, answer⟩]) { q with loop := stage }) := by
  have hevents : loopEvents (events ++ [.loop ⟨action, answer⟩]) =
      loopEvents events ++ [⟨action, answer⟩] :=
    loopEvents_append events _
  obtain ⟨hstate, hreported⟩ := state_of_loopEffect heffect
  have hopen := openAfter_of_loopEffect hopenness heffect
  refine ⟨?_, ?_, hstate, hreported, hopen⟩
  · simp [callView, hevents]
  · simp [callView, hevents]

/-- What the others do to the link is what the rules for the loop's calls allow them. -/
theorem callRules_others (hopenness : Openness isOpen) {events' : List Event}
    (hevents : loopEvents events' = loopEvents events)
    (hlink : q.link = p.link ∨ ∃ a, GuestMay a ∧ q.link = (p.link.perform a).2)
    (devices : List Device) :
    (callRules devices).others (callView isOpen events p) (callView isOpen events' q) := by
  refine ⟨by simp [callView, hevents], by simp [callView, hevents], ?_, ?_⟩
  · rcases hlink with hlink | ⟨action, hmay, hlink⟩
    · exact Or.inl (by simp [callView, hlink])
    · simp only [callView, hlink, Link.perform_state]
      cases action with
      | move => exact hmay.elim
      | halt => exact Or.inr rfl
      | look | publish | call | count => exact Or.inl rfl
  · intro hopen
    rcases hlink with hlink | ⟨action, hmay, hlink⟩
    · simpa [callView, hlink] using hopen
    · simp only [callView, hlink, Link.perform_session] at hopen
      cases action with
      | call c =>
          rcases hopenness.opened _ _ hopen with hopen | ⟨target, rfl⟩
          · exact hopen
          · exact hmay.elim
      | look | move | halt | publish | count => exact hopen

/-- The loop keeps order: what is left of it obeys the rules for its calls, and what it
has done was permitted. -/
structure InOrder (c : Connector) (isOpen : σ → Prop) (events : List Event)
    (p : Interleaved σ κ) : Prop where
  loop : p.loop.Obeys (callRules c.pollSettings.devices) (fun _ => Tied)
    (fun v => justClosed v.calls = true) (callView isOpen events p)
  permitted : AllPermitted (exchanges (loopEvents events))
  reads : ∀ past, past <+: loopEvents events →
    turnReads past <+: readable c.pollSettings.devices

omit [TagSession σ] in
theorem inOrder_start (c : Connector) (isOpen : σ → Prop) (session : σ) (sink : κ) :
    InOrder c isOpen [] (start c session sink) where
  loop := by
    refine obeys_turn c.pollSettings 0 ⟨?_, ?_, rfl⟩
    · simp [callView, start]
    · intro _ _
      rfl
  permitted := allPermitted_nil
  reads past hpast := by
    obtain rfl := List.prefix_nil.mp hpast
    exact List.nil_prefix

section Runs

variable [RecordSink κ]

theorem InOrder.step (hopenness : Openness isOpen) (hp : InOrder c isOpen events p)
    (hmannered : Mannered p) (hstep : Step c p new q) :
    InOrder c isOpen (events ++ new) q := by
  rcases hstep.loop_or_guest hmannered with
    ⟨action, next, answer, r, hacting, heffect, rfl, rfl⟩ | ⟨stage, hstage, rfl, rfl⟩ |
      ⟨hloop, hnew, hlink⟩
  · obtain ⟨hmay, hnext⟩ := hp.loop.acts hacting callRules_others_refl
    have hevents : loopEvents (events ++ [.loop ⟨action, answer⟩]) =
        loopEvents events ++ [⟨action, answer⟩] :=
      loopEvents_append events _
    refine ⟨hnext answer _ (callRules_effect hopenness heffect), ?_, ?_⟩
    · rw [hevents, exchanges_append_one]
      exact hmay.allPermitted answer hp.permitted
    · intro past hpast
      rw [hevents] at hpast
      rcases List.prefix_concat_iff.mp hpast with rfl | hpast
      · rw [turnReads_append_one]
        exact hmay.readsAfter_prefix answer (hp.reads _ (List.prefix_refl _))
      · exact hp.reads past hpast
  · rw [List.append_nil]
    exact ⟨hp.loop.goesOn hstage (fun nextPoll => obeys_turn _ nextPoll) obeys_finish,
      hp.permitted, hp.reads⟩
  · have hevents : loopEvents (events ++ new) = loopEvents events := by simp [hnew]
    have hothers := callRules_others hopenness hevents hlink c.pollSettings.devices
    have hloop' := hp.loop.others callRules_others_trans Tied.others
      (fun hothers hclosed => hothers.1 ▸ hclosed) hothers
    exact ⟨hloop ▸ hloop', hevents ▸ hp.permitted, hevents ▸ hp.reads⟩

theorem inOrder_of_run (hopenness : Openness isOpen) {session : σ} {sink : κ}
    (hrun : Run c (start c session sink) events p) : InOrder c isOpen events p := by
  induction hrun with
  | refl => exact inOrder_start c isOpen session sink
  | tail hrun hstep ih => exact ih.step hopenness ((mannered_start c session sink).run hrun) hstep

/-- In every run the loop keeps order in its calls: it closes the session directly before
it connects it, asks about the server directly after every success, and then connects no
more before a read has shown that the session is lost; it reads only what is up, in a
cycle each device with tags at most once and in their order; and what it calls last is to
close the session.  So it never connects a session that is open. -/
theorem calls_in_order {session : σ} {sink : κ}
    (hrun : Run c (start c session sink) events p) :
    Orderly (exchanges (loopEvents events)) ∧
    (∀ earlier answer cycle later,
      loopEvents events = earlier ++ ⟨.stopAsked, answer⟩ :: cycle ++ later →
        (∀ e ∈ cycle, beginsTurn e = false) → reads cycle <+: readable c.devices.items) ∧
    (p.loop.hasEnded = true →
      ∃ earlier result, exchanges (loopEvents events) = earlier ++ [⟨.close, result⟩]) ∧
    ∀ isOpen : σ → Prop, Openness isOpen → ∀ target next,
      p.loop.acting? = some ⟨.link (.call (.connect target)), next⟩ →
        ¬ isOpen p.link.session := by
  have hnever : Openness fun _ : σ => False := ⟨fun _ => id, fun _ _ => Or.inl⟩
  have horder := inOrder_of_run hnever hrun
  refine ⟨horder.permitted.orderly, ?_, ?_, ?_⟩
  · intro earlier answer cycle later hevents hcycle
    have hleading : earlier ++ ⟨.stopAsked, answer⟩ :: cycle <+: loopEvents events := by
      rw [hevents]
      exact List.prefix_append _ later
    rw [← turnReads_append hcycle]
    exact horder.reads _ hleading
  · intro hended
    exact exists_of_justClosed (horder.loop.ended hended)
  · intro isOpen hopenness target next hacting
    have hloop := (inOrder_of_run hopenness hrun).loop
    exact (hloop.acts hacting callRules_others_refl).1.2.1 target rfl

/-- A session that is lost once is connected twice, and everything is in order. -/
theorem calls_in_order_of_loss :
    ∃ events p, Run (Running.boilers ["north", "south"])
        (start (Running.boilers ["north", "south"]) (Memory.failNextRead {} (.lost "gone"))
          ({} : Mailbox)) events p ∧
      p.loop.hasEnded = true ∧ p.link.session.calls = ⟨2, 4, 5, 0, 2⟩ ∧
      Orderly (exchanges (loopEvents events)) ∧
      ∃ earlier result, exchanges (loopEvents events) = earlier ++ [⟨.close, result⟩] := by
  obtain ⟨events, host, remote, hrun, -⟩ := Running.exists_run_of_shutdown
    (Running.boilers ["north", "south"]) (Memory.failNextRead {} (.lost "gone")) ({} : Mailbox) 0
    [.advance 6000] []
  obtain ⟨horderly, -, hlast, -⟩ := calls_in_order hrun
  exact ⟨events, _, hrun, rfl, rfl, horderly, hlast rfl⟩

end Runs

end TagRelay.Interleaved
