import TagRelay.Proofs.Link.Effects
import TagRelay.Proofs.Session.History
import TagRelay.Proofs.Session.Storage

/-!
# Routines that have a link to themselves

When nothing comes between its actions, what a routine does follows from the link that it
starts from and from what the session answers.  Opening a link ends in one of three ways:
the link is stopped and is left as it is, the session refuses, or it opens.
-/

namespace TagRelay.Link

open Routine Session

variable {σ : Type} [TagSession σ] {α β : Type}

@[simp]
theorem run_done (link : Link σ) (result : α) :
    link.run (.done result : Program α) = (result, link) :=
  rfl

@[simp]
theorem run_pure (link : Link σ) (result : α) :
    link.run (pure result : Program α) = (result, link) :=
  rfl

@[simp]
theorem run_act (link : Link σ) (action : Action) (next : action.Answer → Program α) :
    link.run (.act action next) =
      (link.perform action).2.run (next (link.perform action).1) :=
  rfl

@[simp]
theorem run_bind (link : Link σ) (first : Program α) (second : α → Program β) :
    link.run (first >>= second) = (link.run first).2.run (second (link.run first).1) :=
  Routine.run_bind perform first second link

/-! ## Calls of the session -/

/-- The call of the session that an event is. -/
def exchange? : Event → Option Exchange
  | ⟨.call c, result⟩ => some ⟨c, result⟩
  | _ => none

/-- The calls of the session that a routine makes. -/
def exchanges (link : Link σ) (routine : Program α) : List Exchange :=
  (routine.events perform link).filterMap exchange?

@[simp]
theorem exchanges_done (link : Link σ) (result : α) :
    link.exchanges (.done result : Program α) = [] :=
  rfl

@[simp]
theorem exchanges_pure (link : Link σ) (result : α) :
    link.exchanges (pure result : Program α) = [] :=
  rfl

@[simp]
theorem exchanges_act (link : Link σ) (action : Action) (next : action.Answer → Program α) :
    link.exchanges (.act action next) =
      (exchange? ⟨action, (link.perform action).1⟩).toList ++
        (link.perform action).2.exchanges (next (link.perform action).1) := by
  rw [exchanges, events, List.filterMap_cons]
  cases exchange? ⟨action, (link.perform action).1⟩ <;> rfl

@[simp]
theorem exchanges_bind (link : Link σ) (first : Program α) (second : α → Program β) :
    link.exchanges (first >>= second) =
      link.exchanges first ++ (link.run first).2.exchanges (second (link.run first).1) := by
  rw [exchanges, events_bind, List.filterMap_append]
  rfl

/-- A session in memory counts the calls that are made. -/
theorem calls_run (link : Link Memory) (routine : Program α) :
    (link.run routine).2.session.calls =
      (link.exchanges routine).foldl (fun counts e => counts.after e.1) link.session.calls := by
  induction routine generalizing link with
  | done result => rfl
  | act action next ih =>
      -- Of all actions only a call reaches the session, and there it counts once.
      rw [run_act, exchanges_act, List.foldl_append, ih, perform_session]
      cases action with
      | call c =>
          have hcalls : (TagSession.call c link.session).2.calls = link.session.calls.after c :=
            Memory.call_calls link.session c
          simp [exchange?, hcalls]
      | look | move | halt | publish | count => rfl

/-! ## Opening -/

theorem perform_look (link : Link σ) : link.perform .look = (link.state, link) := rfl

theorem perform_call_result (link : Link σ) (c : Call) :
    (link.perform (.call c)).1 = (TagSession.call c link.session).1 :=
  rfl

/-- A connected link has connected its session, whatever the server then tells. -/
theorem run_connect_cases (link : Link σ) (target : Endpoint) :
    (link.state = .stopped ∧
      link.run (connect target) = (.error (.other "connector is stopped"), link)) ∨
    (link.state ≠ .stopped ∧ ∃ cause,
      (TagSession.call (.connect target) link.session).1 = .error cause ∧
      (link.run (connect target)).1 = .error cause ∧
      (link.run (connect target)).2.state = .disconnected ∧
      (link.run (connect target)).2.session =
        (TagSession.call (.connect target) link.session).2) ∨
    (link.state ≠ .stopped ∧
      (TagSession.call (.connect target) link.session).1 = .ok () ∧
      (link.run (connect target)).1 = .ok () ∧
      (link.run (connect target)).2.state = .connected ∧
      (link.run (connect target)).2.session =
        (TagSession.call .info (TagSession.call (.connect target) link.session).2).2) := by
  by_cases hstopped : link.state = .stopped
  · refine Or.inl ⟨hstopped, ?_⟩
    simp [connect, act, Routine.perform, perform_look, hstopped]
  · cases hresult : (TagSession.call (.connect target) link.session).1 with
    | error cause =>
        refine Or.inr (Or.inl ⟨hstopped, cause, rfl, ?_⟩)
        simp [connect, act, Routine.perform, perform_look, perform_call_result, perform_state,
          perform_session, Action.stateAfter, hstopped, hresult]
    | ok success =>
        refine Or.inr (Or.inr ⟨hstopped, rfl, ?_⟩)
        simp [connect, act, Routine.perform, perform_look, perform_call_result, perform_state,
          perform_session, Action.stateAfter, hstopped, hresult]

/-- Opening succeeds exactly when the link is connected right after it. -/
theorem run_connect_ok_iff (link : Link σ) (target : Endpoint) :
    (link.run (connect target)).1 = .ok () ↔ (link.run (connect target)).2.state = .connected := by
  rcases run_connect_cases link target with
    ⟨hstopped, heq⟩ | ⟨-, cause, -, hfailed, hstate, -⟩ | ⟨-, -, hdone, hstate, -⟩
  · simp [heq, hstopped]
  · simp [hfailed, hstate]
  · simp [hdone, hstate]

/-! ## Closing, losing and stopping -/

@[simp]
theorem run_disconnect_state (link : Link σ) :
    (link.run disconnect).2.state = Action.stateAfter (.move .disconnected) link.state := by
  simp [disconnect, act, Routine.perform, perform_state, Action.stateAfter]

@[simp]
theorem run_disconnect_session (link : Link σ) :
    (link.run disconnect).2.session = (TagSession.call .close link.session).2 := by
  simp [disconnect, act, Routine.perform, perform_session]

@[simp]
theorem run_markLost_state (link : Link σ) (cause : SessionError) :
    (link.run (markLost cause)).2.state =
      if cause.isSessionLost then Action.stateAfter (.move .disconnected) link.state
      else link.state := by
  rw [markLost]
  split <;> simp [act, Routine.perform, perform_state]

@[simp]
theorem run_markLost_session (link : Link σ) (cause : SessionError) :
    (link.run (markLost cause)).2.session = link.session := by
  rw [markLost]
  split <;> simp [act, Routine.perform, perform_session]

@[simp]
theorem run_stop_state (link : Link σ) : (link.run stop).2.state = .stopped := by
  simp [stop, act, Routine.perform, perform_state, Action.stateAfter]

@[simp]
theorem run_stop_session (link : Link σ) :
    (link.run stop).2.session = (TagSession.call .close link.session).2 := by
  simp [stop, act, Routine.perform, perform_session]

end TagRelay.Link
