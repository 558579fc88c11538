import TagRelay.Link
import TagRelay.Proofs.Routine

/-!
# What actions do to a link

The state after an action depends on the state before it alone, and so does the metric
that shows it.  Two laws carry everything else: a stopped link stays stopped, and the
metric can only differ from the state between stopping and publishing that.
-/

namespace TagRelay.Link

abbrev Event := Routine.Event Action.Answer

namespace Action

/-- The state that an action leads to. -/
def stateAfter : Action → State → State
  | .move next, state => if state = .stopped then .stopped else next
  | .halt, _ => .stopped
  | _, state => state

/-- The metric of the state that an action leads to. -/
def gaugeAfter : Action → State → Nat → Nat
  | .move next, state, gauge => if state = .stopped then gauge else
      if state = next then gauge else next.gauge
  | .publish, _, _ => State.stopped.gauge
  | _, _, gauge => gauge

/-- A stopped link stays stopped. -/
@[simp]
theorem stateAfter_stopped (action : Action) : action.stateAfter .stopped = .stopped := by
  cases action <;> rfl

/-- Only a move to the connected state makes a link connected. -/
theorem eq_move_of_stateAfter_connected {action : Action} {state : State}
    (hafter : action.stateAfter state = .connected) (hbefore : state ≠ .connected) :
    action = .move .connected ∧ state ≠ .stopped := by
  cases action with
  | move next =>
      by_cases hstopped : state = .stopped
      · simp [stateAfter, hstopped] at hafter
      · exact ⟨by simpa [stateAfter, hstopped] using hafter, hstopped⟩
  | halt => simp [stateAfter] at hafter
  | look | publish | call | count => exact absurd hafter hbefore

/-- The metric goes with the state, unless the link was stopped just now. -/
theorem gaugeAfter_eq (action : Action) (state : State) (hhalt : action ≠ .halt)
    (hpublish : action = .publish → state = .stopped) :
    action.gaugeAfter state state.gauge = (action.stateAfter state).gauge := by
  cases action with
  | move next =>
      by_cases hstopped : state = .stopped
      · simp [gaugeAfter, stateAfter, hstopped]
      · by_cases hsame : state = next
        · simp [gaugeAfter, stateAfter, ← hsame, hstopped]
        · simp [gaugeAfter, stateAfter, hstopped, hsame]
  | publish => simp [gaugeAfter, stateAfter, hpublish rfl]
  | halt => exact absurd rfl hhalt
  | look | call | count => rfl

end Action

section Effects

variable {σ : Type} [TagSession σ]

theorem perform_state (action : Action) (link : Link σ) :
    (link.perform action).2.state = action.stateAfter link.state := by
  cases action with
  | move next =>
      simp only [perform, move, Action.stateAfter]
      split <;> rename_i hcondition
      · rcases hcondition with hstopped | hsame
        · simp [hstopped]
        · simp [hsame]
      · simp only [not_or] at hcondition
        simp [hcondition.1]
  | look | halt | publish | call | count => rfl

theorem perform_gauge (action : Action) (link : Link σ) :
    (link.perform action).2.metrics.linkState =
      action.gaugeAfter link.state link.metrics.linkState := by
  cases action with
  | move next =>
      by_cases hstopped : link.state = .stopped
      · simp [perform, move, Action.gaugeAfter, hstopped]
      · by_cases hsame : link.state = next <;>
          simp [perform, move, Action.gaugeAfter, hstopped, hsame]
  | count event => cases event with
    | conversionFailures device count => cases count <;> rfl
    | pollCycle | received | sent | readFailure | call => rfl
  | look | halt | publish | call => rfl

/-- Only calls reach the session. -/
theorem perform_session (action : Action) (link : Link σ) :
    (link.perform action).2.session =
      match action with
      | .call c => (TagSession.call c link.session).2
      | _ => link.session := by
  cases action with
  | move next => simp only [perform, move]; split <;> rfl
  | look | halt | publish | call | count => rfl

end Effects

/-- A link as it is set up over a session and metrics that may have been in use. -/
def fresh {σ : Type} (session : σ) (metrics : Metrics) : Link σ where
  session := session
  metrics := { metrics with linkState := State.disconnected.gauge }

end TagRelay.Link
