import Mathlib.Logic.Relation
import TagRelay.Proofs.Link.Effects
import TagRelay.Session.Memory

/-!
# A link that is shared

Any number of tasks open, close, lose and stop one link, and the actions of their calls
fall between each other in any order.  Whatever the session answers, a stopped link
stays stopped, a link gets connected only by a call whose session has just been
connected, and the metric shows the state, but for the moment in which a task has
stopped the link and not yet published that.

Stopping is the only operation that sets the state and the metric in two actions.  So
the invariant is that the metric can be wrong only while a task stands between them.
-/

namespace TagRelay.Link

open Routine

/-- What can be asked of a link. -/
inductive Operation where
  | connect (target : Endpoint)
  | disconnect
  | markLost (cause : SessionError)
  | stop

def Operation.program : Operation → Program Unit
  | .connect target => do let _ ← Link.connect target
  | .disconnect => Link.disconnect
  | .markLost cause => do let _ ← Link.markLost cause
  | .stop => Link.stop

/-- A call of an operation: what it has done so far and what is left of it. -/
structure Underway where
  operation : Operation
  past : List Event
  rest : Program Unit

namespace Underway

def begun (operation : Operation) : Underway := ⟨operation, [], operation.program⟩

/-- The call after one more action. -/
def after (u : Underway) (action : Action) (answer : action.Answer) (rest : Program Unit) :
    Underway :=
  { u with past := u.past ++ [⟨action, answer⟩], rest := rest }

/-- The first thing that a call does is to stop the link, if it does so at all. -/
theorem past_after_eq_halt {u : Underway} {action : Action} {answer : action.Answer}
    {rest : Program Unit} (hpast : (u.after action answer rest).past = [⟨.halt, ()⟩]) :
    u.past = [] ∧ action = .halt := by
  cases hbefore : u.past with
  | nil =>
      simp only [after, hbefore, List.nil_append] at hpast
      exact ⟨rfl, congrArg Sigma.fst (List.head_eq_of_cons_eq hpast)⟩
  | cons event past =>
      have hlength := congrArg List.length hpast
      simp [after, hbefore] at hlength

/-- The call has just connected the session. -/
def HasConnected (u : Underway) : Prop :=
  ∃ target seen changed, u.operation = .connect target ∧
    u.past = [⟨.look, seen⟩, ⟨.move .connecting, changed⟩, ⟨.call (.connect target), .ok ()⟩]

/-- The call has stopped the link and not yet set the metric. -/
def IsStopping (u : Underway) : Prop := ∃ next, u.rest = .act .publish next

end Underway

/-- A link with the calls that are underway on it.  A task that calls again adds a call,
and one that gives up leaves its call where it is. -/
structure Shared (σ : Type) where
  link : Link σ
  calls : List Underway := []

namespace Shared

variable {σ : Type} [TagSession σ]

/-- A task calls an operation. -/
def begin (s : Shared σ) (operation : Operation) : Shared σ :=
  { s with calls := s.calls ++ [.begun operation] }

/-- The next action of a call. -/
def acted (s : Shared σ) (index : Nat) (u : Underway) (action : Action)
    (next : action.Answer → Program Unit) : Shared σ where
  link := (s.link.perform action).2
  calls := s.calls.set index
    (u.after action (s.link.perform action).1 (next (s.link.perform action).1))

/-- A task calls an operation, or one of the calls performs its next action. -/
inductive Step (s : Shared σ) : Shared σ → Prop
  | begins (operation : Operation) : Step s (s.begin operation)
  | acts (index : Nat) (u : Underway) (action : Action) (next : action.Answer → Program Unit)
      (hcall : s.calls[index]? = some u) (hrest : u.rest = .act action next) :
      Step s (s.acted index u action next)

abbrev Steps : Shared σ → Shared σ → Prop := Relation.ReflTransGen Step

/-- Nobody has called yet. -/
def idle (session : σ) (metrics : Metrics) : Shared σ := { link := fresh session metrics }

/-! ## The script of an operation -/

/-- What a call may do in view of what it has done.  To make the link connected it has
to have connected the session just before; it publishes the stop right after the stop
and does nothing else in between. -/
def Allowed (operation : Operation) (action : Action) (past : List Event) : Prop :=
  (action = .move .connected → ∃ target seen changed, operation = .connect target ∧
    past = [⟨.look, seen⟩, ⟨.move .connecting, changed⟩, ⟨.call (.connect target), .ok ()⟩]) ∧
  (action = .halt → past = []) ∧
  (action = .publish ↔ past = [⟨.halt, ()⟩])

def script (operation : Operation) : Rules Action.Answer (List Event) :=
  .ofHistory (Allowed operation)

/-- A call is not over while the stop is not published. -/
def Settled (past : List Event) : Prop := past ≠ [⟨.halt, ()⟩]

theorem program_obeys_script (operation : Operation) :
    Obeys (script operation) (fun _ => Settled) operation.program [] := by
  cases operation with
  | connect target =>
      simp only [Operation.program, connect, act, Routine.perform, script, obeys_bind,
        obeys_ofHistory_act, obeys_done, obeys_ite, obeys_pure]
      refine ⟨by simp [Allowed], fun state => ?_⟩
      split
      · simp [Settled]
      · refine ⟨by simp [Allowed], fun changed => ⟨by simp [Allowed], fun result => ?_⟩⟩
        cases result <;>
          simp [obeys_bind, obeys_ofHistory_act, Allowed, Settled]
  | disconnect =>
      simp only [Operation.program, disconnect, act, Routine.perform, script, obeys_bind,
        obeys_ofHistory_act, obeys_done, obeys_pure]
      simp [Allowed, Settled]
  | markLost cause =>
      simp only [Operation.program, markLost, act, Routine.perform, script, obeys_bind,
        obeys_ite, obeys_ofHistory_act, obeys_done, obeys_pure]
      split <;> simp [Allowed, Settled]
  | stop =>
      simp only [Operation.program, stop, act, Routine.perform, script, obeys_bind,
        obeys_ofHistory_act, obeys_done, obeys_pure]
      simp [Allowed, Settled]

/-! ## The invariant -/

/-- A call that has stopped the link publishes that next. -/
theorem isStopping_of_past {u : Underway}
    (hobeys : Obeys (script u.operation) (fun _ => Settled) u.rest u.past)
    (hpast : u.past = [⟨.halt, ()⟩]) : u.IsStopping := by
  cases hrest : u.rest with
  | done result =>
      rw [hrest] at hobeys
      exact absurd hpast hobeys
  | act action next =>
      rw [hrest] at hobeys
      have hallowed : Allowed u.operation action u.past := hobeys.allowed rfl
      obtain rfl : action = .publish := hallowed.2.2.mpr hpast
      exact ⟨next, hrest⟩

/-- What holds of a shared link at any time. -/
structure Sound (s : Shared σ) : Prop where
  scripted : ∀ u ∈ s.calls, Obeys (script u.operation) (fun _ => Settled) u.rest u.past
  stopped : ∀ u ∈ s.calls, u.past = [⟨.halt, ()⟩] → s.link.state = .stopped
  /-- The metric shows the state, or a task stands between the two. -/
  shown : s.link.metrics.linkState = s.link.state.gauge ∨
    s.link.state = .stopped ∧ ∃ u ∈ s.calls, u.past = [⟨.halt, ()⟩]

omit [TagSession σ] in
theorem sound_idle (session : σ) (metrics : Metrics) : Sound (idle session metrics) where
  scripted := by simp [idle]
  stopped := by simp [idle]
  shown := Or.inl rfl

omit [TagSession σ] in
theorem Sound.begins {s : Shared σ} (hs : Sound s) (operation : Operation) :
    Sound (s.begin operation) where
  scripted := by
    intro u hu
    rcases List.mem_append.mp hu with hu | hu
    · exact hs.scripted u hu
    · obtain rfl := List.mem_singleton.mp hu
      exact program_obeys_script operation
  stopped := by
    intro u hu hpast
    rcases List.mem_append.mp hu with hu | hu
    · exact hs.stopped u hu hpast
    · obtain rfl := List.mem_singleton.mp hu
      simp [Underway.begun] at hpast
  shown := by
    rcases hs.shown with hshown | ⟨hstopped, u, hu, hpast⟩
    · exact Or.inl hshown
    · exact Or.inr ⟨hstopped, u, List.mem_append_left _ hu, hpast⟩

theorem mem_set_of_mem {u v w : Underway} {calls : List Underway} {index : Nat}
    (hv : v ∈ calls) (hu : calls[index]? = some u) (hne : v ≠ u) : v ∈ calls.set index w := by
  obtain ⟨other, hother⟩ := List.getElem?_of_mem hv
  have hindex : index ≠ other := by
    rintro rfl
    exact hne (Option.some.inj (hother.symm.trans hu))
  exact List.mem_of_getElem? ((List.getElem?_set_ne hindex).trans hother)

theorem Sound.acted {s : Shared σ} (hs : Sound s) {index : Nat} {u : Underway}
    {action : Action} {next : action.Answer → Program Unit}
    (hcall : s.calls[index]? = some u) (hrest : u.rest = .act action next) :
    Sound (s.acted index u action next) := by
  have hu : u ∈ s.calls := List.mem_of_getElem? hcall
  have hindex : index < s.calls.length := (List.getElem?_eq_some_iff.mp hcall).1
  have hobeys := hs.scripted u hu
  rw [hrest] at hobeys
  have hallowed : Allowed u.operation action u.past := hobeys.allowed rfl
  have hstate : (s.acted index u action next).link.state = action.stateAfter s.link.state :=
    perform_state action s.link
  have hgauge : (s.acted index u action next).link.metrics.linkState =
      action.gaugeAfter s.link.state s.link.metrics.linkState := perform_gauge action s.link
  have hnew : u.after action (s.link.perform action).1 (next (s.link.perform action).1) ∈
      (s.acted index u action next).calls := List.mem_set hindex _
  constructor
  · intro v hv
    rcases List.mem_or_eq_of_mem_set hv with hv | rfl
    · exact hs.scripted v hv
    · exact hobeys.after rfl rfl
  · intro v hv hpast
    rw [hstate]
    rcases List.mem_or_eq_of_mem_set hv with hv | rfl
    · rw [hs.stopped v hv hpast, Action.stateAfter_stopped]
    · obtain ⟨-, rfl⟩ := Underway.past_after_eq_halt hpast
      rfl
  · rw [hstate, hgauge]
    by_cases hhalt : action = .halt
    · subst hhalt
      refine Or.inr ⟨rfl, _, hnew, ?_⟩
      simp [Underway.after, hallowed.2.1 rfl]
    · rcases hs.shown with hshown | ⟨hstopped, v, hv, hpast⟩
      · rw [hshown]
        exact Or.inl (Action.gaugeAfter_eq action _ hhalt fun hpublish =>
          hs.stopped u hu (hallowed.2.2.mp hpublish))
      · rw [hstopped]
        by_cases hsame : v = u
        · subst hsame
          obtain rfl := hallowed.2.2.mpr hpast
          exact Or.inl rfl
        · exact Or.inr ⟨Action.stateAfter_stopped action, v, mem_set_of_mem hv hcall hsame, hpast⟩

theorem Sound.step {s later : Shared σ} (hs : Sound s) (hstep : Step s later) :
    Sound later := by
  cases hstep with
  | begins operation => exact hs.begins operation
  | acts index u action next hcall hrest => exact hs.acted hcall hrest

theorem Sound.steps {s later : Shared σ} (hs : Sound s) (hsteps : Steps s later) :
    Sound later := by
  induction hsteps with
  | refl => exact hs
  | tail _ hstep ih => exact ih.step hstep

/-! ## The state and its metric -/

theorem stopped_step {s later : Shared σ} (hstep : Step s later)
    (hstopped : s.link.state = .stopped) : later.link.state = .stopped := by
  cases hstep with
  | begins operation => exact hstopped
  | acts index u action next =>
      exact (perform_state action s.link).trans (by rw [hstopped, Action.stateAfter_stopped])

/-- Only a call that has connected the session makes the link connected. -/
theorem Sound.connected_step {s later : Shared σ} (hs : Sound s) (hstep : Step s later)
    (hbefore : s.link.state ≠ .connected) (hafter : later.link.state = .connected) :
    ∃ index u next, s.calls[index]? = some u ∧ u.HasConnected ∧
      later = s.acted index u (.move .connected) next := by
  cases hstep with
  | begins operation => exact absurd hafter hbefore
  | acts index u action next hcall hrest =>
      have hstate : action.stateAfter s.link.state = .connected :=
        (perform_state action s.link).symm.trans hafter
      obtain ⟨rfl, -⟩ := Action.eq_move_of_stateAfter_connected hstate hbefore
      have hobeys := hs.scripted u (List.mem_of_getElem? hcall)
      rw [hrest] at hobeys
      have hallowed : Allowed u.operation (.move .connected) u.past := hobeys.allowed rfl
      exact ⟨index, u, next, hcall, hallowed.1 rfl, rfl⟩

omit [TagSession σ] in
/-- While no task stands between stopping and publishing that, the metric shows the
state. -/
theorem Sound.gauge_eq {s : Shared σ} (hs : Sound s)
    (hidle : ∀ u ∈ s.calls, ¬ u.IsStopping) :
    s.link.metrics.linkState = s.link.state.gauge := by
  rcases hs.shown with hshown | ⟨-, u, hu, hpast⟩
  · exact hshown
  · exact absurd (isStopping_of_past (hs.scripted u hu) hpast) (hidle u hu)

/-- However the calls of any number of tasks interleave and whatever the session
answers: a stopped link stays stopped; a link gets connected only by a call that has
just connected the session; and the metric shows the state unless a task has stopped
the link and not yet set the metric. -/
theorem state_and_gauge_of_steps {session : σ} {metrics : Metrics} {s : Shared σ}
    (hsteps : Steps (idle session metrics) s) :
    (s.link.state = .stopped → ∀ later, Steps s later → later.link.state = .stopped) ∧
    (∀ later, Step s later → s.link.state ≠ .connected → later.link.state = .connected →
      ∃ index u next, s.calls[index]? = some u ∧ u.HasConnected ∧
        later = s.acted index u (.move .connected) next) ∧
    ((∀ u ∈ s.calls, ¬ u.IsStopping) → s.link.metrics.linkState = s.link.state.gauge) := by
  have hs : Sound s := (sound_idle session metrics).steps hsteps
  refine ⟨?_, fun later => hs.connected_step, hs.gauge_eq⟩
  intro hstopped later hlater
  induction hlater with
  | refl => exact hstopped
  | tail _ hstep ih => exact stopped_step hstep ih

/-! ## A race -/

/-- Lets the call at an index perform its next action, if it has one. -/
def advance (s : Shared σ) (index : Nat) : Shared σ :=
  match s.calls[index]? with
  | some ⟨operation, past, .act action next⟩ =>
      s.acted index ⟨operation, past, .act action next⟩ action next
  | _ => s

theorem steps_advance (s : Shared σ) (index : Nat) : Steps s (s.advance index) := by
  rw [advance]
  split
  · rename_i hcall
    exact .single (.acts index _ _ _ hcall rfl)
  · exact .refl

theorem steps_foldl_advance (s : Shared σ) (indices : List Nat) :
    Steps s (indices.foldl advance s) := by
  induction indices generalizing s with
  | nil => exact .refl
  | cons index indices ih => exact (steps_advance s index).trans (ih (s.advance index))

/-- One task connects while another stops: the session is connected, then the link is
stopped, and the move to the connected state comes too late. -/
def raced : Shared Memory :=
  [0, 0, 0, 1, 0].foldl advance
    (((idle {} {}).begin (.connect ⟨"server", "host"⟩)).begin .stop)

theorem steps_raced : Steps (idle ({} : Memory) {}) raced :=
  ((Relation.ReflTransGen.single (.begins (.connect ⟨"server", "host"⟩))).tail
    (.begins .stop)).trans (steps_foldl_advance _ _)

theorem state_and_gauge_of_race :
    raced.link.session.isOpen = true ∧ raced.link.state = .stopped ∧
      raced.link.metrics.linkState = State.connecting.gauge ∧
      (∀ later, Steps raced later → later.link.state = .stopped) ∧
      (raced.advance 1).link.metrics.linkState = (raced.advance 1).link.state.gauge := by
  refine ⟨rfl, rfl, rfl, (state_and_gauge_of_steps steps_raced).1 rfl, ?_⟩
  have hsteps := steps_raced.trans (steps_advance raced 1)
  apply (state_and_gauge_of_steps hsteps).2.2
  intro u hu
  rintro ⟨next, hnext⟩
  rcases List.mem_cons.mp hu with rfl | hu
  · cases hnext
  · obtain rfl := List.mem_singleton.mp hu
    cases hnext

end Shared

end TagRelay.Link
