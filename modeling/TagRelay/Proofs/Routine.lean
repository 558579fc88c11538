import TagRelay.Routine

/-!
# Routines among others

A routine is seldom performed alone: between two of its actions others act on what they
share.  Rules say what others may do in between, which actions the routine may perform
and what an answer tells, all in terms of a view of what is going on.  A routine obeys
the rules if no answer leads it to an action that they forbid.  This is decided along
the routine, part by part.
-/

namespace TagRelay.Routine

variable {Action : Type} {Answer : Action → Type} {View α β : Type}

/-- An action that was performed, with the answer to it. -/
abbrev Event (Answer : Action → Type) := (action : Action) × Answer action

/-- Rules for a routine, in terms of a view of what is going on. -/
structure Rules (Answer : Action → Type) (View : Type) where
  /-- What others may do to the view between two actions. -/
  others : View → View → Prop
  /-- Whether an action may be performed now. -/
  allows : Action → View → Prop
  /-- What an answered action does to the view. -/
  effect : (action : Action) → Answer action → View → View → Prop

/-- The routine performs only what the rules allow, whatever the answers and whatever
others do in between, and a result satisfies `post` when it is there. -/
def Obeys (rules : Rules Answer View) (post : α → View → Prop) :
    Routine Answer α → View → Prop
  | .done result, view => post result view
  | .act action next, view =>
      ∀ seen, rules.others view seen → rules.allows action seen ∧
        ∀ answer after, rules.effect action answer seen after →
          Obeys rules post (next answer) after

/-! ## Along the routine -/

section Parts

variable {rules : Rules Answer View}

@[simp]
theorem obeys_pure (post : α → View → Prop) (result : α) (view : View) :
    Obeys rules post (pure result : Routine Answer α) view ↔ post result view :=
  Iff.rfl

@[simp]
theorem obeys_done (post : α → View → Prop) (result : α) (view : View) :
    Obeys rules post (.done result) view ↔ post result view :=
  Iff.rfl

theorem obeys_act (post : α → View → Prop) (action : Action)
    (next : Answer action → Routine Answer α) (view : View) :
    Obeys rules post (.act action next) view ↔
      ∀ seen, rules.others view seen → rules.allows action seen ∧
        ∀ answer after, rules.effect action answer seen after →
          Obeys rules post (next answer) after :=
  Iff.rfl

/-- What follows an action matters only by what is asked of it after each answer. -/
theorem act_congr (action : Action) (view : View) {rest rest' : Answer action → View → Prop}
    (hrest : ∀ answer after, rest answer after ↔ rest' answer after) :
    (∀ seen, rules.others view seen → rules.allows action seen ∧
        ∀ answer after, rules.effect action answer seen after → rest answer after) ↔
      ∀ seen, rules.others view seen → rules.allows action seen ∧
        ∀ answer after, rules.effect action answer seen after → rest' answer after := by
  apply forall_congr'
  intro seen
  apply imp_congr_right
  intro _
  apply and_congr_right
  intro _
  exact forall_congr' fun answer => forall_congr' fun after =>
    imp_congr_right fun _ => hrest answer after

/-- Of two parts, the second goes on where the first has ended. -/
@[simp]
theorem obeys_bind (post : β → View → Prop) (first : Routine Answer α)
    (second : α → Routine Answer β) (view : View) :
    Obeys rules post (first >>= second) view ↔
      Obeys rules (fun result => Obeys rules post (second result)) first view := by
  change Obeys rules post (first.bind second) view ↔ _
  induction first generalizing view with
  | done result => exact Iff.rfl
  | act action next ih =>
      simp only [Routine.bind, obeys_act]
      exact act_congr action view ih

@[simp]
theorem obeys_ite (post : α → View → Prop) (condition : Prop) [Decidable condition]
    (left right : Routine Answer α) (view : View) :
    Obeys rules post (if condition then left else right) view ↔
      if condition then Obeys rules post left view else Obeys rules post right view := by
  split <;> exact Iff.rfl

theorem Obeys.mono {post post' : α → View → Prop} {routine : Routine Answer α}
    {view : View} (hobeys : Obeys rules post routine view)
    (hpost : ∀ result after, post result after → post' result after) :
    Obeys rules post' routine view := by
  induction routine generalizing view with
  | done result => exact hpost result view hobeys
  | act action next ih =>
      intro seen hseen
      obtain ⟨hallowed, hnext⟩ := hobeys seen hseen
      exact ⟨hallowed, fun answer after heffect => ih answer (hnext answer after heffect)⟩

/-- Rules that allow everything are obeyed. -/
theorem obeys_of_allows {post : α → View → Prop} (hallows : ∀ action view, rules.allows action view)
    (hpost : ∀ result view, post result view) (routine : Routine Answer α) (view : View) :
    Obeys rules post routine view := by
  induction routine generalizing view with
  | done result => exact hpost result view
  | act action next ih =>
      exact fun seen _ => ⟨hallows action seen, fun answer after _ => ih answer after⟩

/-- What others do leaves a routine obedient, if they can do it in one go and leave its
results as they are. -/
theorem Obeys.others {post : α → View → Prop} {routine : Routine Answer α}
    {view seen : View} (hobeys : Obeys rules post routine view)
    (htrans : ∀ {u v w}, rules.others u v → rules.others v w → rules.others u w)
    (hpost : ∀ {result u v}, rules.others u v → post result u → post result v)
    (hothers : rules.others view seen) : Obeys rules post routine seen := by
  cases routine with
  | done result => exact hpost hothers hobeys
  | act action next => exact fun later hlater => hobeys later (htrans hothers hlater)

/-- The next action of an obedient routine is allowed. -/
theorem Obeys.allowed {post : α → View → Prop} {action : Action}
    {next : Answer action → Routine Answer α} {view : View}
    (hobeys : Obeys rules post (.act action next) view) (hrefl : rules.others view view) :
    rules.allows action view :=
  (hobeys view hrefl).1

/-- An obedient routine is still so after its next action. -/
theorem Obeys.after {post : α → View → Prop} {action : Action}
    {next : Answer action → Routine Answer α} {view after : View} {answer : Answer action}
    (hobeys : Obeys rules post (.act action next) view) (hrefl : rules.others view view)
    (heffect : rules.effect action answer view after) : Obeys rules post (next answer) after :=
  (hobeys view hrefl).2 answer after heffect

/-! ### Parts with fewer actions -/

section Through

variable {Part : Type} (embed : Part → Action)

/-- The rules as far as they concern such a part. -/
def Rules.through (rules : Rules Answer View) : Rules (fun part => Answer (embed part)) View where
  others := rules.others
  allows part := rules.allows (embed part)
  effect part := rules.effect (embed part)

@[simp]
theorem obeys_through (post : α → View → Prop)
    (routine : Routine (fun part => Answer (embed part)) α) (view : View) :
    Obeys rules post (routine.through embed) view ↔
      Obeys (rules.through embed) post routine view := by
  induction routine generalizing view with
  | done result => exact Iff.rfl
  | act part next ih => exact act_congr (embed part) view ih

end Through

end Parts

/-! ## Views that are histories -/

/-- Rules in terms of what the routine itself has done so far. -/
def Rules.ofHistory (allows : Action → List (Event Answer) → Prop) :
    Rules Answer (List (Event Answer)) where
  others past seen := seen = past
  allows := allows
  effect action answer past now := now = past ++ [⟨action, answer⟩]

@[simp]
theorem obeys_ofHistory_act (allows : Action → List (Event Answer) → Prop)
    (post : α → List (Event Answer) → Prop) (action : Action)
    (next : Answer action → Routine Answer α) (past : List (Event Answer)) :
    Obeys (.ofHistory allows) post (.act action next) past ↔
      allows action past ∧
        ∀ answer, Obeys (.ofHistory allows) post (next answer) (past ++ [⟨action, answer⟩]) := by
  simp [obeys_act, Rules.ofHistory]

/-- Rules that only tell which actions there may be at all. -/
def Rules.ofActions (allows : Action → Prop) : Rules Answer Unit where
  others _ _ := True
  allows action _ := allows action
  effect _ _ _ _ := True

@[simp]
theorem obeys_ofActions_act (allows : Action → Prop) (post : α → Unit → Prop)
    (action : Action) (next : Answer action → Routine Answer α) (view : Unit) :
    Obeys (.ofActions allows) post (.act action next) view ↔
      allows action ∧ ∀ answer, Obeys (.ofActions allows) post (next answer) () := by
  constructor
  · intro hobeys
    obtain ⟨hallowed, hnext⟩ := hobeys () trivial
    exact ⟨hallowed, fun answer => hnext answer () trivial⟩
  · rintro ⟨hallowed, hnext⟩ seen -
    exact ⟨hallowed, fun answer after _ => hnext answer⟩

/-- The routine performs only actions of one kind, whatever the answers. -/
abbrev Only (allows : Action → Prop) (routine : Routine Answer α) : Prop :=
  Obeys (.ofActions allows) (fun _ _ => True) routine ()

theorem Only.imp {allows allows' : Action → Prop} {routine : Routine Answer α}
    (honly : Only allows routine) (hallows : ∀ action, allows action → allows' action) :
    Only allows' routine := by
  induction routine with
  | done result => trivial
  | act action next ih =>
      obtain ⟨haction, hnext⟩ := (obeys_ofActions_act _ _ _ _ _).mp honly
      refine (obeys_ofActions_act _ _ _ _ _).mpr ⟨hallows action haction, ?_⟩
      exact fun answer => ih answer (hnext answer)

/-- A part keeps to actions of one kind if it does so by itself. -/
theorem only_through {Part : Type} {embed : Part → Action} {allows : Action → Prop}
    {routine : Routine (fun part => Answer (embed part)) α} :
    Only allows (routine.through embed) ↔ Only (fun part => allows (embed part)) routine :=
  obeys_through embed _ routine ()

theorem only_perform {allows : Action → Prop} {action : Action} (haction : allows action) :
    Only allows (perform action : Routine Answer (Answer action)) :=
  (obeys_ofActions_act _ _ _ _ _).mpr ⟨haction, fun _ => trivial⟩

theorem only_bind {allows : Action → Prop} {first : Routine Answer α}
    {second : α → Routine Answer β} (hfirst : Only allows first)
    (hsecond : ∀ result, Only allows (second result)) : Only allows (first >>= second) := by
  rw [Only, obeys_bind]
  exact hfirst.mono fun result _ _ => hsecond result

/-! ## Alone -/

section Alone

variable {σ : Type} (step : (action : Action) → σ → Answer action × σ)

/-- What is done by a routine that is performed with nothing in between. -/
def events : Routine Answer α → σ → List (Event Answer)
  | .done _, _ => []
  | .act action next, state =>
      ⟨action, (step action state).1⟩ ::
        (next (step action state).1).events (step action state).2

@[simp]
theorem run_bind (first : Routine Answer α) (second : α → Routine Answer β) (state : σ) :
    (first >>= second).run step state =
      (second (first.run step state).1).run step (first.run step state).2 := by
  change (first.bind second).run step state = _
  induction first generalizing state with
  | done result => rfl
  | act action next ih => exact ih (step action state).1 (step action state).2

@[simp]
theorem events_bind (first : Routine Answer α) (second : α → Routine Answer β) (state : σ) :
    (first >>= second).events step state =
      first.events step state ++
        (second (first.run step state).1).events step (first.run step state).2 := by
  change (first.bind second).events step state = _
  induction first generalizing state with
  | done result => rfl
  | act action next ih =>
      exact congrArg (⟨action, (step action state).1⟩ :: ·)
        (ih (step action state).1 (step action state).2)

/-- What every allowed action keeps is kept by a routine that performs no others. -/
theorem Only.run {allows : Action → Prop} {kept : σ → Prop}
    (hkept : ∀ action state, allows action → kept state → kept (step action state).2)
    {routine : Routine Answer α} (honly : Only allows routine) {state : σ}
    (hstate : kept state) : kept (routine.run step state).2 := by
  induction routine generalizing state with
  | done result => exact hstate
  | act action next ih =>
      obtain ⟨hallowed, hnext⟩ := (obeys_ofActions_act _ _ _ _ _).mp honly
      exact ih (step action state).1 (hnext _) (hkept action state hallowed hstate)

end Alone

end TagRelay.Routine
