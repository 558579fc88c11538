import TagRelay.Session.Memory
import TagRelay.Session.Simulated

/-!
# Open sessions

A session is opened by connecting it and by nothing else, and closing it closes it,
whatever the calls answer.  Both the session in memory and the simulated one are of
this kind.
-/

namespace TagRelay.Session

/-- A notion of being open that calls respect. -/
structure Openness {σ : Type} [TagSession σ] (isOpen : σ → Prop) : Prop where
  close : ∀ session, ¬ isOpen (TagSession.call .close session).2
  opened : ∀ (c : Call) (session : σ), isOpen (TagSession.call c session).2 →
    isOpen session ∨ ∃ target, c = .connect target

end TagRelay.Session

namespace TagRelay

open Session (Openness)

namespace Memory

theorem openness : Openness fun m : Memory => m.isOpen = true where
  close _ := by simp [TagSession.call, call, close, isOpen]
  opened c m hopen := by
    cases c with
    | connect target => exact Or.inr ⟨target, rfl⟩
    | close => simp [TagSession.call, call, close, isOpen] at hopen
    | read paths =>
        refine Or.inl ?_
        simp only [TagSession.call, call, read] at hopen
        split at hopen
        · exact hopen
        · split at hopen
          · split at hopen <;> exact hopen
          · exact hopen
    | write path value =>
        refine Or.inl ?_
        simp only [TagSession.call, call, write] at hopen
        split at hopen
        · exact hopen
        · split at hopen <;> exact hopen
    | info =>
        refine Or.inl ?_
        simp only [TagSession.call, call, info] at hopen
        split at hopen <;> exact hopen

end Memory

namespace Simulated

theorem exists_drawInts (count : Nat) (least greatest : Int) (s : Simulated) :
    ∃ random, (s.drawInts count least greatest).2 = { s with random := random } := by
  induction count generalizing s with
  | zero => exact ⟨s.random, rfl⟩
  | succ count ih =>
      obtain ⟨random, heq⟩ := ih (s.drawInt least greatest).2
      exact ⟨random, heq⟩

theorem exists_generate (s : Simulated) (generator : Generator) :
    ∃ random, (s.generate generator).2 = { s with random := random } := by
  cases generator with
  | randomInts => exact exists_drawInts 5 0 100 s
  | randomInt | randomReal | randomText | randomBool => exact ⟨s.following s.random, rfl⟩
  | now | triangle | sawTooth | square | squareBool => exact ⟨s.random, rfl⟩

theorem exists_valueOf (s : Simulated) (path : String) :
    ∃ random, (s.valueOf path).2 = { s with random := random } := by
  rw [valueOf]
  split
  · exact ⟨s.random, rfl⟩
  · split
    · exact exists_generate s _
    · exact ⟨s.random, rfl⟩

/-- Reading draws random numbers and changes nothing else. -/
theorem exists_readings (s : Simulated) (paths : List String) :
    ∃ random, (s.readings paths).2 = { s with random := random } := by
  induction paths generalizing s with
  | nil => exact ⟨s.random, rfl⟩
  | cons path rest ih =>
      obtain ⟨drawn, hvalue⟩ := exists_valueOf s path
      obtain ⟨random, hrest⟩ := ih (s.valueOf path).2
      refine ⟨random, ?_⟩
      change ((s.valueOf path).2.readings rest).2 = _
      rw [hrest, hvalue]

theorem readings_opened (s : Simulated) (paths : List String) :
    (s.readings paths).2.opened = s.opened := by
  obtain ⟨random, heq⟩ := exists_readings s paths
  rw [heq]

theorem openness : Openness fun s : Simulated => s.opened.isSome = true where
  close _ := by simp [TagSession.call, call, close]
  opened c s hopen := by
    cases c with
    | connect target => exact Or.inr ⟨target, rfl⟩
    | close => simp [TagSession.call, call, close] at hopen
    | read paths =>
        refine Or.inl ?_
        simp only [TagSession.call, call, read] at hopen
        split at hopen
        · rwa [readings_opened] at hopen
        · exact hopen
    | write path value =>
        refine Or.inl ?_
        simp only [TagSession.call, call, write] at hopen
        split at hopen <;> exact hopen
    | info =>
        refine Or.inl ?_
        simp only [TagSession.call, call, info] at hopen
        split at hopen <;> exact hopen

end Simulated

end TagRelay
