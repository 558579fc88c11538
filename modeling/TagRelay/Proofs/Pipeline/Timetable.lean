import Mathlib.Data.List.Basic

/-!
# Timetables of cycles

A cycle starts when the one before it has ended, but not before a period has passed since that
one started.  So the starts follow from the first of them and from the ends: a cycle that takes
longer than the period moves all later ones, and no two starts come closer than the period.
-/

namespace TagRelay.Poll

/-- When a cycle starts after one with this start and this end. -/
def nextStart (period start stop : Nat) : Nat := max (start + period) stop

/-- The starts of the cycles, of which all but the last have ended. -/
def timetable (period first : Nat) (ends : List Nat) : List Nat :=
  ends.scanl (nextStart period) first

/-- The last of the starts, which may be yet to come. -/
def due (period first : Nat) (ends : List Nat) : Nat := ends.foldl (nextStart period) first

section Timetable

variable {period first clock : Nat} {starts ends : List Nat}

@[simp]
theorem due_append_one (stop : Nat) :
    due period first (ends ++ [stop]) = max (due period first ends + period) stop := by
  rw [due, List.foldl_append]
  rfl

theorem timetable_append_one (stop : Nat) :
    timetable period first (ends ++ [stop]) =
      timetable period first ends ++ [due period first (ends ++ [stop])] := by
  rw [timetable, List.scanl_append, due_append_one]
  rfl

@[simp]
theorem length_timetable : (timetable period first ends).length = ends.length + 1 :=
  List.length_scanl

theorem timetable_zero : (timetable period first ends)[0]? = some first :=
  List.getElem?_scanl_zero

theorem timetable_succ {k start stop : Nat}
    (hstart : (timetable period first ends)[k]? = some start) (hstop : ends[k]? = some stop) :
    (timetable period first ends)[k + 1]? = some (nextStart period start stop) := by
  rw [timetable] at hstart
  rw [timetable, List.getElem?_succ_scanl, hstart, hstop]
  rfl

/-! ## On schedule -/

/-- The cycles that have started by a time did so when they were due, and no other was due
before that time. -/
structure OnSchedule (period first clock : Nat) (starts ends : List Nat) : Prop where
  begins : starts[0]? = some first ∨ starts[0]? = none ∧ clock ≤ first
  follows : ∀ k start stop, starts[k]? = some start → ends[k]? = some stop →
    starts[k + 1]? = some (max (start + period) stop) ∨
      starts[k + 1]? = none ∧ clock ≤ max (start + period) stop
  paired : ends.length ≤ starts.length ∧ starts.length ≤ ends.length + 1

/-- While a cycle is going on, all that have started are on the timetable. -/
theorem onSchedule_of_cycling (period first clock : Nat) (ends : List Nat) :
    OnSchedule period first clock (timetable period first ends) ends where
  begins := Or.inl timetable_zero
  follows k start stop hstart hstop := Or.inl (timetable_succ hstart hstop)
  paired := by simp

/-- Between two cycles, the next one is the only one on the timetable that has not started. -/
theorem onSchedule_of_waiting
    (hstarts : starts ++ [due period first ends] = timetable period first ends)
    (hclock : clock ≤ due period first ends) : OnSchedule period first clock starts ends := by
  have hlength : starts.length = ends.length := by
    simpa using congrArg List.length hstarts
  have hlast : (timetable period first ends)[starts.length]? = some (due period first ends) := by
    rw [← hstarts]
    exact List.getElem?_concat_length
  have hearlier : ∀ k, k < starts.length → starts[k]? = (timetable period first ends)[k]? := by
    intro k hk
    rw [← hstarts, List.getElem?_append_left hk]
  constructor
  case begins =>
    by_cases hnone : starts.length = 0
    · refine Or.inr ⟨by simp [hnone], ?_⟩
      rw [hnone, timetable_zero] at hlast
      exact Option.some.inj hlast ▸ hclock
    · exact Or.inl ((hearlier 0 (Nat.pos_of_ne_zero hnone)).trans timetable_zero)
  case follows =>
    intro k start stop hstart hstop
    have hk : k < starts.length := (List.getElem?_eq_some_iff.mp hstart).1
    rw [hearlier k hk] at hstart
    have hnext := timetable_succ hstart hstop
    by_cases hlater : k + 1 < starts.length
    · exact Or.inl ((hearlier (k + 1) hlater).trans hnext)
    · have hlength : k + 1 = starts.length := by omega
      refine Or.inr ⟨by simp [hlength], ?_⟩
      rw [hlength, hlast] at hnext
      exact Nat.le_trans hclock (Nat.le_of_eq (Option.some.inj hnext))
  case paired => omega

/-- Before a cycle starts, the one before it has started and ended. -/
theorem OnSchedule.earlier (hschedule : OnSchedule period first clock starts ends)
    {k next : Nat} (hnext : starts[k + 1]? = some next) :
    ∃ start stop, starts[k]? = some start ∧ ends[k]? = some stop ∧
      next = max (start + period) stop := by
  have hk : k + 1 < starts.length := (List.getElem?_eq_some_iff.mp hnext).1
  have hpaired := hschedule.paired
  obtain ⟨start, hstart⟩ : ∃ start, starts[k]? = some start :=
    ⟨starts[k], List.getElem?_eq_getElem (by omega)⟩
  obtain ⟨stop, hstop⟩ : ∃ stop, ends[k]? = some stop := by
    have hended : k < ends.length := by omega
    exact ⟨ends[k], List.getElem?_eq_getElem hended⟩
  refine ⟨start, stop, hstart, hstop, ?_⟩
  rcases hschedule.follows k start stop hstart hstop with hsome | ⟨hnone, -⟩
  · exact Option.some.inj (hnext.symm.trans hsome)
  · simp [hnext] at hnone

/-- Cycles never start closer to each other than the period. -/
theorem OnSchedule.apart (hschedule : OnSchedule period first clock starts ends)
    {k start next : Nat} (hstart : starts[k]? = some start)
    (hnext : starts[k + 1]? = some next) : start + period ≤ next := by
  obtain ⟨start', stop, hstart', -, rfl⟩ := hschedule.earlier hnext
  obtain rfl : start = start' := Option.some.inj (hstart.symm.trans hstart')
  exact Nat.le_max_left _ _

/-- The starts when the first one, the period and the lengths of the cycles are known. -/
def cycleStart (first period : Nat) (length : Nat → Nat) : Nat → Nat
  | 0 => first
  | k + 1 => cycleStart first period length k + max period (length k)

/-- So the starts depend on nothing else. -/
theorem OnSchedule.start_eq (hschedule : OnSchedule period first clock starts ends)
    {length : Nat → Nat} (hlength : ∀ k start stop, starts[k]? = some start →
      ends[k]? = some stop → stop = start + length k) {k start : Nat}
    (hstart : starts[k]? = some start) : start = cycleStart first period length k := by
  induction k generalizing start with
  | zero =>
      rcases hschedule.begins with hfirst | ⟨hnone, -⟩
      · rw [hstart] at hfirst
        exact Option.some.inj hfirst
      · simp [hstart] at hnone
  | succ k ih =>
      obtain ⟨before, stop, hbefore, hstop, rfl⟩ := hschedule.earlier hstart
      calc max (before + period) stop
          = max (before + period) (before + length k) := by rw [hlength k before stop hbefore hstop]
        _ = before + max period (length k) := Nat.add_max_add_left before period (length k)
        _ = cycleStart first period length (k + 1) := by rw [ih hbefore, cycleStart]

end Timetable

end TagRelay.Poll
