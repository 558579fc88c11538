import Mathlib.Data.List.Perm.Subperm
import TagRelay.Proofs.Metrics.Tallies

/-!
# Where counting goes

Counting under a key changes one series of a tally: the one that the key shares, or a new one
of its own.  So a key is shown with what was counted under every key that shares its
fingerprint, and with its own count where there is no other.
-/

namespace TagRelay.Tally

variable {κ : Type} [Labelled κ]

theorem sharing_congr {key other : κ} (hshared : sharing key other = true) (third : κ) :
    sharing third key = sharing third other := by
  have hsame : Labelled.fingerprint key = Labelled.fingerprint other := eq_of_beq hshared
  rw [sharing, sharing, hsame]

/-- What is counted is seen by every key that shares the one it was counted under. -/
theorem count_add (key other : κ) (n : Nat) (tally : Tally κ) :
    count key (add other n tally) =
      count key tally + if sharing key other then n else 0 := by
  induction tally with
  | nil => simp [add, count]
  | cons entry rest ih =>
      obtain ⟨third, m⟩ := entry
      rw [add]
      by_cases hother : sharing other third = true
      · rw [if_pos hother, sharing_congr hother key, count, count]
        split <;> rfl
      · rw [if_neg hother, count, count, ih]
        by_cases hkey : sharing key third = true
        · -- The two keys have their counts in different places.
          have hapart : sharing key other = false := by
            rw [sharing_comm, sharing_congr hkey other]
            exact Bool.eq_false_iff.mpr hother
          simp [hkey, hapart]
        · simp [hkey]

/-- One series is greater by one: the one that the key shares, or else a new one. -/
inductive Increased (key : κ) : Tally κ → Tally κ → Prop
  | begun {tally : Tally κ} (hnew : ∀ other ∈ keys tally, sharing key other = false) :
      Increased key tally (tally ++ [(key, 1)])
  | grown (before : Tally κ) {other : κ} (n : Nat) (after : Tally κ)
      (hshared : sharing key other = true) :
      Increased key (before ++ (other, n) :: after) (before ++ (other, n + 1) :: after)

theorem Increased.cons {key other : κ} {tally later : Tally κ}
    (hincreased : Increased key tally later) (hother : sharing key other = false) (n : Nat) :
    Increased key ((other, n) :: tally) ((other, n) :: later) := by
  cases hincreased with
  | begun hnew => exact .begun (List.forall_mem_cons.mpr ⟨hother, hnew⟩)
  | grown before m after hshared => exact .grown ((other, n) :: before) m after hshared

theorem increased_add (key : κ) (tally : Tally κ) : Increased key tally (tally.add key 1) := by
  induction tally with
  | nil => exact .begun (by simp [keys])
  | cons entry rest ih =>
      obtain ⟨other, n⟩ := entry
      rw [add]
      by_cases hother : sharing key other = true
      · rw [if_pos hother]
        exact .grown [] n rest hother
      · rw [if_neg hother]
        exact ih.cons (Bool.eq_false_iff.mpr hother) n

/-! ## Several keys -/

/-- Counts once under each key. -/
def addAll (names : List κ) (tally : Tally κ) : Tally κ :=
  names.foldl (fun tally key => tally.add key 1) tally

@[simp]
theorem addAll_cons (key : κ) (names : List κ) (tally : Tally κ) :
    addAll (key :: names) tally = addAll names (tally.add key 1) := rfl

theorem addAll_append (names others : List κ) (tally : Tally κ) :
    addAll (names ++ others) tally = addAll others (addAll names tally) :=
  List.foldl_append

/-- One series after the other is greater by one, for each of the keys. -/
inductive IncreasedBy : List κ → Tally κ → Tally κ → Prop
  | nil (tally : Tally κ) : IncreasedBy [] tally tally
  | cons {key : κ} {names : List κ} {tally between later : Tally κ}
      (hfirst : Increased key tally between) (hrest : IncreasedBy names between later) :
      IncreasedBy (key :: names) tally later

theorem increasedBy_addAll (names : List κ) (tally : Tally κ) :
    IncreasedBy names tally (addAll names tally) := by
  induction names generalizing tally with
  | nil => exact .nil tally
  | cons key names ih => exact .cons (increased_add key tally) (ih (tally.add key 1))

theorem total_addAll (names : List κ) (tally : Tally κ) :
    (addAll names tally).total = tally.total + names.length := by
  induction names generalizing tally with
  | nil => rfl
  | cons key names ih =>
      rw [addAll_cons, ih, total_add, List.length_cons]
      omega

theorem count_addAll (key : κ) (names : List κ) (tally : Tally κ) :
    count key (addAll names tally) = count key tally + names.countP (sharing key) := by
  induction names generalizing tally with
  | nil => rfl
  | cons other names ih =>
      rw [addAll_cons, ih, count_add, List.countP_cons]
      omega

theorem mem_keys_addAll {key : κ} {names : List κ} {tally : Tally κ}
    (hkey : key ∈ keys (addAll names tally)) : key ∈ keys tally ∨ key ∈ names := by
  induction names generalizing tally with
  | nil => exact Or.inl hkey
  | cons other names ih =>
      rcases ih hkey with hbefore | hmem
      · rcases mem_keys_add hbefore with hkey | rfl
        · exact Or.inl hkey
        · exact Or.inr List.mem_cons_self
      · exact Or.inr (List.mem_cons_of_mem other hmem)

theorem Apart.addAll {tally : Tally κ} (hapart : Apart (keys tally)) (names : List κ) :
    Apart (keys (addAll names tally)) := by
  induction names generalizing tally with
  | nil => exact hapart
  | cons key names ih => exact ih (hapart.add key 1)

theorem Apart.nodup {names : List κ} (hapart : Apart names) : names.Nodup := by
  refine List.Pairwise.imp ?_ hapart
  rintro key other hunshared rfl
  simp [sharing_self] at hunshared

/-- There are no more series than keys that were ever counted. -/
theorem length_le_of_keys {tally : Tally κ} (hapart : Apart (keys tally)) {names : List κ}
    (hmem : ∀ key ∈ keys tally, key ∈ names) : tally.length ≤ names.length := by
  have hsub := List.subperm_of_subset hapart.nodup hmem
  simpa [keys] using hsub.length_le

end TagRelay.Tally
