import TagRelay.Json.Free
import TagRelay.Proofs.Json.Reading

/-!
# Reading what was written

A value that was read settles when it is written down again: the reader finds the same value
in what is written for it.  Fields of a record settle one by one, a missing field together
with its default.
-/

namespace TagRelay.Json

variable {α : Type}

/-- What the reader finds it finds again in what is written for it. -/
def Settles (read : Json → Decode α) (write : α → Json) : Prop :=
  ∀ ⦃value a⦄, read value = .ok a → read (write a) = .ok a

theorem asString_settles : Settles asString .string := fun _ _ _ => rfl

theorem asBool_settles : Settles asBool .bool := fun _ _ _ => rfl

theorem asNat_int {limit n : Nat} (hn : n < limit) : asNat limit (.int n) = .ok n := by
  have hnumber : 0 ≤ (n : Int) ∧ (n : Int) < limit := by omega
  rw [asNat, if_pos hnumber, Int.toNat_natCast]

theorem lt_of_asNat {limit n : Nat} {value : Json} (hread : asNat limit value = .ok n) :
    n < limit := by
  cases value with
  | int number =>
      rw [asNat] at hread
      split at hread
      · cases hread
        omega
      · nomatch hread
  | null | bool | float | string | array | object => cases hread

theorem asNat_settles (limit : Nat) : Settles (asNat limit) fun n => .int n :=
  fun _ _ hread => asNat_int (lt_of_asNat hread)

theorem asWord_settles {words : List (String × α)} {word : α → String}
    (hword : ∀ a, words.lookup (word a) = some a) :
    Settles (asWord .json words) fun a => .string (word a) :=
  fun _ a _ => wordIn_eq_ok_iff.mpr (hword a)

theorem asList_settles {read : Json → Decode α} {write : α → Json} (hsettles : Settles read write) :
    Settles (asList read) fun items => .array (items.map write) := by
  intro value items hread
  cases value with
  | array values =>
      rw [asList, mapM_eq_ok_iff] at hread ⊢
      rw [List.forall₂_map_left_iff]
      induction hread with
      | nil => exact .nil
      | cons hitem _ ih => exact .cons (hsettles hitem) ih
  | null | bool | int | float | string | object => cases hread

/-- A value that is not written as null may be missing. -/
theorem asOption_settles {read : Json → Decode α} {write : α → Json}
    (hsettles : Settles read write) (hwrite : ∀ a, write a ≠ .null) :
    Settles (asOption read) (ofOption write) := by
  intro value result hread
  by_cases hvalue : value = .null
  · rw [hvalue] at hread
    cases hread
    rfl
  · rw [asOption_of_ne_null read hvalue, map_eq_ok_iff] at hread
    obtain ⟨a, hread, rfl⟩ := hread
    rw [ofOption, asOption_of_ne_null read (hwrite a), hsettles hread]
    rfl

/-- A free value that may be missing is not null when it is there. -/
theorem asFree_settles : Settles (asOption (asFree .json)) (ofOption id) := by
  intro value result hread
  cases value <;> cases hread <;> rfl

/-! ## Fields -/

variable {names : List String} {item : Json → Decode α} {write : α → Json}
  {fields written : List (String × Json)} {a : α}

theorem required_again (hread : required names item fields = .ok a) (hsettles : Settles item write)
    (hwritten : fieldNamed names written = .ok (some (write a))) :
    required names item written = .ok a := by
  obtain ⟨found, -, hfound⟩ := bind_eq_ok_iff.mp hread
  apply bind_eq_ok_iff.mpr
  cases found with
  | none => nomatch hfound
  | some value => exact ⟨_, hwritten, hsettles hfound⟩

theorem withDefault_again {default : α} (hread : withDefault names default item fields = .ok a)
    (hsettles : Settles item write) (hdefault : item (write default) = .ok default)
    (hwritten : fieldNamed names written = .ok (some (write a))) :
    withDefault names default item written = .ok a := by
  obtain ⟨found, -, hfound⟩ := bind_eq_ok_iff.mp hread
  apply bind_eq_ok_iff.mpr
  cases found with
  | none =>
      cases hfound
      exact ⟨_, hwritten, hdefault⟩
  | some value => exact ⟨_, hwritten, hsettles hfound⟩

theorem optional_again {found : Option α} (hread : optional names item fields = .ok found)
    (hsettles : Settles (asOption item) (ofOption write))
    (hwritten : fieldNamed names written = .ok (some (ofOption write found))) :
    optional names item written = .ok found :=
  withDefault_again hread hsettles rfl hwritten

end TagRelay.Json
