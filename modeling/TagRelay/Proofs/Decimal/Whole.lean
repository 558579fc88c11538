import Mathlib.Algebra.Group.Nat.Defs
import TagRelay.Decimal.Whole

/-!
# Whole numbers read back

A number comes back from its digits, whatever zeros are put in front of them, and a signed one
from its text.
-/

namespace TagRelay.Decimal

theorem isDigit_of_mem_digits {n : Nat} {c : Char} (hc : c ∈ digits n) : c.isDigit = true :=
  Nat.isDigit_of_mem_toDigits (by decide) (by decide) hc

@[simp]
theorem readDigits_digits (n : Nat) : readDigits (digits n) = some n := by
  have hall : (digits n).all Char.isDigit = true :=
    List.all_eq_true.mpr fun _ => isDigit_of_mem_digits
  have hvalue : Nat.ofDigitChars 10 (digits n) 0 = n := Nat.ofDigitChars_ten_toDigits
  rw [readDigits, if_pos ⟨Nat.toDigits_ne_nil, hall⟩, hvalue]

/-- A text without a sign is read as it stands. -/
theorem readWhole_of_unsigned {text : List Char} (hminus : text.head? ≠ some '-')
    (hplus : text.head? ≠ some '+') : readWhole text = (readDigits text).map Int.ofNat := by
  rw [readWhole.eq_def]
  split
  · exact absurd rfl hminus
  · exact absurd rfl hplus
  · rfl

theorem readWhole_wholeText (n : Int) : readWhole (wholeText n).toList = some n := by
  rw [wholeText]
  split
  case isTrue hnegative =>
    have hvalue : -(n.natAbs : Int) = n := by omega
    rw [String.toList_ofList, readWhole, readDigits_digits]
    exact congrArg some hvalue
  case isFalse hnegative =>
    have hvalue : (n.natAbs : Int) = n := by omega
    have hsign : ∀ c ∈ (digits n.natAbs).head?, c.isDigit = true :=
      fun c hc => isDigit_of_mem_digits (List.mem_of_head? hc)
    have hminus : (digits n.natAbs).head? ≠ some '-' := fun hhead => by
      simpa using hsign '-' hhead
    have hplus : (digits n.natAbs).head? ≠ some '+' := fun hhead => by
      simpa using hsign '+' hhead
    rw [String.toList_ofList, readWhole_of_unsigned hminus hplus, readDigits_digits]
    exact congrArg some hvalue

/-! ## Digits of a fixed width -/

theorem toList_padded (width n : Nat) :
    (padded width n).toList = List.replicate (width - (digits n).length) '0' ++ digits n := by
  rw [padded, String.toList_ofList]

theorem isDigit_of_mem_padded {width n : Nat} {c : Char} (hc : c ∈ (padded width n).toList) :
    c.isDigit = true := by
  rw [toList_padded, List.mem_append] at hc
  rcases hc with hzero | hdigit
  · rw [(List.mem_replicate.mp hzero).2]
    rfl
  · exact isDigit_of_mem_digits hdigit

@[simp]
theorem ofDigitChars_padded (width n : Nat) :
    Nat.ofDigitChars 10 (padded width n).toList 0 = n := by
  have hvalue : Nat.ofDigitChars 10 (digits n) 0 = n := Nat.ofDigitChars_ten_toDigits
  rw [toList_padded, Nat.ofDigitChars_append, Nat.ofDigitChars_replicate_zero, Nat.mul_zero,
    hvalue]

theorem length_padded {width n : Nat} (hwidth : 0 < width) (hn : n < 10 ^ width) :
    (padded width n).toList.length = width := by
  have hlength : (digits n).length ≤ width :=
    (Nat.length_toDigits_le_iff (by decide) hwidth).mpr hn
  rw [toList_padded, List.length_append, List.length_replicate]
  omega

/-! ## The value of digits -/

theorem toNat_of_isDigit {c : Char} (hdigit : c.isDigit = true) : 48 ≤ c.toNat ∧ c.toNat ≤ 57 := by
  simp only [Char.isDigit, Bool.and_eq_true, decide_eq_true_eq] at hdigit
  exact ⟨UInt32.le_iff_toNat_le.mp hdigit.1, UInt32.le_iff_toNat_le.mp hdigit.2⟩

theorem ofDigitChars_lt {figures : List Char} (hfigures : ∀ c ∈ figures, c.isDigit = true)
    (start : Nat) :
    Nat.ofDigitChars 10 figures start < 10 ^ figures.length * (start + 1) := by
  induction figures generalizing start with
  | nil => simp
  | cons c rest ih =>
      have hdigit : c.toNat - '0'.toNat ≤ 9 := by
        have hbounds := toNat_of_isDigit (hfigures c List.mem_cons_self)
        change c.toNat - 48 ≤ 9
        omega
      have hrest := ih (fun other hother => hfigures other (List.mem_cons_of_mem c hother))
        (10 * start + (c.toNat - '0'.toNat))
      rw [Nat.ofDigitChars_cons]
      calc Nat.ofDigitChars 10 rest (10 * start + (c.toNat - '0'.toNat))
          < 10 ^ rest.length * (10 * start + (c.toNat - '0'.toNat) + 1) := hrest
        _ ≤ 10 ^ rest.length * (10 * (start + 1)) := Nat.mul_le_mul_left _ (by omega)
        _ = 10 ^ (c :: rest).length * (start + 1) := by
          rw [List.length_cons, Nat.pow_succ, Nat.mul_assoc]

end TagRelay.Decimal
