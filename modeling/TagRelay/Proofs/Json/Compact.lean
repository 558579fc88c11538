import TagRelay.Json.Printer
import TagRelay.Proofs.Text.Blank

/-!
# Ends of a compact text

The compact text of a value neither begins nor ends with a blank: no token does, and there is
nothing between them.
-/

namespace TagRelay

open Text (isBlank Solid)

namespace Decimal

/-! ## Numbers -/

/-- A character of ASCII that is seen. -/
def isVisible (c : Char) : Bool := 0x21 ≤ c.toNat && c.toNat ≤ 0x7E

theorem isBlank_of_isVisible {c : Char} (hvisible : isVisible c = true) : isBlank c = false := by
  simp only [isVisible, Bool.and_eq_true, decide_eq_true_eq] at hvisible
  simp only [isBlank, Bool.or_eq_false_iff, Bool.and_eq_false_iff, decide_eq_false_iff_not,
    beq_eq_false_iff_ne]
  omega

abbrev Visible (text : List Char) : Prop := text.all isVisible = true

theorem Visible.append {text more : List Char} (htext : Visible text) (hmore : Visible more) :
    Visible (text ++ more) := by
  rw [Visible, List.all_append, htext, hmore]
  rfl

theorem Visible.sublist {text part : List Char} (htext : Visible text) (hpart : part ⊆ text) :
    Visible part :=
  List.all_eq_true.mpr fun c hc => List.all_eq_true.mp htext c (hpart hc)

theorem Visible.solid {text : List Char} (htext : Visible text) (hnonempty : text ≠ []) :
    Solid text :=
  .of_all hnonempty fun c hc => isBlank_of_isVisible (List.all_eq_true.mp htext c hc)

theorem visible_digits (n : Nat) : Visible (digits n) := by
  apply List.all_eq_true.mpr
  intro c hc
  have hdigit : c.isDigit = true := Nat.isDigit_of_mem_toDigits (by decide) (by decide) hc
  simp only [Char.isDigit, Bool.and_eq_true, decide_eq_true_eq, UInt32.le_iff_toNat_le,
    ge_iff_le] at hdigit
  change 48 ≤ c.toNat ∧ c.toNat ≤ 57 at hdigit
  simp only [isVisible, Bool.and_eq_true, decide_eq_true_eq]
  omega

theorem visible_replicate (n : Nat) : Visible (List.replicate n '0') := by
  apply List.all_eq_true.mpr
  intro c hc
  rw [(List.mem_replicate.mp hc).2]
  rfl

theorem digits_ne_nil (n : Nat) : digits n ≠ [] := Nat.toDigits_ne_nil

theorem solid_wholeText (n : Int) : Solid (wholeText n).toList := by
  have hsign : Visible ['-'] := by decide
  rw [wholeText]
  split
  · rw [String.toList_ofList]
    exact (hsign.append (visible_digits _)).solid (by simp)
  · rw [String.toList_ofList]
    exact (visible_digits _).solid (digits_ne_nil _)

theorem visible_positional (layout : Layout) (n : Nat) (point : Int) :
    Visible (layout.positional (digits n) point) ∧ layout.positional (digits n) point ≠ [] := by
  have hdigits := visible_digits n
  have hpoint : Visible ['.'] := by decide
  rw [Layout.positional]
  split
  · have hzero : Visible ['0', '.'] := by decide
    exact ⟨(hzero.append (visible_replicate _)).append hdigits, by simp⟩
  · split
    · have hmark : Visible (if layout.wholeMark then ['.', '0'] else []) := by split <;> decide
      exact ⟨(hdigits.append (visible_replicate _)).append hmark, by simp [digits_ne_nil]⟩
    · have htake := hdigits.sublist (List.take_subset point.toNat (digits n))
      have hdrop := hdigits.sublist (List.drop_subset point.toNat (digits n))
      exact ⟨(htake.append hpoint).append hdrop, by simp⟩

theorem visible_scientific (n : Nat) (point : Int) :
    Visible (scientific (digits n) point) ∧ scientific (digits n) point ≠ [] := by
  have hdigits := visible_digits n
  have htake := hdigits.sublist (List.take_subset 1 (digits n))
  have hdrop := hdigits.sublist (List.drop_subset 1 (digits n))
  have hpoint : Visible ['.'] := by decide
  have hfraction : Visible
      (if ((digits n).drop 1).isEmpty then [] else '.' :: (digits n).drop 1) := by
    split
    · rfl
    · exact hpoint.append hdrop
  have hsign : Visible ['e', if point - 1 < 0 then '-' else '+'] := by split <;> decide
  exact ⟨((htake.append hfraction).append hsign).append (visible_digits _), by simp [scientific]⟩

theorem visible_magnitude (layout : Layout) (x : Float) :
    Visible (layout.magnitude x) ∧ layout.magnitude x ≠ [] := by
  rw [Layout.magnitude]
  split
  · split <;> decide
  · simp only
    split
    · exact visible_positional layout _ _
    · split
      · exact visible_positional layout _ _
      · exact visible_scientific _ _

theorem solid_text (layout : Layout) (x : Float) : Solid (layout.text x).toList := by
  rw [Layout.text]
  split
  · exact Visible.solid (by decide) (by decide)
  · split
    · split <;> exact Visible.solid (by decide) (by decide)
    · rw [String.toList_ofList]
      obtain ⟨hvisible, hnonempty⟩ := visible_magnitude layout x
      have hsign : Visible (if isNegative x then ['-'] else []) := by split <;> decide
      exact (hsign.append hvisible).solid (by simp [hnonempty])

end Decimal

namespace Json

theorem Token.solid_chars (token : Token) : Solid token.chars := by
  cases token with
  | int number => exact Decimal.solid_wholeText number
  | float number => exact Decimal.solid_text .data number
  | string text =>
      have hmark : Solid ['"'] := Decimal.Visible.solid (by decide) (by decide)
      exact hmark.around hmark _
  | bool flag => cases flag <;> exact Decimal.Visible.solid (by decide) (by decide)
  | _ => exact Decimal.Visible.solid (by decide) (by decide)

theorem solid_flatMap_chars {tokens : List Token} (htokens : tokens ≠ []) :
    Solid (tokens.flatMap Token.chars) := by
  induction tokens with
  | nil => exact absurd rfl htokens
  | cons token rest ih =>
      rw [List.flatMap_cons]
      cases rest with
      | nil => simpa using token.solid_chars
      | cons next rest => exact token.solid_chars.append (ih (by simp))

theorem tokens_ne_nil (value : Json) : value.tokens ≠ [] := by
  cases value with
  | array items => cases items <;> simp [tokens]
  | object fields => cases fields <;> simp [tokens]
  | _ => simp [tokens]

theorem trimList_compact (value : Json) :
    Text.trimList value.compact.toList = value.compact.toList := by
  rw [compact, String.toList_ofList]
  exact (solid_flatMap_chars value.tokens_ne_nil).trimList_eq

end Json

end TagRelay
