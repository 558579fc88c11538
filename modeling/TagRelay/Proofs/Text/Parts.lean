import Mathlib.Data.List.Basic
import TagRelay.Text.Parts

/-!
# Taking a text apart

A text that was put together with a separator comes apart into the parts it was made of, as
long as the separator is in none of them.
-/

namespace TagRelay.Text

variable {separator : Char}

theorem exactly_self (c : Char) (rest : List Char) : exactly c (c :: rest) = some rest :=
  if_pos rfl

theorem exactly_of_ne {c other : Char} (hother : other ≠ c) (rest : List Char) :
    exactly c (other :: rest) = none :=
  if_neg hother

theorem splitFirst_append {left : List Char} (hleft : separator ∉ left) (right : List Char) :
    splitFirst separator (left ++ separator :: right) = some (left, right) := by
  induction left with
  | nil => simp [splitFirst]
  | cons c left ih =>
      obtain ⟨hc, hleft⟩ := List.ne_and_not_mem_of_not_mem_cons hleft
      rw [List.cons_append, splitFirst, if_neg (Ne.symm hc), ih hleft]
      rfl

theorem splitFirst_eq_some_iff {text left right : List Char} :
    splitFirst separator text = some (left, right) ↔
      text = left ++ separator :: right ∧ separator ∉ left := by
  constructor
  · intro hsplit
    induction text generalizing left with
    | nil => nomatch hsplit
    | cons c text ih =>
        rw [splitFirst] at hsplit
        split at hsplit
        case isTrue hc =>
          cases hsplit
          simp [hc]
        case isFalse hc =>
          obtain ⟨⟨first, rest⟩, hfirst, hparts⟩ := Option.map_eq_some_iff.mp hsplit
          cases hparts
          obtain ⟨rfl, hnone⟩ := ih hfirst
          exact ⟨rfl, List.not_mem_cons_of_ne_of_not_mem (Ne.symm hc) hnone⟩
  · rintro ⟨rfl, hleft⟩
    exact splitFirst_append hleft right

theorem pieces_of_notMem {text : List Char} (htext : separator ∉ text) :
    pieces separator text = [text] := by
  induction text with
  | nil => rfl
  | cons c text ih =>
      obtain ⟨hc, htext⟩ := List.ne_and_not_mem_of_not_mem_cons htext
      rw [pieces, if_neg (Ne.symm hc), ih htext]

theorem pieces_append {text : List Char} (htext : separator ∉ text) (rest : List Char) :
    pieces separator (text ++ separator :: rest) = text :: pieces separator rest := by
  induction text with
  | nil => simp [pieces]
  | cons c text ih =>
      obtain ⟨hc, htext⟩ := List.ne_and_not_mem_of_not_mem_cons htext
      rw [List.cons_append, pieces, if_neg (Ne.symm hc), ih htext]

/-- The parts of a joined text are the items. -/
theorem pieces_join {between : String} (hbetween : between.toList = [separator])
    {items : List String} (hitems : items ≠ [])
    (hseparator : ∀ item ∈ items, separator ∉ item.toList) :
    pieces separator (join between items).toList = items.map String.toList := by
  induction items with
  | nil => exact absurd rfl hitems
  | cons item items ih =>
      obtain ⟨hitem, hrest⟩ := List.forall_mem_cons.mp hseparator
      cases items with
      | nil => exact pieces_of_notMem hitem
      | cons next items =>
          rw [join, String.toList_append, String.toList_append, hbetween, List.append_assoc,
            List.singleton_append, pieces_append hitem, ih (by simp) hrest]
          · rfl
          · simp

theorem afterPrefix_eq_some_iff {lead text rest : List Char} :
    afterPrefix lead text = some rest ↔ text = lead ++ rest := by
  induction lead generalizing text with
  | nil => simp [afterPrefix]
  | cons a lead ih =>
      cases text with
      | nil => simp [afterPrefix]
      | cons b text =>
          rw [afterPrefix]
          by_cases hsame : a = b
          · simp [hsame, ih]
          · simp [hsame, Ne.symm hsame]

end TagRelay.Text
