import Mathlib.Data.List.Basic
import Mathlib.Data.List.TakeWhile
import TagRelay.Text.Blank

/-!
# Blanks around a text

Blanks at the ends of a text are trimmed, and nothing else is.  A word that becomes a name in
small letters has no character that small letters leave alone and the name does not have.
-/

namespace TagRelay.Text

theorem dropBlank_of_all {blanks : List Char} (hblanks : ∀ c ∈ blanks, isBlank c = true) :
    dropBlank blanks = [] :=
  List.dropWhile_eq_nil_iff.mpr hblanks

theorem trim_of_isMissing {text : String} (hmissing : isMissing text = true) : trim text = "" := by
  rw [trim, trimList, dropBlank_of_all (List.all_eq_true.mp hmissing)]
  rfl

theorem dropBlank_append {blanks : List Char} (hblanks : ∀ c ∈ blanks, isBlank c = true)
    (text : List Char) : dropBlank (blanks ++ text) = dropBlank text :=
  List.dropWhile_append_of_pos hblanks

/-- Blanks around a text make no difference once they are trimmed. -/
theorem trimList_around {before after : List Char} (hbefore : ∀ c ∈ before, isBlank c = true)
    (hafter : ∀ c ∈ after, isBlank c = true) (text : List Char) :
    trimList (before ++ text ++ after) = trimList text := by
  have hreverse : ∀ c ∈ after.reverse, isBlank c = true := by simpa using hafter
  have hsplit : dropBlank (text ++ after) =
      if (dropBlank text).isEmpty then dropBlank after else dropBlank text ++ after :=
    List.dropWhile_append
  rw [trimList, trimList, List.append_assoc, dropBlank_append hbefore, hsplit]
  split
  case isTrue hempty => rw [dropBlank_of_all hafter, List.isEmpty_iff.mp hempty]
  case isFalse => rw [List.reverse_append, dropBlank_append hreverse]

theorem head_dropBlank (text : List Char) :
    ∀ c ∈ (dropBlank text).head?, isBlank c = false := by
  intro c hc
  have hhead := List.head?_dropWhile_not isBlank text
  rw [dropBlank] at hc
  simpa only [Option.mem_def.mp hc] using hhead

theorem dropBlank_eq {text : List Char} (hhead : ∀ c ∈ text.head?, isBlank c = false) :
    dropBlank text = text := by
  cases text with
  | nil => rfl
  | cons c text => rw [dropBlank, List.dropWhile_cons_of_neg (by simp [hhead c rfl])]

theorem trimList_of_all {text : List Char} (hall : ∀ c ∈ text, isBlank c = false) :
    trimList text = text := by
  rw [trimList, dropBlank_eq fun c hc => hall c (List.mem_of_head? hc),
    dropBlank_eq fun c hc => hall c (List.mem_reverse.mp (List.mem_of_head? hc)),
    List.reverse_reverse]

/-- Trimming takes away, so a text that keeps its length has no blank at either end. -/
theorem dropBlank_eq_of_length {text : List Char}
    (hlength : text.length ≤ (trimList text).length) :
    dropBlank text = text ∧ dropBlank text.reverse = text.reverse := by
  have hfirst : (dropBlank text) <:+ text := List.dropWhile_suffix isBlank
  have hlast : dropBlank (dropBlank text).reverse <:+ (dropBlank text).reverse :=
    List.dropWhile_suffix isBlank
  have hbetween := hlast.length_le
  rw [trimList, List.length_reverse] at hlength
  rw [List.length_reverse] at hbetween
  have hsame : dropBlank text = text := hfirst.eq_of_length_le (hlength.trans hbetween)
  rw [hsame] at hlast hlength
  exact ⟨hsame, hlast.eq_of_length_le (by simpa using hlength)⟩

theorem trimList_eq_of_length {text : List Char} (hlength : text.length ≤ (trimList text).length) :
    trimList text = text := by
  obtain ⟨hfirst, hlast⟩ := dropBlank_eq_of_length hlength
  rw [trimList, hfirst, hlast, List.reverse_reverse]

/-- A text that neither begins nor ends with a blank. -/
structure Solid (text : List Char) : Prop where
  nonempty : text ≠ []
  head : ∀ c ∈ text.head?, isBlank c = false
  last : ∀ c ∈ text.getLast?, isBlank c = false

namespace Solid

theorem of_all {text : List Char} (hnonempty : text ≠ [])
    (hall : ∀ c ∈ text, isBlank c = false) : Solid text where
  nonempty := hnonempty
  head c hc := hall c (List.mem_of_head? hc)
  last c hc := hall c (List.mem_of_getLast? hc)

/-- A text that trimming leaves as it is. -/
theorem of_trimList_eq {text : List Char} (hnonempty : text ≠ [])
    (htrim : trimList text = text) : Solid text := by
  obtain ⟨hfirst, hlast⟩ := dropBlank_eq_of_length (congrArg List.length htrim).ge
  refine ⟨hnonempty, ?_, ?_⟩
  · rw [← hfirst]
    exact head_dropBlank text
  · rw [← List.head?_reverse, ← hlast]
    exact head_dropBlank text.reverse

/-- Only the ends count. -/
theorem around {text more : List Char} (htext : Solid text) (hmore : Solid more)
    (middle : List Char) : Solid (text ++ middle ++ more) where
  nonempty := by simp [htext.nonempty]
  head := by
    rw [List.append_assoc, List.head?_append_of_ne_nil _ htext.nonempty]
    exact htext.head
  last := by
    rw [List.getLast?_append_of_ne_nil _ hmore.nonempty]
    exact hmore.last

theorem append {text more : List Char} (htext : Solid text) (hmore : Solid more) :
    Solid (text ++ more) := by
  simpa using htext.around hmore []

theorem trimList_eq {text : List Char} (htext : Solid text) : trimList text = text := by
  have hlast : ∀ c ∈ text.reverse.head?, isBlank c = false := by
    rw [List.head?_reverse]
    exact htext.last
  rw [trimList, dropBlank_eq htext.head, dropBlank_eq hlast, List.reverse_reverse]

end Solid

/-- A text that has blanks put around it comes back when they are trimmed. -/
theorem trim_around {before text after : String} (hbefore : isMissing before = true)
    (htext : Solid text.toList) (hafter : isMissing after = true) :
    trim (before ++ text ++ after) = text := by
  have hblank := trimList_around (List.all_eq_true.mp hbefore) (List.all_eq_true.mp hafter)
  rw [trim, String.toList_append, String.toList_append, hblank, htext.trimList_eq,
    String.ofList_toList]

/-! ## Small letters -/

theorem isBlank_eq_false_of_letter {c : Char} (hlow : 65 ≤ c.toNat) (hhigh : c.toNat ≤ 122) :
    isBlank c = false := by
  refine Bool.eq_false_iff.mpr fun hblank => ?_
  simp only [isBlank, Bool.or_eq_true, Bool.and_eq_true, decide_eq_true_eq, beq_iff_eq] at hblank
  omega

/-- A letter stays a letter and everything else stays as it is, so the blanks are the same. -/
theorem isBlank_toLower (c : Char) : isBlank c.toLower = isBlank c := by
  unfold Char.toLower
  split
  case isTrue hupper =>
    have hlow : 65 ≤ c.toNat := UInt32.le_iff_toNat_le.mp hupper.1
    have hhigh : c.toNat ≤ 90 := UInt32.le_iff_toNat_le.mp hupper.2
    have hsum : (c.val + ('a'.val - 'A'.val)).toNat = c.toNat + 32 := by
      rw [UInt32.toNat_add]
      exact Nat.mod_eq_of_lt (by change c.toNat + 32 < _; omega)
    rw [isBlank_eq_false_of_letter hlow (by omega)]
    apply isBlank_eq_false_of_letter
    · change 65 ≤ (c.val + ('a'.val - 'A'.val)).toNat
      omega
    · change (c.val + ('a'.val - 'A'.val)).toNat ≤ 122
      omega
  case isFalse => rfl

theorem toLower_of_isBlank {c : Char} (hblank : isBlank c = true) : c.toLower = c := by
  unfold Char.toLower
  split
  case isTrue hupper =>
    have hlow : 65 ≤ c.toNat := UInt32.le_iff_toNat_le.mp hupper.1
    have hhigh : c.toNat ≤ 90 := UInt32.le_iff_toNat_le.mp hupper.2
    rw [isBlank_eq_false_of_letter hlow (by omega)] at hblank
    cases hblank
  case isFalse => rfl

theorem mem_lower {text : String} {c : Char} (hc : c ∈ text.toList) (hlower : c.toLower = c) :
    c ∈ (lower text).toList := by
  rw [lower, String.toList_ofList]
  exact List.mem_map.mpr ⟨c, hc, hlower⟩

end TagRelay.Text
