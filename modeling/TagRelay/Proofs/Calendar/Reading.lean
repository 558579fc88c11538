import Mathlib.Algebra.Group.Nat.Defs
import TagRelay.Calendar.Reader
import TagRelay.Proofs.Decimal.Whole
import TagRelay.Proofs.Text.Blank
import TagRelay.Proofs.Text.Parts

/-!
# The parts of dates and times

A number of a fixed width is read off the front of a text whatever comes after it, a fraction up to
the first character that is no digit, and an offset from its sign, hours and minutes.
-/

namespace TagRelay.Calendar

open Decimal (padded)

/-! ## Figures -/

theorem isBlank_of_isDigit {c : Char} (hdigit : c.isDigit = true) : Text.isBlank c = false := by
  have hbounds := Decimal.toNat_of_isDigit hdigit
  refine Bool.eq_false_iff.mpr fun hblank => ?_
  simp only [Text.isBlank, Bool.or_eq_true, Bool.and_eq_true, decide_eq_true_eq,
    beq_iff_eq] at hblank
  omega

/-- Digits, at least one. -/
structure Figures (figures : List Char) : Prop where
  nonempty : figures ≠ []
  isDigit : ∀ c ∈ figures, c.isDigit = true

theorem figures_padded {width n : Nat} (hwidth : 0 < width) (hn : n < 10 ^ width) :
    Figures (padded width n).toList where
  nonempty := by
    apply List.ne_nil_of_length_pos
    rw [Decimal.length_padded hwidth hn]
    exact hwidth
  isDigit _ := Decimal.isDigit_of_mem_padded

/-- Four digits are two and two. -/
theorem exists_figures_append {n : Nat} (hn : n < 10 ^ 4) :
    ∃ first second, (padded 4 n).toList = first ++ second ∧
      (Figures first ∧ first.length = 2) ∧ Figures second ∧ second.length = 2 := by
  have hlength := Decimal.length_padded (by decide) hn
  have hall := figures_padded (by decide) hn
  have htake : ((padded 4 n).toList.take 2).length = 2 := by
    rw [List.length_take]
    omega
  have hdrop : ((padded 4 n).toList.drop 2).length = 2 := by
    rw [List.length_drop]
    omega
  refine ⟨_, _, (List.take_append_drop 2 _).symm, ⟨⟨?_, ?_⟩, htake⟩, ⟨?_, ?_⟩, hdrop⟩
  · apply List.ne_nil_of_length_pos
    omega
  · intro c hc
    exact hall.isDigit c (List.mem_of_mem_take hc)
  · apply List.ne_nil_of_length_pos
    omega
  · intro c hc
    exact hall.isDigit c (List.mem_of_mem_drop hc)

/-- A mark behind figures ends them. -/
theorem isDigit_of_mark {mark : Char} (hmark : mark.isDigit = false) (rest : List Char) :
    ∀ c ∈ (mark :: rest).head?, c.isDigit = false := by
  intro c hc
  rwa [← Option.some.inj hc]

section

variable {figures : List Char} (hfigures : Figures figures) (rest : List Char)
include hfigures

theorem Figures.head : ∃ c tail, figures ++ rest = c :: tail ∧ c.isDigit = true := by
  cases hsplit : figures with
  | nil => exact absurd hsplit hfigures.nonempty
  | cons c tail =>
      refine ⟨c, tail ++ rest, rfl, hfigures.isDigit c ?_⟩
      rw [hsplit]
      exact List.mem_cons_self

theorem Figures.takeWhile {rest : List Char} (hrest : ∀ c ∈ rest.head?, c.isDigit = false) :
    (figures ++ rest).takeWhile Char.isDigit = figures := by
  rw [List.takeWhile_append_of_pos hfigures.isDigit]
  cases rest with
  | nil => simp
  | cons c rest => simp [hrest c rfl]

/-! ## Numbers -/

/-- As many digits as may be are read, and what follows is left. -/
theorem Figures.number {least most : Nat} (hleast : least ≤ most)
    (hmost : figures.length = most) :
    number least most (figures ++ rest) = some (Nat.ofDigitChars 10 figures 0, rest) := by
  have hread : ((figures ++ rest).takeWhile Char.isDigit).take most = figures := by
    rw [List.takeWhile_append_of_pos hfigures.isDigit, List.take_left' hmost]
  simp only [Calendar.number, hread]
  rw [if_neg (by omega), List.drop_left]

/-- Fewer digits are read where none follows. -/
theorem Figures.number_of_length_le {least most : Nat} {rest : List Char}
    (hleast : least ≤ figures.length) (hmost : figures.length ≤ most)
    (hrest : ∀ c ∈ rest.head?, c.isDigit = false) :
    Calendar.number least most (figures ++ rest) =
      some (Nat.ofDigitChars 10 figures 0, rest) := by
  have hread : ((figures ++ rest).takeWhile Char.isDigit).take most = figures := by
    rw [hfigures.takeWhile hrest, List.take_of_length_le hmost]
  simp only [Calendar.number, hread]
  rw [if_neg (by omega), List.drop_left]

theorem Figures.number_of_length_lt {least most : Nat} {rest : List Char}
    (hlength : figures.length < least) (hrest : ∀ c ∈ rest.head?, c.isDigit = false) :
    Calendar.number least most (figures ++ rest) = none := by
  have hshort : (((figures ++ rest).takeWhile Char.isDigit).take most).length < least := by
    rw [hfigures.takeWhile hrest, List.length_take]
    omega
  exact if_pos hshort

/-! ## Numbers behind blanks and signs -/

theorem Figures.dropBlank : Text.dropBlank (figures ++ rest) = figures ++ rest := by
  obtain ⟨c, tail, hsplit, hdigit⟩ := hfigures.head rest
  rw [hsplit]
  apply Text.dropBlank_eq
  intro other hother
  obtain rfl : c = other := Option.some.inj hother
  exact isBlank_of_isDigit hdigit

/-- A year that begins with a digit has no sign. -/
theorem Figures.signedYear :
    signedYear (figures ++ rest) =
      (Calendar.number 1 4 (figures ++ rest)).map fun (n, rest) => ((n : Int), rest) := by
  obtain ⟨c, tail, hsplit, hdigit⟩ := hfigures.head rest
  rw [hsplit, signedYear.eq_def]
  split
  · rename_i hminus
    cases hminus
    cases hdigit
  · rename_i hplus
    cases hplus
    cases hdigit
  · rfl

end

theorem number_padded {least width n : Nat} (hleast : least ≤ width) (hwidth : 0 < width)
    (hn : n < 10 ^ width) (rest : List Char) :
    number least width ((padded width n).toList ++ rest) = some (n, rest) := by
  have hfigures := figures_padded hwidth hn
  rw [hfigures.number rest hleast (Decimal.length_padded hwidth hn), Decimal.ofDigitChars_padded]

/-! ## Fractions -/

/-- The digits that are kept of a fraction are worth the fraction, cut off after the ninth. -/
theorem ofDigitChars_take (figures : List Char) (hfigures : ∀ c ∈ figures, c.isDigit = true) :
    Nat.ofDigitChars 10 (figures.take 9) 0 * Nat.pow 10 (9 - (figures.take 9).length) =
      Nat.ofDigitChars 10 figures 0 * 10 ^ 9 / 10 ^ figures.length := by
  rcases Nat.le_total figures.length 9 with hshort | hlong
  · have hpow : (10 : Nat) ^ 9 = 10 ^ (9 - figures.length) * 10 ^ figures.length := by
      rw [← Nat.pow_add]
      congr 1
      omega
    rw [List.take_of_length_le hshort, hpow, ← Nat.mul_assoc,
      Nat.mul_div_cancel _ (Nat.pow_pos (by decide))]
    rfl
  · have hdrop : ∀ c ∈ figures.drop 9, c.isDigit = true :=
      fun c hc => hfigures c (List.mem_of_mem_drop hc)
    have hlt := Decimal.ofDigitChars_lt hdrop 0
    have hsplit : Nat.ofDigitChars 10 figures 0 =
        10 ^ (figures.drop 9).length * Nat.ofDigitChars 10 (figures.take 9) 0 +
          Nat.ofDigitChars 10 (figures.drop 9) 0 := by
      rw [← Nat.ofDigitChars_eq_ofDigitChars_zero, ← Nat.ofDigitChars_append, List.take_append_drop]
    have hlength : (10 : Nat) ^ figures.length = 10 ^ (figures.drop 9).length * 10 ^ 9 := by
      rw [← Nat.pow_add, List.length_drop]
      congr 1
      omega
    rw [hlength, Nat.mul_div_mul_right _ _ (by decide), hsplit,
      Nat.mul_add_div (Nat.pow_pos (by decide)), Nat.div_eq_of_lt (by simpa using hlt),
      List.length_take, Nat.min_eq_left hlong]
    simp

/-- The nanoseconds that the digits of a fraction stand for. -/
def fractionNanos (figures : List Char) : Nat :=
  Nat.ofDigitChars 10 figures 0 * 10 ^ 9 / 10 ^ figures.length

theorem fraction_append {figures rest : List Char} (hfigures : Figures figures)
    (hrest : ∀ c ∈ rest.head?, c.isDigit = false) :
    fraction (figures ++ rest) = some (fractionNanos figures, rest) := by
  have hkept : (figures.take 9).isEmpty = false := by
    cases hsplit : figures with
    | nil => exact absurd hsplit hfigures.nonempty
    | cons c figures => rfl
  simp only [fraction, hfigures.takeWhile hrest, hkept, List.drop_left]
  rw [ofDigitChars_take figures hfigures.isDigit]
  rfl

theorem fractionNanos_lt {figures : List Char} (hfigures : ∀ c ∈ figures, c.isDigit = true) :
    fractionNanos figures < 1000000000 := by
  have hlt : Nat.ofDigitChars 10 figures 0 < 10 ^ figures.length := by
    simpa using Decimal.ofDigitChars_lt hfigures 0
  apply Nat.div_lt_of_lt_mul
  apply Nat.mul_lt_mul_of_pos_right hlt
  decide

theorem optionalFraction_of_ne {rest : List Char} (hrest : rest.head? ≠ some '.') :
    optionalFraction rest = some (0, rest) := by
  rw [optionalFraction.eq_def]
  split
  · exact absurd rfl hrest
  · rfl

/-- Texts of fractions of a second, and the nanoseconds they stand for. -/
inductive Fraction : String → Nat → Prop
  | none : Fraction "" 0
  | digits {figures : String} (hfigures : Figures figures.toList) :
      Fraction ("." ++ figures) (fractionNanos figures.toList)

theorem Fraction.read {text : String} {nanos : Nat} (htext : Fraction text nanos)
    {rest : List Char} (hrest : ∀ c ∈ rest.head?, c.isDigit = false ∧ c ≠ '.') :
    optionalFraction (text.toList ++ rest) = some (nanos, rest) := by
  cases htext with
  | none =>
      apply optionalFraction_of_ne
      intro hpoint
      exact (hrest '.' hpoint).2 rfl
  | digits hfigures =>
      rw [String.toList_append]
      exact fraction_append hfigures fun c hc => (hrest c hc).1

theorem Fraction.read_whole {text : String} {nanos : Nat} (htext : Fraction text nanos) :
    optionalFraction text.toList = some (nanos, []) := by
  have hnone : ∀ c ∈ ([] : List Char).head?, c.isDigit = false ∧ c ≠ '.' := by simp
  simpa using htext.read hnone

theorem Fraction.nanos_lt {text : String} {nanos : Nat} (htext : Fraction text nanos) :
    nanos < 1000000000 := by
  cases htext with
  | none => decide
  | digits hfigures => exact fractionNanos_lt hfigures.isDigit

/-- Three digits are milliseconds. -/
theorem fraction_padded {millis : Nat} (hmillis : millis < 1000) :
    Fraction ("." ++ padded 3 millis) (millis * 1000000) := by
  have hlength : (padded 3 millis).toList.length = 3 := Decimal.length_padded (by decide) hmillis
  have hnanos : fractionNanos (padded 3 millis).toList = millis * 1000000 := by
    rw [fractionNanos, Decimal.ofDigitChars_padded, hlength]
    omega
  rw [← hnanos]
  exact .digits (figures_padded (by decide) hmillis)

/-! ## Offsets -/

/-- Hours and minutes after the sign of an offset. -/
def offsetClock (hours minutes : Nat) : String := padded 2 hours ++ ":" ++ padded 2 minutes

/-- Texts of offsets, and how many seconds they are ahead. -/
inductive Offset : String → Int → Prop
  | zulu {letter : String} (hletter : letter = "Z" ∨ letter = "z") : Offset letter 0
  | ahead {hours minutes : Nat} (hhours : hours < 24) (hminutes : minutes < 60) :
      Offset ("+" ++ offsetClock hours minutes) (hours * 3600 + minutes * 60 : Nat)
  /-- With the minus sign of keyboards or the one of typography. -/
  | behind {sign : String} {hours minutes : Nat} (hsign : sign = "-" ∨ sign = "−")
      (hhours : hours < 24) (hminutes : minutes < 60) :
      Offset (sign ++ offsetClock hours minutes) (-(hours * 3600 + minutes * 60 : Nat))

/-- Hours and minutes are read after any sign. -/
theorem offset_signed {sign : Char} (hsign : sign = '+' ∨ sign = '-' ∨ sign = '−')
    {hours minutes : Nat} (hhours : hours < 24) (hminutes : minutes < 60) :
    offset (sign :: (offsetClock hours minutes).toList) =
      let seconds : Int := (hours * 3600 + minutes * 60 : Nat)
      some (if sign = '+' then seconds else -seconds, []) := by
  have hletter : ¬(sign = 'Z' ∨ sign = 'z') := by
    rcases hsign with rfl | rfl | rfl <;> decide
  have hclock : (offsetClock hours minutes).toList =
      (padded 2 hours).toList ++ ':' :: ((padded 2 minutes).toList ++ []) := by
    simp [offsetClock]
  have hreadHours := number_padded (Nat.le_refl 2) (by decide) (by omega : hours < 10 ^ 2)
    (':' :: ((padded 2 minutes).toList ++ []))
  have hreadMinutes := number_padded (Nat.le_refl 2) (by decide) (by omega : minutes < 10 ^ 2) []
  rw [hclock, offset.eq_def]
  dsimp only
  rw [if_neg hletter, if_pos hsign, hreadHours]
  simp only [Option.bind_eq_bind, Option.bind_some, Text.exactly_self, hreadMinutes]
  rw [if_pos ⟨hhours, hminutes⟩]
  rfl

theorem Offset.read {text : String} {seconds : Int} (htext : Offset text seconds) :
    offset text.toList = some (seconds, []) := by
  cases htext with
  | zulu hletter => rcases hletter with rfl | rfl <;> rfl
  | ahead hhours hminutes =>
      rw [String.toList_append]
      exact offset_signed (Or.inl rfl) hhours hminutes
  | behind hsign hhours hminutes =>
      rw [String.toList_append]
      rcases hsign with rfl | rfl
      · exact offset_signed (Or.inr (Or.inl rfl)) hhours hminutes
      · exact offset_signed (Or.inr (Or.inr rfl)) hhours hminutes

/-- What an offset begins with is neither a digit nor a point. -/
theorem Offset.head {text : String} {seconds : Int} (htext : Offset text seconds) :
    ∀ c ∈ text.toList.head?, c.isDigit = false ∧ c ≠ '.' := by
  cases htext with
  | zulu hletter => rcases hletter with rfl | rfl <;> simp
  | ahead hhours hminutes => simp
  | behind hsign hhours hminutes => rcases hsign with rfl | rfl <;> simp

/-! ## Items of patterns -/

theorem readPattern_of_read {item : Item} {f f' : Fields} {text rest : List Char}
    (hread : item.read f text = some (f', rest)) (items : List Item) :
    readPattern (item :: items) f text = readPattern items f' rest := by
  rw [readPattern, hread, Option.bind_some]

theorem readPattern_of_none {item : Item} {f : Fields} {text : List Char}
    (hread : item.read f text = none) (items : List Item) :
    readPattern (item :: items) f text = none := by
  rw [readPattern, hread, Option.bind_none]

theorem readPattern_mark (c : Char) (items : List Item) (f : Fields) (rest : List Char) :
    readPattern (.mark c :: items) f (c :: rest) = readPattern items f rest := by
  apply readPattern_of_read
  rw [Item.read, Text.exactly_self, Option.map_some]

theorem readPattern_mark_of_ne {c other : Char} (hother : other ≠ c) (items : List Item)
    (f : Fields) (rest : List Char) : readPattern (.mark c :: items) f (other :: rest) = none := by
  apply readPattern_of_none
  rw [Item.read, Text.exactly_of_ne hother, Option.map_none]

/-- The fields with a number of two digits put in. -/
def Fields.put (f : Fields) (n : Nat) : Item → Option Fields
  | .month => some { f with month := n }
  | .day => some { f with day := n }
  | .hour => some { f with hour := n }
  | .minute => some { f with minute := n }
  | .second => some { f with second := n }
  | _ => none

theorem readPattern_figures {item : Item} {f f' : Fields} {figures : List Char}
    (hfigures : Figures figures) (hlength : figures.length = 2)
    (hput : f.put (Nat.ofDigitChars 10 figures 0) item = some f') (items : List Item)
    (rest : List Char) :
    readPattern (item :: items) f (figures ++ rest) = readPattern items f' rest := by
  apply readPattern_of_read
  cases item with
  | month | day | hour | minute | second =>
      rw [Item.read, hfigures.dropBlank, hfigures.number rest (by decide) hlength]
      cases hput
      rfl
  | year | shortYear | fraction | mark | blank => cases hput

theorem readPattern_two {item : Item} {f f' : Fields} {n : Nat} (hput : f.put n item = some f')
    (hn : n < 10 ^ 2) (items : List Item) (rest : List Char) :
    readPattern (item :: items) f ((padded 2 n).toList ++ rest) = readPattern items f' rest := by
  apply readPattern_figures (figures_padded (by decide) hn) (Decimal.length_padded (by decide) hn)
  rw [Decimal.ofDigitChars_padded]
  exact hput

theorem readPattern_year {f : Fields} {n : Nat} (hn : n < 10 ^ 4) (items : List Item)
    (rest : List Char) :
    readPattern (.year :: items) f ((padded 4 n).toList ++ rest) =
      readPattern items { f with year := n } rest := by
  apply readPattern_of_read
  have hfigures : Figures (padded 4 n).toList := figures_padded (by decide) hn
  rw [Item.read, hfigures.dropBlank, hfigures.signedYear,
    number_padded (by decide) (by decide) hn]
  rfl

theorem readPattern_blank {text : List Char} (htext : Text.dropBlank text = text)
    (items : List Item) (f : Fields) :
    readPattern (.blank :: items) f text = readPattern items f text := by
  apply readPattern_of_read
  rw [Item.read, htext]

theorem readPattern_space {text : List Char} (htext : Text.dropBlank text = text)
    (items : List Item) (f : Fields) :
    readPattern (.blank :: items) f (' ' :: text) = readPattern items f text := by
  have hspace : Text.dropBlank (' ' :: text) = Text.dropBlank text := rfl
  apply readPattern_of_read
  rw [Item.read, hspace, htext]

/-- The end of a pattern that has a fraction. -/
theorem readPattern_fraction {fraction : String} {nanos : Nat} (hfraction : Fraction fraction nanos)
    (f : Fields) :
    readPattern [.fraction] f fraction.toList = { f with nanos := nanos }.instant 0 := by
  rw [readPattern, Item.read, hfraction.read_whole]
  rfl

end TagRelay.Calendar
