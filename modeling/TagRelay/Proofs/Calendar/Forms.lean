import TagRelay.Proofs.Calendar.Reading
import TagRelay.Proofs.Calendar.Wall

/-!
# Forms of dates and times

What a calendar and a clock show can be written in the internet form, with an offset, and in local
forms with the year or with the month in front.  Each form is read back by the reader or the
pattern that is meant for it, and the ones that are tried before it stop within the text.
-/

namespace TagRelay.Calendar

open Decimal (padded)

/-- What has been read is handed on. -/
theorem bind_of_eq {α β : Type} {x : Option α} {a : α} (hx : x = some a) (f : α → Option β) :
    x.bind f = f a := by
  rw [hx, Option.bind_some]

namespace Wall

/-! ## Texts -/

def dateText (w : Wall) : String :=
  padded 4 w.date.year.toNat ++ "-" ++ padded 2 w.date.month.toNat ++ "-" ++
    padded 2 w.date.day.toNat

/-- The date with the month in front. -/
def slashText (w : Wall) : String :=
  padded 2 w.date.month.toNat ++ "/" ++ padded 2 w.date.day.toNat ++ "/" ++
    padded 4 w.date.year.toNat

def clockText (w : Wall) : String :=
  padded 2 w.hour ++ ":" ++ padded 2 w.minute ++ ":" ++ padded 2 w.second

theorem toList_dateText (w : Wall) :
    w.dateText.toList = (padded 4 w.date.year.toNat).toList ++
      '-' :: ((padded 2 w.date.month.toNat).toList ++
        '-' :: (padded 2 w.date.day.toNat).toList) := by
  simp [dateText]

theorem toList_slashText (w : Wall) :
    w.slashText.toList = (padded 2 w.date.month.toNat).toList ++
      '/' :: ((padded 2 w.date.day.toNat).toList ++
        '/' :: (padded 4 w.date.year.toNat).toList) := by
  simp [slashText]

theorem toList_slashText_append (w : Wall) (rest : List Char) :
    w.slashText.toList ++ rest = (padded 2 w.date.month.toNat).toList ++
      '/' :: ((padded 2 w.date.day.toNat).toList ++
        '/' :: ((padded 4 w.date.year.toNat).toList ++ rest)) := by
  rw [toList_slashText, List.append_assoc, List.cons_append, List.append_assoc, List.cons_append]

theorem toList_clockText (w : Wall) :
    w.clockText.toList = (padded 2 w.hour).toList ++
      ':' :: ((padded 2 w.minute).toList ++ ':' :: (padded 2 w.second).toList) := by
  simp [clockText]

/-! ## The numbers of a text -/

variable {w : Wall}

theorem Fits.year_toNat (hfits : w.Fits) : (w.date.year.toNat : Int) = w.date.year := by
  have hyear := hfits.year
  omega

/-- Every number has room in its width. -/
theorem Fits.lt_pow (hfits : w.Fits) :
    w.date.year.toNat < 10 ^ 4 ∧ w.date.month.toNat < 10 ^ 2 ∧ w.date.day.toNat < 10 ^ 2 ∧
      w.hour < 10 ^ 2 ∧ w.minute < 10 ^ 2 ∧ w.second < 10 ^ 2 := by
  have hyear := hfits.year
  have hmonth := hfits.date.month_le
  have hday := hfits.date.day_le.trans (daysInMonth_le _ _)
  have hhour := hfits.hour
  have hminute := hfits.minute
  have hsecond := hfits.second
  omega

/-! ## The internet form -/

theorem readInternet_eq (hfits : w.Fits) {mark : Char}
    (hmark : mark = 'T' ∨ mark = 't' ∨ mark = ' ') (rest : List Char) :
    readInternet (w.dateText.toList ++ mark :: (w.clockText.toList ++ rest)) =
      (optionalFraction rest).bind fun (nanos, rest) =>
        (offset rest).bind fun (ahead, rest) =>
          if rest.isEmpty then (w.fields nanos).instant ahead else none := by
  have hmarked : ∀ rest : List Char, (Text.exactly 'T' (mark :: rest)).or
      ((Text.exactly 't' (mark :: rest)).or (Text.exactly ' ' (mark :: rest))) = some rest := by
    intro rest
    rcases hmark with rfl | rfl | rfl <;> rfl
  have htext : w.dateText.toList ++ mark :: (w.clockText.toList ++ rest) =
      (padded 4 w.date.year.toNat).toList ++ '-' :: ((padded 2 w.date.month.toNat).toList ++
        '-' :: ((padded 2 w.date.day.toNat).toList ++ mark :: ((padded 2 w.hour).toList ++
          ':' :: ((padded 2 w.minute).toList ++ ':' :: ((padded 2 w.second).toList ++ rest))))) := by
    simp only [toList_dateText, toList_clockText, List.append_assoc, List.cons_append]
  obtain ⟨hyear, hmonth, hday, hhour, hminute, hsecond⟩ := hfits.lt_pow
  have two : ∀ {n : Nat} (_ : n < 10 ^ 2) (rest : List Char),
      number 2 2 ((padded 2 n).toList ++ rest) = some (n, rest) :=
    fun hn rest => number_padded (Nat.le_refl 2) (by decide) hn rest
  rw [htext, readInternet]
  refine (bind_of_eq (number_padded (Nat.le_refl 4) (by decide) hyear _) _).trans ?_
  refine (bind_of_eq (Text.exactly_self '-' _) _).trans ?_
  refine (bind_of_eq (two hmonth _) _).trans ?_
  refine (bind_of_eq (Text.exactly_self '-' _) _).trans ?_
  refine (bind_of_eq (two hday _) _).trans ?_
  refine (bind_of_eq (hmarked _) _).trans ?_
  refine (bind_of_eq (two hhour _) _).trans ?_
  refine (bind_of_eq (Text.exactly_self ':' _) _).trans ?_
  refine (bind_of_eq (two hminute _) _).trans ?_
  refine (bind_of_eq (Text.exactly_self ':' _) _).trans ?_
  refine (bind_of_eq (two hsecond _) _).trans ?_
  change ((optionalFraction rest).bind fun (nanos, rest) =>
    (offset rest).bind fun (ahead, rest) =>
      if rest.isEmpty then
        Fields.instant ⟨w.date.year.toNat, w.date.month.toNat, w.date.day.toNat, w.hour, w.minute,
          w.second, nanos⟩ ahead
      else none) = _
  rw [hfits.year_toNat]
  rfl

theorem readInternet_of_offset (hfits : w.Fits) {mark : Char}
    (hmark : mark = 'T' ∨ mark = 't' ∨ mark = ' ') {fraction zone : String} {nanos : Nat}
    {ahead : Int} (hfraction : Fraction fraction nanos) (hzone : Offset zone ahead) :
    readInternet (w.dateText.toList ++
        mark :: (w.clockText.toList ++ (fraction.toList ++ zone.toList))) =
      (w.fields nanos).instant ahead := by
  rw [readInternet_eq hfits hmark, hfraction.read hzone.head, Option.bind_some]
  dsimp only
  rw [hzone.read]
  rfl

/-- A local time names no offset. -/
theorem readInternet_of_local (hfits : w.Fits) {mark : Char}
    (hmark : mark = 'T' ∨ mark = 't' ∨ mark = ' ') {fraction : String} {nanos : Nat}
    (hfraction : Fraction fraction nanos) :
    readInternet (w.dateText.toList ++ mark :: (w.clockText.toList ++ fraction.toList)) = none := by
  rw [readInternet_eq hfits hmark, hfraction.read_whole]
  rfl

/-- Two digits are no year. -/
theorem readInternet_of_slashed (hfits : w.Fits) (rest : List Char) :
    readInternet (w.slashText.toList ++ rest) = none := by
  obtain ⟨-, hmonth, -⟩ := hfits.lt_pow
  have hlength := Decimal.length_padded (by decide) hmonth
  have hfigures : Figures (padded 2 w.date.month.toNat).toList :=
    figures_padded (by decide) hmonth
  have hnumber (behind : List Char) :
      number 4 4 ((padded 2 w.date.month.toNat).toList ++ '/' :: behind) = none := by
    apply hfigures.number_of_length_lt
    · omega
    · exact isDigit_of_mark rfl behind
  rw [readInternet, toList_slashText_append, hnumber]
  rfl

/-! ## The local forms -/

/-- Items of a date read the date and go on behind it. -/
theorem readPattern_date (hfits : w.Fits) (items : List Item) (f : Fields) (rest : List Char) :
    readPattern (dateItems ++ items) f (w.dateText.toList ++ rest) =
      readPattern items
        { f with
          year := w.date.year
          month := w.date.month.toNat
          day := w.date.day.toNat } rest := by
  obtain ⟨hyear, hmonth, hday, -⟩ := hfits.lt_pow
  rw [toList_dateText, List.append_assoc, List.cons_append, List.append_assoc, List.cons_append]
  calc readPattern (dateItems ++ items) f _
      = readPattern (.mark '-' :: .month :: .mark '-' :: .day :: items)
          { f with year := w.date.year.toNat } _ := readPattern_year hyear _ _
    _ = readPattern (.month :: .mark '-' :: .day :: items)
          { f with year := w.date.year.toNat } _ := readPattern_mark '-' _ _ _
    _ = readPattern (.mark '-' :: .day :: items)
          { f with year := w.date.year.toNat, month := w.date.month.toNat } _ :=
        readPattern_two rfl hmonth _ _
    _ = readPattern (.day :: items)
          { f with year := w.date.year.toNat, month := w.date.month.toNat } _ :=
        readPattern_mark '-' _ _ _
    _ = readPattern items
          { f with
            year := w.date.year.toNat
            month := w.date.month.toNat
            day := w.date.day.toNat } rest := readPattern_two rfl hday _ _
    _ = _ := by rw [hfits.year_toNat]

/-- Items of a time of day read it and go on behind it. -/
theorem readPattern_clock (hfits : w.Fits) (items : List Item) (f : Fields) (rest : List Char) :
    readPattern (clockItems ++ items) f (w.clockText.toList ++ rest) =
      readPattern items
        { f with
          hour := w.hour
          minute := w.minute
          second := w.second } rest := by
  obtain ⟨-, -, -, hhour, hminute, hsecond⟩ := hfits.lt_pow
  rw [toList_clockText, List.append_assoc, List.cons_append, List.append_assoc, List.cons_append]
  calc readPattern (clockItems ++ items) f _
      = readPattern (.mark ':' :: .minute :: .mark ':' :: .second :: items)
          { f with hour := w.hour } _ := readPattern_two rfl hhour _ _
    _ = readPattern (.minute :: .mark ':' :: .second :: items) { f with hour := w.hour } _ :=
        readPattern_mark ':' _ _ _
    _ = readPattern (.mark ':' :: .second :: items)
          { f with hour := w.hour, minute := w.minute } _ := readPattern_two rfl hminute _ _
    _ = readPattern (.second :: items) { f with hour := w.hour, minute := w.minute } _ :=
        readPattern_mark ':' _ _ _
    _ = readPattern items
          { f with
            hour := w.hour
            minute := w.minute
            second := w.second } rest := readPattern_two rfl hsecond _ _

theorem Fits.dropBlank_clockText (hfits : w.Fits) (rest : List Char) :
    Text.dropBlank (w.clockText.toList ++ rest) = w.clockText.toList ++ rest := by
  obtain ⟨-, -, -, hhour, -⟩ := hfits.lt_pow
  rw [toList_clockText, List.append_assoc]
  exact (figures_padded (by decide) hhour).dropBlank _

/-- The patterns, each taken apart behind its date. -/
theorem patterns_eq :
    patterns =
      [dateItems ++ .blank :: (clockItems ++ [.fraction]),
        dateItems ++ .mark 'T' :: (clockItems ++ [.fraction]),
        .month :: .mark '/' :: .day :: .mark '/' :: .shortYear :: .blank :: clockItems,
        .month :: .mark '/' :: .day :: .mark '/' :: .year :: .blank :: clockItems] :=
  rfl

section

variable (hfits : w.Fits) {fraction : String} {nanos : Nat} (hfraction : Fraction fraction nanos)
include hfits hfraction

/-- The form with a blank between date and time. -/
theorem readPattern_spaced :
    readPattern (dateItems ++ .blank :: (clockItems ++ [.fraction])) {}
        (w.dateText.toList ++ ' ' :: (w.clockText.toList ++ fraction.toList)) =
      (w.fields nanos).instant 0 := by
  rw [readPattern_date hfits, readPattern_space (hfits.dropBlank_clockText _),
    readPattern_clock hfits, readPattern_fraction hfraction]
  rfl

/-- The form with a `T` between date and time. -/
theorem readPattern_joined :
    readPattern (dateItems ++ .mark 'T' :: (clockItems ++ [.fraction])) {}
        (w.dateText.toList ++ 'T' :: (w.clockText.toList ++ fraction.toList)) =
      (w.fields nanos).instant 0 := by
  rw [readPattern_date hfits, readPattern_mark, readPattern_clock hfits,
    readPattern_fraction hfraction]
  rfl

end

/-- The form with a blank stops at a `T`. -/
theorem readPattern_spaced_of_joined (hfits : w.Fits) (rest : List Char) :
    readPattern (dateItems ++ .blank :: (clockItems ++ [.fraction])) {}
      (w.dateText.toList ++ 'T' :: rest) = none := by
  rw [readPattern_date hfits]
  rfl

/-! ## The forms with the month in front -/

/-- The forms with the year in front take the month for it and stop at the first slash. -/
theorem readPattern_year_of_slashed (hfits : w.Fits) (items : List Item) (f : Fields)
    (rest : List Char) :
    readPattern (.year :: .mark '-' :: items) f (w.slashText.toList ++ rest) = none := by
  obtain ⟨-, hmonth, -⟩ := hfits.lt_pow
  have hlength := Decimal.length_padded (by decide) hmonth
  have hfigures : Figures (padded 2 w.date.month.toNat).toList :=
    figures_padded (by decide) hmonth
  have hnumber (behind : List Char) :
      number 1 4 ((padded 2 w.date.month.toNat).toList ++ '/' :: behind) =
        some (Nat.ofDigitChars 10 (padded 2 w.date.month.toNat).toList 0, '/' :: behind) := by
    apply hfigures.number_of_length_le
    · omega
    · omega
    · exact isDigit_of_mark rfl behind
  have hread (behind : List Char) : ∃ f',
      Item.year.read f ((padded 2 w.date.month.toNat).toList ++ '/' :: behind) =
        some (f', '/' :: behind) := by
    rw [Item.read, hfigures.dropBlank, hfigures.signedYear, hnumber]
    exact ⟨_, rfl⟩
  rw [toList_slashText_append]
  obtain ⟨f', hread⟩ := hread _
  have hslash : '/' ≠ '-' := by decide
  rw [readPattern_of_read hread]
  exact readPattern_mark_of_ne hslash items f' _

/-- The items up to the year. -/
theorem readPattern_monthDay (hfits : w.Fits) (items : List Item) (f : Fields)
    (rest : List Char) :
    readPattern (.month :: .mark '/' :: .day :: .mark '/' :: items) f
        (w.slashText.toList ++ rest) =
      readPattern items { f with month := w.date.month.toNat, day := w.date.day.toNat }
        ((padded 4 w.date.year.toNat).toList ++ rest) := by
  obtain ⟨-, hmonth, hday, -⟩ := hfits.lt_pow
  rw [toList_slashText_append]
  calc readPattern (.month :: .mark '/' :: .day :: .mark '/' :: items) f _
      = readPattern (.mark '/' :: .day :: .mark '/' :: items)
          { f with month := w.date.month.toNat } _ := readPattern_two rfl hmonth _ _
    _ = readPattern (.day :: .mark '/' :: items) { f with month := w.date.month.toNat } _ :=
        readPattern_mark '/' _ _ _
    _ = readPattern (.mark '/' :: items)
          { f with month := w.date.month.toNat, day := w.date.day.toNat } _ :=
        readPattern_two rfl hday _ _
    _ = readPattern items { f with month := w.date.month.toNat, day := w.date.day.toNat } _ :=
        readPattern_mark '/' _ _ _

/-- A year of two digits leaves the other two to the hour, and a blank comes before the colon. -/
theorem readPattern_shortYear (hfits : w.Fits) (rest : List Char) :
    readPattern (.month :: .mark '/' :: .day :: .mark '/' :: .shortYear :: .blank :: clockItems) {}
      (w.slashText.toList ++ ' ' :: rest) = none := by
  obtain ⟨hyear, -⟩ := hfits.lt_pow
  obtain ⟨first, second, hsplit, ⟨hfirst, hfirstLength⟩, hsecond, hsecondLength⟩ :=
    exists_figures_append hyear
  rw [readPattern_monthDay hfits, hsplit, List.append_assoc]
  have hread (f : Fields) : ∃ f', Item.shortYear.read f (first ++ (second ++ ' ' :: rest)) =
      some (f', second ++ ' ' :: rest) := by
    rw [Item.read, hfirst.dropBlank, hfirst.number _ (by decide) hfirstLength]
    exact ⟨_, rfl⟩
  obtain ⟨f, hread⟩ := hread { month := w.date.month.toNat, day := w.date.day.toNat }
  have hblank : ' ' ≠ ':' := by decide
  calc readPattern (.shortYear :: .blank :: clockItems) _ _
      = readPattern (.blank :: clockItems) f (second ++ ' ' :: rest) :=
        readPattern_of_read hread _
    _ = readPattern clockItems f (second ++ ' ' :: rest) :=
        readPattern_blank (hsecond.dropBlank _) _ _
    _ = readPattern [.mark ':', .minute, .mark ':', .second] _ (' ' :: rest) :=
        readPattern_figures hsecond hsecondLength rfl _ _
    _ = none := readPattern_mark_of_ne hblank _ _ _

theorem readPattern_slashed (hfits : w.Fits) :
    readPattern (.month :: .mark '/' :: .day :: .mark '/' :: .year :: .blank :: clockItems) {}
      (w.slashText.toList ++ ' ' :: w.clockText.toList) = (w.fields 0).instant 0 := by
  obtain ⟨hyear, -⟩ := hfits.lt_pow
  have hclock (f : Fields) : readPattern clockItems f w.clockText.toList =
      { f with hour := w.hour, minute := w.minute, second := w.second }.instant 0 := by
    simpa [readPattern] using readPattern_clock hfits [] f []
  have hblank : Text.dropBlank w.clockText.toList = w.clockText.toList := by
    simpa using hfits.dropBlank_clockText []
  rw [readPattern_monthDay hfits, readPattern_year hyear, readPattern_space hblank, hclock,
    hfits.year_toNat]
  rfl

end Wall

end TagRelay.Calendar
