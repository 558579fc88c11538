import TagRelay.Proofs.Calendar.Forms
import TagRelay.Tag.Reading

/-!
# Spellings of an instant

An instant can be spelled in the internet form with any offset and in the local forms of UTC.  Each
spelling that is read as a timestamp gives the milliseconds of the instant, whatever blanks are
put around it.  The spelling that a tag shows is one of them.
-/

namespace TagRelay.Calendar

open Decimal (padded)

/-! ## Reading with blanks around -/

theorem readInstant_around {before text after : String} (hbefore : Text.isMissing before = true)
    (htext : Text.Solid text.toList) (hafter : Text.isMissing after = true) :
    readInstant (before ++ text ++ after) =
      (readInternet text.toList).or
        (patterns.findSome? fun items => readPattern items {} text.toList) := by
  have htrim := Text.trimList_around (List.all_eq_true.mp hbefore) (List.all_eq_true.mp hafter)
    text.toList
  rw [readInstant, String.toList_append, String.toList_append, htrim, htext.trimList_eq]
  cases readInternet text.toList <;> rfl

theorem Figures.solid {figures : List Char} (hfigures : Figures figures) : Text.Solid figures :=
  .of_all hfigures.nonempty fun c hc => isBlank_of_isDigit (hfigures.isDigit c hc)

/-! ## Instants -/

/-- Nanoseconds since the beginning of 1970. -/
def Instant.elapsed (t : Instant) : Int := t.second * 1000000000 + t.nanos

/-- An instant stands for its milliseconds, rounded down, also before 1970. -/
theorem toMillis_instant (t : Instant) :
    (SourceTimestamp.instant t).toMillis = some (t.elapsed / 1000000) := by
  have hmillis : t.millis = t.elapsed / 1000000 := by
    rw [Instant.millis, Instant.elapsed]
    omega
  rw [SourceTimestamp.toMillis, hmillis]

/-- What is shown at an instant where clocks are so many seconds ahead of UTC. -/
def Instant.wall (t : Instant) (ahead : Int) : Wall :=
  Wall.showing (t.second + ahead) (t.nanos / 1000000000)

/-- The local year has four digits. -/
def Instant.YearFits (t : Instant) (ahead : Int) : Prop :=
  0 ≤ (t.wall ahead).date.year ∧ (t.wall ahead).date.year ≤ 9999

theorem Instant.fits_wall {t : Instant} {ahead : Int} (hyear : t.YearFits ahead) :
    (t.wall ahead).Fits := by
  have hnanos := t.nanos_lt
  exact Wall.fits_showing hyear (by omega)

/-- A fraction of a second that names the millisecond of an instant. -/
def Instant.Fraction (t : Instant) (text : String) : Prop :=
  ∃ nanos, Calendar.Fraction text nanos ∧
    nanos / 1000000 = t.nanos % 1000000000 / 1000000

theorem Instant.fraction_padded (t : Instant) :
    t.Fraction ("." ++ padded 3 (t.nanos % 1000000000 / 1000000)) := by
  refine ⟨t.nanos % 1000000000 / 1000000 * 1000000, Calendar.fraction_padded ?_, ?_⟩
  · omega
  · omega

/-- The spellings of an instant, and the milliseconds they stand for.  A leap second is spelled as
second 60 in each of them. -/
inductive Spelled (t : Instant) : String → Int → Prop
  /-- What a tag shows that holds the instant. -/
  | shown (hyear : t.YearFits 0) : Spelled t (TagValue.timestamp t).display (t.elapsed / 1000000)
  /-- The internet form, with any offset. -/
  | internet {mark : Char} {fraction zone : String} {ahead : Int} (hyear : t.YearFits ahead)
      (hmark : mark = 'T' ∨ mark = 't' ∨ mark = ' ') (hfraction : t.Fraction fraction)
      (hzone : Offset zone ahead) :
      Spelled t ((t.wall ahead).dateText ++ mark.toString ++ (t.wall ahead).clockText ++ fraction ++
        zone) (t.elapsed / 1000000)
  /-- A local form with the year in front. -/
  | yearFirst {mark : Char} {fraction : String} (hyear : t.YearFits 0)
      (hmark : mark = 'T' ∨ mark = ' ') (hfraction : t.Fraction fraction) :
      Spelled t ((t.wall 0).dateText ++ mark.toString ++ (t.wall 0).clockText ++ fraction)
        (t.elapsed / 1000000)
  /-- The local form with the month in front, which has no fraction. -/
  | monthFirst (hyear : t.YearFits 0) :
      Spelled t ((t.wall 0).slashText ++ " " ++ (t.wall 0).clockText)
        (t.elapsed / 1000000000 * 1000)

/-! ## No blanks at the ends -/

section

variable {w : Wall} (hfits : w.Fits)
include hfits

theorem solid_dateText : Text.Solid w.dateText.toList := by
  obtain ⟨hyear, -, hday, -⟩ := hfits.lt_pow
  have hsolid := (figures_padded (by decide) hyear).solid.around
    (figures_padded (by decide) hday).solid ('-' :: ((padded 2 w.date.month.toNat).toList ++ ['-']))
  simpa [Wall.toList_dateText] using hsolid

theorem solid_slashText : Text.Solid w.slashText.toList := by
  obtain ⟨hyear, hmonth, -⟩ := hfits.lt_pow
  have hsolid := (figures_padded (by decide) hmonth).solid.around
    (figures_padded (by decide) hyear).solid ('/' :: ((padded 2 w.date.day.toNat).toList ++ ['/']))
  simpa [Wall.toList_slashText] using hsolid

theorem solid_clockText : Text.Solid w.clockText.toList := by
  obtain ⟨-, -, -, hhour, -, hsecond⟩ := hfits.lt_pow
  have hsolid := (figures_padded (by decide) hhour).solid.around
    (figures_padded (by decide) hsecond).solid (':' :: ((padded 2 w.minute).toList ++ [':']))
  simpa [Wall.toList_clockText] using hsolid

theorem solid_clockText_append {fraction : String} {nanos : Nat}
    (hfraction : Calendar.Fraction fraction nanos) :
    Text.Solid (w.clockText.toList ++ fraction.toList) := by
  have hclock := solid_clockText hfits
  cases hfraction with
  | none => simpa using hclock
  | digits hfigures => simpa using hclock.around hfigures.solid ['.']

end

theorem solid_singleton {c : Char} (hc : Text.isBlank c = false) : Text.Solid [c] :=
  .of_all (by simp) (by simpa using hc)

theorem Offset.solid {text : String} {ahead : Int} (hoffset : Offset text ahead) :
    Text.Solid text.toList := by
  have hclock {sign : Char} (hsign : Text.isBlank sign = false) {hours minutes : Nat}
      (hminutes : minutes < 60) : Text.Solid (sign :: (offsetClock hours minutes).toList) := by
    have hbelow : minutes < 10 ^ 2 := by omega
    have hsolid := (solid_singleton hsign).around (figures_padded (by decide) hbelow).solid
      ((padded 2 hours).toList ++ [':'])
    simpa [offsetClock] using hsolid
  cases hoffset with
  | zulu hletter =>
      rcases hletter with rfl | rfl
      · exact solid_singleton rfl
      · exact solid_singleton rfl
  | ahead hhours hminutes =>
      rw [String.toList_append]
      exact hclock (by decide) hminutes
  | behind hsign hhours hminutes =>
      rw [String.toList_append]
      rcases hsign with rfl | rfl
      · exact hclock (by decide) hminutes
      · exact hclock (by decide) hminutes

/-! ## Every spelling is read -/

variable {t : Instant} {before after : String}

theorem exists_instant {ahead : Int} (hyear : t.YearFits ahead) {nanos : Nat}
    (hnanos : nanos < 1000000000) :
    ∃ t', ((t.wall ahead).fields nanos).instant ahead = some t' ∧
      t'.millis = (t.second + (t.nanos / 1000000000 : Nat)) * 1000 + (nanos / 1000000 : Nat) := by
  have hmillis := Wall.millis_instant (t.fits_wall hyear) hnanos ahead
  obtain ⟨t', hinstant, hvalue⟩ := Option.map_eq_some_iff.mp hmillis
  refine ⟨t', hinstant, ?_⟩
  rw [hvalue, Instant.wall, Wall.seconds_showing]
  omega

/-- A fraction that names the millisecond makes up the instant's milliseconds. -/
theorem exists_instant_of_fraction {ahead : Int} (hyear : t.YearFits ahead) {fraction : String}
    (hfraction : t.Fraction fraction) :
    ∃ nanos t', Calendar.Fraction fraction nanos ∧
      ((t.wall ahead).fields nanos).instant ahead = some t' ∧
      t'.millis = t.elapsed / 1000000 := by
  obtain ⟨nanos, hread, hnanos⟩ := hfraction
  obtain ⟨t', hinstant, hmillis⟩ := exists_instant hyear hread.nanos_lt
  refine ⟨nanos, t', hread, hinstant, ?_⟩
  rw [hmillis, hnanos, Instant.elapsed]
  omega

theorem toMillis_around {text : String} {t' : Instant} (hsolid : Text.Solid text.toList)
    (hread : (readInternet text.toList).or
      (patterns.findSome? fun items => readPattern items {} text.toList) = some t')
    (hbefore : Text.isMissing before = true) (hafter : Text.isMissing after = true) :
    (SourceTimestamp.text (before ++ text ++ after)).toMillis = some t'.millis := by
  rw [SourceTimestamp.toMillis, readInstant_around hbefore hsolid hafter, hread]
  rfl

theorem toMillis_internet {mark : Char} {fraction zone : String} {ahead : Int}
    (hyear : t.YearFits ahead) (hmark : mark = 'T' ∨ mark = 't' ∨ mark = ' ')
    (hfraction : t.Fraction fraction) (hzone : Offset zone ahead)
    (hbefore : Text.isMissing before = true) (hafter : Text.isMissing after = true) :
    (SourceTimestamp.text (before ++ ((t.wall ahead).dateText ++ mark.toString ++
        (t.wall ahead).clockText ++ fraction ++ zone) ++ after)).toMillis =
      some (t.elapsed / 1000000) := by
  have hfits := t.fits_wall hyear
  obtain ⟨nanos, t', hdigits, hinstant, hmillis⟩ := exists_instant_of_fraction hyear hfraction
  have htext : ((t.wall ahead).dateText ++ mark.toString ++ (t.wall ahead).clockText ++ fraction ++
      zone).toList = (t.wall ahead).dateText.toList ++
        mark :: ((t.wall ahead).clockText.toList ++ (fraction.toList ++ zone.toList)) := by
    simp
  have hsolid : Text.Solid ((t.wall ahead).dateText.toList ++
      mark :: ((t.wall ahead).clockText.toList ++ (fraction.toList ++ zone.toList))) := by
    simpa using (solid_dateText hfits).around hzone.solid
      (mark :: ((t.wall ahead).clockText.toList ++ fraction.toList))
  rw [← hmillis]
  rw [← htext] at hsolid
  apply toMillis_around hsolid ?_ hbefore hafter
  rw [htext, Wall.readInternet_of_offset hfits hmark hdigits hzone, hinstant, Option.some_or]

theorem toMillis_yearFirst {mark : Char} {fraction : String} (hyear : t.YearFits 0)
    (hmark : mark = 'T' ∨ mark = ' ') (hfraction : t.Fraction fraction)
    (hbefore : Text.isMissing before = true) (hafter : Text.isMissing after = true) :
    (SourceTimestamp.text (before ++ ((t.wall 0).dateText ++ mark.toString ++
        (t.wall 0).clockText ++ fraction) ++ after)).toMillis = some (t.elapsed / 1000000) := by
  have hfits := t.fits_wall hyear
  obtain ⟨nanos, t', hdigits, hinstant, hmillis⟩ := exists_instant_of_fraction hyear hfraction
  have htext : ((t.wall 0).dateText ++ mark.toString ++ (t.wall 0).clockText ++ fraction).toList =
      (t.wall 0).dateText.toList ++
        mark :: ((t.wall 0).clockText.toList ++ fraction.toList) := by
    simp
  have hsolid : Text.Solid ((t.wall 0).dateText.toList ++
      mark :: ((t.wall 0).clockText.toList ++ fraction.toList)) := by
    simpa using (solid_dateText hfits).around (solid_clockText_append hfits hdigits) [mark]
  rw [← hmillis]
  rw [← htext] at hsolid
  apply toMillis_around hsolid ?_ hbefore hafter
  rw [htext, Wall.patterns_eq]
  rcases hmark with rfl | rfl
  · rw [Wall.readInternet_of_local hfits (Or.inl rfl) hdigits, Option.none_or]
    simp only [List.findSome?_cons, Wall.readPattern_spaced_of_joined hfits,
      Wall.readPattern_joined hfits hdigits, hinstant]
  · rw [Wall.readInternet_of_local hfits (Or.inr (Or.inr rfl)) hdigits, Option.none_or]
    simp only [List.findSome?_cons, Wall.readPattern_spaced hfits hdigits, hinstant]

theorem toMillis_monthFirst (hyear : t.YearFits 0)
    (hbefore : Text.isMissing before = true) (hafter : Text.isMissing after = true) :
    (SourceTimestamp.text (before ++ ((t.wall 0).slashText ++ " " ++ (t.wall 0).clockText) ++
        after)).toMillis = some (t.elapsed / 1000000000 * 1000) := by
  have hfits := t.fits_wall hyear
  obtain ⟨t', hinstant, hmillis⟩ := exists_instant hyear (by decide : 0 < 1000000000)
  have helapsed : t'.millis = t.elapsed / 1000000000 * 1000 := by
    rw [hmillis, Instant.elapsed]
    omega
  have htext : ((t.wall 0).slashText ++ " " ++ (t.wall 0).clockText).toList =
      (t.wall 0).slashText.toList ++ ' ' :: (t.wall 0).clockText.toList := by
    simp
  have hsolid : Text.Solid ((t.wall 0).slashText.toList ++
      ' ' :: (t.wall 0).clockText.toList) := by
    simpa using (solid_slashText hfits).around (solid_clockText hfits) [' ']
  rw [← helapsed]
  rw [← htext] at hsolid
  apply toMillis_around hsolid ?_ hbefore hafter
  rw [htext, Wall.patterns_eq, Wall.readInternet_of_slashed hfits, Option.none_or]
  have hfirst (items : List Item) : readPattern (dateItems ++ items) {}
      ((t.wall 0).slashText.toList ++ ' ' :: (t.wall 0).clockText.toList) = none :=
    Wall.readPattern_year_of_slashed hfits _ _ _
  simp only [List.findSome?_cons, hfirst, Wall.readPattern_shortYear hfits,
    Wall.readPattern_slashed hfits, hinstant]

/-- What a tag shows is the internet form with milliseconds and `Z`. -/
theorem display_eq (hyear : t.YearFits 0) :
    (TagValue.timestamp t).display = (t.wall 0).dateText ++ 'T'.toString ++ (t.wall 0).clockText ++
      ("." ++ padded 3 (t.nanos % 1000000000 / 1000000)) ++ "Z" := by
  have hfour : 0 ≤ (Date.ofDays (t.second / 86400)).year ∧
      (Date.ofDays (t.second / 86400)).year ≤ 9999 := by
    simpa [Instant.YearFits, Instant.wall, Wall.showing] using hyear
  simp [TagValue.display, Instant.text, yearText, hfour, Instant.wall, Wall.showing, Wall.dateText,
    Wall.clockText, String.append_assoc]

/-- Whatever blanks are put around a spelling, it is read as the milliseconds it stands for. -/
theorem toMillis_of_spelled {text : String} {millis : Int} (hspelled : Spelled t text millis)
    (hbefore : Text.isMissing before = true) (hafter : Text.isMissing after = true) :
    (SourceTimestamp.text (before ++ text ++ after)).toMillis = some millis := by
  cases hspelled with
  | shown hyear =>
      rw [display_eq hyear]
      exact toMillis_internet hyear (Or.inl rfl) t.fraction_padded (.zulu (Or.inl rfl)) hbefore
        hafter
  | internet hyear hmark hfraction hzone =>
      exact toMillis_internet hyear hmark hfraction hzone hbefore hafter
  | yearFirst hyear hmark hfraction =>
      exact toMillis_yearFirst hyear hmark hfraction hbefore hafter
  | monthFirst hyear => exact toMillis_monthFirst hyear hbefore hafter

/-- The leap second at the end of 2016, half over, where it is an hour later. -/
theorem toMillis_of_spelled_leap :
    (SourceTimestamp.text ("\t" ++ "2017-01-01T00:59:60.5+01:00" ++ " \n")).toMillis =
      some 1483228800500 := by
  let t : Instant := ⟨1483228799, 1500000000, by decide⟩
  have hyear : t.YearFits 3600 := by
    rw [Instant.YearFits]
    decide
  have hfigures : Figures (padded 1 5).toList := figures_padded (by decide) (by decide)
  have hfraction : t.Fraction ("." ++ padded 1 5) := ⟨_, .digits hfigures, by decide⟩
  have hzone : Offset ("+" ++ offsetClock 1 0) 3600 := .ahead (by decide) (by decide)
  have htext : (t.wall 3600).dateText ++ 'T'.toString ++ (t.wall 3600).clockText ++
      ("." ++ padded 1 5) ++ ("+" ++ offsetClock 1 0) = "2017-01-01T00:59:60.5+01:00" := by decide
  have hmillis : t.elapsed / 1000000 = 1483228800500 := by decide
  have hspelled : Spelled t "2017-01-01T00:59:60.5+01:00" 1483228800500 := by
    rw [← htext, ← hmillis]
    exact .internet hyear (Or.inl rfl) hfraction hzone
  exact toMillis_of_spelled hspelled (by decide) (by decide)

end TagRelay.Calendar
