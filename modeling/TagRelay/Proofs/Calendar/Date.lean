import Mathlib.Tactic.IntervalCases
import TagRelay.Calendar.Date

/-!
# Days and dates

A day has its place in a period of 400 years: the century, the four years in it, the year of these
and the day of this year, where years begin in March.  From its place both the date of a day and
the number of days that leads back to it are read off.
-/

namespace TagRelay.Calendar

/-- A date of the calendar, however far away. -/
structure Date.Exists (d : Date) : Prop where
  month_pos : 1 ≤ d.month
  month_le : d.month ≤ 12
  day_pos : 1 ≤ d.day
  day_le : d.day ≤ daysInMonth d.year d.month

theorem daysInMonth_le (year month : Int) : daysInMonth year month ≤ 31 := by
  rw [daysInMonth]
  split
  · split <;> omega
  · split <;> omega

theorem le_daysInMonth (year month : Int) : 28 ≤ daysInMonth year month := by
  rw [daysInMonth]
  split
  · split <;> omega
  · split <;> omega

theorem daysInMonth_february (year : Int) : daysInMonth year 2 ≤ 29 := by
  rw [daysInMonth, if_pos rfl]
  split <;> omega

theorem Date.Exists.isValid {d : Date} (hexists : d.Exists) (hyear : Date.inRange d.year = true) :
    d.isValid = true := by
  simp [Date.isValid, hyear, hexists.month_pos, hexists.month_le, hexists.day_pos, hexists.day_le]

theorem isLeapYear_iff (year : Int) :
    isLeapYear year = true ↔ year % 4 = 0 ∧ (year % 100 ≠ 0 ∨ year % 400 = 0) := by
  simp only [isLeapYear, Bool.or_eq_true, Bool.and_eq_true, beq_iff_eq, bne_iff_ne]
  omega

/-! ## Places in a period -/

/-- Where a day stands in a period of 400 years. -/
structure Place where
  century : Int
  /-- The years of a century, four by four. -/
  four : Int
  /-- The year of these four. -/
  turn : Int
  /-- The day of the year, from the first of March on. -/
  day : Int
  century_bounds : 0 ≤ century ∧ century ≤ 3
  four_bounds : 0 ≤ four ∧ four ≤ 24
  turn_bounds : 0 ≤ turn ∧ turn ≤ 3
  day_nonneg : 0 ≤ day
  /-- Day 365 is a leap day, at the end of four years, but at the end of three centuries. -/
  day_le : day ≤ 364 ∨ day = 365 ∧ turn = 3 ∧ (four ≤ 23 ∨ century = 3)

namespace Place

variable (p : Place) (period : Int)

def year : Int := 100 * p.century + 4 * p.four + p.turn

/-- The number of the day in its period. -/
def number : Int := 36524 * p.century + 1461 * p.four + 365 * p.turn + p.day

/-- The date of a day, given its period. -/
def date : Date :=
  let month := (5 * p.day + 2) / 153
  let day := p.day - (153 * month + 2) / 5 + 1
  let year := p.year + period * 400
  if month < 10 then ⟨year, month + 3, day⟩ else ⟨year + 1, month - 9, day⟩

theorem exists_number {n : Int} (hlower : 0 ≤ n) (hupper : n < 146097) :
    ∃ p : Place, p.number = n := by
  -- The last day of a period, of four years and of a year belongs to what goes before.
  let century := min (n / 36524) 3
  let four := (n - 36524 * century) / 1461
  let turn := min ((n - 36524 * century - 1461 * four) / 365) 3
  let day := n - 36524 * century - 1461 * four - 365 * turn
  have hcentury : 0 ≤ century ∧ century ≤ 3 := by omega
  have hrest : 0 ≤ n - 36524 * century ∧
      (n - 36524 * century < 36524 ∨ century = 3 ∧ n - 36524 * century < 36525) := by omega
  have hfour : 0 ≤ four ∧ four ≤ 24 := by omega
  have hturn : 0 ≤ turn ∧ turn ≤ 3 := by omega
  have hday : 0 ≤ day := by omega
  have hleap : day ≤ 364 ∨ day = 365 ∧ turn = 3 ∧ (four ≤ 23 ∨ century = 3) := by omega
  refine ⟨⟨century, four, turn, day, hcentury, hfour, hturn, hday, hleap⟩, ?_⟩
  change 36524 * century + 1461 * four + 365 * turn + day = n
  omega

theorem number_bounds : 0 ≤ p.number ∧ p.number < 146097 := by
  have hcentury := p.century_bounds
  have hfour := p.four_bounds
  have hturn := p.turn_bounds
  have hday := p.day_nonneg
  have hleap := p.day_le
  rw [number]
  omega

theorem century_number : p.number / 36524 - p.number / 146096 = p.century := by
  have hcentury := p.century_bounds
  have hfour := p.four_bounds
  have hturn := p.turn_bounds
  have hday := p.day_nonneg
  have hleap := p.day_le
  have hlast : p.number = 146096 ∧ p.century = 3 ∨ p.number - 36524 * p.century ≤ 36523 := by
    rw [number]
    omega
  have hfirst : 0 ≤ p.number - 36524 * p.century := by
    rw [number]
    omega
  omega

/-- Taking off a day for every four years leaves years of 365 days. -/
theorem number_div :
    ∃ leap : Int, p.number / 1460 = 25 * p.century + p.four + leap ∧
      0 ≤ p.day - leap ∧ p.day - leap ≤ 364 := by
  have hcentury := p.century_bounds
  have hfour := p.four_bounds
  have hturn := p.turn_bounds
  have hday := p.day_nonneg
  have hleap := p.day_le
  refine ⟨p.number / 1460 - 25 * p.century - p.four, by omega, ?_⟩
  rw [number]
  omega

theorem year_number :
    (p.number - p.number / 1460 + p.number / 36524 - p.number / 146096) / 365 = p.year := by
  obtain ⟨leap, hdiv, hlower, hupper⟩ := p.number_div
  have hcentury := p.century_number
  have hnumber : p.number - p.number / 1460 + p.number / 36524 - p.number / 146096 =
      365 * p.year + (p.day - leap) := by
    calc p.number - p.number / 1460 + p.number / 36524 - p.number / 146096
        = p.number - (25 * p.century + p.four + leap) + p.century := by omega
      _ = 365 * p.year + (p.day - leap) := by
        rw [number, year]
        omega
  rw [hnumber]
  omega

theorem day_number :
    p.number - (365 * p.year + p.year / 4 - p.year / 100) = p.day := by
  have hcentury := p.century_bounds
  have hfour := p.four_bounds
  have hturn := p.turn_bounds
  rw [number, year]
  omega

/-! ## Dates of places -/

theorem ofDays_number :
    Date.ofDays (period * 146097 + p.number - 719468) = p.date period := by
  have hbounds := p.number_bounds
  have hperiod : (period * 146097 + p.number - 719468 + 719468) / 146097 = period := by omega
  have hnumber : (period * 146097 + p.number - 719468 + 719468) % 146097 = p.number := by omega
  simp only [Date.ofDays, hperiod, hnumber, p.year_number, p.day_number]
  rfl

theorem year_bounds : 0 ≤ p.year ∧ p.year < 400 := by
  have hcentury := p.century_bounds
  have hfour := p.four_bounds
  have hturn := p.turn_bounds
  rw [year]
  omega

theorem toDays_date :
    (p.date period).toDays = period * 146097 + p.number - 719468 := by
  have hyear := p.year_bounds
  have hday := p.day_number
  have hnonneg := p.day_nonneg
  have hleap := p.day_le
  rw [date]
  split
  · simp only [Date.toDays]
    rw [if_neg (by omega)]
    omega
  · simp only [Date.toDays]
    rw [if_pos (by omega)]
    omega

/-- The leap day ends a year whose February has it. -/
theorem isLeapYear_of_day (hday : p.day = 365) :
    isLeapYear (p.year + period * 400 + 1) = true := by
  have hleap := p.day_le
  have hcentury := p.century_bounds
  have hfour := p.four_bounds
  rw [isLeapYear_iff, year]
  omega

theorem exists_date : (p.date period).Exists := by
  have hnonneg := p.day_nonneg
  have hleap := p.day_le
  rw [date]
  split
  · refine ⟨?_, ?_, ?_, ?_⟩ <;> simp only [daysInMonth]
    · omega
    · omega
    · omega
    · rw [if_neg (by omega)]
      split <;> omega
  · refine ⟨?_, ?_, ?_, ?_⟩ <;> simp only [daysInMonth]
    · omega
    · omega
    · omega
    · by_cases hmonth : (5 * p.day + 2) / 153 = 10
      · rw [if_neg (by omega), if_neg (by omega)]
        omega
      · have hlast : (5 * p.day + 2) / 153 = 11 := by omega
        rw [if_pos (by omega)]
        split
        · omega
        · rename_i hcommon
          have hday : p.day ≠ 365 := fun hday => hcommon (p.isLeapYear_of_day period hday)
          omega

end Place

/-! ## Days there and back -/

theorem exists_place (days : Int) :
    ∃ (p : Place) (period : Int), days = period * 146097 + p.number - 719468 := by
  have hlower : 0 ≤ (days + 719468) % 146097 := by omega
  have hupper : (days + 719468) % 146097 < 146097 := by omega
  obtain ⟨p, hnumber⟩ := Place.exists_number hlower hupper
  refine ⟨p, (days + 719468) / 146097, ?_⟩
  omega

theorem toDays_ofDays (days : Int) : (Date.ofDays days).toDays = days := by
  obtain ⟨p, period, rfl⟩ := exists_place days
  rw [p.ofDays_number, p.toDays_date]

theorem exists_ofDays (days : Int) : (Date.ofDays days).Exists := by
  obtain ⟨p, period, rfl⟩ := exists_place days
  rw [p.ofDays_number]
  exact p.exists_date period

/-- The days of a month lie between the first days of two months. -/
theorem Date.Exists.month_div {year month day : Int} (hexists : Date.Exists ⟨year, month, day⟩) :
    (5 * ((153 * ((month + 9) % 12) + 2) / 5 + day - 1) + 2) / 153 = (month + 9) % 12 := by
  obtain ⟨hmonthPos, hmonthLe, hdayPos, hdayLe⟩ := hexists
  dsimp only at hmonthPos hmonthLe hdayPos hdayLe
  have hfebruary := daysInMonth_february year
  have hday := daysInMonth_le year month
  by_cases hmonth : month = 4 ∨ month = 6 ∨ month = 9 ∨ month = 11
  · rw [daysInMonth, if_neg (by omega), if_pos hmonth] at hdayLe
    omega
  · interval_cases month <;> omega

/-- The place of a date that exists. -/
theorem Date.Exists.exists_place {d : Date} (hexists : d.Exists) :
    ∃ (p : Place) (period : Int), p.date period = d := by
  obtain ⟨dyear, dmonth, dday⟩ := d
  have hmonth := hexists.month_div
  obtain ⟨hmonthPos, hmonthLe, hdayPos, hdayLe⟩ := hexists
  dsimp only at hmonthPos hmonthLe hdayPos hdayLe
  -- Counted from March, January and February belong to the year before.
  obtain ⟨year, hyear⟩ : ∃ year, dmonth ≤ 2 ∧ year = dyear - 1 ∨ 2 < dmonth ∧ year = dyear := by
    by_cases hearly : dmonth ≤ 2
    · exact ⟨dyear - 1, Or.inl ⟨hearly, rfl⟩⟩
    · exact ⟨dyear, Or.inr ⟨by omega, rfl⟩⟩
  let day := (153 * ((dmonth + 9) % 12) + 2) / 5 + dday - 1
  have hday : 0 ≤ day := by omega
  have hleap : day ≤ 364 ∨
      day = 365 ∧ year % 4 = 3 ∧ (year % 400 % 100 / 4 ≤ 23 ∨ year % 400 / 100 = 3) := by
    by_cases hfebruary : dmonth = 2
    · rw [daysInMonth, if_pos hfebruary] at hdayLe
      have hleapYear := isLeapYear_iff dyear
      split at hdayLe
      · rename_i hleap
        have hyears := hleapYear.mp hleap
        omega
      · omega
    · omega
  refine ⟨⟨year % 400 / 100, year % 400 % 100 / 4, year % 4, day, by omega, by omega, by omega,
    hday, by omega⟩, year / 400, ?_⟩
  have hparts : 100 * (year % 400 / 100) + 4 * (year % 400 % 100 / 4) + year % 4 +
      year / 400 * 400 = year := by omega
  simp only [Place.date, Place.year, hparts]
  rw [show (5 * day + 2) / 153 = (dmonth + 9) % 12 from hmonth]
  split <;> congr 1 <;> omega

theorem ofDays_toDays {d : Date} (hexists : d.Exists) : Date.ofDays d.toDays = d := by
  obtain ⟨p, period, rfl⟩ := hexists.exists_place
  rw [p.toDays_date, p.ofDays_number]

/-! ## One day after another -/

/-- The day after. -/
def Date.next (d : Date) : Date :=
  if d.day < daysInMonth d.year d.month then { d with day := d.day + 1 }
  else if d.month < 12 then ⟨d.year, d.month + 1, 1⟩
  else ⟨d.year + 1, 1, 1⟩

theorem Date.Exists.next {d : Date} (hexists : d.Exists) : d.next.Exists := by
  obtain ⟨hmonthPos, hmonthLe, hdayPos, hdayLe⟩ := hexists
  rw [Date.next]
  split
  · constructor <;> dsimp only <;> omega
  · split
    · have hdays := le_daysInMonth d.year (d.month + 1)
      constructor <;> dsimp only <;> omega
    · have hdays := le_daysInMonth (d.year + 1) 1
      constructor <;> dsimp only <;> omega

/-- From the first of a month to the first of the next, but for February. -/
theorem first_of_next_month {month : Int} (hpos : 1 ≤ month) (hle : month ≤ 11)
    (hfebruary : month ≠ 2) :
    (153 * ((month + 1 + 9) % 12) + 2) / 5 = (153 * ((month + 9) % 12) + 2) / 5 +
      if month = 4 ∨ month = 6 ∨ month = 9 ∨ month = 11 then 30 else 31 := by
  interval_cases month <;> first | rfl | exact absurd rfl hfebruary

theorem Date.Exists.toDays_next {d : Date} (hexists : d.Exists) :
    d.next.toDays = d.toDays + 1 := by
  obtain ⟨hmonthPos, hmonthLe, hdayPos, hdayLe⟩ := hexists
  rw [Date.next]
  split
  · simp only [Date.toDays]
    omega
  · rename_i hlast
    have hday : d.day = daysInMonth d.year d.month := by omega
    split
    · by_cases hfebruary : d.month = 2
      · rw [hfebruary, daysInMonth, if_pos rfl] at hday
        have hleapYear := isLeapYear_iff d.year
        simp only [Date.toDays, hfebruary]
        rw [if_neg (by decide), if_pos (by decide)]
        split at hday
        · rename_i hleap
          have hyears := hleapYear.mp hleap
          omega
        · rename_i hcommon
          have hyears := mt hleapYear.mpr hcommon
          omega
      · rw [daysInMonth, if_neg hfebruary] at hday
        have hearly : d.month + 1 ≤ 2 ↔ d.month ≤ 2 := by omega
        have hmonth := first_of_next_month hmonthPos (by omega) hfebruary
        simp only [Date.toDays, hearly]
        omega
    · have hmonth : d.month = 12 := by omega
      rw [hmonth] at hday
      have hdays : daysInMonth d.year 12 = 31 := rfl
      simp only [Date.toDays, hmonth, hday, hdays]
      rw [if_pos (by decide), if_neg (by decide)]
      omega

/-- The dates of the calendar follow one another as the days do. -/
theorem ofDays_add_one (days : Int) : Date.ofDays (days + 1) = (Date.ofDays days).next := by
  have hexists := exists_ofDays days
  calc Date.ofDays (days + 1)
      = Date.ofDays (Date.ofDays days).next.toDays := by
        rw [hexists.toDays_next, toDays_ofDays]
    _ = (Date.ofDays days).next := ofDays_toDays hexists.next

example : Date.ofDays 0 = ⟨1970, 1, 1⟩ := by decide

end TagRelay.Calendar
