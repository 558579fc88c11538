import TagRelay.Calendar.Reader
import TagRelay.Proofs.Calendar.Date
import TagRelay.Proofs.Decimal.Whole

/-!
# Calendars and clocks

What a calendar and a clock show at a second leads back to this second, and in a leap second to
the one after it.
-/

namespace TagRelay.Calendar

open Decimal (padded)

/-- What a calendar and a clock on a wall show. -/
structure Wall where
  date : Date
  hour : Nat
  minute : Nat
  second : Nat

namespace Wall

/-- What is shown at a second; with one second added the clock may show second 60. -/
def showing (second : Int) (added : Nat) : Wall :=
  let clock := (second % 86400).toNat
  ⟨Date.ofDays (second / 86400), clock / 3600, clock / 60 % 60, clock % 60 + added⟩

/-- The year has four digits and the rest is a date and a time of day. -/
structure Fits (w : Wall) : Prop where
  year : 0 ≤ w.date.year ∧ w.date.year ≤ 9999
  date : w.date.Exists
  hour : w.hour < 24
  minute : w.minute < 60
  second : w.second ≤ 60

theorem fits_showing {second : Int} {added : Nat}
    (hyear : 0 ≤ (Date.ofDays (second / 86400)).year ∧ (Date.ofDays (second / 86400)).year ≤ 9999)
    (hadded : added ≤ 1) : (showing second added).Fits where
  year := hyear
  date := exists_ofDays _
  hour := by
    simp only [showing]
    omega
  minute := by
    simp only [showing]
    omega
  second := by
    simp only [showing]
    omega

def fields (w : Wall) (nanos : Nat) : Fields where
  year := w.date.year
  month := w.date.month.toNat
  day := w.date.day.toNat
  hour := w.hour
  minute := w.minute
  second := w.second
  nanos := nanos

/-- The seconds from the beginning of 1970, where second 60 is the first of the next minute. -/
def seconds (w : Wall) : Int :=
  w.date.toDays * 86400 + (w.hour * 3600 + w.minute * 60 + w.second : Nat)

theorem seconds_showing (second : Int) (added : Nat) :
    (showing second added).seconds = second + added := by
  rw [seconds, showing, toDays_ofDays]
  dsimp only
  omega

theorem Fits.month_toNat {w : Wall} (hfits : w.Fits) : (w.date.month.toNat : Int) = w.date.month := by
  have hpos := hfits.date.month_pos
  omega

theorem Fits.day_toNat {w : Wall} (hfits : w.Fits) : (w.date.day.toNat : Int) = w.date.day := by
  have hpos := hfits.date.day_pos
  omega

/-- The instant that the fields name, whichever way its leap second is counted. -/
theorem millis_instant {w : Wall} (hfits : w.Fits) {nanos : Nat} (hnanos : nanos < 1000000000)
    (ahead : Int) :
    ((w.fields nanos).instant ahead).map Instant.millis =
      some ((w.seconds - ahead) * 1000 + (nanos / 1000000 : Nat)) := by
  have hyear : Date.inRange w.date.year = true := by
    have hbounds := hfits.year
    simp only [Date.inRange, Bool.and_eq_true, decide_eq_true_eq]
    omega
  have hdate : w.date.isValid = true := hfits.date.isValid hyear
  have hsame : Date.mk w.date.year w.date.month w.date.day = w.date := rfl
  simp only [Fields.instant, fields, hfits.month_toNat, hfits.day_toNat, hsame]
  rw [if_pos ⟨hdate, hfits.hour, hfits.minute, hfits.second⟩, Option.map_some, Instant.millis,
    seconds]
  dsimp only
  rcases hfits.second.lt_or_eq with hsecond | hsecond
  · -- No second is left over, and the nanoseconds stay as they are.
    have hleap : w.second / 60 = 0 := Nat.div_eq_of_lt hsecond
    have hmod : (nanos + 0 * 1000000000) % 2000000000 = nanos := by omega
    rw [hleap, hmod]
    apply congrArg some
    omega
  · have hmod : (nanos + 1 * 1000000000) % 2000000000 = nanos + 1000000000 := by omega
    have hdiv : (nanos + 1000000000) / 1000000 = nanos / 1000000 + 1000 := by omega
    have hleap : 60 / 60 = 1 := by decide
    rw [hsecond, hleap, hmod, hdiv]
    apply congrArg some
    omega

end Wall

end TagRelay.Calendar
