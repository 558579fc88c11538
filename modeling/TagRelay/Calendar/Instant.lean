import TagRelay.Calendar.Date
import TagRelay.Decimal.Whole

/-!
# Instants

An instant is a second of Coordinated Universal Time and the nanoseconds in it.  In
a leap second the nanoseconds go on beyond one second, so it is shown as second 60
and counts as a second more than the one before it.
-/

namespace TagRelay.Calendar

structure Instant where
  /-- Seconds since the beginning of 1970. -/
  second : Int
  nanos : Nat
  nanos_lt : nanos < 2000000000 := by omega
  deriving DecidableEq

/-- Milliseconds since the beginning of 1970, rounded down. -/
def Instant.millis (t : Instant) : Int := t.second * 1000 + (t.nanos / 1000000 : Nat)

/-- The instant of a number of milliseconds. -/
def Instant.ofMillis (millis : Int) (nanos : Nat) : Instant :=
  ⟨millis / 1000, ((millis % 1000).toNat * 1000000 + nanos) % 1000000000, by omega⟩

/-- The leap second that follows the second of an instant. -/
def Instant.leap (t : Instant) : Instant :=
  ⟨t.second, t.nanos % 1000000000 + 1000000000, by omega⟩

/-- A year of four digits; outside 0 to 9999 it has a sign. -/
def yearText (year : Int) : String :=
  if 0 ≤ year ∧ year ≤ 9999 then Decimal.padded 4 year.toNat
  else (if year < 0 then "-" else "+") ++ Decimal.padded 4 year.natAbs

/-- The text of an instant with milliseconds, such as `2024-01-01T12:00:00.000Z`. -/
def Instant.text (t : Instant) : String :=
  let date := Date.ofDays (t.second / 86400)
  let clock := (t.second % 86400).toNat
  let two := Decimal.padded 2
  yearText date.year ++ "-" ++ two date.month.toNat ++ "-" ++ two date.day.toNat ++ "T" ++
    two (clock / 3600) ++ ":" ++ two (clock / 60 % 60) ++ ":" ++
    two (clock % 60 + t.nanos / 1000000000) ++ "." ++
    Decimal.padded 3 (t.nanos % 1000000000 / 1000000) ++ "Z"

end TagRelay.Calendar
