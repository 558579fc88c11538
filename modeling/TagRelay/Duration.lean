import TagRelay.Decimal.Whole

/-!
# Durations

Lengths of time in nanoseconds, and their text in the largest unit among `s`, `ms`,
`µs` and `ns` that is not longer than the duration.
-/

namespace TagRelay

structure Duration where
  nanos : Nat
  deriving Repr, DecidableEq

namespace Duration

def ofMillis (millis : Nat) : Duration := ⟨millis * 1000000⟩

/-- Whole milliseconds, at most the greatest 64-bit number. -/
def millis (d : Duration) : Nat := min (d.nanos / 1000000) (Nat.pow 2 64 - 1)

/-- The digits of `rest / 10 ^ width` after the point, without zeros at the end. -/
def fractionText (width rest : Nat) : String :=
  let figures := (Decimal.padded width rest).toList
  let kept := (figures.reverse.dropWhile (· == '0')).reverse
  if kept.isEmpty then "" else String.ofList ('.' :: kept)

/-- A number of nanoseconds in a unit of `10 ^ width` of them. -/
def inUnit (nanos width : Nat) (unit : String) : String :=
  Decimal.wholeText (nanos / Nat.pow 10 width : Nat) ++
    fractionText width (nanos % Nat.pow 10 width) ++ unit

def text (d : Duration) : String :=
  if 1000000000 ≤ d.nanos then inUnit d.nanos 9 "s"
  else if 1000000 ≤ d.nanos then inUnit d.nanos 6 "ms"
  else if 1000 ≤ d.nanos then inUnit d.nanos 3 "µs"
  else Decimal.wholeText d.nanos ++ "ns"

end Duration

end TagRelay
