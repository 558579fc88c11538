import TagRelay.Decimal.Whole

/-!
# The fewest digits that read back

A binary floating-point number `m · 2 ^ q` is the nearest one to every real in an
interval around it, ends included when `m` is even.  Among the decimal grids from
coarse to fine, the first with a point in that interval gives the digits; of two
points the nearer is taken, and a tie is left to the format.

If any point of a grid lies in the interval, so does one of the value's two
neighbours on that grid, hence only these two are tested.
-/

namespace TagRelay.Decimal

/-- A positive binary floating-point number `mantissa · 2 ^ exponent`.  `narrow`
tells that the next number below is only half as far away as the one above. -/
structure Binary where
  mantissa : Nat
  exponent : Int
  narrow : Bool

/-- A decimal number `digits · 10 ^ exponent`. -/
structure Scaled where
  digits : Nat
  exponent : Int
  deriving Repr, DecidableEq

/-- The magnitude of a finite number that is not zero. -/
def Binary.ofFloat (x : Float) : Binary :=
  let bits := x.toBits.toNat
  let fraction : Nat := bits % Nat.pow 2 52
  let biased : Nat := bits / Nat.pow 2 52 % Nat.pow 2 11
  if biased = 0 then ⟨fraction, -1074, false⟩
  else ⟨fraction + Nat.pow 2 52, (biased : Int) - 1075, fraction = 0 ∧ 1 < biased⟩

/-- The number as a quotient of whole numbers. -/
def Binary.ratio (b : Binary) : Nat × Nat :=
  (b.mantissa * Nat.pow 2 b.exponent.toNat, Nat.pow 2 (-b.exponent).toNat)

/-- The `e` with `10 ^ (e - 1) ≤ num / den < 10 ^ e`. -/
def magnitude (num den : Nat) : Int :=
  if den ≤ num then (digits (num / den)).length
  else 1 - (digits ((den - 1) / num)).length

/-- The point of the grid `10 ^ exponent` that reads back as the number, if there
is one. -/
def Binary.onGrid (tieUp : Bool) (b : Binary) (exponent : Int) : Option Nat :=
  let unit := Nat.pow 10 exponent.toNat * Nat.pow 2 (2 - b.exponent).toNat
  let scale := Nat.pow 2 (b.exponent - 2).toNat * Nat.pow 10 (-exponent).toNat
  let value := 4 * b.mantissa * scale
  let low := value - (if b.narrow then 1 else 2) * scale
  let high := value + 2 * scale
  let inside := fun (n : Nat) =>
    if b.mantissa % 2 = 0 then low ≤ n * unit ∧ n * unit ≤ high
    else low < n * unit ∧ n * unit < high
  let below := value / unit
  let above := below + 1
  let rest := value - below * unit
  if inside below then
    if inside above then
      if 2 * rest < unit then some below
      else if unit < 2 * rest then some above
      else if tieUp ∨ below % 2 = 1 then some above
      else some below
    else some below
  else if inside above then some above
  else none

/-- The first hit on the grids of one to `count` digits. -/
def Binary.search (tieUp : Bool) (b : Binary) (top : Int) : Nat → Option Scaled
  | 0 => none
  | count + 1 =>
      match b.search tieUp top count with
      | some hit => some hit
      | none =>
          (b.onGrid tieUp (top - (count + 1))).map fun n => ⟨n, top - (count + 1)⟩

/-- Drops the zeros at the end of the digits. -/
def Scaled.trimZeros (fuel : Nat) (s : Scaled) : Scaled :=
  match fuel with
  | 0 => s
  | fuel + 1 =>
      if s.digits ≠ 0 ∧ s.digits % 10 = 0 then
        Scaled.trimZeros fuel ⟨s.digits / 10, s.exponent + 1⟩
      else s

/-- The shortest decimal of a positive finite number; seventeen digits are always
enough. -/
def shortest (tieUp : Bool) (b : Binary) : Scaled :=
  let (num, den) := b.ratio
  ((b.search tieUp (magnitude num den) 17).getD ⟨0, 0⟩).trimZeros 17

end TagRelay.Decimal
