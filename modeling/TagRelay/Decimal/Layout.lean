import TagRelay.Decimal.Shortest

/-!
# Layouts of floating-point numbers

Both texts of a number hold its shortest digits and differ in their layout: data
files use a mark for a number that happens to be whole and an exponent for very
large and very small ones, plain text uses neither.
-/

namespace TagRelay.Decimal

/-- How digits are laid out.  A number whose decimal point stands after `e` digits
is written without exponent for `lowest ≤ e ≤ highest`, if there are such limits. -/
structure Layout where
  limits : Option (Int × Int)
  /-- `.0` follows a number without fraction. -/
  wholeMark : Bool
  /-- Of two equally near shortest decimals, the larger is taken, otherwise the one
  with an even last digit. -/
  tieUp : Bool

/-- The layout of data files: an exponent from `1e+16` up and below `1e-5`. -/
def Layout.data : Layout := ⟨some (-4, 16), true, false⟩

/-- The layout of plain text: never an exponent and no mark. -/
def Layout.plain : Layout := ⟨none, false, true⟩

/-- The decimal point after `point` of the digits, with zeros where it lies outside. -/
def Layout.positional (layout : Layout) (text : List Char) (point : Int) : List Char :=
  if point ≤ 0 then
    ['0', '.'] ++ List.replicate (-point).toNat '0' ++ text
  else if text.length ≤ point.toNat then
    text ++ List.replicate (point.toNat - text.length) '0' ++
      if layout.wholeMark then ['.', '0'] else []
  else text.take point.toNat ++ ['.'] ++ text.drop point.toNat

/-- One digit before the point, and the exponent with its sign. -/
def scientific (text : List Char) (point : Int) : List Char :=
  let exponent := point - 1
  let fraction := text.drop 1
  text.take 1 ++ (if fraction.isEmpty then [] else '.' :: fraction) ++
    ['e', if exponent < 0 then '-' else '+'] ++ digits exponent.natAbs

def Layout.magnitude (layout : Layout) (x : Float) : List Char :=
  if x == 0 then if layout.wholeMark then ['0', '.', '0'] else ['0']
  else
    let decimal := shortest layout.tieUp (Binary.ofFloat x)
    let text := digits decimal.digits
    let point := decimal.exponent + text.length
    match layout.limits with
    | none => layout.positional text point
    | some (lowest, highest) =>
        if lowest ≤ point ∧ point ≤ highest then layout.positional text point
        else scientific text point

/-- The sign of a number, also of a zero. -/
def isNegative (x : Float) : Bool := Nat.pow 2 63 ≤ x.toBits.toNat

/-- The text of any number; the ones that are not finite have names. -/
def Layout.text (layout : Layout) (x : Float) : String :=
  if x.isNaN then "NaN"
  else if x.isInf then if isNegative x then "-inf" else "inf"
  else
    String.ofList ((if isNegative x then ['-'] else []) ++ layout.magnitude x)

end TagRelay.Decimal
