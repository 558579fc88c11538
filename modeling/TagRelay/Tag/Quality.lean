import TagRelay.Decimal.Whole

/-!
# Quality codes

Every reading carries a quality code.  One code only is trusted; the others are
described in words, and their description takes the place of the value.
-/

namespace TagRelay

structure Quality where
  code : UInt16
  deriving Repr, DecidableEq

namespace Quality

def good : Quality := ⟨192⟩

def bad : Quality := ⟨0⟩

/-- Only the code 192 is trusted. -/
def isGood (q : Quality) : Bool := q = good

/-- The codes with a description of their own. -/
def named : List (UInt16 × String) :=
  [(0x00, "Bad"), (0x04, "Config Error"), (0x08, "Not Connected"), (0x0C, "Device Failure"),
    (0x10, "Sensor Failure"), (0x14, "Last Known Value"), (0x18, "Comm Failure"),
    (0x1C, "Out of Service"), (0x40, "Uncertain"), (0x44, "Last Usable Value"),
    (0x50, "Sensor Not Accurate"), (0x54, "EU Units Exceeded"), (0x58, "Sub-Normal"),
    (0xC0, "Good"), (0xD8, "Local Override")]

/-- Any other code is described by its two leading bits in the low byte. -/
def describe (q : Quality) : String :=
  match named.lookup q.code with
  | some words => words
  | none =>
      if q.code &&& 0xC0 = 0x40 then "Uncertain"
      else if q.code &&& 0xC0 = 0xC0 then "Good (substatus)"
      else "Bad"

def display (q : Quality) : String :=
  q.describe ++ " (" ++ Decimal.wholeText (q.code.toNat : Int) ++ ")"

/-- What is forwarded in place of a value that is not trusted. -/
def diagnostic (q : Quality) : String := "BAD_QUALITY: " ++ q.display

end Quality

end TagRelay
