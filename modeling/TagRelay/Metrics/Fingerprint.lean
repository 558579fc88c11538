import TagRelay.Decimal.Whole

/-!
# Fingerprints of label values

A labelled count is found by a number of 64 bits that is drawn from its label values.
The values are read one after the other with nothing between them, so it does not matter
where one ends and the next begins.
-/

namespace TagRelay.Fingerprint

/-- The fingerprint of no bytes. -/
def start : UInt64 := 0xCBF29CE484222325

/-- Reads one more byte: it changes the low bits, which the product spreads. -/
def absorb (state : UInt64) (byte : UInt8) : UInt64 :=
  (state ^^^ byte.toUInt64) * 0x100000001B3

def ofBytes (bytes : List UInt8) : UInt64 := bytes.foldl absorb start

/-- The bytes of a text in UTF-8. -/
def textBytes (text : String) : List UInt8 := text.toList.flatMap String.utf8EncodeChar

def ofValues (values : List String) : UInt64 := ofBytes (values.flatMap textBytes)

end TagRelay.Fingerprint

namespace TagRelay

/-- Keys that stand for label values, in the order in which the labels are declared. -/
class Labelled (κ : Type) where
  values : κ → List String

/-- A device is its own label. -/
instance : Labelled String := ⟨fun device => [device]⟩

/-- A method and the code that it was answered with. -/
instance : Labelled (String × Nat) :=
  ⟨fun (method, code) => [method, Decimal.wholeText (code : Int)]⟩

def Labelled.fingerprint {κ : Type} [Labelled κ] (key : κ) : UInt64 :=
  Fingerprint.ofValues (values key)

end TagRelay
