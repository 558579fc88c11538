/-!
# Blank text

Names, paths and parameters are compared and trimmed by the white space of the
Unicode standard.  `isBlank` is that class, and `trim` removes it from both ends
of a text and nowhere else.
-/

namespace TagRelay.Text

/-- The characters with the property `White_Space`. -/
def isBlank (c : Char) : Bool :=
  (0x09 ≤ c.toNat && c.toNat ≤ 0x0D) || c.toNat == 0x20 || c.toNat == 0x85 ||
    c.toNat == 0xA0 || c.toNat == 0x1680 || (0x2000 ≤ c.toNat && c.toNat ≤ 0x200A) ||
    c.toNat == 0x2028 || c.toNat == 0x2029 || c.toNat == 0x202F || c.toNat == 0x205F ||
    c.toNat == 0x3000

def dropBlank (text : List Char) : List Char := text.dropWhile isBlank

def trimList (text : List Char) : List Char :=
  (dropBlank (dropBlank text).reverse).reverse

/-- The text without the blank characters at its ends. -/
def trim (text : String) : String := String.ofList (trimList text.toList)

/-- A text counts as missing when nothing but blanks is in it. -/
def isMissing (text : String) : Bool := text.toList.all isBlank

/-- Letters `A` to `Z` become small; every other character stays. -/
def lower (text : String) : String := String.ofList (text.toList.map Char.toLower)

end TagRelay.Text
