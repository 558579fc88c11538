/-!
# Base64

Byte strings are shown in the standard alphabet, three bytes to four characters,
with `=` in place of the characters that a short last group does not fill.
-/

namespace TagRelay.Base64

def alphabet : List Char :=
  "ABCDEFGHIJKLMNOPQRSTUVWXYZabcdefghijklmnopqrstuvwxyz0123456789+/".toList

/-- The character for six bits. -/
def letter (bits : Nat) : Char := alphabet.getD (bits % 64) '='

def encodeList : List UInt8 → List Char
  | [] => []
  | [a] =>
      let group := a.toNat * 16
      [letter (group / 64), letter group, '=', '=']
  | [a, b] =>
      let group := (a.toNat * 256 + b.toNat) * 4
      [letter (group / 4096), letter (group / 64), letter group, '=']
  | a :: b :: c :: rest =>
      let group := (a.toNat * 256 + b.toNat) * 256 + c.toNat
      letter (group / 262144) :: letter (group / 4096) :: letter (group / 64) ::
        letter group :: encodeList rest

def encode (bytes : List UInt8) : String := String.ofList (encodeList bytes)

end TagRelay.Base64
