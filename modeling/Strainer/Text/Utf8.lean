/-!
# UTF-8

The bytes of a character sequence in UTF-8, and their number. Positions that the filter scanner
reports count these bytes.
-/

namespace Strainer.Text

/-- The UTF-8 bytes of one character. -/
def utf8Char (c : Char) : List UInt8 :=
  let n := c.toNat
  if n < 0x80 then [n.toUInt8]
  else if n < 0x800 then [(0xC0 + n / 64).toUInt8, (0x80 + n % 64).toUInt8]
  else if n < 0x10000 then
    [(0xE0 + n / 4096).toUInt8, (0x80 + n / 64 % 64).toUInt8, (0x80 + n % 64).toUInt8]
  else
    [(0xF0 + n / 262144).toUInt8, (0x80 + n / 4096 % 64).toUInt8,
      (0x80 + n / 64 % 64).toUInt8, (0x80 + n % 64).toUInt8]

/-- The UTF-8 bytes of a character sequence. -/
def utf8Bytes (cs : List Char) : List UInt8 :=
  cs.flatMap utf8Char

/-- Number of UTF-8 bytes of a character sequence. -/
def byteCount : List Char → Nat
  | [] => 0
  | c :: cs => c.utf8Size + byteCount cs

end Strainer.Text
