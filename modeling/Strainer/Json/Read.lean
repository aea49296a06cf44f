import Strainer.Json.Basic
import Strainer.Text.Utf8

/-!
# Reading JSON

A reader over the UTF-8 bytes of a text, with the number rules and error reports of the usual
Rust JSON reader:

* An integer without point or exponent is unsigned when it fits 64 bits, a negative integer
  when it fits 64 signed bits; `-0` and every other number are 64-bit floats. A float is built
  from at most the first 19 or 20 significant digits (the rest only move the exponent) and one
  power of ten in a correctly rounded multiplication or division, so long or extreme texts can
  differ from the nearest float in the last place. A power that overflows is
  `number out of range`.
* Objects keep the first position of a key and the last value given for it.
* Nesting is limited to 127 arrays and objects.
* An error names its cause and the line and byte column where it was found; most name the
  next unread byte, the rest the last read one.
-/

namespace Strainer

/-- The causes of a JSON reading failure. -/
inductive JsonErrorCode where
  | eofWhileParsingList
  | eofWhileParsingObject
  | eofWhileParsingString
  | eofWhileParsingValue
  | expectedColon
  | expectedListCommaOrEnd
  | expectedObjectCommaOrEnd
  | expectedSomeIdent
  | expectedSomeValue
  | invalidEscape
  | invalidNumber
  | numberOutOfRange
  | controlCharacterWhileParsingString
  | keyMustBeAString
  | loneLeadingSurrogateInHexEscape
  | trailingComma
  | trailingCharacters
  | unexpectedEndOfHexEscape
  | recursionLimitExceeded
  deriving DecidableEq, Repr

namespace JsonErrorCode

def text : JsonErrorCode → String
  | eofWhileParsingList => "EOF while parsing a list"
  | eofWhileParsingObject => "EOF while parsing an object"
  | eofWhileParsingString => "EOF while parsing a string"
  | eofWhileParsingValue => "EOF while parsing a value"
  | expectedColon => "expected `:`"
  | expectedListCommaOrEnd => "expected `,` or `]`"
  | expectedObjectCommaOrEnd => "expected `,` or `\x7d`"
  | expectedSomeIdent => "expected ident"
  | expectedSomeValue => "expected value"
  | invalidEscape => "invalid escape"
  | invalidNumber => "invalid number"
  | numberOutOfRange => "number out of range"
  | controlCharacterWhileParsingString =>
    "control character (\\u0000-\\u001F) found while parsing a string"
  | keyMustBeAString => "key must be a string"
  | loneLeadingSurrogateInHexEscape => "lone leading surrogate in hex escape"
  | trailingComma => "trailing comma"
  | trailingCharacters => "trailing characters"
  | unexpectedEndOfHexEscape => "unexpected end of hex escape"
  | recursionLimitExceeded => "recursion limit exceeded"

end JsonErrorCode

/-- A JSON reading failure with its one-based line and byte column. -/
structure JsonError where
  code : JsonErrorCode
  line : Nat
  column : Nat
  deriving DecidableEq, Repr

namespace JsonError

def message (e : JsonError) : String :=
  e.code.text ++ " at line " ++ Exact.intText e.line ++ " column " ++ Exact.intText e.column

end JsonError

namespace JsonReader

/-- The bytes being read. -/
abbrev Bytes := Array UInt8

/-- The result of a reading step: a value and the index after it. -/
abbrev Step (α : Type) := Except JsonError (α × Nat)

/-- Line and column of byte index `i`: the line counts the line feeds before `i`, the column the
bytes between the last of them and `i`. -/
def position (b : Bytes) (i : Nat) : Nat × Nat :=
  let before := (b.extract 0 i).toList
  let lines := before.count 10
  let column := (before.reverse.takeWhile (· != 10)).length
  (1 + lines, column)

/-- An error reported at the last byte read (the index is just after it). -/
def errorAt (b : Bytes) (i : Nat) (code : JsonErrorCode) : JsonError :=
  let (l, c) := position b i
  ⟨code, l, c⟩

/-- An error reported at the next byte. -/
def peekErrorAt (b : Bytes) (i : Nat) (code : JsonErrorCode) : JsonError :=
  errorAt b (min b.size (i + 1)) code

def peek (b : Bytes) (i : Nat) : Option UInt8 := b[i]?

private def isBlankByte (c : UInt8) : Bool := c == 32 || c == 10 || c == 9 || c == 13

private def isDigitByte (c : UInt8) : Bool := 48 ≤ c && c ≤ 57

/-- Skips blanks: space, line feed, tab and carriage return. -/
def skipBlank (b : Bytes) (i : Nat) : Nat :=
  if h : i < b.size then
    if isBlankByte b[i] then skipBlank b (i + 1) else i
  else i
termination_by b.size - i

/-- Appends the UTF-8 bytes of code point `n` (a scalar value). -/
private def pushCodePoint (acc : Array UInt8) (n : Nat) : Array UInt8 :=
  acc ++ (Text.utf8Char (Char.ofNat n)).toArray

private def hexValue (c : UInt8) : Option Nat :=
  if 48 ≤ c ∧ c ≤ 57 then some (c.toNat - 48)
  else if 97 ≤ c ∧ c ≤ 102 then some (c.toNat - 87)
  else if 65 ≤ c ∧ c ≤ 70 then some (c.toNat - 55)
  else none

/-- Four hex digits at `i`. -/
def hexEscape (b : Bytes) (i : Nat) : Step Nat :=
  if i + 4 > b.size then .error (errorAt b b.size .eofWhileParsingString)
  else
    let hex (j : Nat) : Option Nat := (peek b j).bind hexValue
    match hex i, hex (i + 1), hex (i + 2), hex (i + 3) with
    | some w, some x, some y, some z => .ok (((w * 16 + x) * 16 + y) * 16 + z, i + 4)
    | _, _, _, _ => .error (errorAt b (i + 4) .invalidEscape)

/-- A `\u` escape whose four digits start at `i`, with a surrogate pair when needed. -/
def unicodeEscape (b : Bytes) (i : Nat) (acc : Array UInt8) : Step (Array UInt8) :=
  match hexEscape b i with
  | .error e => .error e
  | .ok (n, i) =>
    if 0xDC00 ≤ n ∧ n ≤ 0xDFFF then .error (errorAt b i .loneLeadingSurrogateInHexEscape)
    else if n < 0xD800 ∨ n > 0xDBFF then .ok (pushCodePoint acc n, i)
    else
      match peek b i with
      | none => .error (errorAt b i .eofWhileParsingString)
      | some c =>
        if c != 92 then .error (errorAt b (i + 1) .unexpectedEndOfHexEscape)
        else
          match peek b (i + 1) with
          | none => .error (errorAt b (i + 1) .eofWhileParsingString)
          | some c' =>
            if c' != 117 then .error (errorAt b (i + 2) .unexpectedEndOfHexEscape)
            else
              match hexEscape b (i + 2) with
              | .error e => .error e
              | .ok (n2, i) =>
                if n2 < 0xDC00 ∨ n2 > 0xDFFF then
                  .error (errorAt b i .loneLeadingSurrogateInHexEscape)
                else .ok (pushCodePoint acc ((n - 0xD800) * 1024 + (n2 - 0xDC00) + 0x10000), i)

/-- The escape after a backslash at `i - 1`. -/
def escape (b : Bytes) (i : Nat) (acc : Array UInt8) : Step (Array UInt8) :=
  match peek b i with
  | none => .error (errorAt b i .eofWhileParsingString)
  | some c =>
    let push (x : UInt8) : Step (Array UInt8) := .ok (acc.push x, i + 1)
    if c == 34 then push 34
    else if c == 92 then push 92
    else if c == 47 then push 47
    else if c == 98 then push 8
    else if c == 102 then push 12
    else if c == 110 then push 10
    else if c == 114 then push 13
    else if c == 116 then push 9
    else if c == 117 then unicodeEscape b (i + 1) acc
    else .error (errorAt b (i + 1) .invalidEscape)

/-- Decodes UTF-8 bytes that are known to be well formed. -/
def decodeUtf8 (bs : List UInt8) : List Char :=
  go bs bs.length
where
  go : List UInt8 → Nat → List Char
  | [], _ => []
  | _, 0 => []
  | a :: rest, fuel + 1 =>
    let n := a.toNat
    if n < 0x80 then Char.ofNat n :: go rest fuel
    else if n < 0xE0 then
      match rest with
      | x :: r => Char.ofNat ((n % 32) * 64 + x.toNat % 64) :: go r fuel
      | [] => []
    else if n < 0xF0 then
      match rest with
      | x :: y :: r => Char.ofNat ((n % 16) * 4096 + (x.toNat % 64) * 64 + y.toNat % 64) :: go r fuel
      | _ => []
    else
      match rest with
      | x :: y :: z :: r =>
        Char.ofNat ((n % 8) * 262144 + (x.toNat % 64) * 4096 + (y.toNat % 64) * 64 + z.toNat % 64) ::
          go r fuel
      | _ => []

/-- The rest of a string whose opening quote is at `i - 1`. -/
def stringBody (b : Bytes) (i : Nat) (acc : Array UInt8) (fuel : Nat) : Step String :=
  match fuel with
  | 0 => .error (errorAt b i .eofWhileParsingString)
  | fuel + 1 =>
    match peek b i with
    | none => .error (errorAt b b.size .eofWhileParsingString)
    | some c =>
      if c == 34 then .ok (String.ofList (decodeUtf8 acc.toList), i + 1)
      else if c == 92 then
        match escape b (i + 1) acc with
        | .ok (acc, j) => stringBody b j acc fuel
        | .error e => .error e
      else if c < 32 then .error (errorAt b (i + 1) .controlCharacterWhileParsingString)
      else stringBody b (i + 1) (acc.push c) fuel

/-- The powers of ten `1e0` to `1e308` as 64-bit floats. -/
def powerOfTen (k : Nat) : Float64Bits := BinaryFloat.ofRatio false (Nat.pow 10 k) 1

/-- The float of a significand and a decimal exponent, built as the reader builds it: the
significand rounded to a float, then one correctly rounded multiplication or division by a power
of ten, with exponents beyond 308 divided out `1e308` at a time. -/
def floatOfParts (b : Bytes) (i : Nat) (positive : Bool) (significand : Nat) (exponent : Int) :
    Except JsonError Float64Bits :=
  let start : Float64Bits := BinaryFloat.ofInt significand
  let rec go (f : Float64Bits) (e : Int) : Nat → Except JsonError Float64Bits
    | 0 => .ok f
    | fuel + 1 =>
      if e.natAbs ≤ 308 then
        let p := powerOfTen e.natAbs
        if 0 ≤ e then
          match f.mul? p with
          | some g => if g.isInfinite then .error (errorAt b i .numberOutOfRange) else .ok g
          | none => .ok f
        else .ok ((f.div? p).getD f)
      else if f.isZero then .ok f
      else if 0 ≤ e then .error (errorAt b i .numberOutOfRange)
      else go ((f.div? (powerOfTen 308)).getD f) (e + 308) fuel
  (go start exponent 8).map fun f => if positive then f else f.neg

/-- Would `a * 10 + d` pass `limit`? -/
private def overflows (a d limit : Nat) : Bool :=
  a ≥ limit / 10 ∧ (a > limit / 10 ∨ d > limit % 10)

private def digitAt (b : Bytes) (i : Nat) : Option Nat :=
  match peek b i with
  | some c => if isDigitByte c then some (c.toNat - 48) else none
  | none => none

/-- Skips ASCII digits. -/
def skipDigits (b : Bytes) (i : Nat) : Nat :=
  if h : i < b.size then
    if isDigitByte b[i] then skipDigits b (i + 1) else i
  else i
termination_by b.size - i

/-- The exponent part after the mark at `i - 1`. -/
def exponentPart (b : Bytes) (i : Nat) (positive : Bool) (significand : Nat) (start : Int) :
    Step Float64Bits :=
  let (positiveExp, i) := match peek b i with
    | some 43 => (true, i + 1)
    | some 45 => (false, i + 1)
    | _ => (true, i)
  match peek b i with
  | none => .error (errorAt b i .eofWhileParsingValue)
  | some c =>
    if !isDigitByte c then .error (errorAt b (i + 1) .invalidNumber)
    else
      let rec digits (j : Nat) (e : Nat) (fuel : Nat) : Step Float64Bits :=
        match fuel with
        | 0 => .error (errorAt b j .invalidNumber)
        | fuel + 1 =>
          match digitAt b j with
          | some d =>
            if overflows e d 2147483647 then
              -- the exponent is too long: zero, or out of range upwards
              if significand ≠ 0 ∧ positiveExp then .error (errorAt b (j + 1) .numberOutOfRange)
              else
                let k := skipDigits b (j + 1)
                let z : Float64Bits := BinaryFloat.zero
                .ok (if positive then z else z.neg, k)
            else digits (j + 1) (e * 10 + d) fuel
          | none =>
            let e : Int := e
            let final := if positiveExp then min (start + e) 2147483647
              else max (start - e) (-2147483648)
            (floatOfParts b j positive significand final).map (·, j)
      digits (i + 1) (c.toNat - 48) (b.size + 1)

/-- The fraction after the point at `i - 1`; `exponent` counts places so far (negative). -/
def fractionPart (b : Bytes) (i : Nat) (positive : Bool) (significand : Nat) (exponent : Int) :
    Step Float64Bits :=
  let rec digits (j : Nat) (sig : Nat) (places : Nat) (fuel : Nat) : Step Float64Bits :=
    match fuel with
    | 0 => .error (errorAt b j .invalidNumber)
    | fuel + 1 =>
      match digitAt b j with
      | some d =>
        if overflows sig d 18446744073709551615 then
          -- further digits cannot be held; they are skipped
          let k := skipDigits b j
          match peek b k with
          | some 101 | some 69 => exponentPart b (k + 1) positive sig (exponent - places)
          | _ => (floatOfParts b k positive sig (exponent - places)).map (·, k)
        else digits (j + 1) (sig * 10 + d) (places + 1) fuel
      | none =>
        if places = 0 then
          match peek b j with
          | some _ => .error (peekErrorAt b j .invalidNumber)
          | none => .error (peekErrorAt b j .eofWhileParsingValue)
        else
          match peek b j with
          | some 101 | some 69 => exponentPart b (j + 1) positive sig (exponent - places)
          | _ => (floatOfParts b j positive sig (exponent - places)).map (·, j)
  digits i significand 0 (b.size + 1)

/-- After an integer part whose value is `significand` and that ends at `i`. -/
def afterInteger (b : Bytes) (i : Nat) (positive : Bool) (significand : Nat) : Step JsonNumber :=
  match peek b i with
  | some 46 => (fractionPart b (i + 1) positive significand 0).map fun (x, j) => (.float x, j)
  | some 101 | some 69 => (exponentPart b (i + 1) positive significand 0).map fun (x, j) => (.float x, j)
  | _ =>
    if positive then .ok (.nat significand, i)
    else if significand = 0 ∨ significand > Nat.pow 2 63 then
      .ok (.float (BinaryFloat.ofInt significand).neg, i)
    else .ok (.negInt (-(significand : Int)), i)

/-- A number whose first digit is at `i` (after the minus sign when negative). -/
def number (b : Bytes) (i : Nat) (positive : Bool) : Step JsonNumber :=
  match peek b i with
  | none => .error (errorAt b i .eofWhileParsingValue)
  | some c =>
    if c == 48 then
      match digitAt b (i + 1) with
      | some _ => .error (peekErrorAt b (i + 1) .invalidNumber)
      | none => afterInteger b (i + 1) positive 0
    else if isDigitByte c then
      let rec digits (j : Nat) (sig : Nat) (fuel : Nat) : Step JsonNumber :=
        match fuel with
        | 0 => .error (errorAt b j .invalidNumber)
        | fuel + 1 =>
          match digitAt b j with
          | some d =>
            if overflows sig d 18446744073709551615 then
              -- too long for 64 bits: the remaining integer digits only count places
              let k := skipDigits b j
              let places : Int := k - j
              match peek b k with
              | some 46 =>
                (fractionPart b (k + 1) positive sig places).map fun (x, m) => (.float x, m)
              | some 101 | some 69 =>
                (exponentPart b (k + 1) positive sig places).map fun (x, m) => (.float x, m)
              | _ => (floatOfParts b k positive sig places).map fun x => (.float x, k)
            else digits (j + 1) (sig * 10 + d) fuel
          | none => afterInteger b j positive sig
      digits (i + 1) (c.toNat - 48) (b.size + 1)
    else .error (errorAt b (i + 1) .invalidNumber)

/-- The bytes `word` at `i`. -/
def keyword (b : Bytes) (i : Nat) (word : List UInt8) : Except JsonError Nat :=
  go i word
where
  go (j : Nat) : List UInt8 → Except JsonError Nat
  | [] => .ok j
  | w :: ws =>
    match peek b j with
    | none => .error (errorAt b j .eofWhileParsingValue)
    | some c => if c == w then go (j + 1) ws else .error (errorAt b (j + 1) .expectedSomeIdent)

mutual

/-- A value starting at or after `i`; `depth` is the nesting still allowed plus one. -/
def value (b : Bytes) (depth : Nat) (i : Nat) (fuel : Nat) : Step Json :=
  match fuel with
  | 0 => .error (errorAt b i .recursionLimitExceeded)
  | fuel + 1 =>
    let i := skipBlank b i
    match peek b i with
    | none => .error (peekErrorAt b i .eofWhileParsingValue)
    | some c =>
      if c == 110 then (keyword b (i + 1) [117, 108, 108]).map (.null, ·)
      else if c == 116 then (keyword b (i + 1) [114, 117, 101]).map (.bool true, ·)
      else if c == 102 then (keyword b (i + 1) [97, 108, 115, 101]).map (.bool false, ·)
      else if c == 45 then (number b (i + 1) false).map fun (n, j) => (.number n, j)
      else if isDigitByte c then (number b i true).map fun (n, j) => (.number n, j)
      else if c == 34 then (stringBody b (i + 1) #[] (b.size + 1)).map fun (s, j) => (.string s, j)
      else if c == 91 then
        if depth ≤ 1 then .error (peekErrorAt b i .recursionLimitExceeded)
        else items b (depth - 1) (i + 1) true [] fuel
      else if c == 123 then
        if depth ≤ 1 then .error (peekErrorAt b i .recursionLimitExceeded)
        else members b (depth - 1) (i + 1) true [] fuel
      else .error (peekErrorAt b i .expectedSomeValue)

/-- The items of an array after `[` or after an item. -/
def items (b : Bytes) (depth : Nat) (i : Nat) (first : Bool) (acc : List Json) (fuel : Nat) :
    Step Json :=
  match fuel with
  | 0 => .error (errorAt b i .recursionLimitExceeded)
  | fuel + 1 =>
    let i := skipBlank b i
    match peek b i with
    | none => .error (peekErrorAt b i .eofWhileParsingList)
    | some c =>
      if c == 93 then .ok (.array acc.reverse, i + 1)
      else
        let next : Except JsonError Nat :=
          if first then .ok i
          else if c == 44 then
            let j := skipBlank b (i + 1)
            match peek b j with
            | some 93 => .error (peekErrorAt b j .trailingComma)
            | some _ => .ok j
            | none => .error (peekErrorAt b j .eofWhileParsingValue)
          else .error (peekErrorAt b i .expectedListCommaOrEnd)
        match next with
        | .error e => .error e
        | .ok j =>
          match value b depth j fuel with
          | .error e => .error e
          | .ok (v, k) => items b depth k false (v :: acc) fuel

/-- The members of an object after `{` or after a member. -/
def members (b : Bytes) (depth : Nat) (i : Nat) (first : Bool) (acc : List (String × Json))
    (fuel : Nat) : Step Json :=
  match fuel with
  | 0 => .error (errorAt b i .recursionLimitExceeded)
  | fuel + 1 =>
    let i := skipBlank b i
    match peek b i with
    | none => .error (peekErrorAt b i .eofWhileParsingObject)
    | some c =>
      if c == 125 then .ok (.object acc, i + 1)
      else
        let keyStart : Except JsonError Nat :=
          if c == 44 ∧ !first then .ok (skipBlank b (i + 1))
          else if first then .ok i
          else .error (peekErrorAt b i .expectedObjectCommaOrEnd)
        match keyStart with
        | .error e => .error e
        | .ok j =>
          let key : Step String := match peek b j with
            | some 34 => stringBody b (j + 1) #[] (b.size + 1)
            | some 125 => .error (peekErrorAt b j .trailingComma)
            | some _ => .error (peekErrorAt b j .keyMustBeAString)
            | none => .error (peekErrorAt b j .eofWhileParsingValue)
          match key with
          | .error e => .error e
          | .ok (k, j) =>
            let j := skipBlank b j
            match peek b j with
            | none => .error (peekErrorAt b j .eofWhileParsingObject)
            | some 58 =>
              match value b depth (j + 1) fuel with
              | .error e => .error e
              | .ok (v, m) => members b depth m false (Json.insertMember acc k v) fuel
            | some _ => .error (peekErrorAt b j .expectedColon)

end

end JsonReader

namespace Json

/-- Reads one JSON value filling the whole text (blanks around it allowed). -/
def parse (s : String) : Except JsonError Json :=
  let b : JsonReader.Bytes := (Text.utf8Bytes s.toList).toArray
  match JsonReader.value b 128 0 (2 * b.size + 4) with
  | .error e => .error e
  | .ok (v, i) =>
    let j := JsonReader.skipBlank b i
    if j < b.size then .error (JsonReader.peekErrorAt b j .trailingCharacters) else .ok v

end Json

end Strainer
