import Strainer.Float.Arith
import Strainer.Float.Shortest

/-!
# Float text

Writing: the shortest digits of a float (`Strainer.Float.Shortest`) laid out by a
`FloatLayout`, the record of choices a format makes (where positional notation ends, whether
an integer keeps `.0`, the exponent mark, the words for NaN and infinity). Two layouts are
used: `FloatLayout.display`, the plain text of a value, and `FloatLayout.json`, the number text
of the JSON writer.

Reading: decimal text `[+-]digits[.digits][(e|E)[+-]digits]`, or the words `inf`, `infinity`
and `nan` in any case, read as the exact decimal and rounded once into the format.
-/

namespace Strainer

/-- The choices that turn shortest digits into text. -/
structure FloatLayout where
  /-- With `p` the position of the decimal point after the first digit (`1.5` has `p = 1`,
  `0.015` has `p = -1`), positional notation is used when `lo < p ≤ hi`; `none` means always. -/
  positional : Option (Int × Int)
  /-- Whether a positional integer is written with `.0`. -/
  integerPoint : Bool
  /-- The exponent mark of scientific notation. -/
  exponentMark : String
  /-- Whether a non-negative exponent is written with `+`. -/
  exponentPlus : Bool
  /-- The text of any NaN. -/
  nanText : String
  /-- The text of positive infinity; negative infinity has a minus sign in front. -/
  infinityText : String

namespace FloatLayout

/-- Plain text: always positional, no `.0`, `NaN` and `inf`. -/
def display : FloatLayout := ⟨none, false, "e", false, "NaN", "inf"⟩

/-- JSON number text: positional for `-5 < p ≤ 16`, otherwise `d.ddde+x` or `d.ddde-x`;
integers keep `.0`. -/
def json : FloatLayout := ⟨some (-5, 16), true, "e", true, "null", "null"⟩

/-- `n` zeros. -/
def zeros (n : Nat) : List Char := List.replicate n '0'

/-- Positional text of the digit string `ds` with value `ds * 10 ^ k`. -/
def positionalText (L : FloatLayout) (ds : List Char) (k : Int) : List Char :=
  if 0 ≤ k then ds ++ zeros k.toNat ++ (if L.integerPoint then ['.', '0'] else [])
  else
    let p := (ds.length : Int) + k
    if 0 < p then ds.take p.toNat ++ '.' :: ds.drop p.toNat
    else '0' :: '.' :: zeros (-p).toNat ++ ds

/-- Scientific text `d.ddd` followed by the mark and the exponent of the first digit. -/
def scientificText (L : FloatLayout) (ds : List Char) (k : Int) : List Char :=
  let p := (ds.length : Int) + k
  let mantissa := match ds with
    | [d] => [d]
    | d :: rest => d :: '.' :: rest
    | [] => ['0']
  let plus := if L.exponentPlus ∧ 0 ≤ p - 1 then ['+'] else []
  mantissa ++ L.exponentMark.toList ++ plus ++ (Exact.intText (p - 1)).toList

/-- Text of a float under this layout. -/
def render {f : BinaryFormat} (L : FloatLayout) (x : BinaryFloat f) : String :=
  let sign : List Char := if x.sign then ['-'] else []
  match x.magnitude with
  | .nan => L.nanText
  | .infinite => String.ofList (sign ++ L.infinityText.toList)
  | .finite 0 _ => String.ofList (sign ++ L.positionalText ['0'] 0)
  | .finite m e =>
    let d := BinaryFloat.shortestOf (f := f) m e
    let ds := Exact.decimalDigits d.digits
    let p := (ds.length : Int) + d.exponent
    let positional := match L.positional with
      | none => true
      | some (lo, hi) => lo < p ∧ p ≤ hi
    String.ofList (sign ++ if positional then L.positionalText ds d.exponent
      else L.scientificText ds d.exponent)

end FloatLayout

namespace FloatText

/-- What decimal float text denotes before rounding. -/
inductive Reading where
  /-- `±digits * 10 ^ exponent`. -/
  | decimal (neg : Bool) (digits : Nat) (exponent : Int)
  | infinity (neg : Bool)
  | nan (neg : Bool)
  deriving DecidableEq, Repr

/-- Splits off the longest prefix of ASCII digits. -/
def spanDigits (cs : List Char) : List Char × List Char :=
  (cs.takeWhile Char.isDigit, cs.dropWhile Char.isDigit)

/-- The value of a digit string. -/
def digitsValue (ds : List Char) : Nat :=
  ds.foldl (fun acc c => 10 * acc + (c.toNat - '0'.toNat)) 0

/-- ASCII lower case of a character list. -/
def lower (cs : List Char) : List Char := cs.map Char.toLower

/-- Reads the unsigned part of float text. -/
def readUnsigned (neg : Bool) (cs : List Char) : Option Reading :=
  let w := lower cs
  if w = "inf".toList ∨ w = "infinity".toList then some (.infinity neg)
  else if w = "nan".toList then some (.nan neg)
  else
    let (intPart, rest) := spanDigits cs
    let (fracPart, rest) := match rest with
      | '.' :: r => spanDigits r
      | r => ([], r)
    if intPart.isEmpty ∧ fracPart.isEmpty then none
    else
      let mantissa := digitsValue (intPart ++ fracPart)
      let scale : Int := fracPart.length
      match rest with
      | [] => some (.decimal neg mantissa (-scale))
      | c :: r =>
        if c = 'e' ∨ c = 'E' then
          let (expNeg, r) := match r with
            | '+' :: r' => (false, r')
            | '-' :: r' => (true, r')
            | r' => (false, r')
          let (expDigits, tail) := spanDigits r
          if expDigits.isEmpty ∨ ¬ tail.isEmpty then none
          else
            let x : Int := digitsValue expDigits
            some (.decimal neg mantissa ((if expNeg then -x else x) - scale))
        else none

/-- Reads float text: an optional sign, then a decimal or one of the words. -/
def read (cs : List Char) : Option Reading :=
  match cs with
  | '+' :: r => readUnsigned false r
  | '-' :: r => readUnsigned true r
  | r => readUnsigned false r

/-- Rounds a reading into a format. Decimals far outside the format's range are settled
without computing their powers: above `10 ^ hi` they overflow, below `10 ^ lo` they vanish. -/
def Reading.round {f : BinaryFormat} : Reading → BinaryFloat f
  | .infinity neg => BinaryFloat.infinity neg
  | .nan neg => BinaryFloat.quietNaN neg
  | .decimal neg digits exponent =>
    if digits = 0 then (BinaryFloat.zero : BinaryFloat f).withSign neg
    else
      let top := (Exact.digitCount digits : Int) + exponent
      let hi : Int := ((f.bias + 1) * 31 / 100 + 2 : Nat)
      let lo : Int := -(((f.bias + f.fractionBits) * 31 / 100 + 2 : Nat) : Int)
      if top > hi then BinaryFloat.infinity neg
      else if top < lo then (BinaryFloat.zero : BinaryFloat f).withSign neg
      else
        let (n, d) := Exact.scaleByTen digits exponent
        BinaryFloat.ofRatio neg n d

/-- Reads float text and rounds it to the nearest value of the format. -/
def parse? {f : BinaryFormat} (s : String) : Option (BinaryFloat f) :=
  (read s.toList).map Reading.round

end FloatText

end Strainer
