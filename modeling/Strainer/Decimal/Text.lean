import Strainer.Decimal.Basic

/-!
# Decimal text

Reading: `[sign]digits[.digits][(e|E)exponent]`. The digits before the exponent form one
integer (a leading `-`, then a single `+`, underscores between digits ignored) and the places
are the digits after the point; the exponent is a signed integer that moves the point, and the
resulting scale must fit in 64 bits.

Writing keeps the scale: `12.50` stays `12.50`. Three forms are used. With more than five
zeros between the point and the first digit the number is written in scientific form with a
capital `E` (`1E-20`, `1.0E-9`); a negative scale of more than twenty places is written as the
digits followed by `e+` and the number of places (`34e+38`); everything else is written out in
full. Zero is written `0` whatever its scale.
-/

namespace Strainer.Decimal

open Strainer.Exact

/-- The layout choices of decimal text. -/
structure DecimalLayout where
  /-- More zeros than this between the point and the first digit give scientific form. -/
  leadingZeroLimit : Nat
  /-- A negative scale of more places than this keeps its exponent. -/
  trailingZeroLimit : Nat
  /-- The exponent mark of scientific form. -/
  scientificMark : String
  /-- The exponent mark after digits with a negative scale. -/
  integerMark : String

/-- The layout of decimal text. -/
def DecimalLayout.standard : DecimalLayout := ⟨5, 20, "E", "e+"⟩

/-- Text of a decimal. -/
def render (d : Decimal) (L : DecimalLayout := .standard) : String :=
  let ds := decimalDigits d.unscaled.natAbs
  let sign : List Char := if d.unscaled < 0 then ['-'] else []
  let len : Int := ds.length
  let body : List Char :=
    if d.unscaled = 0 then ['0']
    else if d.scale > len + L.leadingZeroLimit then
      -- scientific: first digit, the rest after a point, then the exponent of the first digit
      let mantissa := match ds with
        | c :: rest@(_ :: _) => c :: '.' :: rest
        | other => other
      mantissa ++ L.scientificMark.toList ++ (intText (len - 1 - d.scale)).toList
    else if d.scale ≤ 0 then
      let places := (-d.scale).toNat
      if places > L.trailingZeroLimit then
        ds ++ L.integerMark.toList ++ (intText places).toList
      else ds ++ List.replicate places '0'
    else
      let s := d.scale.toNat
      if s < ds.length then ds.take (ds.length - s) ++ '.' :: ds.drop (ds.length - s)
      else '0' :: '.' :: List.replicate (s - ds.length) '0' ++ ds
  String.ofList (sign ++ body)

/-- Reads an unsigned integer with underscores between digits: not empty, not starting with
an underscore, ASCII digits otherwise. -/
def readMagnitude (cs : List Char) : Option Nat :=
  match cs with
  | [] => none
  | '_' :: _ => none
  | _ =>
    cs.foldl (fun acc c => acc.bind fun n =>
      if c = '_' then some n
      else if c.isDigit then some (10 * n + (c.toNat - '0'.toNat))
      else none) (some 0)

/-- Reads an integer: an optional `-`, then an optional single `+`, then the magnitude. -/
def readInteger (cs : List Char) : Option Int :=
  let (neg, rest) := match cs with
    | '-' :: '+' :: _ => (true, cs)
    | '-' :: r => (true, r)
    | r => (false, r)
  let rest := match rest with
    | '+' :: '+' :: _ => rest
    | '+' :: r => r
    | r => r
  (readMagnitude rest).map fun n => if neg then -(n : Int) else n

/-- Reads a signed 128-bit exponent: optional sign, then at least one ASCII digit. -/
def readExponent (cs : List Char) : Option Int :=
  let (neg, rest) := match cs with
    | '+' :: r => (false, r)
    | '-' :: r => (true, r)
    | r => (false, r)
  if rest.isEmpty ∨ ¬ rest.all Char.isDigit then none
  else
    let n := rest.foldl (fun acc c => 10 * acc + (c.toNat - '0'.toNat)) 0
    let v : Int := if neg then -(n : Int) else n
    if -Int.pow 2 127 ≤ v ∧ v < Int.pow 2 127 then some v else none

/-- Reads decimal text. -/
def parse? (s : String) : Option Decimal := do
  let cs := s.toList
  let (base, exponent) ← match cs.findIdx? (fun c => c = 'e' ∨ c = 'E') with
    | none => some (cs, (0 : Int))
    | some i => (readExponent (cs.drop (i + 1))).map fun x => (cs.take i, x)
  if base.isEmpty then none
  else
    let (digits, places) : List Char × Int := match base.findIdx? (· = '.') with
      | none => (base, 0)
      | some i =>
        if i + 1 = base.length then (base.take i, 0)
        else
          let trail := base.drop (i + 1)
          (base.take i ++ trail, (trail.filter (· ≠ '_')).length)
    let scale := places - exponent
    if -Int.pow 2 63 ≤ scale ∧ scale < Int.pow 2 63 then
      (readInteger digits).map fun u => ⟨u, scale⟩
    else none

end Strainer.Decimal
