import Strainer.Float.Arith

/-!
# Arbitrary-precision decimals

A decimal is an unscaled integer and a scale: `unscaled * 10 ^ (-scale)`. The scale is part of
the value's identity (`1.5` and `1.50` are written differently) but not of its order. Rounding
to fewer places goes to the nearest value, an exact half to the even last digit. A binary float
converts exactly, with the fewest places that hold it; the way back rounds once.
-/

namespace Strainer

/-- `unscaled * 10 ^ (-scale)`. -/
structure Decimal where
  unscaled : Int
  scale : Int
  deriving DecidableEq, Repr

namespace Decimal

open Strainer.Exact

/-- An integer with no places. -/
def ofInt (i : Int) : Decimal := ⟨i, 0⟩

def zero : Decimal := ofInt 0

def isZero (d : Decimal) : Bool := d.unscaled == 0

/-- The value as a signed quotient of naturals `(negative, numerator, denominator)`. -/
def ratio (d : Decimal) : Bool × Nat × Nat :=
  let (n, q) := scaleByTen d.unscaled.natAbs (-d.scale)
  (d.unscaled < 0, n, q)

/-- Numeric order; the scale plays no part. -/
def compareTo (a b : Decimal) : Ordering :=
  let (sa, na, da) := a.ratio
  let (sb, nb, db) := b.ratio
  let sa := sa && na ≠ 0
  let sb := sb && nb ≠ 0
  if sa && !sb then .lt
  else if !sa && sb then .gt
  else
    let o := compareQuot na da nb db
    if sa then o.swap else o

/-- Rounds `±n / q` to an integer, an exact half to the even neighbour. -/
def roundSigned (neg : Bool) (n q : Nat) : Int :=
  let r := (roundHalfEven n q : Int)
  if neg then -r else r

/-- The value rounded to `places` places (a new scale), half to even. Raising the scale is
exact. -/
def withScaleRound (d : Decimal) (places : Int) : Decimal :=
  if places ≥ d.scale then
    ⟨d.unscaled * Int.pow 10 (places - d.scale).toNat, places⟩
  else
    let drop := (d.scale - places).toNat
    ⟨roundSigned (d.unscaled < 0) d.unscaled.natAbs (Nat.pow 10 drop), places⟩

/-- The nearest integer, half to even. -/
def roundToInt (d : Decimal) : Int :=
  (d.withScaleRound 0).unscaled

/-- The exact value of a finite binary float, with the fewest places that hold it. -/
def ofFloat? {f : BinaryFormat} (x : BinaryFloat f) : Option Decimal :=
  match x.magnitude with
  | .finite m e =>
    let s : Int := if x.sign then -1 else 1
    if m = 0 then some zero
    else if 0 ≤ e then some ⟨s * (m * Nat.pow 2 e.toNat : Nat), 0⟩
    else
      -- drop the factors of two that the binary exponent cancels
      let (m', e') := cancelTwos m (-e).toNat
      if e' = 0 then some ⟨s * (m' : Int), 0⟩
      else some ⟨s * ((m' * Nat.pow 5 e' : Nat) : Int), e'⟩
  | _ => none
where
  /-- `m / 2 ^ k` in lowest terms, as `(m', k')`. -/
  cancelTwos : Nat → Nat → Nat × Nat
  | m, 0 => (m, 0)
  | m, k + 1 => if m % 2 = 0 ∧ m ≠ 0 then cancelTwos (m / 2) k else (m, k + 1)

/-- The nearest value of a binary format. -/
def toFloat {f : BinaryFormat} (d : Decimal) : BinaryFloat f :=
  let (neg, n, q) := d.ratio
  BinaryFloat.ofRatio neg n q

end Decimal

end Strainer
