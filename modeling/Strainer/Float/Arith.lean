import Strainer.Float.Format

/-!
# Arithmetic on binary floats

Order, conversion between formats, rounding to an integer, and the two correctly rounded
operations that reading JSON numbers needs (a product and a quotient). Each is stated on the
exact value `±m * 2 ^ e` of the operands and rounded once by `ofRatio`, which is what IEEE 754
prescribes for them.
-/

namespace Strainer.BinaryFloat

open Strainer.Exact

variable {f g : BinaryFormat}

/-- The exact value of a finite float as a signed quotient `(negative, numerator, denominator)`. -/
def ratio? (x : BinaryFloat f) : Option (Bool × Nat × Nat) :=
  match x.magnitude with
  | .finite m e => let (n, d) := scaleByTwo m e; some (x.sign, n, d)
  | _ => none

/-- The order of IEEE 754: NaN is unordered, the zeros are equal, infinities are the ends. -/
def compareTo (x y : BinaryFloat f) : Option Ordering :=
  match x.magnitude, y.magnitude with
  | .nan, _ => none
  | _, .nan => none
  | .infinite, .infinite =>
    some (if x.sign = y.sign then .eq else if x.sign then .lt else .gt)
  | .infinite, _ => some (if x.sign then .lt else .gt)
  | _, .infinite => some (if y.sign then .gt else .lt)
  | .finite m e, .finite m' e' =>
    let (a, b) := scaleByTwo m e
    let (c, d) := scaleByTwo m' e'
    -- signed comparison of `±a/b` and `±c/d`; a zero carries no sign
    let sx := x.sign && m ≠ 0
    let sy := y.sign && m' ≠ 0
    if sx && !sy then some .lt
    else if !sx && sy then some .gt
    else
      let o := compareQuot a b c d
      some (if sx then o.swap else o)

/-- Converts to another format, rounding to nearest even; NaN stays a (quiet) NaN. -/
def convert (x : BinaryFloat f) : BinaryFloat g :=
  match x.magnitude with
  | .nan => quietNaN x.sign
  | .infinite => infinity x.sign
  | .finite m e => ofScaled x.sign m e

/-- Rounds a finite float to the nearest integer, an exact half to the even one. -/
def roundTiesEven? (x : BinaryFloat f) : Option Int :=
  match x.magnitude with
  | .finite m e =>
    let (n, d) := scaleByTwo m e
    let r := (roundHalfEven n d : Int)
    some (if x.sign then -r else r)
  | _ => none

/-- The correctly rounded product of two finite floats (`none` when either is not finite). -/
def mul? (x y : BinaryFloat f) : Option (BinaryFloat f) :=
  match x.magnitude, y.magnitude with
  | .finite m e, .finite m' e' => some (ofScaled (x.sign != y.sign) (m * m') (e + e'))
  | _, _ => none

/-- The correctly rounded quotient of two finite floats, the divisor non-zero. -/
def div? (x y : BinaryFloat f) : Option (BinaryFloat f) :=
  match x.magnitude, y.magnitude with
  | .finite m e, .finite m' e' =>
    if m' = 0 then none
    else
      let (a, b) := scaleByTwo m e
      let (c, d) := scaleByTwo m' e'
      some (ofRatio (x.sign != y.sign) (a * d) (b * c))
  | _, _ => none

end Strainer.BinaryFloat
