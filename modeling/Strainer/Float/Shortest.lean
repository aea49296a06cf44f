import Strainer.Float.Format

/-!
# Shortest decimal digits of a binary float

A finite non-zero float stands for every real that rounds to it: the interval from the midpoint
with its lower neighbour to the midpoint with its upper one, both ends included exactly when the
significand is even (a tie rounds to the even significand). Its shortest digits are the decimal
`d * 10 ^ k` of fewest significant digits inside that interval, and of two such the one nearer
the float. For each digit count `n = 1, 2, …` only the two neighbours of the float on the grid of
`n`-digit decimals can be the nearest point of that grid in the interval, so testing those two in
exact arithmetic decides the count and the digits.
-/

namespace Strainer.BinaryFloat

open Strainer.Exact

variable {f : BinaryFormat}

/-- Decimal digits `d` and exponent `k` with value `d * 10 ^ k`, `d` not divisible by ten. -/
structure Digits where
  digits : Nat
  exponent : Int
  deriving DecidableEq, Repr

/-- Is `a * 2 ^ x` below (or at, when `inclusive`) `b * 10 ^ y`? -/
def scaledLe (inclusive : Bool) (a : Nat) (x : Int) (b : Nat) (y : Int) : Bool :=
  let (n₁, d₁) := scaleByTwo a x
  let (n₂, d₂) := scaleByTen b y
  match compareQuot n₁ d₁ n₂ d₂ with
  | .lt => true
  | .eq => inclusive
  | .gt => false

/-- The rounding interval of `m * 2 ^ e` is `[lo * 2 ^ (e - 2), hi * 2 ^ (e - 2)]`; the lower gap
is half as wide at the bottom of a binade above the subnormals. -/
def interval (m : Nat) (e : Int) : Nat × Nat :=
  let lowGap := if m = f.hidden ∧ e > f.minExp then 1 else 2
  (4 * m - lowGap, 4 * m + 2)

/-- Does `d * 10 ^ k` lie in the rounding interval of `m * 2 ^ e`? -/
def inInterval (m : Nat) (e : Int) (d : Nat) (k : Int) : Bool :=
  let (lo, hi) := interval (f := f) m e
  let inclusive := m % 2 = 0
  scaledLe inclusive lo (e - 2) d k && (
    let (n₁, d₁) := scaleByTen d k
    let (n₂, d₂) := scaleByTwo hi (e - 2)
    match compareQuot n₁ d₁ n₂ d₂ with
    | .lt => true
    | .eq => inclusive
    | .gt => false)

/-- The nearer of the grid neighbours of `m * 2 ^ e` with `n` significant digits that lies in
its rounding interval, if either does. -/
def gridHit (m : Nat) (e : Int) (n : Nat) : Option Digits :=
  let (vn, vd) := scaleByTwo m e
  let k := floorLog10 vn vd - (n : Int) + 1
  let (gn, gd) := scaleByTen 1 k
  -- `v / 10 ^ k = vn * gd / (vd * gn)`
  let below := vn * gd / (vd * gn)
  let above := below + 1
  let lowOk := below ≠ 0 && inInterval (f := f) m e below k
  let highOk := inInterval (f := f) m e above k
  let pick (d : Nat) : Digits := let (r, t) := stripTens d; ⟨r, k + t⟩
  if lowOk && highOk then
    -- compare `v - below * 10^k` with `above * 10^k - v`, scaled by `vd * gn`
    let twice := 2 * (vn * gd)
    let sum := (below + above) * (vd * gn)
    if twice < sum then some (pick below)
    else if twice > sum then some (pick above)
    else some (pick (if below % 2 = 0 then below else above))
  else if lowOk then some (pick below)
  else if highOk then some (pick above)
  else none

/-- The first digit count in `counts` whose grid has a point in the interval. -/
def firstHit (m : Nat) (e : Int) : List Nat → Option Digits
  | [] => none
  | n :: rest =>
    match gridHit (f := f) m e n with
    | some d => some d
    | none => firstHit m e rest

/-- Digit counts worth trying: enough for any float of the format to read back. -/
def maxDigits (f : BinaryFormat) : Nat := (f.fractionBits + 1) * 3 / 10 + 3

/-- The shortest digits of a positive finite magnitude `m * 2 ^ e` (`m > 0`). With enough digits
the float itself is a grid point, so the search always ends in a hit. -/
def shortestOf (m : Nat) (e : Int) : Digits :=
  match firstHit (f := f) m e ((List.range (maxDigits f)).map (· + 1)) with
  | some d => d
  | none =>
    -- not reached: the float's exact expansion is in its own interval
    let (vn, vd) := scaleByTwo m e
    let k := floorLog10 vn vd - (maxDigits f : Int) + 1
    let (gn, gd) := scaleByTen 1 k
    let (r, t) := stripTens (roundHalfEven (vn * gd) (vd * gn))
    ⟨r, k + t⟩

/-- The shortest digits of a finite non-zero float, sign apart. -/
def shortest? (x : BinaryFloat f) : Option Digits :=
  match x.magnitude with
  | .finite 0 _ => none
  | .finite m e => some (shortestOf (f := f) m e)
  | _ => none

end Strainer.BinaryFloat
