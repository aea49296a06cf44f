/-!
# Exact arithmetic on quotients

Every number format of this library (binary floats, decimals) is decided by exact arithmetic on
natural numbers: a quotient `n / d` is rounded to an integer, compared with a power of two or
ten, or has its binary or decimal magnitude taken. Nothing here approximates.
-/

namespace Strainer.Exact

/-- Rounds `n / d` to the nearest natural number; an exact half goes to the even neighbour.
A zero divisor gives zero, as `Nat` division does. -/
def roundHalfEven (n d : Nat) : Nat :=
  let q := n / d
  let r := n % d
  if 2 * r > d then q + 1
  else if 2 * r < d then q
  else if q % 2 = 0 then q else q + 1

/-- `a * 2 ^ x` as a quotient of naturals, for any integer exponent. -/
def scaleByTwo (a : Nat) (x : Int) : Nat × Nat :=
  if 0 ≤ x then (a * Nat.pow 2 x.toNat, 1) else (a, Nat.pow 2 (-x).toNat)

/-- `a * 10 ^ x` as a quotient of naturals, for any integer exponent. -/
def scaleByTen (a : Nat) (x : Int) : Nat × Nat :=
  if 0 ≤ x then (a * Nat.pow 10 x.toNat, 1) else (a, Nat.pow 10 (-x).toNat)

/-- Compares the quotients `a / b` and `c / d` (both divisors positive). -/
def compareQuot (a b c d : Nat) : Ordering :=
  compare (a * d) (c * b)

/-- The largest `k` with `2 ^ k ≤ n / d`, for `n, d > 0`. -/
def floorLog2 (n d : Nat) : Int :=
  let e : Int := (Nat.log2 n : Int) - (Nat.log2 d : Int)
  -- `e` is the true value or one more; test `2 ^ e ≤ n / d`
  let (a, b) := scaleByTwo 1 e
  if compareQuot a b n d = .gt then e - 1 else e

/-- Number of decimal digits of `n` (one for zero). -/
def digitCount (n : Nat) : Nat :=
  (Nat.toDigits 10 n).length

/-- The largest `k` with `10 ^ k ≤ n / d`, for `n, d > 0`. -/
def floorLog10 (n d : Nat) : Int :=
  let e : Int := (digitCount n : Int) - (digitCount d : Int)
  -- the true value is `e` or `e - 1`
  let (a, b) := scaleByTen 1 e
  if compareQuot a b n d = .gt then e - 1 else e

/-- Strips trailing decimal zeros: `n = m * 10 ^ k` with `m` not divisible by ten (for `n > 0`). -/
def stripTens (n : Nat) : Nat × Nat :=
  go n n
where
  go : Nat → Nat → Nat × Nat
  | 0, m => (m, 0)
  | fuel + 1, m =>
    if m ≠ 0 ∧ m % 10 = 0 then
      let (r, k) := go fuel (m / 10)
      (r, k + 1)
    else (m, 0)

/-- The decimal digits of a natural number, most significant first. -/
def decimalDigits (n : Nat) : List Char :=
  Nat.toDigits 10 n

/-- Decimal text of an integer, with a leading minus sign when negative. -/
def intText (i : Int) : String :=
  if i < 0 then "-" ++ String.ofList (decimalDigits i.natAbs)
  else String.ofList (decimalDigits i.natAbs)

theorem roundHalfEven_le_succ (n d : Nat) : roundHalfEven n d ≤ n / d + 1 := by
  unfold roundHalfEven
  dsimp only
  split <;> (try split) <;> (try split) <;> omega

theorem div_le_roundHalfEven (n d : Nat) : n / d ≤ roundHalfEven n d := by
  unfold roundHalfEven
  dsimp only
  split <;> (try split) <;> (try split) <;> omega

end Strainer.Exact
