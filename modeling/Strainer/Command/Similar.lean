/-!
# Similar words

The Jaro similarity of two words, kept as an exact fraction, and the choice of the word most
like a mistyped one. Two characters match when they are equal and no further apart than half
the longer word's length, less one; each character matches at most once, the earliest free one
first. With `m` matches of which `t` pairs are out of order, the similarity of words of lengths
`a` and `b` is `(m / a + m / b + (m - t) / m) / 3`, and zero without matches. A word is offered
as a correction when its similarity is above `7 / 10`; of several, the most similar, and of
equally similar ones the last.
-/

namespace Strainer.Command

/-- A non-negative fraction `num / den` with `den > 0`. -/
structure Fraction where
  num : Nat
  den : Nat

namespace Fraction

/-- `p < q`, by cross-multiplying. -/
def lt (p q : Fraction) : Bool := p.num * q.den < q.num * p.den

def zero : Fraction := ⟨0, 1⟩
def one : Fraction := ⟨1, 1⟩

end Fraction

/-- Marks, for each character of `b`, whether it is taken; matches `c` at position `i` of the
first word against the first free equal character of `b` within `[lo, hi)`. -/
def takeMatch (c : Char) (lo hi : Nat) : List Char → List Bool → Nat → Option (List Bool)
  | [], _, _ => none
  | _, [], _ => none
  | d :: ds, f :: fs, j =>
    if j ≥ hi then none
    else if lo ≤ j ∧ c = d ∧ !f then some (true :: fs)
    else (takeMatch c lo hi ds fs (j + 1)).map (f :: ·)

/-- The matched flags of both words, walking the first word. -/
def matchFlags (range : Nat) (b : List Char) : List Char → Nat → List Bool → List Bool × List Bool
  | [], _, bFlags => ([], bFlags)
  | c :: cs, i, bFlags =>
    let lo := i - range
    let hi := min b.length (i + range + 1)
    match takeMatch c lo hi b bFlags 0 with
    | some bFlags =>
      let (aFlags, bFlags) := matchFlags range b cs (i + 1) bFlags
      (true :: aFlags, bFlags)
    | none =>
      let (aFlags, bFlags) := matchFlags range b cs (i + 1) bFlags
      (false :: aFlags, bFlags)

/-- The characters at the marked positions. -/
def marked (cs : List Char) (flags : List Bool) : List Char :=
  ((cs.zip flags).filter (·.2)).map (·.1)

/-- The number of positions where two sequences differ. -/
def differences (xs ys : List Char) : Nat :=
  ((xs.zip ys).filter fun (x, y) => x ≠ y).length

/-- The Jaro similarity of two words. -/
def jaro (a b : String) : Fraction :=
  let as := a.toList
  let bs := b.toList
  let la := as.length
  let lb := bs.length
  if la = 0 ∧ lb = 0 then .one
  else if la = 0 ∨ lb = 0 then .zero
  else
    let range := max la lb / 2 - 1
    let (aFlags, bFlags) := matchFlags range bs as 0 (List.replicate lb false)
    let m := (aFlags.filter id).length
    if m = 0 then .zero
    else
      let t := differences (marked as aFlags) (marked bs bFlags) / 2
      -- (m / la + m / lb + (m - t) / m) / 3 over the common denominator 3 * la * lb * m
      ⟨m * lb * m + m * la * m + (m - t) * la * lb, 3 * la * lb * m⟩

/-- The candidates more than `7 / 10` similar to `w`, least similar first, ties in their order. -/
def similarWords (w : String) (candidates : List String) : List String :=
  let scored := (candidates.map fun c => (jaro w c, c)).filter fun (s, _) => Fraction.lt ⟨7, 10⟩ s
  (scored.mergeSort fun x y => !Fraction.lt y.1 x.1).map (·.2)

/-- The candidate most like `w`, if one is similar enough. -/
def closestWord? (w : String) (candidates : List String) : Option String :=
  (similarWords w candidates).getLast?

end Strainer.Command
