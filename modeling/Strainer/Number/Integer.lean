/-!
# Integer text

Reading decimal integer text into a bounded range. The text is an optional sign (`-` only when
the range has negatives) and ASCII digits. Digits are taken left to right; the first character
that is not a digit makes the text invalid, unless the digits before it already left the range,
in which case the text is out of range. A sign with nothing after it, and the empty text, are
invalid.
-/

namespace Strainer

/-- The outcome of reading integer text into a range. -/
inductive IntReading where
  | ok (value : Int)
  | outOfRange
  | invalid
  deriving DecidableEq, Repr

namespace IntReading

/-- Reads integer text into `[lo, hi]`; `signed` allows a leading minus sign. -/
def read (signed : Bool) (lo hi : Int) (cs : List Char) : IntReading :=
  let (neg, body) : Bool × List Char := match cs with
    | ['+'] => (false, ['+'])
    | ['-'] => (false, ['-'])
    | '+' :: r => (false, r)
    | '-' :: r => if signed then (true, r) else (false, cs)
    | r => (false, r)
  if body.isEmpty then invalid
  else
    let digits := body.takeWhile Char.isDigit
    let rest := body.dropWhile Char.isDigit
    let n : Int := digits.foldl (fun acc c => 10 * acc + (c.toNat - '0'.toNat)) 0
    let v := if neg then -n else n
    if v < lo ∨ hi < v then outOfRange
    else if rest.isEmpty then ok v
    else invalid

end IntReading

end Strainer
