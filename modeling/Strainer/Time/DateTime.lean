import Strainer.Time.Calendar
import Strainer.Number.Exact

/-!
# Date-times

A calendar date and a time of day to the nanosecond, with no offset. Years run from -9999 to
9999. Date-times are ordered field by field, which is the order of the instants they name. A
date-time converts to and from a count of seconds (and nanoseconds) since 1970-01-01 00:00:00;
the way back fails when the count leaves the year range.
-/

namespace Strainer

/-- A calendar date with a time of day. -/
structure DateTime where
  year : Int
  month : Nat
  day : Nat
  hour : Nat
  minute : Nat
  second : Nat
  nanosecond : Nat
  deriving DecidableEq, Repr

namespace DateTime

def minYear : Int := -9999
def maxYear : Int := 9999

/-- A real day of the calendar in range, and a real time of day. -/
def isValid (t : DateTime) : Bool :=
  minYear ≤ t.year ∧ t.year ≤ maxYear ∧ Calendar.isValidDate t.year t.month t.day ∧
  t.hour < 24 ∧ t.minute < 60 ∧ t.second < 60 ∧ t.nanosecond < 1000000000

/-- Midnight at the start of 1970-01-01. -/
def epoch : DateTime := ⟨1970, 1, 1, 0, 0, 0, 0⟩

/-- The chronological order, field by field. -/
def compareTo (a b : DateTime) : Ordering :=
  (compare a.year b.year).then <| (compare a.month b.month).then <|
    (compare a.day b.day).then <| (compare a.hour b.hour).then <|
    (compare a.minute b.minute).then <| (compare a.second b.second).then <|
    compare a.nanosecond b.nanosecond

/-- Whole seconds since the epoch (the nanoseconds apart). -/
def toUnixSeconds (t : DateTime) : Int :=
  Calendar.daysFromCivil t.year t.month t.day * 86400 +
    ((t.hour * 3600 + t.minute * 60 + t.second : Nat) : Int)

/-- Nanoseconds since the epoch. -/
def toUnixNanos (t : DateTime) : Int :=
  t.toUnixSeconds * 1000000000 + t.nanosecond

/-- The date-time `secs` seconds and `nanos` nanoseconds (below a second) after the epoch, if
its year is in range. -/
def ofUnixSeconds? (secs : Int) (nanos : Nat) : Option DateTime :=
  let days := secs / 86400
  let rest := (secs % 86400).toNat
  let (y, m, d) := Calendar.civilFromDays days
  let t : DateTime := ⟨y, m, d, rest / 3600, rest % 3600 / 60, rest % 60, nanos⟩
  if minYear ≤ y ∧ y ≤ maxYear then some t else none

/-- The date-time `n` nanoseconds after the epoch, if in range. -/
def ofUnixNanos? (n : Int) : Option DateTime :=
  ofUnixSeconds? (n / 1000000000) (n % 1000000000).toNat

/-- Zero-padded decimal of at least `width` digits. -/
def padded (width n : Nat) : List Char :=
  let ds := Exact.decimalDigits n
  List.replicate (width - ds.length) '0' ++ ds

/-- The year as four digits, with a minus sign in front when negative. -/
def yearText (y : Int) : List Char :=
  (if y < 0 then ['-'] else []) ++ padded 4 y.natAbs

/-- `YYYY-MM-DD`. -/
def dateText (t : DateTime) : List Char :=
  yearText t.year ++ '-' :: padded 2 t.month ++ '-' :: padded 2 t.day

/-- `HH:MM:SS`. -/
def clockText (t : DateTime) : List Char :=
  padded 2 t.hour ++ ':' :: padded 2 t.minute ++ ':' :: padded 2 t.second

/-- The plain text `YYYY-MM-DD HH:MM:SS`; the fraction of a second is not written. -/
def render (t : DateTime) : String :=
  String.ofList (t.dateText ++ ' ' :: t.clockText)

/-- ISO 8601 text `YYYY-MM-DDTHH:MM:SS`, with nine fraction digits when the nanosecond is not
zero. -/
def isoText (t : DateTime) : String :=
  String.ofList (t.dateText ++ 'T' :: t.clockText ++
    (if t.nanosecond = 0 then [] else '.' :: padded 9 t.nanosecond))

private def digitsOf? (cs : List Char) : Option Nat :=
  if cs.isEmpty ∨ ¬ cs.all Char.isDigit then none
  else some (cs.foldl (fun acc c => 10 * acc + (c.toNat - '0'.toNat)) 0)

/-- Reads `isoText` back (any number of fraction digits up to nine); `none` for anything that is
not a valid date-time in that form. -/
def ofIsoText? (s : String) : Option DateTime := do
  let cs := s.toList
  let (neg, cs) := match cs with
    | '-' :: r => (true, r)
    | r => (false, r)
  let y ← digitsOf? (cs.take 4)
  let mo ← digitsOf? ((cs.drop 5).take 2)
  let d ← digitsOf? ((cs.drop 8).take 2)
  let h ← digitsOf? ((cs.drop 11).take 2)
  let mi ← digitsOf? ((cs.drop 14).take 2)
  let sec ← digitsOf? ((cs.drop 17).take 2)
  let frac := cs.drop 19
  let seps := [cs[4]?, cs[7]?, cs[10]?, cs[13]?, cs[16]?]
  if seps ≠ [some '-', some '-', some 'T', some ':', some ':'] then none
  else
    let nanos ← match frac with
      | [] => some 0
      | '.' :: ds =>
        if ds.length > 9 then none
        else digitsOf? (ds ++ List.replicate (9 - ds.length) '0')
      | _ => none
    let t : DateTime := ⟨if neg then -(y : Int) else y, mo, d, h, mi, sec, nanos⟩
    if t.isValid then some t else none

end DateTime

end Strainer
