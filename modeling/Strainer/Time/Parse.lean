import Strainer.Time.DateTime
import Strainer.Text.Blank

/-!
# Reading date-times

Date text is read in this order, on the text with blanks trimmed:

1. An RFC 3339 time stamp `YYYY-MM-DD?HH:MM:SS[.fraction](Z|±HH:MM)`, where `?` is any one
   ASCII character; it is moved to UTC. A second of 60 stands for the last nanosecond of the
   second before, and only at the end of a month in UTC. A stamp whose UTC instant lies past the
   year range cannot be represented: that is `beyondRange`, not a reading failure.
2. Otherwise a date, optionally followed by blanks and a time: the date as `M/D/YYYY`,
   `M-D-YYYY` or `YYYY-MM-DD` (month and day of one or two digits in the first two), the time as
   `H:MM:SS` or `H:MM` (hour of one or two digits); no time means midnight.
-/

namespace Strainer

/-- The outcome of reading date text. -/
inductive DateReading where
  | ok (t : DateTime)
  | invalid
  /-- A valid stamp whose instant, moved to UTC, leaves the year range. -/
  | beyondRange
  deriving DecidableEq, Repr

namespace DateReading

/-- The date-time read, if any. -/
def toOption : DateReading → Option DateTime
  | ok t => some t
  | _ => none

end DateReading

namespace DateText

/-- A reader of a prefix: the value and the rest, or failure. -/
abbrev Reader (α : Type) := List Char → Option (α × List Char)

private def digitValue (c : Char) : Nat := c.toNat - '0'.toNat

/-- Exactly `n` ASCII digits. -/
def exactly (n : Nat) : Reader Nat := fun cs =>
  let ds := cs.take n
  if ds.length = n ∧ ds.all Char.isDigit then
    some (ds.foldl (fun acc c => 10 * acc + digitValue c) 0, cs.drop n)
  else none

/-- One or two ASCII digits, as many as there are. -/
def oneOrTwo : Reader Nat := fun cs =>
  match cs with
  | a :: b :: rest =>
    if a.isDigit then
      if b.isDigit then some (10 * digitValue a + digitValue b, rest)
      else some (digitValue a, b :: rest)
    else none
  | [a] => if a.isDigit then some (digitValue a, []) else none
  | [] => none

/-- The character `c`. -/
def literal (c : Char) : Reader Unit := fun cs =>
  match cs with
  | d :: rest => if d = c then some ((), rest) else none
  | [] => none

/-- A four-digit year with an optional sign. -/
def year : Reader Int := fun cs =>
  match cs with
  | '-' :: rest => (exactly 4 rest).map fun (n, r) => (-(n : Int), r)
  | '+' :: rest => (exactly 4 rest).map fun (n, r) => ((n : Int), r)
  | _ => (exactly 4 cs).map fun (n, r) => ((n : Int), r)

/-- A calendar date from its parts, if it is one. -/
def mkDate (y : Int) (m d : Nat) : Option (Int × Nat × Nat) :=
  if DateTime.minYear ≤ y ∧ y ≤ DateTime.maxYear ∧ Calendar.isValidDate y m d then
    some (y, m, d)
  else none

/-- `M/D/YYYY` or `M-D-YYYY` with separator `sep`, the whole text. -/
def monthFirst (sep : Char) (cs : List Char) : Option (Int × Nat × Nat) := do
  let (m, r) ← oneOrTwo cs
  let ((), r) ← literal sep r
  let (d, r) ← oneOrTwo r
  let ((), r) ← literal sep r
  let (y, r) ← year r
  if r.isEmpty then mkDate y m d else none

/-- `YYYY-MM-DD`, the whole text. -/
def yearFirst (cs : List Char) : Option (Int × Nat × Nat) := do
  let (y, r) ← year cs
  let ((), r) ← literal '-' r
  let (m, r) ← exactly 2 r
  let ((), r) ← literal '-' r
  let (d, r) ← exactly 2 r
  if r.isEmpty then mkDate y m d else none

/-- A date in any of the three layouts, tried in order. -/
def date (cs : List Char) : Option (Int × Nat × Nat) :=
  (monthFirst '/' cs).orElse fun _ => (monthFirst '-' cs).orElse fun _ => yearFirst cs

/-- `H:MM:SS` or `H:MM`, the whole text. -/
def clock (cs : List Char) : Option (Nat × Nat × Nat) :=
  let withSeconds : Option (Nat × Nat × Nat) := do
    let (h, r) ← oneOrTwo cs
    let ((), r) ← literal ':' r
    let (m, r) ← exactly 2 r
    let ((), r) ← literal ':' r
    let (s, r) ← exactly 2 r
    if r.isEmpty ∧ h < 24 ∧ m < 60 ∧ s < 60 then some (h, m, s) else none
  let withoutSeconds : Option (Nat × Nat × Nat) := do
    let (h, r) ← oneOrTwo cs
    let ((), r) ← literal ':' r
    let (m, r) ← exactly 2 r
    if r.isEmpty ∧ h < 24 ∧ m < 60 then some (h, m, 0) else none
  withSeconds.orElse fun _ => withoutSeconds

/-- The fraction of a second after a point: at least one digit, the first nine counted. -/
def fraction (cs : List Char) : Option (Nat × List Char) :=
  let ds := cs.takeWhile Char.isDigit
  if ds.isEmpty then none
  else
    let nine := (ds.take 9 ++ List.replicate (9 - min 9 ds.length) '0')
    some (nine.foldl (fun acc c => 10 * acc + digitValue c) 0, cs.dropWhile Char.isDigit)

/-- The offset of an RFC 3339 stamp in seconds east of UTC. -/
def offset (cs : List Char) : Option (Int × List Char) :=
  match cs with
  | c :: rest =>
    if c = 'Z' ∨ c = 'z' then some (0, rest)
    else if c = '+' ∨ c = '-' then do
      let (h, r) ← exactly 2 rest
      let ((), r) ← literal ':' r
      let (m, r) ← exactly 2 r
      if h ≤ 23 ∧ m ≤ 59 then
        let secs : Int := (h * 3600 + m * 60 : Nat)
        some (if c = '-' then -secs else secs, r)
      else none
    else none
  | [] => none

/-- The fields of an RFC 3339 stamp as written: the wall-clock date-time (a second of 60 kept,
the fraction cut to nine digits) and the offset in seconds east of UTC. `none` when the text is
no such stamp. -/
def stampFields (cs : List Char) : Option (DateTime × Int) := do
  let (y, r) ← exactly 4 cs
  let ((), r) ← literal '-' r
  let (mo, r) ← exactly 2 r
  let ((), r) ← literal '-' r
  let (d, r) ← exactly 2 r
  let r ← match r with
    | c :: rest => if c.toNat < 128 then some rest else none
    | [] => none
  let (h, r) ← exactly 2 r
  let ((), r) ← literal ':' r
  let (mi, r) ← exactly 2 r
  let ((), r) ← literal ':' r
  let (s, r) ← exactly 2 r
  let (nanos, r) ← match r with
    | '.' :: rest => fraction rest
    | _ => some (0, r)
  let (off, r) ← offset r
  if r.isEmpty then some (⟨y, mo, d, h, mi, s, nanos⟩, off) else none

/-- An RFC 3339 stamp, read and moved to UTC. `none` when the text is no such stamp. -/
def stamp (cs : List Char) : Option DateReading := do
  let (wall, off) ← stampFields cs
  let leap := wall.second = 60
  let wall := if leap then { wall with second := 59, nanosecond := 999999999 } else wall
  if ¬ wall.isValid then none
  else
    let utcSeconds := wall.toUnixSeconds - off
    let rest := (utcSeconds % 86400).toNat
    let (uy, um, ud) := Calendar.civilFromDays (utcSeconds / 86400)
    if leap ∧ ¬ (rest = 86399 ∧ ud = Calendar.daysInMonth uy um) then none
    else
      match DateTime.ofUnixSeconds? utcSeconds wall.nanosecond with
      | some t => some (.ok t)
      | none => some .beyondRange

end DateText

/-- Reads date text (see the module note for the layouts, in the order tried). -/
def DateTime.read (s : String) : DateReading :=
  let cs := Text.trim s.toList
  match DateText.stamp cs with
  | some r => r
  | none =>
    let datePart := cs.takeWhile (fun c => !Text.isBlank c)
    let after := cs.dropWhile (fun c => !Text.isBlank c)
    match DateText.date datePart with
    | none => .invalid
    | some (y, m, d) =>
      if after.isEmpty then .ok ⟨y, m, d, 0, 0, 0, 0⟩
      else
        match DateText.clock (Text.trim after.tail) with
        | some (h, mi, sec) => .ok ⟨y, m, d, h, mi, sec, 0⟩
        | none => .invalid

end Strainer
