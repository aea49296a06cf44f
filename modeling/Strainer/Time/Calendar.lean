/-!
# The proleptic Gregorian calendar

Leap years, month lengths, and the day count from 1970-01-01 in both directions. The day count
uses the era decomposition (400-year cycles of 146097 days, the year starting in March), so it
is exact for every year, negative ones included.
-/

namespace Strainer.Calendar

/-- Divisible by 4 and not by 100, or divisible by 400. -/
def isLeap (y : Int) : Bool :=
  (y % 4 = 0 ∧ y % 100 ≠ 0) ∨ y % 400 = 0

/-- Days in month `m` (1 to 12) of year `y`. -/
def daysInMonth (y : Int) (m : Nat) : Nat :=
  match m with
  | 2 => if isLeap y then 29 else 28
  | 4 | 6 | 9 | 11 => 30
  | _ => 31

/-- Is `y-m-d` a day of the calendar? -/
def isValidDate (y : Int) (m d : Nat) : Bool :=
  1 ≤ m ∧ m ≤ 12 ∧ 1 ≤ d ∧ d ≤ daysInMonth y m

/-- Days from 1970-01-01 to `y-m-d`. -/
def daysFromCivil (y : Int) (m d : Nat) : Int :=
  let y := if m ≤ 2 then y - 1 else y
  let era := y / 400
  let yoe := y - era * 400
  let mp : Int := if m > 2 then (m : Int) - 3 else (m : Int) + 9
  let doy := (153 * mp + 2) / 5 + (d : Int) - 1
  let doe := yoe * 365 + yoe / 4 - yoe / 100 + doy
  era * 146097 + doe - 719468

/-- The date `(y, m, d)` that lies `z` days after 1970-01-01. -/
def civilFromDays (z : Int) : Int × Nat × Nat :=
  let z := z + 719468
  let era := z / 146097
  let doe := z - era * 146097
  let yoe := (doe - doe / 1460 + doe / 36524 - doe / 146096) / 365
  let y := yoe + era * 400
  let doy := doe - (365 * yoe + yoe / 4 - yoe / 100)
  let mp := (5 * doy + 2) / 153
  let d := doy - (153 * mp + 2) / 5 + 1
  let m := if mp < 10 then mp + 3 else mp - 9
  (if m ≤ 2 then y + 1 else y, m.toNat, d.toNat)

end Strainer.Calendar
