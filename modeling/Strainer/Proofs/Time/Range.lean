import Mathlib.Data.List.DropRight
import Strainer.Proofs.Time.Reading

/-!
# Time stamps past the year range

A date-time holds a year from `-9999` to `9999`. An RFC 3339 stamp writes its year with four
digits and its offset as less than a day, so the instant it names, moved to UTC, lies in year
`-1` or later (`DateText.neg_one_le_utcYear`): it can leave the year range only at the top, past
the end of year 9999. Reading such a stamp is the one reading of date text that gives
`beyondRange` (`DateTime.read_eq_beyondRange_iff`). Reading trims the text first, and trimming
twice trims once, so text that was trimmed already reads the same (`DateTime.read_trimString`).
-/

namespace Strainer

namespace Text

theorem trim_eq_rdropWhile (cs : List Char) :
    trim cs = (cs.dropWhile isBlank).rdropWhile isBlank := rfl

theorem trim_trim (cs : List Char) : trim (trim cs) = trim cs := by
  rw [trim_eq_rdropWhile (trim cs), trim_eq_rdropWhile cs]
  obtain ⟨rest, hrest⟩ := List.rdropWhile_prefix (p := isBlank) (l := cs.dropWhile isBlank)
  cases hkept : (cs.dropWhile isBlank).rdropWhile isBlank with
  | nil => rfl
  | cons a kept =>
    -- what the first trimming keeps starts where its first step stopped, at a character that
    -- is not blank
    have hhead : (cs.dropWhile isBlank).head? = some a := by
      rw [← hrest, hkept]
      rfl
    have ha := List.head?_dropWhile_not isBlank cs
    rw [hhead] at ha
    rw [List.dropWhile_cons_of_neg (by simp [ha]), ← hkept, List.rdropWhile_idempotent]

end Text

namespace Calendar

/-- No day of year zero or later lies more than 719528 days before 1970. -/
theorem neg_719528_le_daysFromCivil {y : Int} {m d : Nat} (hy : 0 ≤ y) (hm1 : 1 ≤ m) (hm12 : m ≤ 12)
    (hd : 1 ≤ d) : -719528 ≤ daysFromCivil y m d := by
  unfold daysFromCivil
  dsimp only
  -- January and February count in the year before, which for year zero is `-1`
  split_ifs <;> omega

/-- The day before year zero and every day after it lie in year `-1` or later. -/
theorem neg_one_le_civilFromDays_year {z : Int} (hz : -719529 ≤ z) : -1 ≤ (civilFromDays z).1 := by
  have hdoe0 : 0 ≤ z + 719468 - (z + 719468) / 146097 * 146097 := by omega
  have hdoe1 : z + 719468 - (z + 719468) / 146097 * 146097 ≤ 146096 := by omega
  obtain ⟨hyoe0, -, -, hdoy1, -⟩ := yearOfEra_spec hdoe0 hdoe1
  unfold civilFromDays
  dsimp only
  -- an era before the epoch's starts 146097 days earlier; only its last year is that late
  have hyear : -1 ≤ (z + 719468 - (z + 719468) / 146097 * 146097 -
      (z + 719468 - (z + 719468) / 146097 * 146097) / 1460 +
      (z + 719468 - (z + 719468) / 146097 * 146097) / 36524 -
      (z + 719468 - (z + 719468) / 146097 * 146097) / 146096) / 365 +
      (z + 719468) / 146097 * 400 := by
    omega
  split_ifs <;> omega

end Calendar

namespace DateTime

/-- A number of seconds names a date-time in range exactly when its day lies in a year of the
range. -/
theorem ofUnixSeconds?_isSome_iff (secs : Int) (nanos : Nat) :
    (ofUnixSeconds? secs nanos).isSome ↔
      minYear ≤ (Calendar.civilFromDays (secs / 86400)).1 ∧
        (Calendar.civilFromDays (secs / 86400)).1 ≤ maxYear := by
  unfold ofUnixSeconds?
  dsimp only
  generalize Calendar.civilFromDays (secs / 86400) = date
  obtain ⟨y, m, d⟩ := date
  dsimp only
  split_ifs with h <;> simp [h]

end DateTime

namespace DateText

theorem offset_bound {cs r : List Char} {off : Int} (h : offset cs = some (off, r)) :
    -86340 ≤ off ∧ off ≤ 86340 := by
  unfold offset at h
  split at h
  · split_ifs at h with hz hsign
    · cases h
      omega
    -- a sign, two digits of hours up to 23, a colon and two digits of minutes up to 59
    all_goals
      obtain ⟨⟨hh, r₁⟩, -, h⟩ := Option.bind_eq_some_iff.mp h
      obtain ⟨⟨⟨⟩, r₂⟩, -, h⟩ := Option.bind_eq_some_iff.mp h
      obtain ⟨⟨m, r₃⟩, -, h⟩ := Option.bind_eq_some_iff.mp h
      dsimp only at h
      split_ifs at h with hhm
      cases h
      omega
  · cases h

/-- The fields of a stamp as written: a year of four digits and an offset of less than a day. -/
theorem stampFields_bounds {cs : List Char} {wall : DateTime} {off : Int}
    (h : stampFields cs = some (wall, off)) : 0 ≤ wall.year ∧ -86340 ≤ off ∧ off ≤ 86340 := by
  unfold stampFields at h
  -- the readers one after another; only the year's and the offset's results matter
  obtain ⟨⟨y, r⟩, -, h⟩ := Option.bind_eq_some_iff.mp h
  obtain ⟨⟨⟨⟩, r⟩, -, h⟩ := Option.bind_eq_some_iff.mp h
  obtain ⟨⟨mo, r⟩, -, h⟩ := Option.bind_eq_some_iff.mp h
  obtain ⟨⟨⟨⟩, r⟩, -, h⟩ := Option.bind_eq_some_iff.mp h
  obtain ⟨⟨d, r⟩, -, h⟩ := Option.bind_eq_some_iff.mp h
  dsimp only at h
  -- the one character between date and time
  split at h
  · split_ifs at h
    · obtain ⟨r, -, h⟩ := Option.bind_eq_some_iff.mp h
      obtain ⟨⟨hh, r⟩, -, h⟩ := Option.bind_eq_some_iff.mp h
      obtain ⟨⟨⟨⟩, r⟩, -, h⟩ := Option.bind_eq_some_iff.mp h
      obtain ⟨⟨mi, r⟩, -, h⟩ := Option.bind_eq_some_iff.mp h
      obtain ⟨⟨⟨⟩, r⟩, -, h⟩ := Option.bind_eq_some_iff.mp h
      obtain ⟨⟨s, r⟩, -, h⟩ := Option.bind_eq_some_iff.mp h
      dsimp only at h
      -- with a fraction of a second or without, then the offset and the end of the text
      split at h
      all_goals
        obtain ⟨⟨nanos, r⟩, -, h⟩ := Option.bind_eq_some_iff.mp h
        obtain ⟨⟨off', r⟩, hoff, h⟩ := Option.bind_eq_some_iff.mp h
        dsimp only at h
        split_ifs at h
        cases h
        exact ⟨Int.natCast_nonneg y, offset_bound hoff⟩
    · cases h
  · cases h

/-- The wall-clock date-time a stamp's fields name: a second of 60 stands for the last
nanosecond of the second before. -/
def leapAdjusted (wall : DateTime) : DateTime :=
  if wall.second = 60 then { wall with second := 59, nanosecond := 999999999 } else wall

/-- The year, in UTC, of the instant that a stamp's fields name. -/
def utcYear (wall : DateTime) (off : Int) : Int :=
  (Calendar.civilFromDays (((leapAdjusted wall).toUnixSeconds - off) / 86400)).1

/-- The instant a stamp names lies in year `-1` or later: its year is written with four digits
and its offset is less than a day. -/
theorem neg_one_le_utcYear {cs : List Char} {wall : DateTime} {off : Int}
    (h : stampFields cs = some (wall, off)) (hv : (leapAdjusted wall).isValid = true) :
    -1 ≤ utcYear wall off := by
  obtain ⟨hyear, hoff0, hoff1⟩ := stampFields_bounds h
  have hsame : (leapAdjusted wall).year = wall.year := by
    unfold leapAdjusted
    split_ifs <;> rfl
  obtain ⟨-, -, hdate, -⟩ := DateTime.isValid_iff.mp hv
  simp only [Calendar.isValidDate, decide_eq_true_eq] at hdate
  have hdays := Calendar.neg_719528_le_daysFromCivil (hsame ▸ hyear) hdate.1 hdate.2.1 hdate.2.2.1
  have hsecs : -719529 ≤ ((leapAdjusted wall).toUnixSeconds - off) / 86400 := by
    unfold DateTime.toUnixSeconds
    omega
  exact Calendar.neg_one_le_civilFromDays_year hsecs

/-- A stamp that reads names a UTC instant; the reading is `beyondRange` exactly when that
instant lies past the end of year 9999. -/
theorem stamp_eq_some {cs : List Char} {r : DateReading} (h : stamp cs = some r) :
    ∃ wall off, stampFields cs = some (wall, off) ∧ (r = .beyondRange ↔ DateTime.maxYear < utcYear wall off) := by
  unfold stamp at h
  obtain ⟨⟨wall, off⟩, hf, h⟩ := Option.bind_eq_some_iff.mp h
  refine ⟨wall, off, hf, ?_⟩
  dsimp only at h
  have hadjust : (if wall.second = 60 then { wall with second := 59, nanosecond := 999999999 }
      else wall) = leapAdjusted wall := rfl
  rw [hadjust] at h
  split_ifs at h with hvalid hleap
  have hlow := neg_one_le_utcYear hf (by simpa using hvalid)
  have hrange := DateTime.ofUnixSeconds?_isSome_iff ((leapAdjusted wall).toUnixSeconds - off)
    (leapAdjusted wall).nanosecond
  unfold utcYear
  unfold utcYear at hlow
  revert h hrange
  cases DateTime.ofUnixSeconds? ((leapAdjusted wall).toUnixSeconds - off) (leapAdjusted wall).nanosecond with
  | some t =>
    intro h hrange
    cases h
    simp only [Option.isSome_some, true_iff] at hrange
    simp only [reduceCtorEq, false_iff, not_lt]
    exact hrange.2
  | none =>
    intro h hrange
    cases h
    simp only [Option.isSome_none, Bool.false_eq_true, false_iff, not_and, not_le] at hrange
    simp only [true_iff]
    exact hrange (by unfold DateTime.minYear; omega)

end DateText

namespace DateTime

/-- Reading date text gives `beyondRange` exactly when the text, trimmed, is an RFC 3339 stamp
whose instant, moved to UTC, lies past the end of year 9999. -/
theorem read_eq_beyondRange_iff (s : String) :
    read s = .beyondRange ↔ ∃ wall off, (DateText.stamp (Text.trim s.toList)).isSome ∧
      DateText.stampFields (Text.trim s.toList) = some (wall, off) ∧
        maxYear < DateText.utcYear wall off := by
  unfold read
  dsimp only
  generalize Text.trim s.toList = cs
  cases hs : DateText.stamp cs with
  | some r =>
    obtain ⟨wall, off, hf, hiff⟩ := DateText.stamp_eq_some hs
    dsimp only
    constructor
    · intro hr
      exact ⟨wall, off, rfl, hf, hiff.mp hr⟩
    · rintro ⟨wall', off', -, hf', hyear⟩
      rw [hf] at hf'
      cases hf'
      exact hiff.mpr hyear
  | none =>
    -- the other layouts give a date-time or nothing
    dsimp only
    simp only [Option.isSome_none, Bool.false_eq_true, false_and, exists_false, iff_false]
    generalize cs.takeWhile (fun c => !Text.isBlank c) = datePart
    generalize cs.dropWhile (fun c => !Text.isBlank c) = after
    cases DateText.date datePart with
    | none => exact fun h => by cases h
    | some ymd =>
      obtain ⟨y, m, d⟩ := ymd
      dsimp only
      split
      · exact fun h => by cases h
      · generalize DateText.clock (Text.trim after.tail) = time
        cases time with
        | none => exact fun h => by cases h
        | some hms => exact fun h => by cases h

theorem read_trimString (s : String) : read (Text.trimString s) = read s := by
  unfold read Text.trimString
  rw [String.toList_ofList, Text.trim_trim]

end DateTime

end Strainer
