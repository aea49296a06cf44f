import Mathlib.Tactic.IntervalCases
import Strainer.Time.Parse

/-!
# Reading date-times back

What `DateTime.read` returns, and how it reads what `DateTime.render` prints.

Every date-time read is valid: a real day of the calendar in the year range, a real time of day
and a nanosecond below a second (`DateTime.read_isValid`). The layouts with a date check this as
they read; an RFC 3339 stamp is moved to UTC, and the day it lands on is computed by
`Calendar.civilFromDays`, which needs an argument of its own: a day of a 400-year era is a
century, a four-year cycle of it and a day of the cycle, and the year and day of the year follow
from that decomposition (`Calendar.yearOfEra_spec`, `Calendar.civilFromDays_isValidDate`).

Printing a valid date-time with whole seconds and reading the text back gives it again
(`DateTime.read_render`): the text has no offset, so it is no RFC 3339 stamp, and it is read in the
year-first layout, each field from its zero-padded digits.
-/

namespace Strainer

/-! ## The day a day count names -/

namespace Calendar

/-- A day of the era, `0` to `146096`, as a century (the last day of the era counted in the
fourth), a four-year cycle of that century and a day of that cycle. A cycle has `1461` days, but
the last cycle of a century one day less. -/
theorem eraDay_decompose {doe : Int} (h0 : 0 ≤ doe) (h1 : doe ≤ 146096) :
    ∃ c q r : Int, doe = 36524 * c + 1461 * q + r ∧ 0 ≤ c ∧ c ≤ 4 ∧ 0 ≤ q ∧ q ≤ 24 ∧ 0 ≤ r ∧
      r ≤ 1460 ∧ (q = 24 → r ≤ 1459) ∧ (c = 4 → q = 0 ∧ r = 0) :=
  ⟨doe / 36524, doe % 36524 / 1461, doe % 36524 % 1461, by omega, by omega, by omega, by omega,
    by omega, by omega, by omega, by omega, by omega⟩

/-- The year of the era (years starting in March) that `civilFromDays` computes, and the day of
that year: the year is the century's, the cycle's and the year of the cycle, and only a year
followed by a leap February has a 366th day. -/
theorem yearOfEra_spec {doe : Int} (h0 : 0 ≤ doe) (h1 : doe ≤ 146096) :
    let yoe := (doe - doe / 1460 + doe / 36524 - doe / 146096) / 365
    let doy := doe - (365 * yoe + yoe / 4 - yoe / 100)
    0 ≤ yoe ∧ yoe ≤ 399 ∧ 0 ≤ doy ∧ doy ≤ 365 ∧
      (doy = 365 → (yoe + 1) % 4 = 0 ∧ ((yoe + 1) % 100 ≠ 0 ∨ (yoe + 1) % 400 = 0)) := by
  intro yoe doy
  obtain ⟨c, q, r, rfl, hc0, hc, hq0, hq, hr0, hr, hlast, hend⟩ := eraDay_decompose h0 h1
  by_cases hc4 : c = 4
  · -- the last day of the era closes a leap year of 366 days
    obtain ⟨rfl, rfl⟩ := hend hc4
    subst hc4
    decide
  -- within a century: the leap days counted so far are the cycles', less the century's
  have hera : (36524 * c + 1461 * q + r) / 146096 = 0 := by omega
  have hcentury : (36524 * c + 1461 * q + r) / 36524 = c := by omega
  have hcycles : (36524 * c + 1461 * q + r) / 1460 = 25 * c + q + (24 * c + q + r) / 1460 := by
    omega
  have hyoe : yoe = 100 * c + 4 * q + min (r / 365) 3 := by
    show (_ - _ + _ - _) / 365 = _
    rw [hera, hcentury, hcycles]
    omega
  have hquarter : yoe / 4 = 25 * c + q := by omega
  have hhundred : yoe / 100 = c := by omega
  have hdoy : doy = r - 365 * min (r / 365) 3 := by
    show _ - (_ + _ - _) = _
    rw [hquarter, hhundred, hyoe]
    omega
  refine ⟨by omega, by omega, by omega, by omega, fun h365 => ?_⟩
  -- a 366th day is the last of a cycle, before a year divisible by four but not by a hundred
  have hr1460 : r = 1460 := by omega
  omega

/-- The month and day that `civilFromDays` reads off a day of the year (from March): a real
day of the calendar, the 366th day only falling on a leap February. -/
theorem dayOfYear_valid {doy y mp : Int} (h0 : 0 ≤ doy) (h1 : doy ≤ 365)
    (hmp : mp = (5 * doy + 2) / 153) (hleap : doy = 365 → isLeap (y + 1) = true) :
    isValidDate (if (if mp < 10 then mp + 3 else mp - 9) ≤ 2 then y + 1 else y)
      (if mp < 10 then mp + 3 else mp - 9).toNat (doy - (153 * mp + 2) / 5 + 1).toNat = true := by
  have hlo : 0 ≤ mp := by omega
  have hhi : mp ≤ 11 := by omega
  interval_cases mp
  -- March to January have fixed lengths; February has a 29th day in a leap year only
  case «11» =>
    by_cases hl : isLeap (y + 1) = true
    · simp [isValidDate, daysInMonth, hl]
      omega
    · have h365 : doy ≠ 365 := fun h => hl (hleap h)
      simp [isValidDate, daysInMonth, hl]
      omega
  all_goals simp [isValidDate, daysInMonth]
  all_goals omega

/-- Every day count names a real day of the calendar. -/
theorem civilFromDays_isValidDate (z : Int) :
    isValidDate (civilFromDays z).1 (civilFromDays z).2.1 (civilFromDays z).2.2 = true := by
  have hdoe0 : 0 ≤ z + 719468 - (z + 719468) / 146097 * 146097 := by omega
  have hdoe1 : z + 719468 - (z + 719468) / 146097 * 146097 ≤ 146096 := by omega
  obtain ⟨-, -, hdoy0, hdoy1, hleap⟩ := yearOfEra_spec hdoe0 hdoe1
  unfold civilFromDays
  dsimp only
  refine dayOfYear_valid hdoy0 hdoy1 rfl fun h365 => ?_
  -- the year after is the year of the era moved by whole eras, so it is leap alike
  obtain ⟨h4, h100⟩ := hleap h365
  simp only [isLeap, decide_eq_true_eq]
  omega

theorem daysInMonth_le (y : Int) (m : Nat) : daysInMonth y m ≤ 31 := by
  unfold daysInMonth
  split
  · split <;> omega
  all_goals omega

end Calendar

/-! ## What is read is valid -/

theorem DateTime.ofUnixSeconds?_isValid {secs : Int} {nanos : Nat} {t : DateTime}
    (hn : nanos < 1000000000) (h : DateTime.ofUnixSeconds? secs nanos = some t) : t.isValid = true := by
  unfold DateTime.ofUnixSeconds? at h
  dsimp only at h
  have hdate := Calendar.civilFromDays_isValidDate (secs / 86400)
  generalize Calendar.civilFromDays (secs / 86400) = ymd at h hdate
  obtain ⟨y, m, d⟩ := ymd
  dsimp only at h hdate
  split_ifs at h with hy
  cases h
  have hrest : (secs % 86400).toNat < 86400 := by omega
  simp only [DateTime.isValid, hdate, decide_eq_true_eq]
  exact ⟨hy.1, hy.2, trivial, by omega, by omega, by omega, hn⟩

namespace DateText

theorem stamp_ok {cs : List Char} {t : DateTime} (h : stamp cs = some (.ok t)) :
    ∃ secs nanos, nanos < 1000000000 ∧ DateTime.ofUnixSeconds? secs nanos = some t := by
  unfold stamp at h
  obtain ⟨⟨wall, off⟩, -, h⟩ := Option.bind_eq_some_iff.mp h
  dsimp only at h
  generalize (if wall.second = 60 then { wall with second := 59, nanosecond := 999999999 } else wall) = wall' at h
  split_ifs at h with hvalid
  -- the wall time was checked, its nanosecond included, before it was moved to UTC
  have hnanos : wall'.nanosecond < 1000000000 := by
    simp only [DateTime.isValid, decide_eq_true_eq] at hvalid
    exact hvalid.2.2.2.2.2.2
  split at h
  · rename_i t' ht'
    cases h
    exact ⟨_, _, hnanos, ht'⟩
  · cases h

theorem mkDate_valid {y : Int} {m d : Nat} {r : Int × Nat × Nat} (h : mkDate y m d = some r) :
    r = (y, m, d) ∧ DateTime.minYear ≤ y ∧ y ≤ DateTime.maxYear ∧ Calendar.isValidDate y m d := by
  unfold mkDate at h
  split_ifs at h with hvalid
  cases h
  exact ⟨rfl, hvalid⟩

theorem monthFirst_valid {sep : Char} {cs : List Char} {r : Int × Nat × Nat}
    (h : monthFirst sep cs = some r) :
    DateTime.minYear ≤ r.1 ∧ r.1 ≤ DateTime.maxYear ∧ Calendar.isValidDate r.1 r.2.1 r.2.2 := by
  unfold monthFirst at h
  obtain ⟨⟨m, r₁⟩, -, h⟩ := Option.bind_eq_some_iff.mp h
  obtain ⟨⟨_, r₂⟩, -, h⟩ := Option.bind_eq_some_iff.mp h
  obtain ⟨⟨d, r₃⟩, -, h⟩ := Option.bind_eq_some_iff.mp h
  obtain ⟨⟨_, r₄⟩, -, h⟩ := Option.bind_eq_some_iff.mp h
  obtain ⟨⟨y, r₅⟩, -, h⟩ := Option.bind_eq_some_iff.mp h
  dsimp only at h
  split_ifs at h
  obtain ⟨rfl, hvalid⟩ := mkDate_valid h
  exact hvalid

theorem yearFirst_valid {cs : List Char} {r : Int × Nat × Nat} (h : yearFirst cs = some r) :
    DateTime.minYear ≤ r.1 ∧ r.1 ≤ DateTime.maxYear ∧ Calendar.isValidDate r.1 r.2.1 r.2.2 := by
  unfold yearFirst at h
  obtain ⟨⟨y, r₁⟩, -, h⟩ := Option.bind_eq_some_iff.mp h
  obtain ⟨⟨_, r₂⟩, -, h⟩ := Option.bind_eq_some_iff.mp h
  obtain ⟨⟨m, r₃⟩, -, h⟩ := Option.bind_eq_some_iff.mp h
  obtain ⟨⟨_, r₄⟩, -, h⟩ := Option.bind_eq_some_iff.mp h
  obtain ⟨⟨d, r₅⟩, -, h⟩ := Option.bind_eq_some_iff.mp h
  dsimp only at h
  split_ifs at h
  obtain ⟨rfl, hvalid⟩ := mkDate_valid h
  exact hvalid

/-- A date read in any layout is a real day of the calendar in the year range. -/
theorem date_valid {cs : List Char} {r : Int × Nat × Nat} (h : date cs = some r) :
    DateTime.minYear ≤ r.1 ∧ r.1 ≤ DateTime.maxYear ∧ Calendar.isValidDate r.1 r.2.1 r.2.2 := by
  unfold date at h
  cases h₁ : monthFirst '/' cs with
  | some r₁ =>
    rw [h₁, Option.orElse_some] at h
    cases h
    exact monthFirst_valid h₁
  | none =>
    rw [h₁, Option.orElse_none] at h
    cases h₂ : monthFirst '-' cs with
    | some r₂ =>
      rw [h₂, Option.orElse_some] at h
      cases h
      exact monthFirst_valid h₂
    | none =>
      rw [h₂, Option.orElse_none] at h
      exact yearFirst_valid h

/-- A time of day read is a real one. -/
theorem clock_valid {cs : List Char} {r : Nat × Nat × Nat} (h : clock cs = some r) :
    r.1 < 24 ∧ r.2.1 < 60 ∧ r.2.2 < 60 := by
  unfold clock at h
  dsimp only at h
  rw [Option.orElse_eq_or, Option.or_eq_some_iff] at h
  rcases h with h | ⟨-, h⟩
  · -- with seconds
    obtain ⟨⟨hh, r₁⟩, -, h⟩ := Option.bind_eq_some_iff.mp h
    obtain ⟨⟨_, r₂⟩, -, h⟩ := Option.bind_eq_some_iff.mp h
    obtain ⟨⟨mi, r₃⟩, -, h⟩ := Option.bind_eq_some_iff.mp h
    obtain ⟨⟨_, r₄⟩, -, h⟩ := Option.bind_eq_some_iff.mp h
    obtain ⟨⟨s, r₅⟩, -, h⟩ := Option.bind_eq_some_iff.mp h
    dsimp only at h
    split_ifs at h with hbounds
    cases h
    exact hbounds.2
  · -- without seconds
    obtain ⟨⟨hh, r₁⟩, -, h⟩ := Option.bind_eq_some_iff.mp h
    obtain ⟨⟨_, r₂⟩, -, h⟩ := Option.bind_eq_some_iff.mp h
    obtain ⟨⟨mi, r₃⟩, -, h⟩ := Option.bind_eq_some_iff.mp h
    dsimp only at h
    split_ifs at h with hbounds
    cases h
    exact ⟨hbounds.2.1, hbounds.2.2, Nat.zero_lt_succ _⟩

end DateText

namespace DateTime

/-- Every date-time read from text is valid: a real day in the year range, a real time of day and
a nanosecond below a second. -/
theorem read_isValid {s : String} {t : DateTime} (h : read s = .ok t) : t.isValid = true := by
  unfold read at h
  generalize Text.trim s.toList = cs at h
  dsimp only at h
  cases hs : DateText.stamp cs with
  | some r =>
    rw [hs] at h
    subst h
    obtain ⟨secs, nanos, hn, ht⟩ := DateText.stamp_ok hs
    exact ofUnixSeconds?_isValid hn ht
  | none =>
    rw [hs] at h
    dsimp only at h
    cases hd : DateText.date (cs.takeWhile fun c => !Text.isBlank c) with
    | none => rw [hd] at h; cases h
    | some ymd =>
      obtain ⟨hlo, hhi, hdate⟩ := DateText.date_valid hd
      obtain ⟨y, m, d⟩ := ymd
      rw [hd] at h
      dsimp only at h
      split_ifs at h
      · cases h
        simp only [isValid, decide_eq_true_eq]
        exact ⟨hlo, hhi, hdate, by decide, by decide, by decide, by decide⟩
      · split at h
        · rename_i hh mi sec hclock
          cases h
          obtain ⟨h24, h60, h60'⟩ := DateText.clock_valid hclock
          simp only [isValid, decide_eq_true_eq]
          exact ⟨hlo, hhi, hdate, h24, h60, h60', by decide⟩
        · cases h

end DateTime

/-! ## Printing reads back -/

namespace Text

/-- Printable ASCII is not blank. -/
theorem isBlank_of_printable {c : Char} (hlo : 0x20 < c.toNat) (hhi : c.toNat < 0x7F) :
    isBlank c = false := by
  simp only [isBlank, decide_eq_false_iff_not]
  omega

/-- Text that starts and ends with a character that is not blank is its own trimming. -/
theorem trim_eq_self {a : Char} {cs : List Char} (hhead : isBlank a = false)
    (hlast : ∀ z ∈ (a :: cs).getLast?, isBlank z = false) : trim (a :: cs) = a :: cs := by
  unfold trim
  rw [List.dropWhile_cons_of_neg (by simp [hhead])]
  cases hrev : (a :: cs).reverse with
  | nil => simp at hrev
  | cons z zs =>
    have hz : isBlank z = false := hlast z (by rw [← List.head?_reverse, hrev]; rfl)
    rw [List.dropWhile_cons_of_neg (by simp [hz]), ← hrev, List.reverse_reverse]

theorem isBlank_of_isDigit {c : Char} (h : c.isDigit = true) : isBlank c = false := by
  obtain ⟨h0, h9⟩ := Char.isDigit_iff_toNat.mp h
  exact isBlank_of_printable (Nat.lt_of_lt_of_le (by decide) h0) (Nat.lt_of_le_of_lt h9 (by decide))

/-- Text with no blank character is its own trimming. -/
theorem trim_of_nonblank {cs : List Char} (h : ∀ c ∈ cs, isBlank c = false) : trim cs = cs := by
  cases cs with
  | nil => rfl
  | cons a cs => exact trim_eq_self (h a List.mem_cons_self) fun z hz => h z (List.mem_of_getLast? hz)

theorem trimString_of_nonblank {s : String} (h : ∀ c ∈ s.toList, isBlank c = false) :
    trimString s = s := by
  rw [trimString, trim_of_nonblank h, String.ofList_toList]

end Text

namespace DateTime

theorem padded_isDigit (width n : Nat) : ∀ c ∈ padded width n, c.isDigit := by
  intro c hc
  simp only [padded, List.mem_append, List.mem_replicate] at hc
  rcases hc with ⟨-, rfl⟩ | hc
  · decide
  · exact Nat.isDigit_of_mem_toDigits (by decide) (by decide) hc

theorem padded_length_ge (width n : Nat) : width ≤ (padded width n).length := by
  simp [padded]
  omega

/-- A number below `10 ^ width`, padded with zeros, is `width` digits that read back as it. -/
theorem padded_spec {width n : Nat} (hw : 0 < width) (h : n < Nat.pow 10 width) :
    (padded width n).length = width ∧ (∀ c ∈ padded width n, c.isDigit) ∧
      Nat.ofDigitChars 10 (padded width n) 0 = n := by
  have hlen : (Exact.decimalDigits n).length ≤ width :=
    (Nat.length_toDigits_le_iff (by decide) hw).mpr h
  refine ⟨by simp [padded]; omega, fun c hc => ?_, ?_⟩
  · simp only [padded, List.mem_append, List.mem_replicate] at hc
    rcases hc with ⟨-, rfl⟩ | hc
    · decide
    · exact Nat.isDigit_of_mem_toDigits (by decide) (by decide) hc
  · rw [padded, Nat.ofDigitChars_append, Nat.ofDigitChars_replicate_zero, Nat.mul_zero]
    exact Nat.ofDigitChars_ten_toDigits

end DateTime

namespace DateText

open DateTime

theorem exactly_append {n : Nat} {ds rest : List Char} (hlen : ds.length = n)
    (hdigits : ∀ c ∈ ds, c.isDigit) :
    exactly n (ds ++ rest) = some (Nat.ofDigitChars 10 ds 0, rest) := by
  unfold exactly
  rw [List.take_left' hlen, List.drop_left' hlen, if_pos ⟨hlen, List.all_eq_true.mpr hdigits⟩]
  rfl

theorem exactly_padded {width n : Nat} (hw : 0 < width) (h : n < Nat.pow 10 width)
    (rest : List Char) : exactly width (padded width n ++ rest) = some (n, rest) := by
  obtain ⟨hlen, hdigits, hval⟩ := padded_spec hw h
  rw [exactly_append hlen hdigits, hval]

theorem oneOrTwo_padded {n : Nat} (h : n < 100) (rest : List Char) :
    oneOrTwo (padded 2 n ++ rest) = some (n, rest) := by
  obtain ⟨hlen, hdigits, hval⟩ := @padded_spec 2 n (by decide) h
  generalize padded 2 n = ds at hlen hdigits hval
  match ds, hlen with
  | [a, b], _ =>
    have ha := hdigits a (by simp)
    have hb := hdigits b (by simp)
    simp only [oneOrTwo, List.cons_append, List.nil_append, ha, hb, if_true]
    rw [← hval, Nat.ofDigitChars_cons, Nat.ofDigitChars_cons, Nat.ofDigitChars_nil, Nat.mul_zero,
      Nat.zero_add]
    rfl

@[simp] theorem literal_cons (c : Char) (rest : List Char) : literal c (c :: rest) = some ((), rest) := by
  simp [literal]

/-- A year of the range, printed with its sign, reads back. -/
theorem year_yearText {y : Int} (hlo : minYear ≤ y) (hhi : y ≤ maxYear) (rest : List Char) :
    year (yearText y ++ rest) = some (y, rest) := by
  have habs : y.natAbs < Nat.pow 10 4 := by
    simp only [minYear, maxYear] at hlo hhi
    show y.natAbs < 10000
    omega
  obtain ⟨hlen, hdigits, -⟩ := padded_spec (by decide) habs
  unfold yearText
  by_cases hneg : y < 0
  · rw [if_pos hneg, List.singleton_append, List.cons_append]
    simp only [year, exactly_padded (by decide) habs, Option.map_some]
    congr 2
    omega
  · rw [if_neg hneg, List.nil_append]
    -- the year starts with a digit, so it has no sign
    obtain ⟨a, ds, hads⟩ := List.exists_cons_of_length_pos (by omega : 0 < (padded 4 y.natAbs).length)
    have ha : a.isDigit := hdigits a (by rw [hads]; exact List.mem_cons_self ..)
    have hsign : a ≠ '-' ∧ a ≠ '+' := by
      constructor <;> rintro rfl <;> revert ha <;> decide
    unfold year
    split
    · rename_i r hr
      rw [hads, List.cons_append, List.cons.injEq] at hr
      exact absurd hr.1 hsign.1
    · rename_i r hr
      rw [hads, List.cons_append, List.cons.injEq] at hr
      exact absurd hr.1 hsign.2
    · rw [exactly_padded (by decide) habs, Option.map_some]
      dsimp only
      rw [Int.natAbs_of_nonneg (Int.not_lt.mp hneg)]

/-- A text of ASCII digits that does not start with `n` digits is not read as `n` of them. -/
theorem exactly_cons_of_not_isDigit {n : Nat} {c : Char} (hn : 0 < n) (hc : c.isDigit = false)
    (rest : List Char) : exactly n (c :: rest) = none := by
  unfold exactly
  rw [if_neg]
  rintro ⟨-, hall⟩
  obtain ⟨k, rfl⟩ := Nat.exists_eq_succ_of_ne_zero (Nat.pos_iff_ne_zero.mp hn)
  simp [hc] at hall

theorem oneOrTwo_of_not_isDigit {a : Char} (ha : a.isDigit = false) (rest : List Char) :
    oneOrTwo (a :: rest) = none := by
  cases rest <;> simp [oneOrTwo, ha]

theorem oneOrTwo_two_digits {a b : Char} (ha : a.isDigit) (hb : b.isDigit) (rest : List Char) :
    oneOrTwo (a :: b :: rest) = some (Nat.ofDigitChars 10 [a, b] 0, rest) := by
  simp only [oneOrTwo, ha, hb, if_true, Nat.ofDigitChars_cons, Nat.ofDigitChars_nil, Nat.mul_zero,
    Nat.zero_add]
  rfl

/-- `some` followed by a continuation, in `do` notation. -/
theorem some_bind {α β : Type} (a : α) (f : α → Option β) : (some a >>= f) = f a := rfl

theorem none_bind {α β : Type} (f : α → Option β) : (none >>= f) = none := rfl

@[simp] theorem offset_nil : offset [] = none := rfl

theorem literal_of_ne {c d : Char} (h : d ≠ c) (rest : List Char) : literal c (d :: rest) = none := by
  simp [literal, h]

end DateText

namespace DateTime

open DateText

theorem isValid_iff {t : DateTime} :
    t.isValid ↔ minYear ≤ t.year ∧ t.year ≤ maxYear ∧ Calendar.isValidDate t.year t.month t.day ∧
      t.hour < 24 ∧ t.minute < 60 ∧ t.second < 60 ∧ t.nanosecond < 1000000000 := by
  simp [isValid]

theorem month_lt_of_isValid {t : DateTime} (hv : t.isValid) : t.month < 100 ∧ t.day < 100 := by
  obtain ⟨-, -, hdate, -⟩ := isValid_iff.mp hv
  have hdays := Calendar.daysInMonth_le t.year t.month
  simp only [Calendar.isValidDate, decide_eq_true_eq] at hdate
  omega

/-- The date of a valid date-time, printed, reads back in the year-first layout. -/
theorem yearFirst_dateText {t : DateTime} (hv : t.isValid) :
    yearFirst t.dateText = some (t.year, t.month, t.day) := by
  obtain ⟨hlo, hhi, hdate, -⟩ := isValid_iff.mp hv
  obtain ⟨hm, hd⟩ := month_lt_of_isValid hv
  rw [dateText, ← List.append_nil (padded 2 t.day)]
  simp only [List.append_assoc, List.cons_append]
  simp only [yearFirst, year_yearText hlo hhi, some_bind, literal_cons,
    exactly_padded (by decide : 0 < 2) (show t.month < Nat.pow 10 2 from hm),
    exactly_padded (by decide : 0 < 2) (show t.day < Nat.pow 10 2 from hd), List.isEmpty_nil,
    if_true, mkDate, hlo, hhi, hdate, and_self]

/-- The date of a date-time, printed, is not read month first: the year's first character is a
sign, or it is followed by two more digits where a separator would stand. -/
theorem monthFirst_dateText {sep : Char} (hsep : sep.isDigit = false) (t : DateTime) :
    monthFirst sep t.dateText = none := by
  rw [dateText, yearText]
  simp only [List.append_assoc, List.cons_append]
  by_cases hneg : t.year < 0
  · simp only [if_pos hneg, List.cons_append, monthFirst,
      oneOrTwo_of_not_isDigit (by decide : '-'.isDigit = false), none_bind]
  · -- a year of at least four digits
    obtain ⟨a, b, c, r, hp⟩ : ∃ a b c r, padded 4 t.year.natAbs = a :: b :: c :: r := by
      have hlen := padded_length_ge 4 t.year.natAbs
      match padded 4 t.year.natAbs, hlen with
      | a :: b :: c :: r, _ => exact ⟨a, b, c, r, rfl⟩
      | [], h | [_], h | [_, _], h => simp at h
    have hdigits := padded_isDigit 4 t.year.natAbs
    rw [hp] at hdigits
    have hc : c ≠ sep := fun h => by
      have := hdigits c (by simp)
      rw [h, hsep] at this
      cases this
    simp only [if_neg hneg, List.nil_append, hp, List.cons_append, monthFirst,
      oneOrTwo_two_digits (hdigits a (by simp)) (hdigits b (by simp)), literal_of_ne hc,
      some_bind, none_bind]

theorem date_dateText {t : DateTime} (hv : t.isValid) :
    date t.dateText = some (t.year, t.month, t.day) := by
  rw [date, monthFirst_dateText (by decide) t, Option.orElse_none, monthFirst_dateText (by decide) t,
    Option.orElse_none, yearFirst_dateText hv]

/-- The time of day of a valid date-time, printed, reads back with its seconds. -/
theorem clock_clockText {t : DateTime} (hv : t.isValid) :
    clock t.clockText = some (t.hour, t.minute, t.second) := by
  obtain ⟨-, -, -, hh, hmi, hs, -⟩ := isValid_iff.mp hv
  rw [clockText, ← List.append_nil (padded 2 t.second)]
  simp only [List.append_assoc, List.cons_append]
  simp only [clock, oneOrTwo_padded (by omega : t.hour < 100), some_bind,
    literal_cons, exactly_padded (by decide : 0 < 2) (show t.minute < Nat.pow 10 2 by
      show t.minute < 100; omega),
    exactly_padded (by decide : 0 < 2) (show t.second < Nat.pow 10 2 by show t.second < 100; omega),
    List.isEmpty_nil, hh, hmi, hs, and_self, if_true, Option.orElse_some]

/-- A date-time printed with a blank between date and time is no RFC 3339 stamp: it has no
offset (and a negative year has no four leading digits). -/
theorem stampFields_render {t : DateTime} (hv : t.isValid) :
    stampFields (t.dateText ++ ' ' :: t.clockText) = none := by
  obtain ⟨hlo, hhi, -, hh, hmi, hs, -⟩ := isValid_iff.mp hv
  obtain ⟨hm, hd⟩ := month_lt_of_isValid hv
  rw [dateText, clockText, yearText, ← List.append_nil (padded 2 t.second)]
  simp only [List.append_assoc, List.cons_append]
  by_cases hneg : t.year < 0
  · simp only [if_pos hneg, List.cons_append, stampFields,
      exactly_cons_of_not_isDigit (by decide : 0 < 4) (by decide : '-'.isDigit = false),
      none_bind]
  · have habs : t.year.natAbs < Nat.pow 10 4 := by
      simp only [minYear, maxYear] at hlo hhi
      show t.year.natAbs < 10000
      omega
    simp only [if_neg hneg, List.nil_append, stampFields, exactly_padded (by decide) habs,
      some_bind, literal_cons,
      exactly_padded (by decide : 0 < 2) (show t.month < Nat.pow 10 2 from hm),
      exactly_padded (by decide : 0 < 2) (show t.day < Nat.pow 10 2 from hd),
      exactly_padded (by decide : 0 < 2) (show t.hour < Nat.pow 10 2 by show t.hour < 100; omega),
      exactly_padded (by decide : 0 < 2) (show t.minute < Nat.pow 10 2 by show t.minute < 100; omega),
      exactly_padded (by decide : 0 < 2) (show t.second < Nat.pow 10 2 by show t.second < 100; omega),
      offset_nil, none_bind, ite_self]

theorem mem_dateText {t : DateTime} {c : Char} (h : c ∈ t.dateText) : c = '-' ∨ c.isDigit := by
  simp only [dateText, yearText, List.mem_append, List.mem_cons] at h
  rcases h with ((h | h) | h | h) | h | h
  · split at h <;> simp_all
  · exact .inr (padded_isDigit _ _ c h)
  · exact .inl h
  · exact .inr (padded_isDigit _ _ c h)
  · exact .inl h
  · exact .inr (padded_isDigit _ _ c h)

theorem mem_clockText {t : DateTime} {c : Char} (h : c ∈ t.clockText) : c = ':' ∨ c.isDigit := by
  simp only [clockText, List.mem_append, List.mem_cons] at h
  rcases h with (h | h | h) | h | h
  · exact .inr (padded_isDigit _ _ c h)
  · exact .inl h
  · exact .inr (padded_isDigit _ _ c h)
  · exact .inl h
  · exact .inr (padded_isDigit _ _ c h)

theorem isBlank_of_dateText {t : DateTime} {c : Char} (h : c ∈ t.dateText) : Text.isBlank c = false := by
  rcases mem_dateText h with rfl | hd
  · decide
  · exact Text.isBlank_of_isDigit hd

theorem isBlank_of_clockText {t : DateTime} {c : Char} (h : c ∈ t.clockText) : Text.isBlank c = false := by
  rcases mem_clockText h with rfl | hd
  · decide
  · exact Text.isBlank_of_isDigit hd

theorem trim_clockText (t : DateTime) : Text.trim t.clockText = t.clockText :=
  Text.trim_of_nonblank fun _ h => isBlank_of_clockText h

/-- The printed text is its own trimming: it starts with the date and ends with the time. -/
theorem trim_renderText (t : DateTime) :
    Text.trim (t.dateText ++ ' ' :: t.clockText) = t.dateText ++ ' ' :: t.clockText := by
  have hdate : t.dateText ≠ [] := by simp [dateText]
  have hclock : t.clockText ≠ [] := by simp [clockText]
  obtain ⟨a, ds, hds⟩ := List.exists_cons_of_ne_nil hdate
  rw [hds, List.cons_append]
  refine Text.trim_eq_self (isBlank_of_dateText (by rw [hds]; exact List.mem_cons_self ..)) ?_
  intro z hz
  rw [← List.cons_append, ← hds, List.getLast?_append, List.getLast?_cons,
    List.getLast?_eq_some_getLast hclock, Option.getD_some, Option.some_or, Option.mem_def,
    Option.some.injEq] at hz
  subst hz
  exact isBlank_of_clockText (List.getLast_mem hclock)

/-- A valid date-time with no fraction of a second, printed, reads back as itself. -/
theorem read_render {t : DateTime} (hv : t.isValid) (hn : t.nanosecond = 0) : read t.render = .ok t := by
  have htrim := trim_renderText t
  have hstamp : DateText.stamp (t.dateText ++ ' ' :: t.clockText) = none := by
    unfold DateText.stamp
    rw [stampFields_render hv]
    rfl
  -- the date runs to the blank, and the time follows it
  have htake : (t.dateText ++ ' ' :: t.clockText).takeWhile (fun c => !Text.isBlank c) = t.dateText := by
    rw [List.takeWhile_append_of_pos (fun c hc => by simp [isBlank_of_dateText hc]),
      List.takeWhile_cons_of_neg (by decide), List.append_nil]
  have hdrop : (t.dateText ++ ' ' :: t.clockText).dropWhile (fun c => !Text.isBlank c) =
      ' ' :: t.clockText := by
    rw [List.dropWhile_append_of_pos (fun c hc => by simp [isBlank_of_dateText hc]),
      List.dropWhile_cons_of_neg (by decide)]
  unfold read render
  simp only [String.toList_ofList, htrim, hstamp, htake, hdrop, date_dateText hv, List.isEmpty_cons,
    Bool.false_eq_true, if_false, List.tail_cons, trim_clockText, clock_clockText hv]
  rw [← hn]

end DateTime

end Strainer
