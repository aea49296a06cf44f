import Strainer.Proofs.Time.Range
import Strainer.Proofs.Time.Reading

/-!
# Instants and the calendar

Counting the days of the date `Calendar.civilFromDays` gives for a day number gives that number
back (`Calendar.daysFromCivil_civilFromDays`), so a date-time read from a count of nanoseconds
has that count (`DateTime.toUnixNanos_of_ofUnixNanos?`). The year range -9999 to 9999 is the
range of day numbers from -4371587 to 2932896, and every count of nanoseconds in it names a
date-time. In particular a valid date-time's count of microseconds, truncated toward the epoch,
always names a valid date-time again (`DateTime.ofUnixNanos?_micros`).

The other way round, the day number of a real date reads back as that date
(`Calendar.civilFromDays_daysFromCivil`): the year of its era and its day of the year, counted
from March, are recovered by the same decomposition into centuries and four-year cycles that
`yearOfEra_spec` uses. So a valid date-time is read back from its count of nanoseconds, and no two
valid date-times share a count (`DateTime.toUnixNanos_injective`).
-/

namespace Strainer

namespace Calendar

/-- `daysFromCivil` of a date whose year, counted from March, is `n` years into era `e`, and
whose month, counted from March, is `p`. -/
theorem daysFromCivil_of_era {y : Int} {m d : Nat} {e n p : Int}
    (hy : (if m ≤ 2 then y - 1 else y) = n + e * 400) (hn : 0 ≤ n ∧ n ≤ 399)
    (hp : (if m > 2 then (m : Int) - 3 else (m : Int) + 9) = p) :
    daysFromCivil y m d = e * 146097 + (n * 365 + n / 4 - n / 100 + ((153 * p + 2) / 5 + d - 1))
      - 719468 := by
  have he : (n + e * 400) / 400 = e := by omega
  unfold daysFromCivil
  dsimp only
  rw [hy, hp, he, Int.add_sub_cancel]

/-- Counting the days of the date that lies `z` days after the epoch gives `z` back. -/
theorem daysFromCivil_civilFromDays (z : Int) :
    daysFromCivil (civilFromDays z).1 (civilFromDays z).2.1 (civilFromDays z).2.2 = z := by
  have hdoe0 : 0 ≤ z + 719468 - (z + 719468) / 146097 * 146097 := by omega
  have hdoe1 : z + 719468 - (z + 719468) / 146097 * 146097 ≤ 146096 := by omega
  obtain ⟨hyoe0, hyoe1, hdoy0, hdoy1, -⟩ := yearOfEra_spec hdoe0 hdoe1
  unfold civilFromDays
  dsimp only
  generalize hera : (z + 719468) / 146097 = era at *
  generalize hdoe : z + 719468 - era * 146097 = doe at *
  generalize hyoe : (doe - doe / 1460 + doe / 36524 - doe / 146096) / 365 = yoe at *
  generalize hdoy : doe - (365 * yoe + yoe / 4 - yoe / 100) = doy at *
  have hmp0 : 0 ≤ (5 * doy + 2) / 153 := by omega
  have hmp1 : (5 * doy + 2) / 153 ≤ 11 := by omega
  have hday : (153 * ((5 * doy + 2) / 153) + 2) / 5 ≤ doy := by omega
  generalize hmp : (5 * doy + 2) / 153 = mp at *
  -- March to December stay in the year of the era; January and February close it
  rw [daysFromCivil_of_era (e := era) (n := yoe) (p := mp) (by split_ifs <;> omega)
    ⟨hyoe0, hyoe1⟩ (by split_ifs <;> omega)]
  omega

/-- The first day of the year range, -9999-01-01, is 4371587 days before the epoch. -/
theorem daysFromCivil_lower {y : Int} {m d : Nat} (hy : DateTime.minYear ≤ y) (hm : 1 ≤ m)
    (hd : 1 ≤ d) : -4371587 ≤ daysFromCivil y m d := by
  unfold daysFromCivil DateTime.minYear at *
  dsimp only
  split_ifs <;> omega

/-- The last day of the year range, 9999-12-31, is 2932896 days after the epoch. -/
theorem daysFromCivil_upper {y : Int} {m d : Nat} (hy : y ≤ DateTime.maxYear) (hm : m ≤ 12)
    (hd : d ≤ 31) : daysFromCivil y m d ≤ 2932896 := by
  unfold daysFromCivil DateTime.maxYear at *
  dsimp only
  split_ifs <;> omega

/-- The day numbers from -4371587 to 2932896 fall in the years from -9999 to 9999. -/
theorem civilFromDays_year_range {z : Int} (hlo : -4371587 ≤ z) (hhi : z ≤ 2932896) :
    DateTime.minYear ≤ (civilFromDays z).1 ∧ (civilFromDays z).1 ≤ DateTime.maxYear := by
  have hdoe0 : 0 ≤ z + 719468 - (z + 719468) / 146097 * 146097 := by omega
  have hdoe1 : z + 719468 - (z + 719468) / 146097 * 146097 ≤ 146096 := by omega
  obtain ⟨hyoe0, hyoe1, hdoy0, hdoy1, -⟩ := yearOfEra_spec hdoe0 hdoe1
  unfold civilFromDays DateTime.minYear DateTime.maxYear
  dsimp only
  -- January and February belong to the year after the one their era count gives
  constructor <;> split_ifs <;> omega

/-! ## Counting a date and reading it back -/

/-- The converse of `yearOfEra_spec`: a year of the era and a day of it (a 366th day only before
a leap year) give a day of the era from which `civilFromDays` reads the year back. -/
theorem yearOfEra_inverse {yoe doy : Int} (h0 : 0 ≤ yoe) (h1 : yoe ≤ 399) (hd0 : 0 ≤ doy)
    (hd1 : doy ≤ 365)
    (hleap : doy = 365 → (yoe + 1) % 4 = 0 ∧ ((yoe + 1) % 100 ≠ 0 ∨ (yoe + 1) % 400 = 0)) :
    0 ≤ yoe * 365 + yoe / 4 - yoe / 100 + doy ∧ yoe * 365 + yoe / 4 - yoe / 100 + doy ≤ 146096 ∧
      (yoe * 365 + yoe / 4 - yoe / 100 + doy - (yoe * 365 + yoe / 4 - yoe / 100 + doy) / 1460 +
        (yoe * 365 + yoe / 4 - yoe / 100 + doy) / 36524 -
        (yoe * 365 + yoe / 4 - yoe / 100 + doy) / 146096) / 365 = yoe := by
  -- the year of the era as a century, a four-year cycle of it and a year of the cycle
  obtain ⟨c, q, r, rfl, hc0, hc, hq0, hq, hr0, hr⟩ : ∃ c q r : Int, yoe = 100 * c + 4 * q + r ∧
      0 ≤ c ∧ c ≤ 3 ∧ 0 ≤ q ∧ q ≤ 24 ∧ 0 ≤ r ∧ r ≤ 3 :=
    ⟨yoe / 100, yoe % 100 / 4, yoe % 4, by omega, by omega, by omega, by omega, by omega, by omega,
      by omega⟩
  have hquarter : (100 * c + 4 * q + r) / 4 = 25 * c + q := by omega
  have hhundred : (100 * c + 4 * q + r) / 100 = c := by omega
  rw [hquarter, hhundred]
  -- a 366th day only closes a cycle, and a century only in the fourth
  have hleap' : doy = 365 → r = 3 ∧ (q ≠ 24 ∨ c = 3) := fun h => by
    have := hleap h
    omega
  generalize hdoe : (100 * c + 4 * q + r) * 365 + (25 * c + q) - c + doy = doe
  have hdoe' : doe = 36524 * c + 1461 * q + 365 * r + doy := by omega
  refine ⟨by omega, by omega, ?_⟩
  by_cases hlast : c = 3 ∧ q = 24 ∧ r = 3 ∧ doy = 365
  · obtain ⟨rfl, rfl, rfl, rfl⟩ := hlast
    subst hdoe'
    decide
  have hera : doe / 146096 = 0 := by omega
  have hcentury : doe / 36524 = c := by omega
  -- the days past whole cycles spill into one more cycle only late in a cycle's fourth year
  have hcycles : doe / 1460 = 25 * c + q + if 1460 ≤ 24 * c + q + 365 * r + doy then 1 else 0 := by
    split_ifs <;> omega
  rw [hera, hcentury, hcycles]
  clear hleap hquarter hhundred hdoe
  split_ifs <;> omega

/-- A month and day, counted as a day of the year from March, read back as that month: the day
of the year is at most the 366th, and only a leap February reaches it. -/
theorem monthDay_inverse {y : Int} {m d : Nat} (hm1 : 1 ≤ m) (hm12 : m ≤ 12) (hd1 : 1 ≤ d)
    (hd : d ≤ daysInMonth y m) :
    0 ≤ (153 * (if m > 2 then (m : Int) - 3 else (m : Int) + 9) + 2) / 5 + (d : Int) - 1 ∧
      (153 * (if m > 2 then (m : Int) - 3 else (m : Int) + 9) + 2) / 5 + (d : Int) - 1 ≤ 365 ∧
      (5 * ((153 * (if m > 2 then (m : Int) - 3 else (m : Int) + 9) + 2) / 5 + (d : Int) - 1) + 2)
        / 153 = (if m > 2 then (m : Int) - 3 else (m : Int) + 9) ∧
      ((153 * (if m > 2 then (m : Int) - 3 else (m : Int) + 9) + 2) / 5 + (d : Int) - 1 = 365 →
        m = 2 ∧ isLeap y = true) := by
  interval_cases m
  case «2» =>
    -- February: its 29th day is the 366th of the year counted from March, in a leap year only
    have hfeb : (if (2 : Nat) > 2 then ((2 : Nat) : Int) - 3 else ((2 : Nat) : Int) + 9) = 11 := by
      decide
    rw [hfeb]
    by_cases hl : isLeap y = true
    · simp only [daysInMonth, hl, if_true] at hd
      exact ⟨by omega, by omega, by omega, fun _ => ⟨rfl, hl⟩⟩
    · simp only [daysInMonth, hl, Bool.false_eq_true, if_false] at hd
      exact ⟨by omega, by omega, by omega, fun h => absurd h (by omega)⟩
  all_goals simp only [daysInMonth] at hd
  all_goals norm_num
  all_goals omega

/-- Reading back the day count of a real date gives the date. -/
theorem civilFromDays_daysFromCivil {y : Int} {m d : Nat} (h : isValidDate y m d = true) :
    civilFromDays (daysFromCivil y m d) = (y, m, d) := by
  simp only [isValidDate, decide_eq_true_eq] at h
  obtain ⟨hm1, hm12, hd1, hd⟩ := h
  obtain ⟨hdoy0, hdoy1, hmp, hfeb⟩ := monthDay_inverse hm1 hm12 hd1 hd
  -- the year counted from March, its month and its day
  generalize hY : (if m ≤ 2 then y - 1 else y) = Y
  -- January and February close the year counted from March
  have hyear : (if (m : Int) ≤ 2 then Y % 400 + Y / 400 * 400 + 1
      else Y % 400 + Y / 400 * 400) = y := by
    subst hY
    split_ifs <;> omega
  generalize hmpdef : (if m > 2 then (m : Int) - 3 else (m : Int) + 9) = mp at hdoy0 hdoy1 hmp hfeb
  generalize hdoydef : (153 * mp + 2) / 5 + (d : Int) - 1 = doy at hdoy0 hdoy1 hmp hfeb
  rw [daysFromCivil_of_era (e := Y / 400) (n := Y % 400) (p := mp) (by omega) ⟨by omega, by omega⟩
    hmpdef, hdoydef]
  -- only a leap February reaches the 366th day, and then the year after `Y` is leap
  have hleap : doy = 365 →
      (Y % 400 + 1) % 4 = 0 ∧ ((Y % 400 + 1) % 100 ≠ 0 ∨ (Y % 400 + 1) % 400 = 0) := by
    intro h365
    obtain ⟨rfl, hl⟩ := hfeb h365
    simp only [isLeap, decide_eq_true_eq] at hl
    simp only [show (2 : Nat) ≤ 2 from Nat.le_refl 2, if_true] at hY
    omega
  obtain ⟨hdoe0, hdoe1, hyoe⟩ :=
    @yearOfEra_inverse (Y % 400) doy (by omega) (by omega) hdoy0 hdoy1 hleap
  generalize hdoe : Y % 400 * 365 + Y % 400 / 4 - Y % 400 / 100 + doy = doe at hdoe0 hdoe1 hyoe
  unfold civilFromDays
  dsimp only
  have hera : (Y / 400 * 146097 + doe) / 146097 = Y / 400 := by
    rw [Int.add_comm, Int.add_mul_ediv_right _ _ (by decide), Int.ediv_eq_zero_of_lt hdoe0 (by omega),
      Int.zero_add]
  rw [Int.sub_add_cancel, hera, add_sub_cancel_left, hyoe]
  have hdoy' : doe - (365 * (Y % 400) + Y % 400 / 4 - Y % 400 / 100) = doy := by omega
  rw [hdoy', hmp]
  have hday : doy - (153 * mp + 2) / 5 + 1 = d := by omega
  have hmonth : (if mp < 10 then mp + 3 else mp - 9) = (m : Int) := by
    subst hmpdef
    split_ifs <;> omega
  rw [hday, hmonth, Int.toNat_natCast, Int.toNat_natCast, hyear]

end Calendar

namespace DateTime

theorem toUnixNanos_of_ofUnixNanos? {n : Int} {t : DateTime} (h : ofUnixNanos? n = some t) :
    t.toUnixNanos = n := by
  have hdays := Calendar.daysFromCivil_civilFromDays (n / 1000000000 / 86400)
  unfold ofUnixNanos? ofUnixSeconds? at h
  dsimp only at h
  generalize Calendar.civilFromDays (n / 1000000000 / 86400) = ymd at h hdays
  obtain ⟨y, m, d⟩ := ymd
  dsimp only at h hdays
  split_ifs at h
  cases h
  unfold toUnixNanos toUnixSeconds
  dsimp only
  rw [hdays]
  omega

theorem ofUnixNanos?_isValid {n : Int} {t : DateTime} (h : ofUnixNanos? n = some t) :
    t.isValid = true :=
  ofUnixSeconds?_isValid (by omega) h

/-- Every count of nanoseconds from the first instant of year -9999 to the last of year 9999
names a date-time. -/
theorem ofUnixNanos?_isSome {n : Int} (hlo : -4371587 * 86400 * 1000000000 ≤ n)
    (hhi : n < 2932897 * 86400 * 1000000000) : (ofUnixNanos? n).isSome := by
  unfold ofUnixNanos?
  rw [ofUnixSeconds?_isSome_iff]
  exact Calendar.civilFromDays_year_range (by omega) (by omega)

theorem toUnixNanos_bounds {t : DateTime} (hv : t.isValid) :
    -4371587 * 86400 * 1000000000 ≤ t.toUnixNanos ∧ t.toUnixNanos < 2932897 * 86400 * 1000000000 := by
  obtain ⟨hy0, hy1, hdate, hh, hmin, hs, hns⟩ := isValid_iff.mp hv
  simp only [Calendar.isValidDate, decide_eq_true_eq] at hdate
  obtain ⟨hm0, hm1, hd0, hd1⟩ := hdate
  have hd31 := Calendar.daysInMonth_le t.year t.month
  have hlo := Calendar.daysFromCivil_lower hy0 hm0 hd0
  have hhi := Calendar.daysFromCivil_upper (d := t.day) hy1 hm1 (by omega)
  unfold toUnixNanos toUnixSeconds
  omega

/-- Truncating toward zero to a whole thousand moves a number toward zero, by less than a
thousand. -/
theorem tdiv_thousand_bounds (n : Int) :
    (0 ≤ n → 0 ≤ n.tdiv 1000 * 1000 ∧ n.tdiv 1000 * 1000 ≤ n) ∧
      (n < 0 → n ≤ n.tdiv 1000 * 1000 ∧ n.tdiv 1000 * 1000 ≤ 0) := by
  constructor
  · intro h
    rw [Int.tdiv_eq_ediv_of_nonneg h]
    omega
  · intro h
    have hneg : n.tdiv 1000 = -((-n) / 1000) := by
      rw [← Int.tdiv_eq_ediv_of_nonneg (by omega), Int.neg_tdiv, Int.neg_neg]
    rw [hneg]
    omega

/-- The microseconds since the epoch of a valid date-time, truncated toward it, name a valid
date-time again, whose nanoseconds since the epoch are those microseconds. -/
theorem ofUnixNanos?_micros {t : DateTime} (hv : t.isValid) :
    ∃ t', ofUnixNanos? (t.toUnixNanos.tdiv 1000 * 1000) = some t' ∧ t'.isValid ∧
      t'.toUnixNanos = t.toUnixNanos.tdiv 1000 * 1000 := by
  obtain ⟨hlo, hhi⟩ := toUnixNanos_bounds hv
  obtain ⟨hpos, hneg⟩ := tdiv_thousand_bounds t.toUnixNanos
  -- the truncated count lies between zero and the count, so in the range as well
  have hsome : (ofUnixNanos? (t.toUnixNanos.tdiv 1000 * 1000)).isSome := by
    by_cases h0 : 0 ≤ t.toUnixNanos
    · obtain ⟨h1, h2⟩ := hpos h0
      exact ofUnixNanos?_isSome (by omega) (by omega)
    · obtain ⟨h1, h2⟩ := hneg (by omega)
      exact ofUnixNanos?_isSome (by omega) (by omega)
  obtain ⟨t', ht'⟩ := Option.isSome_iff_exists.1 hsome
  exact ⟨t', ht', ofUnixNanos?_isValid ht', toUnixNanos_of_ofUnixNanos? ht'⟩

/-- A valid date-time is read back from its count of nanoseconds. -/
theorem ofUnixNanos?_toUnixNanos {t : DateTime} (hv : t.isValid) :
    ofUnixNanos? t.toUnixNanos = some t := by
  obtain ⟨hy0, hy1, hdate, hh, hmin, hs, hns⟩ := isValid_iff.mp hv
  -- the count is whole days, a time of day below a day and a nanosecond below a second
  have hsecs : t.toUnixNanos / 1000000000 =
      Calendar.daysFromCivil t.year t.month t.day * 86400 +
        ((t.hour * 3600 + t.minute * 60 + t.second : Nat) : Int) := by
    unfold toUnixNanos toUnixSeconds
    omega
  have hnanos : (t.toUnixNanos % 1000000000).toNat = t.nanosecond := by
    unfold toUnixNanos
    omega
  have hdays : (Calendar.daysFromCivil t.year t.month t.day * 86400 +
      ((t.hour * 3600 + t.minute * 60 + t.second : Nat) : Int)) / 86400 =
        Calendar.daysFromCivil t.year t.month t.day := by
    omega
  have hclock : ((Calendar.daysFromCivil t.year t.month t.day * 86400 +
      ((t.hour * 3600 + t.minute * 60 + t.second : Nat) : Int)) % 86400).toNat =
        t.hour * 3600 + t.minute * 60 + t.second := by
    omega
  unfold ofUnixNanos? ofUnixSeconds?
  rw [hsecs, hnanos, hdays, hclock]
  dsimp only
  rw [Calendar.civilFromDays_daysFromCivil hdate]
  dsimp only
  rw [if_pos ⟨hy0, hy1⟩]
  congr 2
  all_goals omega

/-- Two valid date-times with the same count of nanoseconds are the same. -/
theorem toUnixNanos_injective {t t' : DateTime} (hv : t.isValid) (hv' : t'.isValid)
    (h : t.toUnixNanos = t'.toUnixNanos) : t = t' := by
  have hback := ofUnixNanos?_toUnixNanos hv
  rw [h, ofUnixNanos?_toUnixNanos hv'] at hback
  exact (Option.some.inj hback).symm

end DateTime

end Strainer
