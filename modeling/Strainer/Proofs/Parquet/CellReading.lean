import Mathlib.Algebra.Order.Field.Rat
import Strainer.Proofs.Time.Instants
import Strainer.Parquet.File
import Strainer.Value.Convert

/-!
# Reading the cells of a columnar file

An integer, decimal or temporal column stores an integer in each cell, and `Cell.read` turns it
into a value of the column's kind. Every such reading is exact:

* an integer of a narrow or unsigned type widens to the next signed kind, or to a decimal, and
  keeps its value;
* a decimal column's cell is the unscaled value, read with the column's scale;
* a day, a count of milliseconds, or a count of a time stamp's units reads as the instant that
  many nanoseconds after the epoch (`NamesInstant`): the one valid date-time with that count when
  the year range holds one, and a cast error when it holds none.

The count of nanoseconds is computed on integers, without a bound; for a 64-bit count in any
unit it lies in the 128-bit range (`mul_nanos_mem_wide`), so no fixed-width product of the same
numbers wraps.
-/

namespace Strainer

/-- The rational number a decimal stands for. -/
def Decimal.toRat (d : Decimal) : ℚ := d.unscaled * 10 ^ (-d.scale)

namespace Parquet

/-- A reading of the instant `n` nanoseconds after the epoch: the valid date-time with that
count when there is one (there is at most one), and a cast error when there is none. -/
def NamesInstant (r : Except CellError Value) (n : Int) : Prop :=
  (∀ t : DateTime, t.isValid → t.toUnixNanos = n → r = .ok (.dateTime t)) ∧
    ((∀ t : DateTime, t.isValid → t.toUnixNanos ≠ n) → ∃ text, r = .error (.cast text))

/-- A reading that follows `DateTime.ofUnixNanos?` names the instant: what that reads back is
the only valid date-time of the count, and it reads nothing only when there is none. -/
theorem namesInstant_of_ofUnixNanos? {r : Except CellError Value} {n : Int}
    (hsome : ∀ t, DateTime.ofUnixNanos? n = some t → r = .ok (.dateTime t))
    (hnone : DateTime.ofUnixNanos? n = none → ∃ text, r = .error (.cast text)) :
    NamesInstant r n := by
  constructor
  · intro t hv ht
    apply hsome
    rw [← ht]
    exact DateTime.ofUnixNanos?_toUnixNanos hv
  · intro hno
    cases h : DateTime.ofUnixNanos? n with
    | none => exact hnone h
    | some t =>
      exact absurd (DateTime.toUnixNanos_of_ofUnixNanos? h) (hno t (DateTime.ofUnixNanos?_isValid h))

theorem instant_namesInstant (u : TimeUnit) (i : Int) :
    NamesInstant ((instant u i).map Value.dateTime) (i * u.nanos) := by
  apply namesInstant_of_ofUnixNanos?
  · intro t h
    unfold instant
    rw [h]
    rfl
  · intro h
    unfold instant
    rw [h]
    exact ⟨_, rfl⟩

/-- Midnight `i` days after the epoch, read from its count of nanoseconds, is the date
`civilFromDays` gives for `i`, when its year is in range. -/
theorem ofUnixNanos?_days {i y : Int} {m d : Nat} (h : Calendar.civilFromDays i = (y, m, d)) :
    DateTime.ofUnixNanos? (i * 86400000000000) =
      if DateTime.minYear ≤ y ∧ y ≤ DateTime.maxYear then some ⟨y, m, d, 0, 0, 0, 0⟩
      else none := by
  have hsecs : i * 86400000000000 / 1000000000 = i * 86400 := by omega
  have hnanos : (i * 86400000000000 % 1000000000).toNat = 0 := by omega
  have hdays : i * 86400 / 86400 = i := by omega
  have hclock : (i * 86400 % 86400).toNat = 0 := by omega
  unfold DateTime.ofUnixNanos? DateTime.ofUnixSeconds?
  rw [hsecs, hnanos, hdays, hclock]
  dsimp only
  rw [h]

theorem read_int_date32 {i y : Int} {m d : Nat} (h : Calendar.civilFromDays i = (y, m, d)) :
    (Cell.int i).read .date32 =
      if DateTime.minYear ≤ y ∧ y ≤ DateTime.maxYear then .ok (.dateTime ⟨y, m, d, 0, 0, 0, 0⟩)
      else .error (.cast ("Date32 value " ++ Exact.intText i ++ " is out of range")) := by
  unfold Cell.read
  dsimp only
  rw [h]

theorem read_date32 (i : Int) :
    NamesInstant ((Cell.int i).read .date32) (i * 86400000000000) := by
  obtain ⟨⟨y, m, d⟩, hdate⟩ : ∃ ymd, Calendar.civilFromDays i = ymd := ⟨_, rfl⟩
  apply namesInstant_of_ofUnixNanos?
  all_goals rw [ofUnixNanos?_days hdate, read_int_date32 hdate]
  · intro t h
    split_ifs at h ⊢
    cases h
    rfl
  · intro h
    split_ifs at h ⊢
    exact ⟨_, rfl⟩

theorem read_date64 (i : Int) : NamesInstant ((Cell.int i).read .date64) (i * 1000000) :=
  instant_namesInstant .millisecond i

theorem read_timestamp (u : TimeUnit) (z : Option String) (i : Int) :
    NamesInstant ((Cell.int i).read (.timestamp u z)) (i * u.nanos) :=
  instant_namesInstant u i

/-- A 64-bit count in any unit is, in nanoseconds, within the 128-bit range. -/
theorem mul_nanos_mem_wide (v : Int64) (u : TimeUnit) :
    Number.wideMin ≤ v.toInt * u.nanos ∧ v.toInt * u.nanos ≤ Number.wideMax := by
  have hlo := Int64.le_toInt v
  have hhi := Int64.toInt_lt v
  have hmin : Number.wideMin = -170141183460469231731687303715884105728 := by decide
  have hmax : Number.wideMax = 170141183460469231731687303715884105727 := by decide
  rw [hmin, hmax]
  cases u <;> simp only [TimeUnit.nanos] <;> norm_num at hlo hhi ⊢ <;> omega

/-! ## Integers and decimals -/

theorem read_int8 (w : Int8) :
    ∃ x : Int16, (Cell.int w.toInt).read .int8 = .ok (.int16 x) ∧ x.toInt = w.toInt := by
  have hlo := Int8.le_toInt w
  have hhi := Int8.toInt_lt w
  norm_num at hlo hhi
  exact ⟨Int16.ofInt w.toInt, rfl, Int16.toInt_ofInt_of_le (by omega) (by omega)⟩

theorem read_uint16 (w : UInt16) :
    ∃ x : Int32, (Cell.int w.toNat).read .uint16 = .ok (.int32 x) ∧ x.toInt = w.toNat := by
  have hhi := UInt16.toNat_lt w
  norm_num at hhi
  exact ⟨Int32.ofInt w.toNat, rfl, Int32.toInt_ofInt_of_le (by omega) (by omega)⟩

theorem read_uint32 (w : UInt32) :
    ∃ x : Int64, (Cell.int w.toNat).read .uint32 = .ok (.int64 x) ∧ x.toInt = w.toNat := by
  have hhi := UInt32.toNat_lt w
  norm_num at hhi
  exact ⟨Int64.ofInt w.toNat, rfl, Int64.toInt_ofInt_of_le (by omega) (by omega)⟩

theorem read_uint64 (w : UInt64) :
    ∃ d : Decimal, (Cell.int w.toNat).read .uint64 = .ok (.decimal d) ∧ d.toRat = w.toNat :=
  ⟨Decimal.ofInt w.toNat, rfl, by simp [Decimal.toRat, Decimal.ofInt]⟩

theorem read_decimal128 (p : Nat) (s u : Int) :
    ∃ d : Decimal, (Cell.int u).read (.decimal128 p s) = .ok (.decimal d) ∧
      d.toRat = u * 10 ^ (-s) :=
  ⟨⟨u, s⟩, rfl, rfl⟩

/-! ## Every reading of an integer cell is exact -/

/-- Reading the integer cells of a columnar file is exact. A day `i` (`Date32`) is midnight `i`
days after the epoch, a count `i` of milliseconds (`Date64`) or of a time stamp's units is the
instant that far after the epoch: each the one valid date-time of that many nanoseconds when the
year range has it, and a cast error when it does not. The count of nanoseconds of a 64-bit
integer fits in 128 bits. A decimal's unscaled value is read with the column's scale, and `Int8`,
`UInt16`, `UInt32` and `UInt64` widen to `int16`, `int32`, `int64` and `decimal` with the same
value. -/
theorem read_int_cell_exact :
    (∀ i : Int, NamesInstant ((Cell.int i).read .date32) (i * 86400000000000)) ∧
    (∀ i : Int, NamesInstant ((Cell.int i).read .date64) (i * 1000000)) ∧
    (∀ (u : TimeUnit) (z : Option String) (i : Int),
      NamesInstant ((Cell.int i).read (.timestamp u z)) (i * u.nanos)) ∧
    (∀ (v : Int64) (u : TimeUnit),
      Number.wideMin ≤ v.toInt * u.nanos ∧ v.toInt * u.nanos ≤ Number.wideMax) ∧
    (∀ (p : Nat) (s u : Int), ∃ d : Decimal,
      (Cell.int u).read (.decimal128 p s) = .ok (.decimal d) ∧ d.toRat = u * 10 ^ (-s)) ∧
    (∀ w : Int8, ∃ x : Int16,
      (Cell.int w.toInt).read .int8 = .ok (.int16 x) ∧ x.toInt = w.toInt) ∧
    (∀ w : UInt16, ∃ x : Int32,
      (Cell.int w.toNat).read .uint16 = .ok (.int32 x) ∧ x.toInt = w.toNat) ∧
    (∀ w : UInt32, ∃ x : Int64,
      (Cell.int w.toNat).read .uint32 = .ok (.int64 x) ∧ x.toInt = w.toNat) ∧
    (∀ w : UInt64, ∃ d : Decimal,
      (Cell.int w.toNat).read .uint64 = .ok (.decimal d) ∧ d.toRat = w.toNat) :=
  ⟨read_date32, read_date64, read_timestamp, mul_nanos_mem_wide, read_decimal128, read_int8,
    read_uint16, read_uint32, read_uint64⟩

/-- Day zero is the epoch, and the day after the last of year 9999 is out of range. -/
theorem read_int_cell_exact_epoch :
    (Cell.int 0).read .date32 = .ok (.dateTime DateTime.epoch) ∧
      ∃ text, (Cell.int 2932897).read .date32 = .error (.cast text) := by
  refine ⟨(read_int_cell_exact.1 0).1 DateTime.epoch (by decide) (by decide),
    (read_int_cell_exact.1 2932897).2 fun t hv ht => ?_⟩
  -- every valid date-time lies before the first instant of year 10000
  have := (DateTime.toUnixNanos_bounds hv).2
  omega

end Parquet

end Strainer
