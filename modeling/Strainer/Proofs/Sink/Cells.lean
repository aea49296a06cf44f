import Strainer.Proofs.Time.Instants
import Strainer.Proofs.Value.Conversion
import Strainer.Proofs.Guid
import Strainer.Sink.Columnar

/-!
# The cells of a columnar file

A column stores each value as one cell: the value converted to the kind the column stores, a
decimal rounded to the column's scale, a date-time as whole microseconds. Reading the cell back
with the column's stored type gives what `Decodes` describes: null for what did not convert or
does not fit, and otherwise the converted value, up to that rounding and truncation.
-/

namespace Strainer

open Parquet Sink

namespace Value

/-- A conversion that succeeds gives null or a value of the kind asked for. -/
theorem convert_ok_kind {v w : Value} {t : Kind} (h : v.convert t = .ok w) :
    w = .null ∨ w.kind = some t := by
  cases hk : v.kind with
  | none =>
    rw [Value.eq_null_of_kind_eq_none hk, convert_null] at h
    exact .inl (Except.ok.inj h).symm
  | some k =>
    by_cases hc : k.canConvertTo t = true
    · have hmeets := Value.convert_convertsTo hk hc
      rw [h] at hmeets
      exact .inr hmeets
    · rw [convert_of_not_canConvertTo hk (by simpa using hc)] at h
      cases h

end Value

namespace Rows.Column

/-- The kind a column's values are stored as: the column's own, except that characters and
character lists are stored as strings. -/
def storedKind (c : Column) : Kind :=
  match c.kind with
  | .char | .chars => .string
  | k => k

theorem kind?_storedType (c : Column) : (storedType c).kind? = some c.storedKind := by
  unfold storedType storedKind
  cases c.kind <;> rfl

/-- The cell a column stores for a value: null when the value does not fit. -/
def cell (c : Column) (v : Value) : Cell :=
  (cellFor (storedType c) v).getD .null

theorem cell_of_error {c : Column} {v : Value} {e : ConvertError}
    (he : v.convert c.storedKind = .error e) : c.cell v = .null := by
  unfold cell cellFor
  rw [kind?_storedType]
  simp only [he]
  rfl

/-- The cell depends on the value only through its conversion to the stored kind. -/
theorem cell_convert {c : Column} {v w : Value} (hw : v.convert c.storedKind = .ok w) :
    c.cell v = c.cell w := by
  have hw' : w.convert c.storedKind = .ok w := by
    rcases Value.convert_ok_kind hw with rfl | hk
    · rfl
    · exact Value.convert_of_kind_eq hk
  unfold cell cellFor
  rw [kind?_storedType]
  simp only [hw, hw']

theorem storedKind_eq {c : Column} {k : Kind} (h : c.storedKind = k) (hk : k ≠ .string) :
    c.kind = k := by
  unfold storedKind at h
  cases hc : c.kind with
  | char | chars =>
    rw [hc] at h
    exact absurd h.symm hk
  | _ =>
    rw [hc] at h
    exact h

/-- No column stores characters or character lists as such. -/
theorem storedKind_ne (c : Column) : c.storedKind ≠ .char ∧ c.storedKind ≠ .chars := by
  unfold storedKind
  cases c.kind <;> decide

theorem read_cell_self {c : Column} {w : Value} (hk : w.kind = some c.storedKind)
    (hd : ∀ d, w ≠ .decimal d) (ht : ∀ t, w ≠ .dateTime t) :
    (c.cell w).read (storedType c) = .ok w := by
  have hw : w.convert c.storedKind = .ok w := Value.convert_of_kind_eq hk
  unfold cell cellFor
  simp only [kind?_storedType, hw]
  -- the value's kind fixes the column's kind, and so the type its cell is read with
  have hkind : ∀ {k : Kind}, w.kind = some k → k ≠ .string → c.kind = k :=
    fun h hs => storedKind_eq (Option.some.inj (hk.symm.trans h)) hs
  cases w with
  | null => cases hk
  | decimal d => exact absurd rfl (hd d)
  | dateTime t => exact absurd rfl (ht t)
  | bool b => rfl
  | uint8 n => simp [storedType, hkind rfl (by decide), Cell.read, UInt8.ofNat_toNat]
  | int16 n => simp [storedType, hkind rfl (by decide), Cell.read]
  | int32 n => simp [storedType, hkind rfl (by decide), Cell.read]
  | int64 n => simp [storedType, hkind rfl (by decide), Cell.read]
  | float32 x => rfl
  | float64 x => rfl
  | string s => rfl
  | bytes bs => simp [storedType, hkind rfl (by decide), Cell.read]
  | guid g =>
    -- each byte is below 256, so storing it as a `UInt8` keeps it
    have hbytes : g.bytes.map ((fun x : UInt8 => x.toNat) ∘ UInt8.ofNat) = g.bytes :=
      (List.map_congr_left fun b hb => UInt8.toNat_ofNat_of_lt' (Guid.bytes_lt g b hb)).trans
        (List.map_id _)
    simp [storedType, hkind rfl (by decide), Cell.read, hbytes, Guid.ofBytes_bytes]
  | char ch => exact absurd (Option.some.inj hk) (storedKind_ne c).1.symm
  | chars cs => exact absurd (Option.some.inj hk) (storedKind_ne c).2.symm

theorem withScaleRound_scale (d : Decimal) (s : Int) : (d.withScaleRound s).scale = s := by
  unfold Decimal.withScaleRound
  split_ifs <;> rfl

/-- A decimal is stored rounded, half to even, to the column's scale, and read back so; with
more digits than the precision it is stored as null. -/
theorem read_cell_decimal {c : Column} {p : Nat} {s : Int} (ht : storedType c = .decimal128 p s)
    (hp : p ≤ 38) (d : Decimal) :
    (c.cell (.decimal d)).read (storedType c) =
      .ok (if (d.withScaleRound s).unscaled.natAbs < 10 ^ p then .decimal (d.withScaleRound s)
        else .null) := by
  have hk : c.storedKind = .decimal := by
    have := kind?_storedType c
    rw [ht] at this
    exact (Option.some.inj this).symm
  have hd : (Value.decimal d).convert .decimal = .ok (.decimal d) := Value.convert_of_kind_eq rfl
  unfold cell cellFor
  rw [kind?_storedType, hk]
  simp only [hd, ht, Nat.pow_eq]
  by_cases hfit : (d.withScaleRound s).unscaled.natAbs < 10 ^ p
  · rw [if_pos ⟨hp, hfit⟩, if_pos hfit]
    simp only [Option.getD_some, Cell.read]
    have hs := withScaleRound_scale d s
    generalize d.withScaleRound s = e at hs ⊢
    subst hs
    rfl
  · rw [if_neg (fun h => hfit h.2), if_neg hfit]
    rfl

/-- A valid date-time is stored as its whole microseconds since the epoch, truncated toward it,
and read back as the valid date-time of those microseconds. -/
theorem read_cell_dateTime {c : Column} (hk : c.kind = .dateTime) {t : DateTime} (hv : t.isValid) :
    ∃ t', (c.cell (.dateTime t)).read (storedType c) = .ok (.dateTime t') ∧ t'.isValid ∧
      t'.toUnixNanos = t.toUnixNanos.tdiv 1000 * 1000 := by
  obtain ⟨t', ht', hv', hn'⟩ := DateTime.ofUnixNanos?_micros hv
  have hst : storedType c = .timestamp .microsecond none := by unfold storedType; rw [hk]
  have hd : (Value.dateTime t).convert .dateTime = .ok (.dateTime t) := Value.convert_of_kind_eq rfl
  -- the cell is the whole microseconds, and reading them multiplies back by a thousand
  have hcell : c.cell (.dateTime t) = .int (t.toUnixNanos.tdiv 1000) := by
    unfold cell cellFor
    rw [hst]
    simp only [ArrowType.kind?, hd, Option.getD_some]
  refine ⟨t', ?_, hv', hn'⟩
  rw [hcell, hst]
  have hi : instant .microsecond (t.toUnixNanos.tdiv 1000) = .ok t' := by
    unfold instant
    rw [show ((TimeUnit.microsecond.nanos : Nat) : Int) = 1000 from rfl, ht']
  show (instant .microsecond _).map Value.dateTime = _
  rw [hi]
  rfl

theorem cell_null (c : Column) : c.cell .null = .null := by
  unfold cell cellFor
  rw [kind?_storedType]
  simp only [Value.convert_null]
  rfl

/-- A column a writer can store: when it holds decimals and its type text names a precision and
a scale, the precision is from 1 to 38 and the scale from 0 up to the precision. -/
def Writable (c : Column) : Prop :=
  c.kind = .decimal → ∀ p s, ArrowType.decimalOfName? c.typeName = some (p, s) →
    1 ≤ p ∧ p ≤ 38 ∧ 0 ≤ s ∧ s ≤ (p : Int)

/-- A writable column is stored with a precision from 1 to 38 and a scale up to it; a column
whose text names no precision takes 38 and 10. -/
theorem Writable.decimal {c : Column} (hc : c.Writable) {p : Nat} {s : Int}
    (ht : storedType c = .decimal128 p s) : 1 ≤ p ∧ p ≤ 38 ∧ 0 ≤ s ∧ s ≤ (p : Int) := by
  unfold storedType at ht
  cases hk : c.kind with
  | decimal =>
    rw [hk] at ht
    cases hn : ArrowType.decimalOfName? c.typeName with
    | none =>
      rw [hn] at ht
      cases ht
      decide
    | some ps =>
      rw [hn] at ht
      cases ht
      exact hc hk _ _ hn
  | _ =>
    rw [hk] at ht
    cases ht

theorem Writable.writerCheck {c : Column} (hc : c.Writable) : writerCheck (storedType c) = none := by
  cases ht : storedType c with
  | decimal128 p s =>
    obtain ⟨h1, -, h0, hp⟩ := hc.decimal ht
    simp only [Sink.writerCheck]
    rw [if_neg (by omega), if_neg (by omega), if_neg (by omega)]
  | _ => rfl

/-- What reading back the cell a column stores for a value gives. The value is first converted
to the kind the column stores; a null, or a value that does not convert, reads back as null. A
decimal reads back rounded, half to even, to the column's scale, or as null when it then has more
digits than the precision; a valid date-time reads back truncated to whole microseconds; any
other value reads back as itself. -/
structure Decodes (c : Column) (v : Value) (r : Except CellError Value) : Prop where
  null : v = .null → r = .ok .null
  unconverted : ∀ e, v.convert c.storedKind = .error e → r = .ok .null
  decimal : ∀ p s d, storedType c = .decimal128 p s → v.convert c.storedKind = .ok (.decimal d) →
    r = .ok (if (d.withScaleRound s).unscaled.natAbs < 10 ^ p then .decimal (d.withScaleRound s)
      else .null)
  dateTime : ∀ t, v.convert c.storedKind = .ok (.dateTime t) → t.isValid →
    ∃ t', r = .ok (.dateTime t') ∧ t'.isValid ∧ t'.toUnixNanos = t.toUnixNanos.tdiv 1000 * 1000
  converted : ∀ w, v.convert c.storedKind = .ok w → (∀ d, w ≠ .decimal d) →
    (∀ t, w ≠ .dateTime t) → r = .ok w

/-- Every cell a writable column stores reads back as `Decodes` describes. -/
theorem decodes_cell {c : Column} (hc : c.Writable) (v : Value) :
    c.Decodes v ((c.cell v).read (storedType c)) where
  null hv := by
    rw [hv, cell_null]
    rfl
  unconverted e he := by
    rw [cell_of_error he]
    rfl
  decimal p s d ht hd := by
    rw [cell_convert hd]
    exact read_cell_decimal ht (hc.decimal ht).2.1 d
  dateTime t ht hv := by
    rw [cell_convert ht]
    -- a date-time converts only to the date-time kind, so the column holds date-times
    have hk : c.kind = .dateTime := by
      rcases Value.convert_ok_kind ht with h | h
      · cases h
      · exact storedKind_eq (Option.some.inj h).symm (by decide)
    exact read_cell_dateTime hk hv
  converted w hw hd ht := by
    rw [cell_convert hw]
    rcases Value.convert_ok_kind hw with rfl | hk
    · rw [cell_null]
      rfl
    · exact read_cell_self hk hd ht

end Rows.Column

end Strainer
