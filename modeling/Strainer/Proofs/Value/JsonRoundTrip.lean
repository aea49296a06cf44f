import Strainer.Proofs.Value.Conversion
import Strainer.Proofs.Float.Widening
import Strainer.Value.Json

/-!
# Values through JSON

Writing a value as JSON and reading the JSON back converts the value to a wider kind
(`Value.ofJson_toJson`): booleans stay booleans, every integer comes back as a 64-bit integer,
both floats as a 64-bit float, and everything else as its text, exactly as `Value.convert` to
that kind gives it (`Kind.json`). Three values leave that pattern: null and a float that is not
finite are written as `null` and read back as null, and bytes, written as an array of numbers,
come back as the text of that array.

The reading keeps the number a JSON value was built from: an integer of 64 bits is read as an
integer, and a float as a float, even one with an integral value.
-/

namespace Strainer

/-- The kind a value of kind `k` comes back as from its JSON. -/
def Kind.json : Kind → Kind
  | .bool => .bool
  | .uint8 | .int16 | .int32 | .int64 => .int64
  | .float32 | .float64 => .float64
  | _ => .string

/-- The values JSON writes as `null`: null, and the floats that are not finite. -/
def Value.isJsonNull : Value → Bool
  | .null => true
  | .float32 x => !x.isFinite
  | .float64 x => !x.isFinite
  | _ => false

/-- The JSON text of a list of bytes: their numbers in brackets, separated by commas. -/
def bytesJsonText (bs : List UInt8) : String :=
  "[" ++ ",".intercalate (bs.map fun b => Exact.intText b.toNat) ++ "]"

namespace JsonNumber

/-- A 64-bit integer written as a JSON number reads back as itself. -/
theorem toInt64?_ofInt {i : Int} (hlo : -9223372036854775808 ≤ i)
    (hhi : i < 9223372036854775808) : (ofInt i).toInt64? = some i := by
  unfold ofInt
  split
  · have hlt : i.toNat < Nat.pow 2 63 := by
      rw [Nat.pow_eq]
      omega
    simp only [toInt64?, if_pos hlt, Int.toNat_of_nonneg ‹0 ≤ i›]
  · rfl

end JsonNumber

namespace Json

theorem renderItems_bytes (bs : List UInt8) :
    renderItems (bs.map fun b => .number (.nat b.toNat)) =
      ",".intercalate (bs.map fun b => Exact.intText b.toNat) := by
  induction bs with
  | nil => simp [renderItems]
  | cons b rest ih =>
    cases rest with
    | nil => simp [renderItems, render, JsonNumber.render]
    | cons c rest =>
      rw [List.map_cons] at ih
      rw [List.map_cons, List.map_cons, renderItems.eq_3 _ _ (List.cons_ne_nil _ _), ih]
      simp only [List.map_cons, String.intercalate_cons_cons]
      rfl

end Json

namespace Value

theorem ofJson_number_ofInt {i : Int} (hlo : -9223372036854775808 ≤ i)
    (hhi : i < 9223372036854775808) :
    ofJson (.number (.ofInt i)) = .int64 (Int64.ofInt i) := by
  simp only [ofJson, JsonNumber.toInt64?_ofInt hlo hhi]

/-- An integer of 64 bits converts to a 64-bit integer holding it. -/
theorem convertTo_int64 {i : Int} (hlo : -9223372036854775808 ≤ i)
    (hhi : i < 9223372036854775808) :
    (Number.int i).convertTo .int64 = .ok (.int64 (Int64.ofInt i)) := by
  unfold Number.convertTo
  simp only [Number.narrow, if_pos (show -9223372036854775808 ≤ i ∧ i ≤ 9223372036854775807 by omega)]

/-- An integer of a narrower kind is written as its number and read back as a 64-bit integer,
which is its conversion to `int64`. -/
theorem convert_int64_ofJson {v : Value} {k : Kind} {i : Int} (hk : v.kind = some k)
    (hkt : k ≠ .int64) (hc : k.canConvertTo .int64 = true) (hn : Number.ofValue? v = some (.int i))
    (hj : v.toJson = .number (.ofInt i)) (hlo : -9223372036854775808 ≤ i)
    (hhi : i < 9223372036854775808) : v.convert .int64 = .ok (ofJson v.toJson) := by
  rw [convert_of_number hk hkt hc (by decide) hn, convertTo_int64 hlo hhi, hj,
    ofJson_number_ofInt hlo hhi]

/-- A value written as its text is read back as that text, its conversion to a string. -/
theorem convert_string_ofJson {v : Value} {k : Kind} {s : String} (hk : v.kind = some k)
    (hks : k ≠ .string) (hs : v.render? = some s) (hj : v.toJson = .string s) :
    v.convert .string = .ok (ofJson v.toJson) := by
  rw [convert_of_render hk hks hs, hj]
  rfl

theorem ofJson_toJson_null (v : Value) (h : v.isJsonNull = true) : ofJson v.toJson = .null := by
  cases v with
  | null => rfl
  | float32 x =>
    have hx : (x.convert : Float64Bits).isFinite = false := by
      rw [BinaryFloat.isFinite_convert_single]
      simpa [isJsonNull] using h
    simp [toJson, Json.ofFloat, hx, ofJson]
  | float64 x =>
    have hx : x.isFinite = false := by simpa [isJsonNull] using h
    simp [toJson, Json.ofFloat, hx, ofJson]
  | _ => cases h

theorem ofJson_toJson_bytes (bs : List UInt8) :
    ofJson (Value.bytes bs).toJson = .string (bytesJsonText bs) := by
  simp only [toJson, ofJson, Json.render, Json.renderItems_bytes, bytesJsonText]

theorem convert_json_ofJson_toJson {v : Value} {k : Kind} (hk : v.kind = some k)
    (hkb : k ≠ .bytes) (hv : v.isJsonNull = false) : v.convert k.json = .ok (ofJson v.toJson) := by
  cases v with
  | null => cases hk
  | bool b =>
    cases hk
    rfl
  | uint8 n =>
    cases hk
    exact convert_int64_ofJson rfl (by decide) (by decide) rfl rfl (by omega)
      (by have := n.toNat_lt; omega)
  | int16 n =>
    cases hk
    have hlo := Int16.le_toInt n
    have hhi := Int16.toInt_lt n
    exact convert_int64_ofJson rfl (by decide) (by decide) rfl rfl (by omega) (by omega)
  | int32 n =>
    cases hk
    have hlo := Int32.le_toInt n
    have hhi := Int32.toInt_lt n
    exact convert_int64_ofJson rfl (by decide) (by decide) rfl rfl (by omega) (by omega)
  | int64 n =>
    cases hk
    have hlo := Int64.le_toInt n
    have hhi := Int64.toInt_lt n
    rw [convert_of_kind_eq rfl]
    show _ = Except.ok (ofJson (.number (.ofInt n.toInt)))
    rw [ofJson_number_ofInt (by omega) (by omega), Int64.ofInt_toInt]
  | float32 x =>
    cases hk
    have hx : (x.convert : Float64Bits).isFinite = true := by
      rw [BinaryFloat.isFinite_convert_single]
      simpa [isJsonNull] using hv
    rw [convert_of_number rfl (by decide) (by decide) (by decide) rfl]
    simp [Kind.json, toJson, Json.ofFloat, hx, ofJson, JsonNumber.toInt64?, JsonNumber.toFloat,
      Number.convertTo]
  | float64 x =>
    cases hk
    have hx : x.isFinite = true := by simpa [isJsonNull] using hv
    rw [convert_of_kind_eq rfl]
    simp [toJson, Json.ofFloat, hx, ofJson, JsonNumber.toInt64?, JsonNumber.toFloat]
  | decimal _ | dateTime _ | guid _ | char _ | chars _ =>
    -- written as their text, which is also their conversion to a string
    cases hk
    exact convert_string_ofJson rfl (by decide) rfl rfl
  | string s =>
    cases hk
    rfl
  | bytes bs =>
    cases hk
    exact absurd rfl hkb

/-- Reading back the JSON of a value converts the value to the kind `Kind.json` gives its kind.
A value written as `null` reads back as null, and bytes as the text of their array. -/
theorem ofJson_toJson_eq_convert (v : Value) :
    (v.isJsonNull = true → ofJson v.toJson = .null) ∧
    (∀ bs, v = .bytes bs → ofJson v.toJson = .string (bytesJsonText bs)) ∧
    (∀ k, v.kind = some k → k ≠ .bytes → v.isJsonNull = false →
      v.convert k.json = .ok (ofJson v.toJson)) := by
  refine ⟨ofJson_toJson_null v, ?_, fun k hk hkb hv => convert_json_ofJson_toJson hk hkb hv⟩
  rintro bs rfl
  exact ofJson_toJson_bytes bs

theorem ofJson_toJson_null_bytes_uint8 :
    ofJson Value.null.toJson = .null ∧
    ofJson (Value.bytes [1, 2]).toJson = .string "[1,2]" ∧
    (Value.uint8 7).convert .int64 = .ok (ofJson (Value.uint8 7).toJson) :=
  ⟨(ofJson_toJson_eq_convert .null).1 rfl,
    (ofJson_toJson_eq_convert (.bytes [1, 2])).2.1 [1, 2] rfl,
    (ofJson_toJson_eq_convert (.uint8 7)).2.2 .uint8 rfl (by decide) rfl⟩

end Value

end Strainer
