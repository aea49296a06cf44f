import Strainer.Value.Json
import Strainer.Float.Text
import Strainer.Decimal.Text

/-!
# Tagged JSON of values

A lossless JSON form of a value: `null`, or an object `{"kind": K, "v": V}` with the kind's name
and a payload that keeps every value apart. Integers up to 32 bits are JSON numbers and 64-bit
ones decimal text; a float is the hex text of its bit pattern (`0x3fb999999999999a`), any NaN
being `NaN`; decimals, date-times (ISO 8601) and identifiers are their text; a character or a
character sequence is a string; bytes are an array of numbers.

Reading accepts the same forms, and also a JSON integer for `int64` and decimal text (or `inf`,
`-inf`, `NaN`) for a float, rounded to the nearest value of its format.
-/

namespace Strainer

namespace BinaryFloat

variable {f : BinaryFormat}

private def hexDigit (n : Nat) : Char :=
  if n < 10 then Char.ofNat ('0'.toNat + n) else Char.ofNat ('a'.toNat + n - 10)

/-- `0x` and the bit pattern in lower-case hex, one digit per four bits. -/
def hexText (x : BinaryFloat f) : String :=
  let width := f.width / 4
  String.ofList ('0' :: 'x' :: (List.range width).map fun i => hexDigit (x.bits / Nat.pow 16 (width - 1 - i) % 16))

private def hexValue? (c : Char) : Option Nat :=
  if '0' ≤ c ∧ c ≤ '9' then some (c.toNat - '0'.toNat)
  else if 'a' ≤ c ∧ c ≤ 'f' then some (c.toNat - 'a'.toNat + 10)
  else if 'A' ≤ c ∧ c ≤ 'F' then some (c.toNat - 'A'.toNat + 10)
  else none

/-- Reads `hexText`, or decimal float text. -/
def ofText? (s : String) : Option (BinaryFloat f) :=
  match s.toList with
  | '0' :: 'x' :: ds =>
    if ds.isEmpty then none
    else (ds.foldl (fun acc c => acc.bind fun n => (hexValue? c).map (16 * n + ·)) (some 0)).map ofBits
  | _ => FloatText.parse? s

end BinaryFloat

namespace Value

/-- The payload of a non-null value. -/
def payload : Value → Json
  | .null => .null
  | .bool b => .bool b
  | .uint8 n => .number (.ofInt n.toNat)
  | .int16 n => .number (.ofInt n.toInt)
  | .int32 n => .number (.ofInt n.toInt)
  | .int64 n => .string (Exact.intText n.toInt)
  | .float32 x => .string (if x.isNaN then "NaN" else x.hexText)
  | .float64 x => .string (if x.isNaN then "NaN" else x.hexText)
  | .decimal d => .string (Decimal.render d)
  | .dateTime t => .string t.isoText
  | .guid g => .string g.render
  | .char c => .string (String.singleton c)
  | .string s => .string s
  | .bytes bs => .array (bs.map fun b => .number (.nat b.toNat))
  | .chars cs => .string (String.ofList cs)

/-- The tagged JSON of a value. -/
def tagged (v : Value) : Json :=
  match v.kind with
  | none => .null
  | some k => .object [("kind", .string k.name), ("v", v.payload)]

private def int? : Json → Option Int
  | .number (.nat n) => some n
  | .number (.negInt i) => some i
  | .string s => match IntReading.read true (-Int.pow 2 63) (Int.pow 2 63 - 1) s.toList with
    | .ok i => some i
    | _ => none
  | _ => none

/-- The value with kind `k` and payload `j`. -/
def ofPayload? (k : Kind) (j : Json) : Option Value :=
  match k, j with
  | .bool, .bool b => some (.bool b)
  | .uint8, _ => (int? j).bind fun i => if 0 ≤ i ∧ i < 256 then some (.uint8 (UInt8.ofNat i.toNat)) else none
  | .int16, _ => (int? j).map fun i => .int16 (Int16.ofInt i)
  | .int32, _ => (int? j).map fun i => .int32 (Int32.ofInt i)
  | .int64, _ => (int? j).map fun i => .int64 (Int64.ofInt i)
  | .float32, .string s => (BinaryFloat.ofText? s).map .float32
  | .float64, .string s => (BinaryFloat.ofText? s).map .float64
  | .decimal, .string s => (Decimal.parse? s).map .decimal
  | .dateTime, .string s => (DateTime.ofIsoText? s).map .dateTime
  | .guid, .string s => (Guid.parse? s).map .guid
  | .char, .string s => match s.toList with
    | [c] => some (.char c)
    | _ => none
  | .string, .string s => some (.string s)
  | .chars, .string s => some (.chars s.toList)
  | .bytes, .array items =>
    items.foldr (fun item acc => acc.bind fun bs => match item with
      | .number (.nat n) => if n < 256 then some (UInt8.ofNat n :: bs) else none
      | _ => none) (some []) |>.map .bytes
  | _, _ => none

/-- Reads tagged JSON. -/
def ofTagged? (j : Json) : Option Value :=
  match j with
  | .null => some .null
  | _ => match j.get? "kind", j.get? "v" with
    | some (.string name), some p => (Kind.ofName? name).bind (ofPayload? · p)
    | _, _ => none

end Value

end Strainer
