import Strainer.Value.Convert
import Strainer.Json.Basic

/-!
# Values as JSON

Writing: booleans and integers as themselves, floats as 64-bit JSON numbers (non-finite ones as
`null`), bytes as an array of numbers, null as `null`, everything else as its plain text.

Reading: integers that fit 64 signed bits become `int64`, other numbers `float64`, strings stay
strings, and arrays and objects become their compact JSON text.
-/

namespace Strainer.Value

/-- The JSON form of a value. -/
def toJson : Value → Json
  | .null => .null
  | .bool b => .bool b
  | .uint8 n => .number (.ofInt n.toNat)
  | .int16 n => .number (.ofInt n.toInt)
  | .int32 n => .number (.ofInt n.toInt)
  | .int64 n => .number (.ofInt n.toInt)
  | .float32 x => Json.ofFloat x.convert
  | .float64 x => Json.ofFloat x
  | .bytes bs => .array (bs.map fun b => .number (.nat b.toNat))
  | v => match v.render? with
    | some s => .string s
    | none => .null

/-- The value closest to a JSON value. -/
def ofJson : Json → Value
  | .null => .null
  | .bool b => .bool b
  | .number n => match n.toInt64? with
    | some i => .int64 (Int64.ofInt i)
    | none => .float64 n.toFloat
  | .string s => .string s
  | j => .string j.render

end Strainer.Value
