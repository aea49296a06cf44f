/-!
# Value kinds

The fourteen kinds a field or literal can have. Value kinds get a zero default when a stored
value is null; the reference kinds (`string`, `bytes`, `chars`) stay absent. Which conversions
exist at all is decided here, from the kinds alone: from text to anything, to text from anything
but bytes, between any two numeric kinds (booleans count as numbers), and between a character
and the integer kinds.
-/

namespace Strainer

/-- The closed set of kinds. -/
inductive Kind where
  | bool
  | uint8
  | int16
  | int32
  | int64
  | float32
  | float64
  | decimal
  | dateTime
  | guid
  | char
  | string
  | bytes
  | chars
  deriving DecidableEq, Repr, Inhabited

namespace Kind

/-- All kinds, in their canonical order. -/
def all : List Kind :=
  [.bool, .uint8, .int16, .int32, .int64, .float32, .float64, .decimal, .dateTime, .guid,
    .char, .string, .bytes, .chars]

/-- The name of a kind. -/
def name : Kind → String
  | .bool => "bool"
  | .uint8 => "uint8"
  | .int16 => "int16"
  | .int32 => "int32"
  | .int64 => "int64"
  | .float32 => "float32"
  | .float64 => "float64"
  | .decimal => "decimal"
  | .dateTime => "datetime"
  | .guid => "guid"
  | .char => "char"
  | .string => "string"
  | .bytes => "bytes"
  | .chars => "chars"

/-- The kind with this name. -/
def ofName? (s : String) : Option Kind :=
  all.find? (·.name == s)

/-- Value kinds have a zero default; the reference kinds do not. -/
def isValueType : Kind → Bool
  | .string | .bytes | .chars => false
  | _ => true

def isInteger : Kind → Bool
  | .uint8 | .int16 | .int32 | .int64 => true
  | _ => false

/-- Integers, floats, decimals and booleans. -/
def isNumeric (k : Kind) : Bool :=
  k.isInteger || k matches .float32 | .float64 | .decimal | .bool

/-- Whether a conversion from `k` to `t` exists. Individual values may still fail. -/
def canConvertTo (k t : Kind) : Bool :=
  if k = t ∨ k = .string then true
  else match k, t with
    | .bytes, _ => false
    | _, .string => true
    | .char, other => other.isInteger
    | other, .char => other.isInteger
    | a, b => a.isNumeric && b.isNumeric

theorem ofName_name (k : Kind) : ofName? k.name = some k := by
  cases k <;> rfl

end Kind

end Strainer
