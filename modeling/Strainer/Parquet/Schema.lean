import Strainer.Value.Kind
import Strainer.Number.Exact
import Strainer.Json.Basic

/-!
# Column types of columnar files

The types a column of a columnar (Parquet) file can have, as the Arrow memory model names them,
with their printed names and the value kind each is read as. Integer types are widened to the
next value kind that holds all their values, with unsigned 64-bit integers read as decimals;
dates and time stamps are read as date-times, and a 16-byte fixed binary as a GUID. Time-of-day
columns have no value kind.
-/

namespace Strainer.Parquet

/-- The unit of a time stamp or time of day. -/
inductive TimeUnit where
  | second
  | millisecond
  | microsecond
  | nanosecond
  deriving DecidableEq, Repr

namespace TimeUnit

def name : TimeUnit → String
  | second => "s"
  | millisecond => "ms"
  | microsecond => "µs"
  | nanosecond => "ns"

/-- Nanoseconds per unit. -/
def nanos : TimeUnit → Nat
  | second => 1000000000
  | millisecond => 1000000
  | microsecond => 1000
  | nanosecond => 1

end TimeUnit

/-- The type of a column. -/
inductive ArrowType where
  | boolean
  | uint8
  | int8
  | int16
  | uint16
  | int32
  | uint32
  | int64
  | uint64
  | float32
  | float64
  | utf8
  | largeUtf8
  | utf8View
  | binary
  | largeBinary
  | binaryView
  | date32
  | date64
  | time32 (unit : TimeUnit)
  | fixedSizeBinary (width : Nat)
  | decimal128 (precision : Nat) (scale : Int)
  | timestamp (unit : TimeUnit) (zone : Option String)
  deriving DecidableEq, Repr

namespace ArrowType

/-- The printed name of the type, such as `Decimal128(10, 2)` or `Timestamp(ms, "UTC")`. -/
def name : ArrowType → String
  | boolean => "Boolean"
  | uint8 => "UInt8"
  | int8 => "Int8"
  | int16 => "Int16"
  | uint16 => "UInt16"
  | int32 => "Int32"
  | uint32 => "UInt32"
  | int64 => "Int64"
  | uint64 => "UInt64"
  | float32 => "Float32"
  | float64 => "Float64"
  | utf8 => "Utf8"
  | largeUtf8 => "LargeUtf8"
  | utf8View => "Utf8View"
  | binary => "Binary"
  | largeBinary => "LargeBinary"
  | binaryView => "BinaryView"
  | date32 => "Date32"
  | date64 => "Date64"
  | time32 u => "Time32(" ++ u.name ++ ")"
  | fixedSizeBinary w => "FixedSizeBinary(" ++ Exact.intText w ++ ")"
  | decimal128 p s => "Decimal128(" ++ Exact.intText p ++ ", " ++ Exact.intText s ++ ")"
  | timestamp u none => "Timestamp(" ++ u.name ++ ")"
  | timestamp u (some z) => "Timestamp(" ++ u.name ++ ", " ++ Json.quote z ++ ")"

/-- The kind a column of this type is read as; `none` for types without one. -/
def kind? : ArrowType → Option Kind
  | boolean => some .bool
  | uint8 => some .uint8
  | int8 | int16 => some .int16
  | uint16 | int32 => some .int32
  | uint32 | int64 => some .int64
  | uint64 | decimal128 _ _ => some .decimal
  | float32 => some .float32
  | float64 => some .float64
  | utf8 | largeUtf8 | utf8View => some .string
  | binary | largeBinary | binaryView => some .bytes
  | fixedSizeBinary 16 => some .guid
  | fixedSizeBinary _ => some .bytes
  | date32 | date64 | timestamp _ _ => some .dateTime
  | time32 _ => none

/-- A token of type text: a bracket, a comma, a colon, or a word between them. -/
inductive TypeToken where
  | openBracket
  | closeBracket
  | comma
  | colon
  | word (w : String)
  deriving DecidableEq, Repr

/-- Splits type text into tokens; blanks separate words and are dropped. -/
def typeTokens (cs : List Char) : List TypeToken :=
  go cs [] []
where
  /-- `word` holds the characters of the word being read, last first. -/
  go : List Char → List Char → List TypeToken → List TypeToken
    | [], word, out => (flush word out).reverse
    | c :: rest, word, out =>
      match c with
      | '(' => go rest [] (.openBracket :: flush word out)
      | ')' => go rest [] (.closeBracket :: flush word out)
      | ',' => go rest [] (.comma :: flush word out)
      | ':' => go rest [] (.colon :: flush word out)
      | c => if c.isWhitespace then go rest [] (flush word out) else go rest (c :: word) out
  flush (word : List Char) (out : List TypeToken) : List TypeToken :=
    if word.isEmpty then out else .word (String.ofList word.reverse) :: out

/-- A word read as a signed 64-bit integer: an optional minus sign and decimal digits. -/
def integerWord? (w : String) : Option Int :=
  let (neg, ds) := match w.toList with
    | '-' :: ds => (true, ds)
    | ds => (false, ds)
  if ds.isEmpty ∨ ¬ ds.all Char.isDigit then none
  else
    let n : Int := ds.foldl (fun acc c => 10 * acc + (c.toNat - '0'.toNat)) 0
    let i := if neg then -n else n
    if -Int.pow 2 63 ≤ i ∧ i < Int.pow 2 63 then some i else none

/-- The precision and scale named by the text of a 128-bit decimal type,
`Decimal128(precision, scale)`: a precision from 0 to 255 and a scale from -128 to 127, with
blanks anywhere between the parts. Any other text names none. -/
def decimalOfName? (s : String) : Option (Nat × Int) :=
  match typeTokens s.toList with
  | [.word "Decimal128", .openBracket, .word p, .comma, .word q, .closeBracket] => do
    let p ← integerWord? p
    let q ← integerWord? q
    if 0 ≤ p ∧ p ≤ 255 ∧ -128 ≤ q ∧ q ≤ 127 then some (p.toNat, q) else none
  | _ => none

end ArrowType

/-- A column of a file's schema. -/
structure Field where
  name : String
  type : ArrowType
  nullable : Bool := true
  deriving DecidableEq, Repr

end Strainer.Parquet
