import Strainer.Value.Kind
import Strainer.Float.Arith
import Strainer.Decimal.Basic
import Strainer.Time.DateTime
import Strainer.Guid

/-!
# Values

A value is null or a value of one of the fourteen kinds. Integers are fixed-width words, floats
are bit patterns of the 32- and 64-bit binary formats, text is a string, bytes and character
sequences are lists. Two values are ordered only when they have the same kind; floats follow
IEEE 754 (NaN is unordered), text and sequences are ordered lexicographically.
-/

namespace Strainer

/-- A field or literal value. -/
inductive Value where
  | null
  | bool (b : Bool)
  | uint8 (n : UInt8)
  | int16 (n : Int16)
  | int32 (n : Int32)
  | int64 (n : Int64)
  | float32 (x : Float32Bits)
  | float64 (x : Float64Bits)
  | decimal (d : Decimal)
  | dateTime (t : DateTime)
  | guid (g : Guid)
  | char (c : Char)
  | string (s : String)
  | bytes (bs : List UInt8)
  | chars (cs : List Char)
  deriving DecidableEq, Inhabited

namespace Value

/-- The kind of a value; `none` for null. -/
def kind : Value → Option Kind
  | null => none
  | bool _ => some .bool
  | uint8 _ => some .uint8
  | int16 _ => some .int16
  | int32 _ => some .int32
  | int64 _ => some .int64
  | float32 _ => some .float32
  | float64 _ => some .float64
  | decimal _ => some .decimal
  | dateTime _ => some .dateTime
  | guid _ => some .guid
  | char _ => some .char
  | string _ => some .string
  | bytes _ => some .bytes
  | chars _ => some .chars

def isNull : Value → Bool
  | null => true
  | _ => false

/-- Lexicographic order of two lists under an order of their elements. -/
def compareLex {α : Type} (cmp : α → α → Ordering) : List α → List α → Ordering
  | [], [] => .eq
  | [], _ :: _ => .lt
  | _ :: _, [] => .gt
  | a :: as, b :: bs => (cmp a b).then (compareLex cmp as bs)

/-- The order of two values of the same kind; values of different kinds, and nulls, are
unordered. -/
def compareTo : Value → Value → Option Ordering
  | bool a, bool b => some (compare a.toNat b.toNat)
  | uint8 a, uint8 b => some (compare a.toNat b.toNat)
  | int16 a, int16 b => some (compare a.toInt b.toInt)
  | int32 a, int32 b => some (compare a.toInt b.toInt)
  | int64 a, int64 b => some (compare a.toInt b.toInt)
  | float32 a, float32 b => a.compareTo b
  | float64 a, float64 b => a.compareTo b
  | decimal a, decimal b => some (a.compareTo b)
  | dateTime a, dateTime b => some (a.compareTo b)
  | guid a, guid b => some (a.compareTo b)
  | char a, char b => some (compare a.toNat b.toNat)
  | string a, string b => some (compareLex (fun x y => compare x.toNat y.toNat) a.toList b.toList)
  | bytes a, bytes b => some (compareLex (fun x y => compare x.toNat y.toNat) a b)
  | chars a, chars b => some (compareLex (fun x y => compare x.toNat y.toNat) a b)
  | _, _ => none

end Value

/-- The value substituted for a null of this kind: zero, false, the epoch, the nil identifier
or the NUL character; reference kinds stay null. -/
def Kind.defaultValue : Kind → Value
  | .bool => .bool false
  | .uint8 => .uint8 0
  | .int16 => .int16 0
  | .int32 => .int32 0
  | .int64 => .int64 0
  | .float32 => .float32 BinaryFloat.zero
  | .float64 => .float64 BinaryFloat.zero
  | .decimal => .decimal Decimal.zero
  | .dateTime => .dateTime DateTime.epoch
  | .guid => .guid Guid.nil
  | .char => .char (Char.ofNat 0)
  | .string | .bytes | .chars => .null

end Strainer
