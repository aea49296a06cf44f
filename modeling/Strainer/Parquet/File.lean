import Strainer.Parquet.Schema
import Strainer.Parquet.Error
import Strainer.Value.Basic

/-!
# Columnar files

A columnar file as its reader sees it: a schema, and rows of cells stored in row groups. A cell
holds what the column's type stores (a flag, an integer, a float, text or bytes) and is read as
the value of the column's kind: integers as the wider kind, decimals with the column's scale,
days and time stamps as the date-time they name in UTC. A day or instant outside the calendar's
range cannot be read.

Bytes that are not such a file are refused by their footer: a file needs eight bytes of footer,
ending with the magic `PAR1` and announcing the length of the metadata before it.
-/

namespace Strainer.Parquet

/-- What a cell of a column stores. -/
inductive Cell where
  | null
  | bool (b : Bool)
  /-- An integer: a number, a day, an instant in the column's unit, or an unscaled decimal. -/
  | int (i : Int)
  | float32 (x : Float32Bits)
  | float64 (x : Float64Bits)
  | text (s : String)
  | bytes (bs : List UInt8)
  deriving DecidableEq

/-- A columnar file: its schema and its row groups, each a list of rows. -/
structure ColumnarFile where
  fields : List Field
  rowGroups : List (List (List Cell))
  deriving DecidableEq

/-- The magic bytes that open and close a columnar file. -/
def magic : List UInt8 := [0x50, 0x41, 0x52, 0x31]

/-- Why bytes that were not written as a columnar file cannot be opened as one. -/
def footerError (bs : List UInt8) : FileError :=
  let size := bs.length
  if size < 8 then .tooSmall size 8
  else if bs.drop (size - 4) ≠ magic then .corruptFooter
  else
    let len := (bs.drop (size - 8)).take 4 |>.foldr (fun b acc => acc * 256 + b.toNat) 0
    if size < len + 8 then .tooSmall size (len + 8)
    else .general "Could not parse metadata"

/-- The date-time `n` units after the epoch. -/
def instant (u : TimeUnit) (n : Int) : Except CellError DateTime :=
  match DateTime.ofUnixNanos? (n * u.nanos) with
  | some t => .ok t
  | none => .error (.cast "timestamp must be in the range -377705116800..=253402300799")

/-- Reads a cell of a column of type `t`. -/
def Cell.read (t : ArrowType) : Cell → Except CellError Value
  | .null => .ok .null
  | .bool b => .ok (.bool b)
  | .float32 x => .ok (.float32 x)
  | .float64 x => .ok (.float64 x)
  | .text s => .ok (.string s)
  | .bytes bs => match t with
    | .fixedSizeBinary 16 => .ok (.guid (Guid.ofBytes (bs.map (·.toNat))))
    | _ => .ok (.bytes bs)
  | .int i => match t with
    | .uint8 => .ok (.uint8 (UInt8.ofNat i.toNat))
    | .int8 | .int16 => .ok (.int16 (Int16.ofInt i))
    | .uint16 | .int32 => .ok (.int32 (Int32.ofInt i))
    | .uint32 | .int64 => .ok (.int64 (Int64.ofInt i))
    | .uint64 => .ok (.decimal (Decimal.ofInt i))
    | .decimal128 _ s => .ok (.decimal ⟨i, s⟩)
    | .date32 =>
      let (y, m, d) := Calendar.civilFromDays i
      if DateTime.minYear ≤ y ∧ y ≤ DateTime.maxYear then .ok (.dateTime ⟨y, m, d, 0, 0, 0, 0⟩)
      else .error (.cast ("Date32 value " ++ Exact.intText i ++ " is out of range"))
    | .date64 => (instant .millisecond i).map .dateTime
    | .timestamp u _ => (instant u i).map .dateTime
    | _ => .ok (.int64 (Int64.ofInt i))

end Strainer.Parquet
