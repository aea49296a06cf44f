import Strainer.Json.Read
import Strainer.Value.Kind
import Strainer.Files.Error
import Strainer.Parquet.Error

/-!
# Row source failures

Why reading from a source of rows failed: the source is not on a row, a field position or
column name does not exist, a field holds another kind than asked for, a row has the wrong
width, a column's type has no value kind, a line of JSON text does not parse or is no object,
or the file underneath failed.
-/

namespace Strainer.Rows

/-- Why reading from a row source failed. -/
inductive CursorError where
  | noCurrentRow
  | ordinalOutOfRange (ordinal count : Nat)
  | unknownColumn (name : String)
  | invalidCast (ordinal : Nat) (expected : Kind) (found : String)
  | rowWidth (row expected found : Nat)
  | unsupportedType (column dataType : String)
  | json (line : Nat) (e : JsonError)
  | notAnObject (line : Nat)
  | io (e : IoError)
  | cell (e : Parquet.CellError)
  | file (e : Parquet.FileError)
  deriving DecidableEq, Repr

namespace CursorError

def message : CursorError → String
  | noCurrentRow => "Cursor is not positioned on a row"
  | ordinalOutOfRange o c =>
    "Ordinal " ++ Exact.intText o ++ " is out of range (" ++ Exact.intText c ++ " fields)"
  | unknownColumn n => "Unknown column '" ++ n ++ "'"
  | invalidCast o k found =>
    "Field " ++ Exact.intText o ++ " holds " ++ found ++ ", not " ++ k.name
  | rowWidth r e f =>
    "Row " ++ Exact.intText r ++ " has " ++ Exact.intText f ++ " values, expected " ++
      Exact.intText e
  | unsupportedType c t => "Column '" ++ c ++ "' has unsupported type " ++ t
  | json l e => "JSON error on line " ++ Exact.intText l ++ ": " ++ e.message
  | notAnObject l => "Line " ++ Exact.intText l ++ " is not a JSON object"
  | io e => e.message
  | cell e => e.message
  | file e => e.message

/-- The name of the cause, as error reports tag it. -/
def label : CursorError → String
  | noCurrentRow => "NoCurrentRow"
  | ordinalOutOfRange _ _ => "OrdinalOutOfRange"
  | unknownColumn _ => "UnknownColumn"
  | invalidCast _ _ _ => "InvalidCast"
  | rowWidth _ _ _ => "RowWidth"
  | unsupportedType _ _ => "UnsupportedType"
  | json _ _ => "Json"
  | notAnObject _ => "NotAnObject"
  | io _ => "Io"
  | cell _ => "Arrow"
  | file _ => "Parquet"

end CursorError

/-- A position must lie below the number of fields. -/
def checkOrdinal (ordinal count : Nat) : Except CursorError Unit :=
  if ordinal < count then .ok () else .error (.ordinalOutOfRange ordinal count)

end Strainer.Rows
