import Strainer.Number.Exact

/-!
# Columnar file failures

Why a columnar (Parquet) file could not be opened or one of its cells could not be read as a
value.
-/

namespace Strainer.Parquet

/-- Why a cell could not become a value. -/
inductive CellError where
  /-- The stored number names no instant or day in the calendar's range. -/
  | cast (text : String)
  deriving DecidableEq, Repr

def CellError.message : CellError → String
  | .cast t => "Cast error: " ++ t

/-- Why a file could not be opened as a columnar file. -/
inductive FileError where
  /-- The file is shorter than its footer, or than the metadata its footer announces. -/
  | tooSmall (size need : Nat)
  /-- The file does not end with the format's magic bytes. -/
  | corruptFooter
  | general (text : String)
  deriving DecidableEq, Repr

def FileError.message : FileError → String
  | .tooSmall size need =>
    "EOF: Parquet file too small. Size is " ++ Exact.intText size ++ " but need " ++
      Exact.intText need
  | .corruptFooter => "Parquet error: Invalid Parquet file. Corrupt footer"
  | .general t => "Parquet error: " ++ t

end Strainer.Parquet
