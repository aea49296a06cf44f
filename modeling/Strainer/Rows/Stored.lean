import Strainer.Rows.Source
import Strainer.Rows.Sequence
import Strainer.Files.Store

/-!
# Row sources from stored files

Opening what a file store holds as a source of rows. Lines of JSON are read from the file's
text; a file whose bytes are not text fails at its first read, as does a directory. A columnar
file is opened from its schema, and bytes that are no columnar file are refused by their footer.
Reading a whole columnar file gives its columns and every row's values.
-/

namespace Strainer.Rows

open Parquet

/-- The text a file of raw bytes holds, if the bytes are UTF-8. -/
def textOf? : FileData → Option String
  | .text s => some s
  | .bytes bs => String.fromUTF8? (ByteArray.mk bs.toArray)
  | .columnar _ => some (String.ofList (magic.map fun b => Char.ofNat b.toNat))
  | .directory => none

/-- A file opened as lines of JSON. -/
def JsonLinesCursor.ofData (d : FileData) : JsonLinesCursor :=
  match d with
  | .directory => .failing .isDirectory
  | d => match textOf? d with
    | some s => .ofText s
    | none => .failing (.custom "stream did not contain valid UTF-8")

/-- A file opened as a columnar file, read in batches of `batchSize` rows. -/
def ParquetCursor.ofData (d : FileData) (batchSize : Nat := 1024) : Except CursorError ParquetCursor :=
  match d with
  | .columnar f => ParquetCursor.ofFile f batchSize
  | .directory => .error (.io .isDirectory)
  | d => .error (.file (footerError (d.rawBytes?.getD [])))

/-- The columns of a columnar file and the values of every row, or the first failure. -/
def ParquetCursor.readAll (c : ParquetCursor) : Except CursorError (List Column × List (List Value)) := do
  let (items, _) := records c
  let rows ← items.mapM fun r => r.map (·.values)
  pure (c.columns, rows)

end Strainer.Rows
