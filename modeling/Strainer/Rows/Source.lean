import Strainer.Rows.Memory
import Strainer.Rows.Lines
import Strainer.Rows.Parquet

/-!
# Row sources of any format

A cursor over rows held in memory, lines of JSON text, or a columnar file, read through one
interface. Only rows in memory know their count, and only lines of text their line number.
-/

namespace Strainer.Rows

/-- A cursor over one of the supported sources. -/
inductive SourceCursor where
  | memory (c : MemoryCursor)
  | lines (c : JsonLinesCursor)
  | columnar (c : ParquetCursor)

namespace SourceCursor

/-- The number of rows, for rows held in memory. -/
def rowCount? : SourceCursor → Option Nat
  | memory c => some c.rowCount
  | _ => none

/-- The number of the line the cursor is on, for lines of text. -/
def line? : SourceCursor → Option Nat
  | lines c => some c.line
  | _ => none

/-- The columns described when the source was opened, for columnar files. -/
def openedColumns? : SourceCursor → Option (List Column)
  | columnar c => some c.columns
  | _ => none

def advance : SourceCursor → SourceCursor × Except CursorError Bool
  | memory c => let (c, r) := RowCursor.advance c; (memory c, r)
  | lines c => let (c, r) := RowCursor.advance c; (lines c, r)
  | columnar c => let (c, r) := RowCursor.advance c; (columnar c, r)

instance : RowCursor SourceCursor where
  fieldCount
    | memory c => RowView.fieldCount c
    | lines c => RowView.fieldCount c
    | columnar c => RowView.fieldCount c
  name
    | memory c => RowView.name c
    | lines c => RowView.name c
    | columnar c => RowView.name c
  fieldKind
    | memory c => RowView.fieldKind c
    | lines c => RowView.fieldKind c
    | columnar c => RowView.fieldKind c
  dataTypeName
    | memory c => RowView.dataTypeName c
    | lines c => RowView.dataTypeName c
    | columnar c => RowView.dataTypeName c
  isNull
    | memory c => RowView.isNull c
    | lines c => RowView.isNull c
    | columnar c => RowView.isNull c
  value
    | memory c => RowView.value c
    | lines c => RowView.value c
    | columnar c => RowView.value c
  advance := advance
  remaining
    | memory c => RowCursor.remaining c
    | lines c => RowCursor.remaining c
    | columnar c => RowCursor.remaining c

end SourceCursor

end Strainer.Rows
