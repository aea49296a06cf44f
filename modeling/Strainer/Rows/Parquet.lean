import Strainer.Rows.View
import Strainer.Parquet.File

/-!
# Rows of a columnar file

A cursor over the rows of a columnar file, in order. Opening the file describes every column, and
fails on the first column whose type has no value kind. The reader yields the rows a batch at a
time, batches of a fixed number of rows (the last one holds the rest); the cursor keeps the batch
it is in and the position of its row there. A move goes to the next row of the batch, or else to
the first row of the next batch that has rows. A field is read from its cell when it is asked for,
so a cell that cannot be read fails that read only.

The reader may also fail to read a batch. The move that meets the failure fails with it and
leaves the cursor on no batch; the next move goes on with what the reader yields after it. The
files of this library always read, so the reader of a file just opened yields batches only.
-/

namespace Strainer.Rows

open Parquet

/-- The rows of a batch, each a list of cells. -/
abbrev Batch := List (List Cell)

/-- Rows cut into consecutive batches of `size` rows, at least one; the last holds the rest. -/
def batchesOf (size : Nat) : List (List Cell) → List Batch
  | [] => []
  | r :: rows => (r :: rows).take (max size 1) :: batchesOf size ((r :: rows).drop (max size 1))
termination_by rows => rows.length
decreasing_by
  simp only [List.length_drop, List.length_cons]
  omega

/-- What the reader yields when asked for its next batch: the batch, or why it could not be
read. -/
inductive BatchRead where
  | batch (rows : Batch)
  | failed (e : CursorError)
  deriving DecidableEq

/-- A cursor over a columnar file. -/
structure ParquetCursor where
  fields : List Field
  columns : List Column
  /-- What the reader has not yielded yet, in order. -/
  batches : List BatchRead
  /-- The batch the cursor is in. -/
  batch : Option Batch := none
  /-- The position of the cursor's row in its batch. -/
  row : Nat := 0
  deriving DecidableEq

namespace ParquetCursor

/-- The description of a field's column, if its type has a value kind. -/
def describe (f : Field) : Except CursorError Column :=
  match f.type.kind? with
  | some k => .ok ⟨f.name, k, f.type.name⟩
  | none => .error (.unsupportedType f.name f.type.name)

/-- Opens a file for reading, its rows read in batches of `batchSize` rows. -/
def ofFile (file : ColumnarFile) (batchSize : Nat := 1024) : Except CursorError ParquetCursor := do
  let columns ← file.fields.mapM describe
  pure ⟨file.fields, columns, (batchesOf batchSize file.rowGroups.flatten).map .batch, none, 0⟩

/-- The row the cursor is on. -/
def current (c : ParquetCursor) : Except CursorError (List Cell) :=
  match c.batch with
  | some b =>
    match b[c.row]? with
    | some r => .ok r
    -- never reached: a move keeps the row inside its batch
    | none => .error .noCurrentRow
  | none => .error .noCurrentRow

/-- The rows the reader yields before its first failure, in order. -/
def rowsBeforeFailure : List BatchRead → List (List Cell)
  | [] => []
  | .batch b :: rest => b ++ rowsBeforeFailure rest
  | .failed _ :: _ => []

/-- The rows after the cursor's, in order, up to the reader's next failure: the rest of its
batch, then the batches not read. -/
def pending (c : ParquetCursor) : List (List Cell) :=
  (c.batch.map (·.drop (c.row + 1))).getD [] ++ rowsBeforeFailure c.batches

def column (c : ParquetCursor) (ordinal : Nat) : Except CursorError Column :=
  match c.columns[ordinal]? with
  | some col => .ok col
  | none => .error (.ordinalOutOfRange ordinal c.columns.length)

def cellAt (c : ParquetCursor) (ordinal : Nat) : Except CursorError (ArrowType × Cell) := do
  let r ← c.current
  match c.fields[ordinal]?, r[ordinal]? with
  | some f, some cell => pure (f.type, cell)
  | _, _ => throw (.ordinalOutOfRange ordinal c.fields.length)

def valueAt (c : ParquetCursor) (ordinal : Nat) : Except CursorError Value := do
  let (t, cell) ← c.cellAt ordinal
  match cell.read t with
  | .ok v => pure v
  | .error e => throw (.cell e)

/-- What the reader yields next, batches without rows skipped: a batch that has rows or a
failure, and what it yields after that. -/
def nextBatch : List BatchRead → Option (BatchRead × List BatchRead)
  | [] => none
  | .batch b :: bs => if b.isEmpty then nextBatch bs else some (.batch b, bs)
  | .failed e :: bs => some (.failed e, bs)

/-- Moves to the next row of the batch, or else to the first row of the next batch that has
rows, skipping empty ones. A failure of the reader fails the move and leaves the cursor on no
batch; once the reader has nothing left, the cursor is on no batch. -/
def advance (c : ParquetCursor) : ParquetCursor × Except CursorError Bool :=
  if c.batch.any (c.row + 1 < ·.length) then ({ c with row := c.row + 1 }, .ok true)
  else
    match nextBatch c.batches with
    | some (.batch b, rest) => ({ c with batches := rest, batch := some b, row := 0 }, .ok true)
    | some (.failed e, rest) => ({ c with batches := rest, batch := none }, .error e)
    | none => ({ c with batches := [], batch := none }, .ok false)

instance : RowCursor ParquetCursor where
  fieldCount c := c.columns.length
  name c i := do pure (← c.column i).name
  fieldKind c i := do pure (← c.column i).kind
  dataTypeName c i := do pure (← c.column i).typeName
  isNull c i := do pure ((← c.cellAt i).2 = .null)
  value c i := c.valueAt i
  advance := advance
  remaining c := c.pending.length

end ParquetCursor

end Strainer.Rows
