import Strainer.Rows.Record
import Strainer.Parquet.File
import Strainer.Files.Store
import Strainer.Pipeline.Failure

/-!
# Writing records to a columnar file

A sink that writes records as rows of a columnar file. Its schema comes from the columns it is
given, or else from the first record it receives: each column's kind fixes the type it is
stored as, every column may hold nulls, and a decimal column takes its precision and scale from
its type text (`Decimal128(10, 2)`), 38 and 10 when the text names none. A record's value for a
column is found by the column's name; a value that is missing, does not convert to the stored
type, or does not fit it is written as null, and the values lost that way are counted.

Rows are kept until a batch is full, and then handed to the file's writer. Setting up the writer
checks the decimal columns; making a batch checks them once more, against the limit of 38 digits,
and needs at least one column. Neither check depends on the rows, so a batch that cannot be made
never can, and the file then stays unfinished: it holds only the opening magic bytes. The file is
complete only once the sink is finished.
-/

namespace Strainer.Sink

open Rows Parquet Pipeline

/-- The type a column of this kind is stored as. -/
def storedType (c : Column) : ArrowType :=
  match c.kind with
  | .bool => .boolean
  | .uint8 => .uint8
  | .int16 => .int16
  | .int32 => .int32
  | .int64 => .int64
  | .float32 => .float32
  | .float64 => .float64
  | .decimal =>
    let (p, s) := (ArrowType.decimalOfName? c.typeName).getD (38, 10)
    .decimal128 p s
  | .dateTime => .timestamp .microsecond none
  | .guid => .fixedSizeBinary 16
  | .bytes => .binary
  | .char | .string | .chars => .utf8

/-- Why a writer cannot store a column of this type: a decimal needs a precision of at least
one and a scale from zero up to the precision. -/
def writerCheck : ArrowType → Option String
  | .decimal128 p s =>
    if p < 1 then some ("Invalid DECIMAL precision: " ++ Exact.intText p)
    else if s < 0 then some ("Invalid DECIMAL scale: " ++ Exact.intText s)
    else if s > p then
      some ("Invalid DECIMAL: scale (" ++ Exact.intText s ++ ") cannot be greater than precision ("
        ++ Exact.intText p ++ ")")
    else none
  | _ => none

/-- Why a batch of rows of these types cannot be made: a decimal of more than 38 digits, or no
column at all. -/
def batchCheck (types : List ArrowType) : Option String :=
  let wide := types.findSome? fun
    | .decimal128 p _ => if p > 38 then some p else none
    | _ => none
  match wide with
  | some p => some ("Invalid argument error: precision " ++ Exact.intText p ++ " is greater than max 38")
  | none =>
    if types.isEmpty then
      some "Invalid argument error: must either specify a row count or at least one column"
    else none

/-- The cell a value is stored as in a column of type `t`: the value converted to the type's
kind. A decimal is rounded, half to even, to the column's scale and must have fewer digits than
its precision allows; a date-time is stored as whole microseconds since the epoch, truncated
toward it. `none` when the value does not convert or does not fit. -/
def cellFor (t : ArrowType) (v : Value) : Option Cell :=
  match t.kind? with
  | none => none
  | some k =>
    match v.convert k with
    | .error _ => none
    | .ok w =>
      match t, w with
      | _, .bool b => some (.bool b)
      | _, .uint8 n => some (.int n.toNat)
      | _, .int16 n => some (.int n.toInt)
      | _, .int32 n => some (.int n.toInt)
      | _, .int64 n => some (.int n.toInt)
      | _, .float32 x => some (.float32 x)
      | _, .float64 x => some (.float64 x)
      | .decimal128 p s, .decimal d =>
        let u := (d.withScaleRound s).unscaled
        if p ≤ 38 ∧ u.natAbs < Nat.pow 10 p then some (.int u) else none
      | _, .dateTime t => some (.int (t.toUnixNanos.tdiv 1000))
      | _, .guid g => some (.bytes (g.bytes.map UInt8.ofNat))
      | _, .string s => some (.text s)
      | _, .bytes bs => some (.bytes bs)
      | _, _ => none

/-- An open writer: the columns, the file's fields, the rows handed to the file and the rows
still buffered. -/
structure Writer where
  columns : List Column
  fields : List Field
  written : List (List Cell) := []
  buffered : List (List Cell) := []
  deriving DecidableEq

/-- Hands the buffered rows to the file, if there are any. -/
def Writer.flush (w : Writer) : Except Failure Writer :=
  if w.buffered.isEmpty then .ok w
  else match batchCheck (w.fields.map (·.type)) with
    | some e => .error (.of e)
    | none => .ok { w with written := w.written ++ w.buffered, buffered := [] }

/-- The file a writer completes: its fields, and one row group holding every row, if any. -/
def Writer.file (w : Writer) : ColumnarFile :=
  ⟨w.fields, if w.written.isEmpty then [] else [w.written]⟩

/-- How far a columnar sink has come. -/
inductive Stage where
  /-- The file is created and empty, and no schema is set. -/
  | created
  /-- The file went to a writer that could not be set up; it stays empty. -/
  | spent
  /-- A writer is open; the file holds the opening magic bytes. -/
  | writing (w : Writer)
  /-- The file is complete. -/
  | closed (file : ColumnarFile)
  deriving DecidableEq

/-- A sink writing a columnar file. -/
structure ColumnarSink where
  path : String
  /-- Rows per batch, at least one. -/
  batchSize : Nat
  stage : Stage := .created
  /-- Values written as null because they did not fit their column. -/
  dropped : Nat := 0

namespace ColumnarSink

/-- A sink to a file, which is created. -/
def create (store : FileStore) (path : String) (batchSize : Nat) :
    Except Failure (ColumnarSink × FileStore) :=
  match store.create path with
  | .ok store => .ok ({ path, batchSize := max batchSize 1 }, store)
  | .error e =>
    .error ((Failure.of e.message).context ("Failed to create parquet file " ++ quotedPath path))

/-- Sets the schema and opens the writer; only a sink that was just created has a file to give
it. A writer that cannot be set up keeps the file, so the sink is spent either way. -/
def init (s : ColumnarSink) (columns : List Column) : ColumnarSink × Except Failure Unit :=
  match s.stage with
  | .created =>
    let fields := columns.map fun c => ({ name := c.name, type := storedType c } : Field)
    match fields.findSome? (writerCheck ·.type) with
    | some e => ({ s with stage := .spent }, .error (.of ("Parquet error: " ++ e)))
    | none => ({ s with stage := .writing { columns, fields } }, .ok ())
  | _ => (s, .error (.of "Sink: Parquet writer already initialized"))

/-- The sink with its schema set from the given columns. -/
def withColumns (s : ColumnarSink) (columns : List Column) : Except Failure ColumnarSink :=
  match s.init columns with
  | (s, .ok ()) => .ok s
  | (_, .error e) => .error e

/-- The value a record gives for a column: the field of that name, null if there is none. -/
def valueFor (r : RowRecord) (c : Column) : Value :=
  match RowView.valueByName r c.name with
  | .ok v => v
  | .error _ => .null

/-- The row a record is stored as, with the number of its values that did not fit. -/
def rowOf (w : Writer) (r : RowRecord) : List Cell × Nat :=
  let pairs := (w.columns.zip w.fields).map fun (c, f) =>
    let v := valueFor r c
    match cellFor f.type v with
    | some cell => (cell, 0)
    | none => (Cell.null, if v.isNull then 0 else 1)
  (pairs.map (·.1), pairs.foldr (fun p n => p.2 + n) 0)

/-- The values of a record that a writing sink stores as null because they do not fit their
columns, each with its column. -/
def misfits (s : ColumnarSink) (r : RowRecord) : List (Column × Value) :=
  match s.stage with
  | .writing w =>
    (w.columns.zip w.fields).filterMap fun (c, f) =>
      let v := valueFor r c
      if (cellFor f.type v).isNone && !v.isNull then some (c, v) else none
  | _ => []

/-- The sink with its schema set, from these columns if none is set yet. -/
def ensureSchema (s : ColumnarSink) (columns : List Column) : ColumnarSink × Except Failure Unit :=
  match s.stage with
  | .created | .spent => s.init columns
  | _ => (s, .ok ())

/-- Adds a record as a row, first setting the schema from its columns if none is set; a full
batch is then handed to the file. A batch that cannot be made keeps its rows buffered. -/
def add (s : ColumnarSink) (r : RowRecord) : ColumnarSink × Except Failure Unit :=
  match s.ensureSchema r.columns with
  | (s, .error e) => (s, .error e)
  | (s, .ok ()) =>
    match s.stage with
    | .writing w =>
      let (row, lost) := rowOf w r
      let w := { w with buffered := w.buffered ++ [row] }
      let s := { s with dropped := s.dropped + lost, stage := .writing w }
      if w.buffered.length ≥ s.batchSize then
        match w.flush with
        | .ok w => ({ s with stage := .writing w }, .ok ())
        | .error e => (s, .error e)
      else (s, .ok ())
    | _ => (s, .ok ())

/-- Finishes the file: sets an empty schema if none is set, hands over the last rows and
completes the file. -/
def finish (s : ColumnarSink) : ColumnarSink × Except Failure Unit :=
  match s.ensureSchema [] with
  | (s, .error e) => (s, .error e)
  | (s, .ok ()) =>
    match s.stage with
    | .writing w =>
      match w.flush with
      | .ok w => ({ s with stage := .closed w.file }, .ok ())
      | .error e => (s, .error e)
    | _ => (s, .ok ())

/-- What the sink's file holds. -/
def contents (s : ColumnarSink) : FileData :=
  match s.stage with
  | .created | .spent => .text ""
  | .writing _ => .bytes magic
  | .closed file => .columnar file

end ColumnarSink

end Strainer.Sink
