import Strainer.Sink.Lines
import Strainer.Sink.Columnar

/-!
# The sink of a run

A run writes its records to one sink: lines of JSON, to the standard output or a file, or a
columnar file. Adding a record and finishing may fail only for a columnar file; a failed step
still leaves the sink as it then is.
-/

namespace Strainer.Sink

open Rows Pipeline

/-- A sink of either format. -/
inductive Output where
  | lines (s : LinesSink)
  | columnar (s : ColumnarSink)

namespace Output

def add (o : Output) (r : RowRecord) : Output × Except Failure Unit :=
  match o with
  | lines s => (lines (s.add r), .ok ())
  | columnar s =>
    let (s, res) := s.add r
    (columnar s, res)

def finish (o : Output) : Output × Except Failure Unit :=
  match o with
  | lines s => (lines s, .ok ())
  | columnar s =>
    let (s, res) := s.finish
    (columnar s, res)

/-- Adds records in order, with the outcome of each. -/
def addAll (o : Output) : List RowRecord → Output × List (Except Failure Unit)
  | [] => (o, [])
  | r :: rs =>
    let (o, res) := o.add r
    let (o, more) := addAll o rs
    (o, res :: more)

/-- The values of a record the sink stored as null, each with its column; a sink of lines
stores every value. -/
def misfits : Output → RowRecord → List (Column × Value)
  | lines _, _ => []
  | columnar s, r => s.misfits r

/-- The count of values the sink stored as null because they did not fit. -/
def dropped : Output → Nat
  | lines _ => 0
  | columnar s => s.dropped

/-- The text written to the standard output. -/
def stdoutText : Output → String
  | lines s => if s.destination = .stdout then s.written else ""
  | columnar _ => ""

/-- The file the sink writes and what it holds. -/
def file? : Output → Option (String × FileData)
  | lines s => match s.destination with
    | .file p => some (p, .text s.written)
    | .stdout => none
  | columnar s => some (s.path, s.contents)

/-- The store with the sink's file in it. -/
def store (o : Output) (st : FileStore) : FileStore :=
  match o.file? with
  | some (p, d) => st.put p d
  | none => st

end Output

end Strainer.Sink
