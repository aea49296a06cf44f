import Strainer.Rows.Record
import Strainer.Files.Store
import Strainer.Pipeline.Failure

/-!
# Writing records as lines of JSON

A sink that writes each record as one JSON object per line, members in column order, to the
standard output or to a file. The file is created, empty, when the sink is made.
-/

namespace Strainer.Sink

open Rows Pipeline

/-- Where a sink's text goes. -/
inductive Destination where
  | stdout
  | file (path : String)
  deriving DecidableEq, Repr

/-- A sink of JSON lines and the text it has written. -/
structure LinesSink where
  destination : Destination
  written : String := ""

namespace LinesSink

/-- A sink to the standard output. -/
def toStdout : LinesSink := ⟨.stdout, ""⟩

/-- A sink to a file, which is created. -/
def create (store : FileStore) (path : String) : Except Failure (LinesSink × FileStore) :=
  match store.create path with
  | .ok store => .ok (⟨.file path, ""⟩, store)
  | .error e =>
    .error ((Failure.of e.message).context ("Failed to create jsonl file " ++ quotedPath path))

/-- Writes one record. -/
def add (s : LinesSink) (r : RowRecord) : LinesSink :=
  { s with written := s.written ++ r.toJson.render ++ "\n" }

end LinesSink

end Strainer.Sink
