import Strainer.Text.Blank

/-!
# File formats of the pipeline

Rows are read from lines of JSON text or from a columnar file, and written in one of the two. A
format is named by its label or, for lines of JSON, by `ndjson` or `json` as well, in any ASCII
case; a path names one by its extension.

A path's extension is what follows the last dot of its last component, unless that dot opens
the component; `.` and `..` have none.
-/

namespace Strainer.Pipeline

/-- The components of a path, without empty and `.` components. -/
def components (path : String) : List String :=
  (path.splitOn "/").filter fun c => c ≠ "" ∧ c ≠ "."

/-- The last component of a path, unless it is `..`. -/
def fileName? (path : String) : Option String :=
  match (components path).getLast? with
  | some ".." => none
  | other => other

/-- The extension of a path's last component. -/
def extension? (path : String) : Option String := do
  let name ← fileName? path
  let cs := name.toList
  match cs with
  | '.' :: rest => if rest.contains '.' then pure (String.ofList (lastPart cs)) else none
  | _ => if cs.contains '.' then pure (String.ofList (lastPart cs)) else none
where
  lastPart (cs : List Char) : List Char := (cs.reverse.takeWhile (· ≠ '.')).reverse

/-- The format rows are read in. -/
inductive InputFormat where
  | jsonl
  | parquet
  deriving DecidableEq, Repr

/-- The format rows are written in. -/
inductive OutputFormat where
  | jsonl
  | parquet
  deriving DecidableEq, Repr

/-- The format a name stands for: `jsonl`, `ndjson`, `json` or `parquet`, in any ASCII case. -/
def formatOfName? (s : String) : Option InputFormat :=
  match String.ofList (Text.asciiLower s.toList) with
  | "jsonl" | "ndjson" | "json" => some .jsonl
  | "parquet" => some .parquet
  | _ => none

namespace InputFormat

def label : InputFormat → String
  | jsonl => "jsonl"
  | parquet => "parquet"

/-- The format a name stands for, or the reason it stands for none. -/
def ofName (s : String) : Except String InputFormat :=
  match formatOfName? s with
  | some f => .ok f
  | none => .error ("invalid input format: " ++ s)

/-- The format a path's extension names. -/
def detect (path : String) : Option InputFormat :=
  (extension? path).bind formatOfName?

end InputFormat

namespace OutputFormat

def label : OutputFormat → String
  | jsonl => "jsonl"
  | parquet => "parquet"

/-- The format an output path's extension names. -/
def detect (path : String) : Option OutputFormat :=
  (InputFormat.detect path).map fun
    | .jsonl => .jsonl
    | .parquet => .parquet

end OutputFormat

end Strainer.Pipeline
