import Strainer.Command.Parse
import Strainer.Settings.Filters
import Strainer.Pipeline.Failure

/-!
# The plan of a run

What a run does, settled from the command line and the filters file before any row is read.
The filter is the one given on the command line, or else the one the filters file names. The
input format is the one given, or else the one the input's extension names. The grammar and
the batch size are those given, or else the file's, or else the compatible grammar and 8192
rows; a batch holds at least one row. The output format is the one given, or lines of JSON
for the standard output (`-`), or else the one the output's extension names.
-/

namespace Strainer.Pipeline

open Command Settings

/-- The settings of a run. -/
structure RunPlan where
  filter : String
  grammar : Filter.Grammar
  batchSize : Nat
  limit : Option Nat
  inputFormat : InputFormat
  deriving DecidableEq, Repr

/-- The batch size when none is given. -/
def defaultBatchSize : Nat := 8192

/-- Reads the filters file named on the command line, if one is. -/
def filtersFileOf (store : FileStore) (workdir : String) (o : Options) :
    Except Failure (Option FiltersFile) :=
  match o.filters with
  | none => .ok none
  | some p =>
    match FiltersFile.load store workdir p with
    | .ok f => .ok (some f)
    | .error e => .error ((Failure.of e.message).context ("Config: Failed to load filters from " ++ quotedPath p))

/-- Settles the plan of a run. -/
def RunPlan.resolve (store : FileStore) (workdir : String) (o : Options) : Except Failure RunPlan := do
  let file ← filtersFileOf store workdir o
  let filter ← match o.filter, o.name, file with
    | some f, _, _ => pure f
    | none, some n, some file =>
      match file.filter n with
      | .ok s => pure s
      | .error e => .error (.of e.message)
    | _, _, _ => .error (.of "CLI: Provide --filter, or --name together with --filters")
  let inputFormat ← match o.inputFormat <|> InputFormat.detect o.input with
    | some f => pure f
    | none => .error (.of "CLI: Could not detect input format from extension; use --input-format")
  pure {
    filter
    grammar := (o.grammar <|> file.bind (·.grammar)).getD .compatible
    batchSize := max 1 ((o.batchSize <|> file.bind (·.batchSize)).getD defaultBatchSize)
    limit := o.limit
    inputFormat }

/-- Does the path name the standard output: `-`, with nothing but separators and `.` after? -/
def isStdoutPath (path : String) : Bool :=
  match path.splitOn "/" with
  | "-" :: rest => rest.all fun p => p == "" || p == "."
  | _ => false

/-- Settles the output format. -/
def OutputFormat.resolve (o : Options) : Except Failure OutputFormat :=
  match o.format with
  | some f => .ok f
  | none =>
    if isStdoutPath o.output then .ok .jsonl
    else match OutputFormat.detect o.output with
      | some f => .ok f
      | none => .error (.of "CLI: Could not detect output format from extension; use --format")

end Strainer.Pipeline
