import Strainer.Pipeline.Plan
import Strainer.Pipeline.Log
import Strainer.Pipeline.Progress
import Strainer.Filter.Compiled
import Strainer.Filter.Notes
import Strainer.Rows.Stored
import Strainer.Rows.Sequence
import Strainer.Sink.Output

/-!
# Running the pipeline

A run compiles the filter, opens the input, opens the sink, then reads the rows in batches of
the plan's size. Each row of a batch is tested; a row that passes is written while fewer rows
than the limit have been, and a row whose test fails is counted and logged as a warning with
its number. The run stops at the end of the input or once the limit is reached, and finishes
the sink. A batch that cannot be read fails the run, naming the first row of the batch.

With `--verbose`, a progress line counts the rows read every 100000 rows, and once more at
the end. Every step that fails stops the run; the files, the standard output and the notes
it wrote up to then stay as they are.

The parts of the run log under targets of their own: the compiler what it notes, a columnar
file when it is opened and as each batch of its rows is loaded, and a columnar sink each value
it stores as null and, once finished, how many there were.
-/

namespace Strainer.Pipeline

open Rows Sink Command Strainer.Filter

/-- What a run counted. -/
structure RunStats where
  scanned : Nat := 0
  matched : Nat := 0
  failed : Nat := 0
  deriving DecidableEq, Repr

/-- What a run leaves behind: the files, and the notes written to the standard error. -/
structure Transcript where
  store : FileStore
  notes : Array Note := #[]

namespace Transcript

def log (t : Transcript) (level : Level) (target message : String) : Transcript :=
  { t with notes := t.notes.push (.log ⟨level, target, message⟩) }

def logAll (t : Transcript) (lines : List LogLine) : Transcript :=
  { t with notes := t.notes ++ (lines.map Note.log).toArray }

def write (t : Transcript) (s : String) : Transcript :=
  if s.isEmpty then t else { t with notes := t.notes.push (.text s) }

end Transcript

/-- The target of the pipeline's log lines. -/
def pipelineTarget : String := "rowsift::app"

/-- The target of the filter compiler's log lines. -/
def compilerTarget : String := "rowsift::dsl::parser"

/-- The target of the log line of a filter compiled for use. -/
def predicateTarget : String := "rowsift::predicate"

/-- The target of a columnar file's reader. -/
def readerTarget : String := "rowsift::cursor::parquet_file"

/-- The target of a columnar sink. -/
def writerTarget : String := "rowsift::sinks::parquet_file"

/-- A compiler note as a log line. -/
def CompileNote.logLine : CompileNote → LogLine
  | .dropped e => ⟨.debug, compilerTarget, "Filter: operand with no pending operator dropped operand=" ++ e.render⟩
  | .combined e => ⟨.trace, compilerTarget, "Filter: combined node=" ++ e.render⟩
  | .ignored pos rest =>
    ⟨.warn, compilerTarget, "Filter: ignoring input after unmatched ')' position=" ++ Exact.intText pos ++
      " ignored=" ++ Text.literal rest⟩
  | .compiled source e =>
    ⟨.debug, predicateTarget, "Filter: compiled source=" ++ Text.literal source ++ " compiled=" ++ e.render⟩

/-- The log line of a value a columnar sink stores as null. -/
def misfitLine (c : Column) (v : Value) : LogLine :=
  ⟨.debug, writerTarget, "Sink: value does not fit its parquet column, writing null column=" ++ c.name ++
    " kind=" ++ c.kind.name ++ " value=" ++ v.display⟩

/-- The text a progress counter added in a step. -/
def drawnSince (before after : ProgressCounter) : String :=
  String.ofList (after.written.toList.drop before.written.length)

/-- The state of reading rows: the sink, the counts, the progress line and the notes. -/
structure Scan where
  sink : Output
  stats : RunStats := {}
  progress : ProgressCounter
  transcript : Transcript

/-- Tests and writes the rows of one batch, in order. -/
def Scan.batch (f : CompiledFilter) (limit : Nat) (s : Scan) : List (Nat × RowRecord) → Scan × Except Failure Unit
  | [] => (s, .ok ())
  | (offset, r) :: rest =>
    match f.test r with
    | .ok true =>
      if s.stats.matched < limit then
        let (sink, res) := s.sink.add r
        let misfits := (sink.misfits r).map fun (c, v) => misfitLine c v
        let s := { s with
          sink
          stats := { s.stats with matched := s.stats.matched + 1 }
          transcript := s.transcript.logAll misfits }
        match res with
        | .ok () => Scan.batch f limit s rest
        | .error e => (s, .error e)
      else Scan.batch f limit s rest
    | .ok false => Scan.batch f limit s rest
    | .error e =>
      let row := s.stats.scanned + offset + 1
      let s := { s with
        stats := { s.stats with failed := s.stats.failed + 1 }
        transcript := s.transcript.log .warn pipelineTarget ("Row " ++ Exact.intText row ++ ": " ++ e.message) }
      Scan.batch f limit s rest

/-- The first failure among read rows, or all of them. -/
def readBatch : List (Except CursorError RowRecord) → Except CursorError (List RowRecord)
  | [] => .ok []
  | .error e :: _ => .error e
  | .ok r :: rest => (readBatch rest).map (r :: ·)

/-- The log line of a batch of rows loaded from a columnar file of `total` rows, when `done`
rows are read: batches hold `size` rows, the last one the rest. -/
def loadedLine (total : Option Nat) (size done : Nat) : List LogLine :=
  match total with
  | some n =>
    if done < n then [⟨.trace, readerTarget, "Parquet: batch loaded rows=" ++ Exact.intText (min size (n - done))⟩]
    else []
  | none => []

/-- Reads batches of `size` rows until the rows end or `limit` rows have been written; a
columnar file of `total` rows loads its rows a batch at a time. -/
def Scan.batches (f : CompiledFilter) (size limit : Nat) (total : Option Nat) (s : Scan) :
    List (Except CursorError RowRecord) → Nat → Scan × Except Failure Unit
  | _, 0 => (s, .ok ())
  | items, fuel + 1 =>
    if s.stats.matched ≥ limit then (s, .ok ())
    else
      let s := { s with transcript := s.transcript.logAll (loadedLine total size s.stats.scanned) }
      let chunk := items.take size
      if chunk.isEmpty then (s, .ok ())
      else match readBatch chunk with
        | .error e =>
          (s, .error ((Failure.ofCursor e).context ("Input: Failed reading row " ++ Exact.intText (s.stats.scanned + 1))))
        | .ok rows =>
          let (s, res) := Scan.batch f limit s ((List.range rows.length).zip rows)
          match res with
          | .error e => (s, .error e)
          | .ok () =>
            let progress := s.progress.inc rows.length
            let s := { s with
              stats := { s.stats with scanned := s.stats.scanned + rows.length }
              progress
              transcript := s.transcript.write (drawnSince s.progress progress) }
            Scan.batches f size limit total s (items.drop size) fuel

/-- The rows of an opened input; a columnar file also gives its columns and its count of rows. -/
structure Opened where
  items : List (Except CursorError RowRecord)
  columns : Option (List Column) := none
  rowCount : Option Nat := none

/-- Reads and filters every row into the sink. -/
def filterRows (f : CompiledFilter) (plan : RunPlan) (verbose : Bool) (sink : Output)
    (input : Opened) (t : Transcript) : Scan × Except Failure Unit :=
  let items := input.items
  let progress := ProgressCounter.new "Scanning rows" 100000 verbose
  let s : Scan := { sink, progress, transcript := t.write progress.written }
  let limit := plan.limit.getD (Nat.pow 2 64 - 1)
  match s.batches f plan.batchSize limit input.rowCount items (items.length + 1) with
  | (s, .error e) => (s, .error e)
  | (s, .ok ()) =>
    let progress := s.progress.finish
    ({ s with progress, transcript := s.transcript.write (drawnSince s.progress progress) }, .ok ())

/-- Opens the sink of a run: lines of JSON to the standard output or a file, or a columnar
file, laid out by the input's columns when it has them. -/
def openSink (format : OutputFormat) (output : String) (batchSize : Nat) (columns : Option (List Column))
    (t : Transcript) : Transcript × Except Failure Output :=
  match format with
  | .jsonl =>
    if isStdoutPath output then
      (t.log .info pipelineTarget "Sink: jsonl -> stdout", .ok (.lines LinesSink.toStdout))
    else
      let t := t.log .info pipelineTarget ("Sink: jsonl -> " ++ quotedPath output)
      match LinesSink.create t.store output with
      | .ok (s, store) => ({ t with store }, .ok (.lines s))
      | .error e => (t, .error e)
  | .parquet =>
    if isStdoutPath output then (t, .error (.of "CLI: Parquet output to stdout is not supported"))
    else
      let t := t.log .info pipelineTarget ("Sink: parquet -> " ++ quotedPath output)
      match ColumnarSink.create t.store output batchSize with
      | .error e => (t, .error e)
      | .ok (s, store) =>
        let t := { t with store }
        match columns with
        | none => (t, .ok (.columnar s))
        | some cs =>
          match s.withColumns cs with
          | .ok s => (t, .ok (.columnar s))
          | .error e => (t, .error e)

/-- Opens the input. -/
def openInput (store : FileStore) (plan : RunPlan) (input : String) (t : Transcript) :
    Transcript × Except Failure Opened :=
  let opening := "Input: Failed to open " ++ quotedPath input
  match store.open? input with
  | .error e => (t, .error ((Failure.of e.message).context opening))
  | .ok d =>
    match plan.inputFormat with
    | .jsonl => (t, .ok { items := (records (JsonLinesCursor.ofData d)).1 })
    | .parquet =>
      match ParquetCursor.ofData d plan.batchSize with
      | .error e => (t, .error ((Failure.ofCursor e).context opening))
      | .ok c =>
        let columns := Exact.intText c.columns.length
        let t := t.log .debug readerTarget ("Parquet: opened path=" ++ input ++ " columns=" ++ columns)
        let t := t.log .info pipelineTarget ("Input: " ++ columns ++ " columns")
        (t, .ok { items := (records c).1, columns := some c.columns, rowCount := some c.pending.length })

/-- What a run ends with: the transcript, what the sink wrote to the standard output, and the
counts or the failure that stopped it. -/
structure RunResult where
  transcript : Transcript
  stdout : String := ""
  outcome : Except Failure RunStats

/-- Runs the pipeline over the files of the store. -/
def run (store : FileStore) (o : Options) (plan : RunPlan) (format : OutputFormat) : RunResult :=
  let t : Transcript := { store }
  let t := t.logAll ((buildNotes plan.filter .dynamic plan.grammar).map CompileNote.logLine)
  match CompiledFilter.build plan.filter .dynamic plan.grammar with
  | .error e =>
    { transcript := t
      outcome := .error ((Failure.of e.message).context ("Filter: Failed to compile " ++ Text.literal plan.filter)) }
  | .ok f =>
    let t := t.log .info pipelineTarget ("Filter: " ++ f.expr.render)
    match openInput t.store plan o.input t with
    | (t, .error e) => { transcript := t, outcome := .error e }
    | (t, .ok input) =>
      match openSink format o.output plan.batchSize input.columns t with
      | (t, .error e) => { transcript := t, outcome := .error e }
      | (t, .ok sink) =>
        let (s, res) := filterRows f plan o.verbose sink input t
        let (sink, outcome) : Output × Except Failure RunStats := match res with
          | .error e => (s.sink, .error e)
          | .ok () =>
            let (sink, fin) := s.sink.finish
            (sink, match fin with
              | .ok () => .ok s.stats
              | .error e => .error (e.context "Pipeline: Failed to finalize sink"))
        let lost := match outcome with
          | .ok _ =>
            if sink.dropped > 0 then
              [⟨.warn, writerTarget, "Sink: " ++ Exact.intText sink.dropped ++
                " values did not fit their parquet column and were written as null"⟩]
            else []
          | .error _ => []
        let transcript := { s.transcript.logAll lost with store := sink.store s.transcript.store }
        { transcript, stdout := sink.stdoutText, outcome }

end Strainer.Pipeline
