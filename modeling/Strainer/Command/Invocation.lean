import Strainer.Pipeline.Run

/-!
# One invocation of the command

What the command does when it is run with some arguments: it reads the command line (a bad one
exits with status 2; help and version are printed to the standard output with status 0),
settles the plan, logs it, runs the pipeline, warns of rows it could not test and logs the
count of rows matched. A failure exits with status 1 and a report on the standard error: the
failure, then its causes.

Log lines at info level and above are written with `--verbose`, warnings and above without;
a log specification, when given, chooses instead (see `LogFilter`). The time a run took is
measured outside and given in nanoseconds.
-/

namespace Strainer.Command

open Pipeline

/-- The surroundings of an invocation. -/
structure Invocation where
  args : List String
  /-- The value of the filters file's environment variable, if it is set. -/
  filtersVar : Option String := none
  /-- The log specification, if one is set. -/
  logSpec : Option String := none
  workdir : String
  store : FileStore

/-- How an invocation ends. -/
structure Exit where
  status : Nat
  stdout : String := ""
  stderr : String := ""
  store : FileStore

/-- The target of the command's own log lines. -/
def commandTarget : String := "rowsift"

/-- Seconds with two decimals, from nanoseconds. -/
def secondsText (nanos : Nat) : String :=
  let centis := (nanos + 5000000) / 10000000
  let frac := centis % 100
  Exact.intText (centis / 100) ++ "." ++ (if frac < 10 then "0" else "") ++ Exact.intText frac

/-- Rows per second, cut to a whole number; an instant run of some rows counts as the most a
64-bit counter holds, and of none as zero. -/
def rowsPerSecond (rows nanos : Nat) : Nat :=
  if nanos = 0 then (if rows = 0 then 0 else Nat.pow 2 64 - 1)
  else min (rows * 1000000000 / nanos) (Nat.pow 2 64 - 1)

/-- The last log line of a run. -/
def doneMessage (s : RunStats) (nanos : Nat) : String :=
  "Done! Matched " ++ Exact.intText s.matched ++ " of " ++ Exact.intText s.scanned ++ " rows in " ++
    secondsText nanos ++ "s (" ++ Exact.intText (rowsPerSecond s.scanned nanos) ++ " rows/s)"

/-- The notes as the standard error shows them, log lines chosen by the filter. -/
def notesText (f : LogFilter) (notes : List Note) : String :=
  String.join (notes.map fun
    | .log l => if f.allows l then l.render ++ "\n" else ""
    | .text s => s)

/-- How an invocation ends before the time it took is known: the exit so far, the log filter,
and the counts of a run that succeeded. -/
structure Ending where
  exit : Exit
  filter : LogFilter := []
  stats : Option RunStats := none

/-- The exit, with the closing log lines of a run that succeeded. -/
def Ending.close (e : Ending) (nanos : Nat) : Exit :=
  match e.stats with
  | none => e.exit
  | some stats =>
    let warned : List Note := if stats.failed > 0 then
        [.log ⟨.warn, commandTarget, Exact.intText stats.failed ++ " rows could not be evaluated"⟩]
      else []
    let done : Note := .log ⟨.info, commandTarget, doneMessage stats nanos⟩
    { e.exit with stderr := e.exit.stderr ++ notesText e.filter (warned ++ [done]) }

/-- Runs the command up to its closing log lines. -/
def Invocation.start (inv : Invocation) : Ending :=
  match Options.parse inv.filtersVar inv.args with
  | .error e =>
    if e.isRequestedText then ⟨{ status := 0, stdout := e.render, store := inv.store }, [], none⟩
    else if let .internal _ := e then ⟨{ status := 101, stderr := e.render, store := inv.store }, [], none⟩
    else ⟨{ status := 2, stderr := e.render, store := inv.store }, [], none⟩
  | .ok o =>
    let filter := LogFilter.ofSpec (inv.logSpec.getD "") (if o.verbose then .info else .warn)
    let fail (notes : List Note) (store : FileStore) (f : Failure) : Ending :=
      ⟨{ status := 1, stderr := notesText filter notes ++ f.report, store }, filter, none⟩
    match RunPlan.resolve inv.store inv.workdir o with
    | .error f => fail [] inv.store f
    | .ok plan =>
      match OutputFormat.resolve o with
      | .error f => fail [] inv.store f
      | .ok format =>
        let opening : Note := .log ⟨.info, commandTarget,
          "Input: " ++ quotedPath o.input ++ " (" ++ plan.inputFormat.label ++ "), grammar " ++
            plan.grammar.variantName ++ ", batch size " ++ Exact.intText plan.batchSize⟩
        let r := Pipeline.run inv.store o plan format
        let notes := opening :: r.transcript.notes.toList
        match r.outcome with
        | .error f =>
          let e := fail notes r.transcript.store f
          { e with exit := { e.exit with stdout := r.stdout } }
        | .ok stats =>
          ⟨{ status := 0, stdout := r.stdout, stderr := notesText filter notes, store := r.transcript.store },
            filter, some stats⟩

/-- Runs the command, which took `nanos` nanoseconds. -/
def Invocation.run (inv : Invocation) (nanos : Nat) : Exit := inv.start.close nanos

end Strainer.Command
