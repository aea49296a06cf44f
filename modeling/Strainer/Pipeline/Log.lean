import Strainer.Text.Blank

/-!
# Log lines

A run logs lines at a level (error, warn, info, debug, trace, from most to least severe) under a
target, the part of the program that speaks: `rowsift` for the command itself and
`rowsift::app` for the pipeline. What reaches the standard error is chosen by a filter of
directives, comma-separated: a level alone (`info`) sets it for every target, `target=level`
for the targets that start with `target`, and a target alone enables all its levels. The
directive of the longest matching target decides, the last of equal ones; a line that no
directive matches is dropped. Without directives, one default level holds for all.

What a run writes to the standard error is its log lines and other text, in order.
-/

namespace Strainer.Pipeline

/-- How severe a log line is. -/
inductive Level where
  | error
  | warn
  | info
  | debug
  | trace
  deriving DecidableEq, Repr

namespace Level

/-- Lower is more severe. -/
def rank : Level → Nat
  | error => 1
  | warn => 2
  | info => 3
  | debug => 4
  | trace => 5

def name : Level → String
  | error => "ERROR"
  | warn => "WARN"
  | info => "INFO"
  | debug => "DEBUG"
  | trace => "TRACE"

end Level

/-- A logged line. -/
structure LogLine where
  level : Level
  target : String
  message : String
  deriving DecidableEq, Repr

/-- The line as the standard error shows it, without its time stamp. -/
def LogLine.render (l : LogLine) : String := l.level.name ++ " " ++ l.target ++ ": " ++ l.message

/-- What a run writes to the standard error. -/
inductive Note where
  | log (line : LogLine)
  | text (s : String)
  deriving DecidableEq, Repr

/-- A directive: the target it is for (every target if none), and the least severe rank it
lets through (zero lets nothing through). -/
structure Directive where
  target : Option String
  upTo : Nat
  deriving DecidableEq, Repr

/-- The rank a level name (any case) or digit `0` to `5` stands for. -/
def rankOfName? (s : String) : Option Nat :=
  match String.ofList (Text.asciiLower s.toList) with
  | "off" | "0" => some 0
  | "error" | "1" => some 1
  | "warn" | "2" => some 2
  | "info" | "3" => some 3
  | "debug" | "4" => some 4
  | "trace" | "5" => some 5
  | _ => none

/-- Reads one directive. -/
def Directive.parse? (s : String) : Option Directive :=
  match rankOfName? s with
  | some r => some ⟨none, r⟩
  | none =>
    match s.splitOn "=" with
    | [t] => if t.isEmpty then none else some ⟨some t, 5⟩
    | [t, l] =>
      if t.isEmpty then none
      else if l.isEmpty then some ⟨some t, 5⟩
      else (rankOfName? l).map fun r => ⟨some t, r⟩
    | _ => none

/-- A set of directives. -/
abbrev LogFilter := List Directive

/-- The filter a specification gives, or the default level alone if it gives no directive. -/
def LogFilter.ofSpec (spec : String) (default : Level) : LogFilter :=
  let ds := ((spec.splitOn ",").filter (· ≠ "")).filterMap Directive.parse?
  if ds.isEmpty then [⟨none, default.rank⟩] else ds

/-- Does the filter let the line through? -/
def LogFilter.allows (f : LogFilter) (l : LogLine) : Bool :=
  let width (d : Directive) : Option Nat := match d.target with
    | none => some 0
    | some t => if l.target.startsWith t then some t.length else none
  let best := f.foldl (fun acc d =>
    match width d, acc with
    | some w, some (bw, _) => if w ≥ bw then some (w, d) else acc
    | some w, none => some (w, d)
    | none, _ => acc) none
  match best with
  | some (_, d) => l.level.rank ≤ d.upTo
  | none => false

end Strainer.Pipeline
