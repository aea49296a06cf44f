import Strainer.Number.Exact

/-!
# Progress counter

A count of rows with a line on the error stream that is redrawn (after a carriage return) each
time the count crosses a multiple of the interval, once when the counter starts, and once more,
with a line end, when it finishes. A disabled counter counts but writes nothing.
-/

namespace Strainer.Pipeline

/-- A counter of rows and the text it has written so far. -/
structure ProgressCounter where
  label : String
  /-- Redraw every `interval` rows; at least one. -/
  interval : Nat
  count : Nat
  enabled : Bool
  /-- What the counter has written. -/
  written : String

namespace ProgressCounter

/-- The redrawn line for a count. -/
def line (c : ProgressCounter) (n : Nat) : String :=
  if c.enabled then "\r" ++ c.label ++ ": " ++ Exact.intText n else ""

/-- A counter at zero, which draws its line. -/
def new (label : String) (interval : Nat) (enabled : Bool) : ProgressCounter :=
  let c : ProgressCounter := ⟨label, max interval 1, 0, enabled, ""⟩
  { c with written := c.line 0 }

/-- Counts `delta` more rows; the line is redrawn when a multiple of the interval is crossed. -/
def inc (c : ProgressCounter) (delta : Nat) : ProgressCounter :=
  let current := c.count + delta
  let c' := { c with count := current }
  if c.count / c.interval < current / c.interval then
    { c' with written := c.written ++ c.line current }
  else c'

/-- Draws the final count and ends the line. -/
def finish (c : ProgressCounter) : ProgressCounter :=
  if c.enabled then { c with written := c.written ++ c.line c.count ++ "\n" } else c

end ProgressCounter

end Strainer.Pipeline
