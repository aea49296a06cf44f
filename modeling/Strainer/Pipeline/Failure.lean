import Strainer.Rows.Error
import Strainer.Text.Literal

/-!
# Failures of a run

A failure of the pipeline is a chain of texts: what was being done, then what went wrong, then
the cause of that, outermost first. It is shown on one line with the links joined by `: `, or as
a report with the causes listed below the first text.
-/

namespace Strainer.Pipeline

/-- A chain of failure texts, outermost first. -/
structure Failure where
  chain : List String
  deriving DecidableEq, Repr

namespace Failure

def of (text : String) : Failure := ⟨[text]⟩

/-- The failure with what was being done put in front. -/
def context (what : String) (f : Failure) : Failure := ⟨what :: f.chain⟩

/-- The chain on one line. -/
def text (f : Failure) : String := ": ".intercalate f.chain

/-- The chain as a report: the first text, then its causes, numbered when there are several. -/
def report (f : Failure) : String :=
  match f.chain with
  | [] => "Error: \n"
  | [m] => "Error: " ++ m ++ "\n"
  | [m, c] => "Error: " ++ m ++ "\n\nCaused by:\n    " ++ c ++ "\n"
  | m :: cs =>
    "Error: " ++ m ++ "\n\nCaused by:\n" ++
      String.join (((List.range cs.length).zip cs).map fun (i, c) =>
        "    " ++ Exact.intText i ++ ": " ++ c ++ "\n")

end Failure

/-- A row source failure as a chain: a line of JSON that does not parse names the parse error
as its cause. -/
def Failure.ofCursor (e : Rows.CursorError) : Failure :=
  match e with
  | .json _ j => ⟨[e.message, j.message]⟩
  | _ => .of e.message

/-- A path as it is quoted in failure texts. -/
def quotedPath (path : String) : String := Text.literal path

end Strainer.Pipeline
