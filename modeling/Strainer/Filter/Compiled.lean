import Strainer.Filter.Compile
import Strainer.Filter.Eval
import Strainer.Text.Literal

/-!
# Compiled filters

A compiled filter keeps the text it was compiled from beside its tree, so that it can be shown
and compared: two filters are equal when both their texts and their trees are.
-/

namespace Strainer.Filter

/-- A filter tree with the text it was compiled from. -/
structure CompiledFilter where
  source : String
  expr : Expr
  deriving DecidableEq

namespace CompiledFilter

/-- Compiles `source` against `shape` with `grammar`. -/
def build (source : String) (shape : Shape) (grammar : Grammar := .compatible) :
    Except CompileError CompiledFilter := do
  pure ⟨source, ← compileWith source shape grammar⟩

/-- Does a record pass the filter? -/
def test {α : Type} [Target α] (f : CompiledFilter) (r : α) : Except EvalError Bool :=
  f.expr.test r

/-- The filter described as a structure: its text and its tree's text, both as literals. -/
def summary (f : CompiledFilter) : String :=
  "Predicate \x7b source: " ++ Text.literal f.source ++ ", expr: " ++ Text.literal f.expr.render ++
    " \x7d"

end CompiledFilter

end Strainer.Filter
