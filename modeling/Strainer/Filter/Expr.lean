import Strainer.Filter.Operator
import Strainer.Value.Convert

/-!
# Expression trees

A compiled filter is a tree of literals, field references, conversions and operator nodes. A
field is bound either to a position of a static shape (with its kind known) or by name, to be
looked up on each record. Every node has a static kind when it can be known: operator nodes are
boolean, a conversion has its target kind, a field bound by name has none.

The text of a tree shows every grouping: `(left op right)`, `!operand`, `kind(operand)`,
`[name]`, string literals in single quotes and date literals between `#`.
-/

namespace Strainer.Filter

/-- A declared field of a static shape. -/
structure FieldDef where
  name : String
  kind : Kind
  deriving DecidableEq, Repr

/-- What fields are bound against. -/
inductive Shape where
  /-- Fields known up front; an unknown name fails to compile. -/
  | static (fields : List FieldDef)
  /-- Members looked up by name on each record when the filter runs. -/
  | dynamic
  deriving DecidableEq, Repr

/-- A bound field reference. -/
inductive FieldRef where
  /-- The field at `index` of a static shape. -/
  | bound (name : String) (index : Nat) (kind : Kind)
  /-- A member looked up by name. -/
  | byName (name : String)
  deriving DecidableEq, Repr

namespace FieldRef

def name : FieldRef → String
  | bound n _ _ => n
  | byName n => n

end FieldRef

/-- A compiled filter expression. -/
inductive Expr where
  | literal (v : Value)
  | field (f : FieldRef)
  /-- The operand converted to `target`, the kind of the other side of a comparison. -/
  | convert (operand : Expr) (target : Kind)
  | binary (op : Operator) (left right : Expr)
  | unary (op : Operator) (operand : Expr)
  deriving DecidableEq, Inhabited

namespace Expr

/-- The static kind of a node; `none` when it depends on a member looked up by name (or on a
null literal). -/
def kind : Expr → Option Kind
  | literal v => v.kind
  | field (.bound _ _ k) => some k
  | field (.byName _) => none
  | convert _ t => some t
  | binary _ _ _ => some .bool
  | unary _ _ => some .bool

/-- The text of a tree, with every grouping shown. -/
def render : Expr → String
  | literal (.string s) => "'" ++ s ++ "'"
  | literal (.dateTime t) => "#" ++ t.render ++ "#"
  | literal v => v.display
  | field f => "[" ++ f.name ++ "]"
  | convert e t => t.name ++ "(" ++ e.render ++ ")"
  | binary op l r => "(" ++ l.render ++ " " ++ op.symbol ++ " " ++ r.render ++ ")"
  | unary op e => op.symbol ++ e.render

end Expr

end Strainer.Filter
