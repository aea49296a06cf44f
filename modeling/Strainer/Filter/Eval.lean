import Strainer.Filter.Error

/-!
# Evaluating filters

A compiled tree is evaluated against a record that can read its bound fields (`Target`).

* A conversion directly above a field asks the record for that kind, so a record can apply
  its own null and conversion rules; any other conversion converts the evaluated operand.
* `!`, `&&` and `||` need boolean operands and the connectives stop at the first operand that
  decides them.
* A comparison evaluates both sides. A null on either side decides it: `==` holds when both are
  null, `!=` when not both are, every other comparison fails. Otherwise a left side of another
  kind than the right is converted to the right's kind, and the sides are ordered; unordered
  sides (NaN, say) satisfy `!=` and nothing else.
-/

namespace Strainer.Filter

/-- What a compiled filter reads fields from: the field's value, converted to `requested` when
one is given. -/
class Target (α : Type) where
  read : α → FieldRef → Option Kind → Except EvalError Value

/-- Converts, reporting a failure as an evaluation error. -/
def convertValue (v : Value) (k : Kind) : Except EvalError Value :=
  match v.convert k with
  | .ok w => .ok w
  | .error e => .error (.conversion e)

/-- The boolean a connective needs. -/
def truth (v : Value) : Except EvalError Bool :=
  match v with
  | .bool b => .ok b
  | other => .error (.notBoolean other.kind)

/-- The outcome of comparing two evaluated operands. -/
def compareValues (op : Operator) (left right : Value) : Except EvalError Bool :=
  if left.isNull ∨ right.isNull then
    let both := left.isNull ∧ right.isNull
    .ok (match op with
      | .equal => both
      | .notEqual => !both
      | _ => false)
  else do
    let left ← match left.kind, right.kind with
      | some l, some r => if l = r then pure left else convertValue left r
      | _, _ => pure left
    let o := left.compareTo right
    pure (match op with
      | .equal => o = some .eq
      | .notEqual => o ≠ some .eq
      | .greaterThan => o = some .gt
      | .greaterOrEqual => o = some .gt ∨ o = some .eq
      | .lessThan => o = some .lt
      | .lessOrEqual => o = some .lt ∨ o = some .eq
      | _ => false)

namespace Expr

variable {α : Type} [Target α]

/-- The value of a tree on a record. -/
def eval (r : α) : Expr → Except EvalError Value
  | literal v => .ok v
  | field f => Target.read r f none
  | convert (field f) t => Target.read r f (some t)
  | convert e t => do convertValue (← eval r e) t
  | unary _ e => do .ok (.bool !(← truth (← eval r e)))
  | binary .and l rhs => do
    if !(← truth (← eval r l)) then pure (.bool false)
    else pure (.bool (← truth (← eval r rhs)))
  | binary .or l rhs => do
    if ← truth (← eval r l) then pure (.bool true)
    else pure (.bool (← truth (← eval r rhs)))
  | binary op l rhs => do
    let a ← eval r l
    let b ← eval r rhs
    pure (.bool (← compareValues op a b))

/-- Whether a record passes a filter: the tree's value, which must be a boolean. -/
def test (e : Expr) (r : α) : Except EvalError Bool := do
  truth (← e.eval r)

end Expr

end Strainer.Filter
