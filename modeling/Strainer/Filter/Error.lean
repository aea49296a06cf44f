import Strainer.Filter.Expr

/-!
# Filter errors

Why a filter failed to compile, and why one evaluation of a compiled filter failed. Each cause
is a constructor; its text is given once, by `message`.
-/

namespace Strainer.Filter

/-- The literal kinds named by a malformed-literal error. -/
inductive LiteralKind where
  | number
  | string
  | date
  deriving DecidableEq, Repr

def LiteralKind.name : LiteralKind → String
  | .number => "number"
  | .string => "string"
  | .date => "date"

/-- Why filter text failed to compile. Positions are byte offsets into the text. -/
inductive CompileError where
  | unrecognizedOperator (symbol : String) (position : Nat)
  | malformedLiteral (kind : LiteralKind) (text : String) (position : Nat)
  | unknownField (name : String)
  | typeMismatch (source target : Kind) (op : Operator)
  | misplacedOperator (op : Operator)
  | notBoolean (found : Kind)
  | emptyExpression
  | nestingTooDeep (depth : Nat)
  /-- A date literal whose UTC instant lies past the year range: no value can stand for it. -/
  | dateOutOfRange
  deriving DecidableEq, Repr

namespace CompileError

def message : CompileError → String
  | unrecognizedOperator s p =>
    "Unrecognized operator '" ++ s ++ "' at position " ++ Exact.intText p
  | malformedLiteral k t p =>
    "Malformed " ++ k.name ++ " literal '" ++ t ++ "' at position " ++ Exact.intText p
  | unknownField n => "Unknown field '" ++ n ++ "'"
  | typeMismatch s t op =>
    "Type mismatch: cannot use " ++ s.name ++ " as " ++ t.name ++ " with operator '" ++
      op.symbol ++ "'"
  | misplacedOperator op => "Operator '" ++ op.symbol ++ "' has no valid operand arrangement here"
  | notBoolean k => "Filter must evaluate to a boolean, found " ++ k.name
  | emptyExpression => "Filter expression is empty"
  | nestingTooDeep d => "Groups nested deeper than " ++ Exact.intText d ++ " levels"
  | dateOutOfRange => ConvertError.dateOutOfRange.message

/-- The name of the cause, as error reports tag it. -/
def label : CompileError → String
  | unrecognizedOperator _ _ => "UnrecognizedOperator"
  | malformedLiteral _ _ _ => "MalformedLiteral"
  | unknownField _ => "UnknownField"
  | typeMismatch _ _ _ => "TypeMismatch"
  | misplacedOperator _ => "MisplacedOperator"
  | notBoolean _ => "NotBoolean"
  | emptyExpression => "EmptyExpression"
  | nestingTooDeep _ => "NestingTooDeep"
  | dateOutOfRange => "DateOutOfRange"

/-- Does this failure stand for an instant no value can represent? -/
def isDateOutOfRange : CompileError → Bool
  | dateOutOfRange => true
  | _ => false

end CompileError

/-- Why one evaluation failed. -/
inductive EvalError where
  | unresolvedMember (name : String)
  | notBoolean (found : Option Kind)
  | conversion (e : ConvertError)
  deriving DecidableEq, Repr

namespace EvalError

def message : EvalError → String
  | unresolvedMember n => "Member '" ++ n ++ "' could not be resolved on this instance"
  | notBoolean k => "Expected a boolean operand, found " ++ (k.map Kind.name).getD "null"
  | conversion e => e.message

/-- The name of the cause, as error reports tag it; a failed conversion adds the conversion's. -/
def label : EvalError → String
  | unresolvedMember _ => "UnresolvedMember"
  | notBoolean _ => "NotBoolean"
  | conversion e => "Convert." ++ e.label

/-- Does this failure stand for an instant no value can represent? -/
def isDateOutOfRange : EvalError → Bool
  | conversion .dateOutOfRange => true
  | _ => false

end EvalError

end Strainer.Filter
