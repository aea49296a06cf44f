/-!
# Operators and grammars

Filter operators and the two operator tables. A table looks up a whole run of operator symbols
exactly: `!=` is not-equal, never `!` followed by `=`. The tables differ only in the bare `<`,
which the compatible grammar reads as `<=` and the strict grammar as a strict less-than.
-/

namespace Strainer.Filter

/-- The operators of the filter language. -/
inductive Operator where
  | not
  | notEqual
  | equal
  | greaterThan
  | greaterOrEqual
  | lessThan
  | lessOrEqual
  | and
  | or
  deriving DecidableEq, Repr, Inhabited

namespace Operator

/-- The symbol of an operator. -/
def symbol : Operator → String
  | not => "!"
  | notEqual => "!="
  | equal => "=="
  | greaterThan => ">"
  | greaterOrEqual => ">="
  | lessThan => "<"
  | lessOrEqual => "<="
  | and => "&&"
  | or => "||"

/-- The name of an operator's variant. -/
def variantName : Operator → String
  | not => "Not"
  | notEqual => "NotEqual"
  | equal => "Equal"
  | greaterThan => "GreaterThan"
  | greaterOrEqual => "GreaterOrEqual"
  | lessThan => "LessThan"
  | lessOrEqual => "LessOrEqual"
  | and => "And"
  | or => "Or"

/-- `&&` and `||` take boolean operands and never convert them. -/
def isConnective : Operator → Bool
  | and | or => true
  | _ => false

/-- Everything but the connectives and `!`. -/
def isComparison (op : Operator) : Bool :=
  !op.isConnective && op != not

end Operator

/-- The characters operator runs are made of. -/
def isOperatorSymbol (c : Char) : Bool :=
  c = '!' ∨ c = '=' ∨ c = '>' ∨ c = '<' ∨ c = '&' ∨ c = '|'

/-- An operator table. -/
inductive Grammar where
  /-- A bare `<` reads as `<=`. -/
  | compatible
  /-- A bare `<` is a strict less-than. -/
  | strict
  deriving DecidableEq, Repr, Inhabited

namespace Grammar

/-- The name of a grammar's variant. -/
def variantName : Grammar → String
  | compatible => "Compatible"
  | strict => "Strict"

/-- Exact lookup of an operator run. -/
def operator? (g : Grammar) (symbol : String) : Option Operator :=
  match symbol with
  | "!" => some .not
  | "!=" => some .notEqual
  | "==" => some .equal
  | ">" => some .greaterThan
  | ">=" => some .greaterOrEqual
  | "<" => some (match g with | compatible => .lessOrEqual | strict => .lessThan)
  | "<=" => some .lessOrEqual
  | "&&" => some .and
  | "||" => some .or
  | _ => none

/-- ASCII lower case. -/
private def lower (s : String) : String :=
  String.ofList (s.toList.map fun c => if 'A' ≤ c ∧ c ≤ 'Z' then Char.ofNat (c.toNat + 32) else c)

/-- Reads a grammar name in any ASCII case. -/
def parse (s : String) : Except String Grammar :=
  match lower s with
  | "compatible" => .ok compatible
  | "strict" => .ok strict
  | _ => .error ("invalid grammar: " ++ s)

end Grammar

end Strainer.Filter
