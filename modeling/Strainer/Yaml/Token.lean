/-!
# YAML tokens

The tokens a YAML scanner produces, each with the position where it starts. Positions count
characters from zero and lines from one; an error names its position with the column counted
from one.
-/

namespace Strainer.Yaml

/-- A position in the text. -/
structure Mark where
  index : Nat := 0
  line : Nat := 1
  col : Nat := 0
  deriving DecidableEq, Repr

/-- Why a YAML text could not be read, and where. -/
structure ScanError where
  mark : Mark
  info : String
  deriving DecidableEq, Repr

def ScanError.message (e : ScanError) : String :=
  e.info ++ " at byte " ++ toString e.mark.index ++ " line " ++ toString e.mark.line ++
    " column " ++ toString (e.mark.col + 1)

/-- How a scalar was written. -/
inductive ScalarStyle where
  | plain
  | singleQuoted
  | doubleQuoted
  | literal
  | folded
  deriving DecidableEq, Repr

/-- What a token is. -/
inductive TokenKind where
  | streamStart
  | streamEnd
  | directive
  | documentStart
  | documentEnd
  | blockSequenceStart
  | blockMappingStart
  | blockEnd
  | flowSequenceStart
  | flowSequenceEnd
  | flowMappingStart
  | flowMappingEnd
  | blockEntry
  | flowEntry
  | key
  | value
  /-- An alias, `*name`. -/
  | reference (name : String)
  | anchor (name : String)
  | tag (handle suffix : String)
  | scalar (style : ScalarStyle) (text : String)
  deriving DecidableEq, Repr

/-- A token and where it starts. -/
structure Token where
  mark : Mark
  kind : TokenKind
  deriving DecidableEq, Repr

/-- Line breaks. -/
def isBreak (c : Char) : Bool := c == '\n' || c == '\r'

/-- The end of the text reads as the character zero. -/
def isEnd (c : Char) : Bool := c == '\x00'

def isBreakOrEnd (c : Char) : Bool := isBreak c || isEnd c

def isBlank (c : Char) : Bool := c == ' ' || c == '\t'

def isBlankOrEnd (c : Char) : Bool := isBlank c || isBreakOrEnd c

/-- The indicators of flow collections. -/
def isFlow (c : Char) : Bool := c == ',' || c == '[' || c == ']' || c == '{' || c == '}'

/-- Letters, digits, `_` and `-`. -/
def isWordChar (c : Char) : Bool := c.isAlphanum || c == '_' || c == '-'

def hexValue? (c : Char) : Option Nat :=
  if '0' ≤ c ∧ c ≤ '9' then some (c.toNat - '0'.toNat)
  else if 'a' ≤ c ∧ c ≤ 'f' then some (c.toNat - 'a'.toNat + 10)
  else if 'A' ≤ c ∧ c ≤ 'F' then some (c.toNat - 'A'.toNat + 10)
  else none

end Strainer.Yaml
