import Mathlib.Tactic.SplitIfs
import Strainer.Filter.Compile

/-!
# Filter text as a token stream

A second reading of filter text, in two passes, against which the one-pass compiler is checked.

The text is first cut into tokens, left to right and longest first: a run of operator symbols,
`(` and `)`, a field name between `[` and `]`, a string between quotes, a date between `#`, and a
run of ASCII digits. A delimited token runs to its closing character or to the end of the text.
Every other character outside a token is skipped. Each token keeps the byte offset of its first
character, which is what errors report.

The tokens are then folded with one frame for each open group, innermost first. A frame holds
the tree of its level and the operators waiting for an operand. An operator is pushed on the
innermost frame and an operand is combined into it; `(` opens a frame; `)` closes the innermost
frame into the one around it or, at the top level, ends the filter and the tokens after it are
ignored. Groups still open when the text ends are closed in turn, innermost first.
-/

namespace Strainer.Filter

/-- A token that stands for an operand. -/
inductive Atom where
  | field (name : List Char)
  | string (body : List Char)
  | date (body : List Char)
  | number (digits : List Char)
  deriving DecidableEq, Repr

/-- A token of filter text. -/
inductive Token where
  | operator (run : List Char)
  | openGroup
  | closeGroup
  | atom (a : Atom)
  deriving DecidableEq, Repr

/-- A token and the byte offset of its first character. -/
structure Lexeme where
  token : Token
  pos : Nat
  deriving DecidableEq, Repr

namespace Token

/-- The token that `c` starts when `rest` follows it, and the text after the token; `none` when
`c` starts no token and is skipped. A delimited token drops its delimiters. -/
def read (c : Char) (rest : List Char) : Option Token × List Char :=
  if isOperatorSymbol c then
    (some (operator ((c :: rest).takeWhile isOperatorSymbol)),
      (c :: rest).dropWhile isOperatorSymbol)
  else if c.isDigit then
    (some (atom (.number ((c :: rest).takeWhile Char.isDigit))),
      (c :: rest).dropWhile Char.isDigit)
  else if c = '(' then (some openGroup, rest)
  else if c = ')' then (some closeGroup, rest)
  else if c = '[' then
    (some (atom (.field (rest.takeWhile (· ≠ ']')))), (rest.dropWhile (· ≠ ']')).drop 1)
  else if c = '\'' then
    (some (atom (.string (rest.takeWhile (· ≠ '\'')))), (rest.dropWhile (· ≠ '\'')).drop 1)
  else if c = '#' then
    (some (atom (.date (rest.takeWhile (· ≠ '#')))), (rest.dropWhile (· ≠ '#')).drop 1)
  else (none, rest)

/-- A token never reaches back: what follows it is a suffix of what followed its first
character. -/
theorem read_suffix (c : Char) (rest : List Char) : (read c rest).2 <:+ rest := by
  have hclose : ∀ close : Char, ((rest.dropWhile (· ≠ close)).drop 1) <:+ rest :=
    fun _ => (List.drop_suffix 1 _).trans (List.dropWhile_suffix _)
  unfold read
  split_ifs with hop hdigit
  · rw [List.dropWhile_cons_of_pos hop]; exact List.dropWhile_suffix _
  · rw [List.dropWhile_cons_of_pos hdigit]; exact List.dropWhile_suffix _
  · exact List.suffix_refl rest
  · exact List.suffix_refl rest
  · exact hclose ']'
  · exact hclose '\''
  · exact hclose '#'
  · exact List.suffix_refl rest

theorem length_read_lt (c : Char) (rest : List Char) :
    (read c rest).2.length < (c :: rest).length :=
  Nat.lt_succ_of_le (read_suffix c rest).length_le

end Token

/-- The tokens of `cs`, whose first character stands at byte offset `pos` of the text. -/
def tokenize (pos : Nat) (cs : List Char) : List Lexeme :=
  match cs with
  | [] => []
  | c :: rest =>
    let after := (Token.read c rest).2
    let next := tokenize (pos + (Text.byteCount (c :: rest) - Text.byteCount after)) after
    match (Token.read c rest).1 with
    | some t => ⟨t, pos⟩ :: next
    | none => next
termination_by cs.length
decreasing_by exact Token.length_read_lt c rest

@[simp] theorem tokenize_nil (pos : Nat) : tokenize pos [] = [] := by
  rw [tokenize]

/-- One open nesting level: the tree read so far and the operators waiting for an operand, the
most recent first. -/
structure Frame where
  current : Option Expr
  pending : List Operator

/-- Where the fold over the tokens stands. -/
inductive Fold where
  /-- Still reading, with the innermost open level on top of the levels around it. -/
  | reading (top : Frame) (outer : List Frame)
  /-- A `)` at the top level ended the filter; the tokens after it are ignored. -/
  | stopped (result : Option Expr)

namespace Frame

/-- The frame with an operand combined into it. -/
def feed (f : Frame) (operand : Expr) : Except CompileError Frame :=
  (Compiler.combine f.current f.pending operand).map (⟨·, []⟩)

/-- Closes the innermost group `f` into the frame `g` around it; a group must hold an operand. -/
def close (f g : Frame) : Except CompileError Frame :=
  match f.current with
  | none => .error .emptyExpression
  | some group => g.feed group

/-- Closes the groups still open when the text ends, innermost first. -/
def closeAll : Frame → List Frame → Except CompileError (Option Expr)
  | f, [] => .ok f.current
  | f, g :: outer => f.close g >>= fun g' => closeAll g' outer

end Frame

/-- The filter a fold ends with. -/
def Fold.finish : Fold → Except CompileError (Option Expr)
  | .stopped r => .ok r
  | .reading f outer => f.closeAll outer

namespace Compiler

variable (c : Compiler)

/-- The operand an atom at byte offset `pos` stands for: a bound field or a literal. -/
def atom (a : Atom) (pos : Nat) : Except CompileError Expr :=
  match a with
  | .field name => c.bindField (String.ofList name)
  | .string body => .ok (.literal (.string (String.ofList body)))
  | .date body => dateLiteral body pos
  | .number digits => numberLiteral digits pos

/-- One token of the fold. -/
def step : Fold → Lexeme → Except CompileError Fold
  | .stopped r, _ => .ok (.stopped r)
  | .reading f outer, ⟨.operator run, pos⟩ =>
    match c.grammar.operator? (String.ofList run) with
    | some op => .ok (.reading ⟨f.current, op :: f.pending⟩ outer)
    | none => .error (.unrecognizedOperator (String.ofList run) pos)
  | .reading f outer, ⟨.openGroup, _⟩ =>
    if maxDepth ≤ outer.length then .error (.nestingTooDeep maxDepth)
    else .ok (.reading ⟨none, []⟩ (f :: outer))
  | .reading f [], ⟨.closeGroup, _⟩ => .ok (.stopped f.current)
  | .reading f (g :: outer), ⟨.closeGroup, _⟩ => (f.close g).map (.reading · outer)
  | .reading f outer, ⟨.atom a, pos⟩ => (c.atom a pos >>= f.feed).map (.reading · outer)

/-- The fold over `ts` from the state `s`, finished when the tokens run out. -/
def resume (ts : List Lexeme) (s : Fold) : Except CompileError (Option Expr) :=
  ts.foldlM c.step s >>= Fold.finish

/-- The filter compiled from its tokens: the fold from one empty top-level frame. -/
def compileTokens (ts : List Lexeme) : Except CompileError (Option Expr) :=
  c.resume ts (.reading ⟨none, []⟩ [])

@[simp] theorem resume_nil (s : Fold) : c.resume [] s = s.finish := rfl

theorem resume_cons (t : Lexeme) (ts : List Lexeme) (s : Fold) :
    c.resume (t :: ts) s = c.step s t >>= c.resume ts := by
  simp only [resume, List.foldlM_cons, bind_assoc]
  rfl

/-- Once the top level is closed, no token changes the outcome. -/
@[simp] theorem resume_stopped (ts : List Lexeme) (r : Option Expr) :
    c.resume ts (.stopped r) = .ok r := by
  induction ts with
  | nil => rfl
  | cons t ts ih => rw [resume_cons]; exact ih

end Compiler

end Strainer.Filter
