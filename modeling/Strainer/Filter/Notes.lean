import Strainer.Filter.Compiled

/-!
# What compiling a filter reports

Compiling a filter reports what it does with the operands it reads, for a reader tracing the
compiler: an operand dropped because a tree is built and no operator waits for it, and every
node built, in the order they are built. When the filter stops at a `)` that closes no group,
the rest of the text is reported as ignored, with the byte it starts at. Once a filter compiles
for use, its text and tree are reported together.

The notes follow the steps `Compiler.level` takes, up to the first step that fails: the result
they come with is the compiler's own.
-/

namespace Strainer.Filter

/-- A note of the compiler. -/
inductive CompileNote where
  /-- An operand read with a tree built and no operator waiting. -/
  | dropped (operand : Expr)
  /-- A node built from a waiting operator. -/
  | combined (node : Expr)
  /-- Text left after a `)` that closes no group, and the byte it starts at. -/
  | ignored (position : Nat) (rest : String)
  /-- A filter compiled for use, from its text. -/
  | compiled (source : String) (expr : Expr)
  deriving DecidableEq

namespace Compiler

/-- The nodes waiting operators build from an operand, the most recent operator first, up to
the first that cannot be built. -/
def builtNodes : Option Expr → List Operator → Expr → List Expr
  | _, [], _ => []
  | current, op :: ops, operand =>
    let node := match current with
      | some left => binary op left operand
      | none => unary op operand
    match node with
    | .ok node => node :: builtNodes (some node) ops operand
    | .error _ => []

/-- The notes of folding an operand into a level. -/
def combineNotes (current : Option Expr) (pending : List Operator) (operand : Expr) :
    List CompileNote :=
  match current, pending with
  | none, [] => []
  | some _, [] => [.dropped operand]
  | _, ops => (builtNodes current ops operand).map .combined

/-- `Compiler.level` with the notes of its steps. -/
def levelNotes (c : Compiler) : Nat → Nat → List Char → Nat → Option Expr → List Operator →
    List CompileNote × Except CompileError (Option Expr × List Char × Nat)
  | 0, _, cs, pos, current, _ => ([], .ok (current, cs, pos))
  | _ + 1, _, [], pos, current, _ => ([], .ok (current, [], pos))
  | fuel + 1, depth, ch :: rest, pos, current, pending =>
    let next (operand : Except CompileError Expr) (after : List Char) (pos' : Nat) :
        List CompileNote × Except CompileError (Option Expr × List Char × Nat) :=
      match operand with
      | .error e => ([], .error e)
      | .ok operand =>
        let notes := combineNotes current pending operand
        match combine current pending operand with
        | .error e => (notes, .error e)
        | .ok current =>
          let (more, r) := c.levelNotes fuel depth after pos' current []
          (notes ++ more, r)
    if Text.isAsciiBlank ch then c.levelNotes fuel depth rest (pos + 1) current pending
    else if isOperatorSymbol ch then
      let (run, after) := Scanner.operatorRun (ch :: rest)
      match c.grammar.operator? (String.ofList run) with
      | some op => c.levelNotes fuel depth after (pos + run.length) current (op :: pending)
      | none => ([], .error (.unrecognizedOperator (String.ofList run) pos))
    else if ch = '(' then
      if depth ≥ maxDepth then ([], .error (.nestingTooDeep maxDepth))
      else
        match c.levelNotes fuel (depth + 1) rest (pos + 1) none [] with
        | (inner, .error e) => (inner, .error e)
        | (inner, .ok (none, _, _)) => (inner, .error .emptyExpression)
        | (inner, .ok (some group, after, pos')) =>
          let (more, r) := match after with
            | _ :: more => next (.ok group) more (pos' + 1)
            | [] => next (.ok group) [] pos'
          (inner ++ more, r)
    else if ch = ')' then ([], .ok (current, ch :: rest, pos))
    else if ch = '[' then
      let (name, after) := Scanner.delimited ']' rest
      next (c.bindField (String.ofList name)) after (pos + 2 + Text.byteCount name)
    else if ch = '\'' then
      let (body, after) := Scanner.delimited '\'' rest
      next (.ok (.literal (.string (String.ofList body)))) after (pos + 2 + Text.byteCount body)
    else if ch = '#' then
      let (body, after) := Scanner.delimited '#' rest
      next (dateLiteral body pos) after (pos + 2 + Text.byteCount body)
    else if ch.isDigit then
      let (digits, after) := Scanner.digitRun (ch :: rest)
      next (numberLiteral digits pos) after (pos + digits.length)
    else c.levelNotes fuel depth rest (pos + ch.utf8Size) current pending

/-- The notes of compiling filter text, with the text left unread when compiling stops early. -/
def compileNotes (c : Compiler) (text : String) : List CompileNote :=
  let cs := text.toList
  match c.levelNotes (cs.length + 1) 0 cs 0 none [] with
  | (notes, .ok (_, rest@(_ :: _), pos)) => notes ++ [.ignored pos (String.ofList rest)]
  | (notes, _) => notes

end Compiler

/-- The notes of compiling a filter for use: the compiler's, then the filter compiled, when it
is. -/
def buildNotes (source : String) (shape : Shape) (grammar : Grammar) : List CompileNote :=
  let notes := (Compiler.mk shape grammar).compileNotes source
  match compileWith source shape grammar with
  | .ok e => notes ++ [.compiled source e]
  | .error _ => notes

end Strainer.Filter
