import Strainer.Filter.Error
import Strainer.Filter.Scanner
import Strainer.Time.Parse
import Strainer.Text.Blank

/-!
# Compiling filter text

One pass over the text, with no precedence. Each nesting level keeps the tree built so far and
a stack of operators waiting for an operand; every operand read is folded in at once:

* with no tree and no operator waiting, the operand becomes the tree;
* with a tree and no operator waiting, the operand is dropped;
* otherwise every waiting operator, the most recent first, builds `tree op operand` (or
  `op operand` while there is no tree yet), all with the same operand.

So `[A] == 1 && [B] == 2` reads as `(([A] == 1) && [B]) == 2`, and groups are how filters say
anything else. A `)` ends a level; at the top level it ends the filter and the rest of the text
is ignored. Groups nest at most 256 deep.

Operands are checked as they are folded. `!` only ever applies to one operand, the connectives
need boolean operands where the kind is known, and a comparison converts its left operand to the
kind of its right one when that kind is known, if the kinds allow a conversion at all.
-/

namespace Strainer.Filter

/-- How deep groups may nest. -/
def maxDepth : Nat := 256

/-- What a filter is compiled against. -/
structure Compiler where
  shape : Shape
  grammar : Grammar

namespace Compiler

/-- A connective's operand must be boolean when its kind is known. -/
def requireBoolean (op : Operator) (e : Expr) : Except CompileError Unit :=
  match e.kind with
  | some k => if k = .bool then .ok () else .error (.typeMismatch k .bool op)
  | none => .ok ()

/-- The left operand of a comparison, converted to the kind of the right one when needed. -/
def coerce (op : Operator) (left : Expr) (target : Option Kind) : Except CompileError Expr :=
  match target with
  | none => .ok left
  | some t =>
    match left.kind with
    | some k =>
      if k = t then .ok left
      else if !k.canConvertTo t then .error (.typeMismatch k t op)
      else .ok (.convert left t)
    | none => .ok (.convert left t)

/-- The node `left op right`. -/
def binary (op : Operator) (left right : Expr) : Except CompileError Expr :=
  match op with
  | .not => .error (.misplacedOperator op)
  | .and | .or => do
    requireBoolean op left
    requireBoolean op right
    pure (.binary op left right)
  | _ => do
    let left ← coerce op left right.kind
    pure (.binary op left right)

/-- The node `op operand`. -/
def unary (op : Operator) (operand : Expr) : Except CompileError Expr :=
  if op = .not then do
    requireBoolean op operand
    pure (.unary op operand)
  else .error (.misplacedOperator op)

/-- Folds an operand into a level: `pending` lists the waiting operators, most recent first. -/
def combine (current : Option Expr) (pending : List Operator) (operand : Expr) :
    Except CompileError (Option Expr) :=
  match current, pending with
  | none, [] => .ok (some operand)
  | some _, [] => .ok current
  | _, ops =>
    ops.foldlM (fun acc op => match acc with
      | some left => some <$> binary op left operand
      | none => some <$> unary op operand) current

/-- Binds a field name against the shape. -/
def bindField (c : Compiler) (name : String) : Except CompileError Expr :=
  match c.shape with
  | .static fields =>
    match fields.findIdx? (·.name == name) with
    | some i =>
      match fields[i]? with
      | some f => .ok (.field (.bound name i f.kind))
      | none => .error (.unknownField name)
    | none => .error (.unknownField name)
  | .dynamic => .ok (.field (.byName name))

/-- The literal of a digit run at byte `pos`: a 32-bit integer. -/
def numberLiteral (digits : List Char) (pos : Nat) : Except CompileError Expr :=
  let n := Scanner.digitsValue digits
  if n ≤ 2147483647 then .ok (.literal (.int32 (Int32.ofNat n)))
  else .error (.malformedLiteral .number (String.ofList digits) pos)

/-- The literal of a date between `#` at byte `pos`. -/
def dateLiteral (body : List Char) (pos : Nat) : Except CompileError Expr :=
  match DateTime.read (String.ofList body) with
  | .ok t => .ok (.literal (.dateTime t))
  | .invalid => .error (.malformedLiteral .date (String.ofList body) pos)
  | .beyondRange => .error .dateOutOfRange

/-- One nesting level from text `cs` at byte `pos`, with the tree and waiting operators so far.
It ends at the end of the text or at a `)`, which is left in the returned rest. `fuel` bounds the
steps and is never the limit when it exceeds the length of the text. -/
def level (c : Compiler) : Nat → Nat → List Char → Nat → Option Expr → List Operator →
    Except CompileError (Option Expr × List Char × Nat)
  | 0, _, cs, pos, current, _ => .ok (current, cs, pos)
  | _ + 1, _, [], pos, current, _ => .ok (current, [], pos)
  | fuel + 1, depth, ch :: rest, pos, current, pending =>
    -- after an operand: fold it in, then go on after the token
    let next (operand : Except CompileError Expr) (after : List Char) (pos' : Nat) :
        Except CompileError (Option Expr × List Char × Nat) :=
      match operand >>= combine current pending with
      | .error e => .error e
      | .ok current => c.level fuel depth after pos' current []
    if Text.isAsciiBlank ch then c.level fuel depth rest (pos + 1) current pending
    else if isOperatorSymbol ch then
      let (run, after) := Scanner.operatorRun (ch :: rest)
      match c.grammar.operator? (String.ofList run) with
      | some op => c.level fuel depth after (pos + run.length) current (op :: pending)
      | none => .error (.unrecognizedOperator (String.ofList run) pos)
    else if ch = '(' then
      if depth ≥ maxDepth then .error (.nestingTooDeep maxDepth)
      else
        match c.level fuel (depth + 1) rest (pos + 1) none [] with
        | .error e => .error e
        | .ok (none, _, _) => .error .emptyExpression
        | .ok (some group, after, pos') =>
          match after with
          | _ :: more => next (.ok group) more (pos' + 1)
          | [] => next (.ok group) [] pos'
    else if ch = ')' then .ok (current, ch :: rest, pos)
    else if ch = '[' then
      let (name, after) := Scanner.delimited ']' rest
      next (c.bindField (String.ofList name)) after (pos + 2 + Text.byteCount name)
    else if ch = '\'' then
      let (body, after) := Scanner.delimited '\'' rest
      next (.ok (.literal (.string (String.ofList body)))) after (pos + 2 + Text.byteCount body)
    else if ch = '#' then
      let (body, after) := Scanner.delimited '#' rest
      next (dateLiteral body pos) after (pos + 2 + Text.byteCount body)
    else if ch.isDigit then
      let (digits, after) := Scanner.digitRun (ch :: rest)
      next (numberLiteral digits pos) after (pos + digits.length)
    else c.level fuel depth rest (pos + ch.utf8Size) current pending

/-- Compiles filter text: `none` when it holds no operand at all. -/
def compile (c : Compiler) (text : String) : Except CompileError (Option Expr) :=
  let cs := text.toList
  (c.level (cs.length + 1) 0 cs 0 none []).map (·.1)

end Compiler

/-- Compiles a filter for use: it must hold an operand, and its kind, when known, must be
boolean. -/
def compileWith (text : String) (shape : Shape) (grammar : Grammar) : Except CompileError Expr := do
  match ← (Compiler.mk shape grammar).compile text with
  | none => .error .emptyExpression
  | some e =>
    match e.kind with
    | some k => if k = .bool then .ok e else .error (.notBoolean k)
    | none => .ok e

end Strainer.Filter
