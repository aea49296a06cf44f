import Strainer.Float.Text
import Strainer.Number.Exact

/-!
# JSON values

A JSON value keeps what a reader can tell apart: a number is an unsigned 64-bit integer, a
negative 64-bit integer or a 64-bit float (so `10` and `10.0` differ, and `-0.0` keeps its sign),
and an object keeps its members in insertion order. Writing is compact: no blanks, strings with
`"`, `\` and control characters escaped (`\n`-style where there is one, `\u00XX` otherwise),
floats in their shortest JSON text and non-finite floats as `null`.
-/

namespace Strainer

/-- A JSON number. -/
inductive JsonNumber where
  /-- An integer in `[0, 2 ^ 64)`. -/
  | nat (n : Nat)
  /-- A negative integer in `[-2 ^ 63, 0)`. -/
  | negInt (i : Int)
  | float (x : Float64Bits)
  deriving DecidableEq

/-- A JSON value; objects keep insertion order. -/
inductive Json where
  | null
  | bool (b : Bool)
  | number (n : JsonNumber)
  | string (s : String)
  | array (items : List Json)
  | object (members : List (String × Json))
  deriving Inhabited

namespace JsonNumber

/-- The number as a signed 64-bit integer, when it is an integer that fits. -/
def toInt64? : JsonNumber → Option Int
  | nat n => if n < Nat.pow 2 63 then some n else none
  | negInt i => some i
  | float _ => none

/-- The number as a 64-bit float (integers rounded to nearest). -/
def toFloat : JsonNumber → Float64Bits
  | nat n => BinaryFloat.ofInt n
  | negInt i => BinaryFloat.ofInt i
  | float x => x

/-- The JSON number of an integer: unsigned when non-negative. -/
def ofInt (i : Int) : JsonNumber :=
  if 0 ≤ i then nat i.toNat else negInt i

/-- Number text. -/
def render : JsonNumber → String
  | nat n => Exact.intText n
  | negInt i => Exact.intText i
  | float x => if x.isFinite then FloatLayout.json.render x else "null"

end JsonNumber

namespace Json

/-- The JSON value of a 64-bit float; non-finite floats have none and become `null`. -/
def ofFloat (x : Float64Bits) : Json :=
  if x.isFinite then number (.float x) else null

private def hexDigit (n : Nat) : Char :=
  if n < 10 then Char.ofNat ('0'.toNat + n) else Char.ofNat ('a'.toNat + n - 10)

/-- The escaped form of one character inside a string. -/
def escapeChar (c : Char) : List Char :=
  match c with
  | '"' => ['\\', '"']
  | '\\' => ['\\', '\\']
  | '\n' => ['\\', 'n']
  | '\r' => ['\\', 'r']
  | '\t' => ['\\', 't']
  | '\x08' => ['\\', 'b']
  | '\x0c' => ['\\', 'f']
  | c =>
    if c.toNat < 0x20 then ['\\', 'u', '0', '0', hexDigit (c.toNat / 16), hexDigit (c.toNat % 16)]
    else [c]

/-- A string literal. -/
def quote (s : String) : String :=
  String.ofList ('"' :: s.toList.flatMap escapeChar ++ ['"'])

mutual

/-- Compact text. -/
def render : Json → String
  | null => "null"
  | bool b => if b then "true" else "false"
  | number n => n.render
  | string s => quote s
  | array items => "[" ++ renderItems items ++ "]"
  | object members => "\x7b" ++ renderMembers members ++ "\x7d"

/-- Items separated by commas. -/
def renderItems : List Json → String
  | [] => ""
  | [x] => render x
  | x :: rest => render x ++ "," ++ renderItems rest

/-- Members `"key":value` separated by commas. -/
def renderMembers : List (String × Json) → String
  | [] => ""
  | [(k, v)] => quote k ++ ":" ++ render v
  | (k, v) :: rest => quote k ++ ":" ++ render v ++ "," ++ renderMembers rest

end

/-- The member named `k`, if any. -/
def get? (j : Json) (k : String) : Option Json :=
  match j with
  | object members => (members.find? (·.1 == k)).map (·.2)
  | _ => none

/-- Adds a member, or replaces the value of one of that name in its place. -/
def insertMember (members : List (String × Json)) (k : String) (v : Json) :
    List (String × Json) :=
  if members.any (·.1 == k) then members.map fun (k', v') => if k' == k then (k', v) else (k', v')
  else members ++ [(k, v)]

end Json

end Strainer
