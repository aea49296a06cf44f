import Strainer.Yaml.Event
import Strainer.Float.Text
import Strainer.Number.Integer

/-!
# YAML documents

The tree of each document of a stream, built from its events. A plain scalar is read as the
first of: an integer written `0x…` (hex), `0o…` (octal) or `+…`; `~` or `null`; `true` or
`false`; a 64-bit integer; a float (its text is kept, as are `.inf`, `-.inf` and `.nan`);
otherwise text. Quoted and block scalars are text. A plain scalar tagged `!!bool`, `!!int`,
`!!float` or `!!null` must read as one, or it is a bad value; other tags give text. Mapping
keys are whole nodes; a repeated key keeps its first place and takes the last value. An alias
stands for its anchor's node once that node is complete, and for a bad value before.
-/

namespace Strainer.Yaml

/-- A node of a YAML document. -/
inductive Node where
  | null
  | bool (b : Bool)
  | int (i : Int)
  /-- A float, as its text. -/
  | real (text : String)
  | text (s : String)
  | array (items : List Node)
  | hash (entries : List (Node × Node))
  /-- What does not read as its tag says, or an alias to an unfinished node. -/
  | bad
  deriving Repr

namespace Node

/-- Structural equality of nodes. -/
def beq : Node → Node → Bool
  | .null, .null => true
  | .bool a, .bool b => a == b
  | .int a, .int b => a == b
  | .real a, .real b => a == b
  | .text a, .text b => a == b
  | .array xs, .array ys => listBeq xs ys
  | .hash xs, .hash ys => pairsBeq xs ys
  | .bad, .bad => true
  | _, _ => false
where
  listBeq : List Node → List Node → Bool
    | [], [] => true
    | x :: xs, y :: ys => beq x y && listBeq xs ys
    | _, _ => false
  pairsBeq : List (Node × Node) → List (Node × Node) → Bool
    | [], [] => true
    | (a, b) :: xs, (c, d) :: ys => beq a c && beq b d && pairsBeq xs ys
    | _, _ => false

instance : BEq Node := ⟨beq⟩

/-- Sets the value of a key: in place if the key is there, else at the end. -/
def insertEntry (entries : List (Node × Node)) (k v : Node) : List (Node × Node) :=
  if entries.any (fun e => e.1 == k) then entries.map fun e => if e.1 == k then (e.1, v) else e
  else entries ++ [(k, v)]

end Node

/-- The value of a digit in a radix. -/
def digitIn (radix : Nat) (c : Char) : Option Nat :=
  (hexValue? c).bind fun d => if d < radix then some d else none

/-- Reads signed integer text in a radix into the 64-bit range: an optional sign, then at
least one digit. -/
def readRadix (radix : Nat) (cs : List Char) : Option Int :=
  let (neg, body) : Bool × List Char := match cs with
    | '+' :: r => (false, r)
    | '-' :: r => (true, r)
    | r => (false, r)
  if body.isEmpty then none
  else do
    let n ← body.foldlM (fun acc c => (digitIn radix c).map (radix * acc + ·)) 0
    let v : Int := if neg then -n else n
    if -Int.pow 2 63 ≤ v ∧ v < Int.pow 2 63 then some v else none

/-- Reads decimal integer text into the 64-bit range. -/
def readDecimal (cs : List Char) : Option Int :=
  match IntReading.read true (-Int.pow 2 63) (Int.pow 2 63 - 1) cs with
  | .ok v => some v
  | _ => none

/-- Does the text read as a float, `.inf` and `.nan` spellings included? -/
def isFloatText (s : String) : Bool :=
  [".inf", ".Inf", ".INF", "+.inf", "+.Inf", "+.INF", "-.inf", "-.Inf", "-.INF", ".nan", ".NaN",
    ".NAN"].contains s || (FloatText.read s.toList).isSome

/-- The node a plain scalar without a tag stands for. -/
def Node.ofPlain (s : String) : Node :=
  let cs := s.toList
  let prefixed : Option Int := match cs with
    | '0' :: 'x' :: r => readRadix 16 r
    | '0' :: 'o' :: r => readRadix 8 r
    | '+' :: r => readDecimal r
    | _ => none
  match prefixed with
  | some i => .int i
  | none =>
    if s == "~" || s == "null" then .null
    else if s == "true" then .bool true
    else if s == "false" then .bool false
    else match readDecimal cs with
      | some i => .int i
      | none => if isFloatText s then .real s else .text s

/-- The node a scalar stands for, given how it was written and its tag. -/
def Node.ofScalar (s : String) (style : ScalarStyle) (tag : Option Tag) : Node :=
  if style ≠ .plain then .text s
  else match tag with
    | some ⟨"tag:yaml.org,2002:", suffix⟩ =>
      if suffix == "bool" then
        if s == "true" then .bool true else if s == "false" then .bool false else .bad
      else if suffix == "int" then (readDecimal s.toList).elim .bad .int
      else if suffix == "float" then if isFloatText s then .real s else .bad
      else if suffix == "null" then if s == "~" || s == "null" then .null else .bad
      else .text s
    | some _ => .text s
    | none => Node.ofPlain s

/-- A collection being built: its items or entries so far, its anchor, and for a mapping the
key waiting for its value (a bad value while none is). -/
inductive Open where
  | array (items : List Node) (anchor : Nat)
  | hash (entries : List (Node × Node)) (key : Node) (anchor : Nat)

/-- The state of building documents from events. -/
structure Builder where
  docs : Array Node := #[]
  opens : List Open := []
  root : Option Node := none
  anchored : List (Nat × Node) := []

namespace Builder

/-- Puts a finished node into the collection being built, or makes it the root. -/
def insert (b : Builder) (n : Node) (anchor : Nat) : Builder :=
  let b := if anchor > 0 then { b with anchored := (anchor, n) :: b.anchored } else b
  match b.opens with
  | [] => { b with root := some n }
  | .array items a :: rest => { b with opens := .array (items ++ [n]) a :: rest }
  | .hash entries key a :: rest =>
    if key == .bad then { b with opens := .hash entries n a :: rest }
    else { b with opens := .hash (Node.insertEntry entries key n) .bad a :: rest }

/-- Closes the innermost collection. -/
def close (b : Builder) : Builder :=
  match b.opens with
  | .array items a :: rest => { b with opens := rest }.insert (.array items) a
  | .hash entries _ a :: rest => { b with opens := rest }.insert (.hash entries) a
  | [] => b

def feed (b : Builder) : Event → Builder
  | .documentEnd => { b with docs := b.docs.push (b.root.getD .bad), root := none }
  | .sequenceStart a => { b with opens := .array [] a :: b.opens }
  | .mappingStart a => { b with opens := .hash [] .bad a :: b.opens }
  | .sequenceEnd | .mappingEnd => b.close
  | .scalar s style a tag => b.insert (Node.ofScalar s style tag) a
  | .reference id => b.insert ((b.anchored.lookup id).getD .bad) 0
  | _ => b

end Builder

/-- The documents of a YAML text, or the first error met. -/
def Node.documents (text : String) : Except ScanError (List Node) :=
  (Event.ofText text).map fun es => (es.foldl Builder.feed {}).docs.toList

end Strainer.Yaml
