import Strainer.Settings.Value

/-!
# Settings from TOML

A TOML settings file is a table of key/value pairs, with `[a.b]` headers opening tables and
`[[a]]` headers appending a table to an array. Keys are bare (letters, digits, `_`, `-`) or
quoted, and may be dotted. Values are strings (basic with escapes, literal, and the multi-line
forms of both), integers (decimal, `0x`, `0o`, `0b`, with `_` between digits), floats
(`inf` and `nan` included), booleans, date-times (kept as their text, with `T` between date
and time), arrays and inline tables. A key set twice is an error.
-/

namespace Strainer.Settings

namespace Toml

/-- A reading failure: the input left where it was met, and what was wrong. -/
abbrev Failure := List Char × String

def fail {α : Type} (rest : List Char) (why : String) : Except Failure α := .error (rest, why)

def isBareChar (c : Char) : Bool := c.isAlphanum || c == '_' || c == '-'

def skipBlanks (cs : List Char) : List Char := cs.dropWhile fun c => c == ' ' || c == '\t'

/-- Skips blanks, comments and line breaks. -/
def skipSpace : List Char → Nat → List Char
  | cs, 0 => cs
  | cs, n + 1 =>
    match skipBlanks cs with
    | '#' :: rest => skipSpace (rest.dropWhile (· != '\n')) n
    | '\n' :: rest => skipSpace rest n
    | '\r' :: '\n' :: rest => skipSpace rest n
    | rest => rest

/-- Reads `k` hex digits. -/
def hexDigits (cs : List Char) (k : Nat) : Option Nat :=
  if (cs.take k).length < k then none
  else (cs.take k).foldlM (fun acc c =>
    if c.isDigit then some (16 * acc + (c.toNat - '0'.toNat))
    else if 'a' ≤ c ∧ c ≤ 'f' then some (16 * acc + (c.toNat - 'a'.toNat + 10))
    else if 'A' ≤ c ∧ c ≤ 'F' then some (16 * acc + (c.toNat - 'A'.toNat + 10))
    else none) 0

/-- The character a backslash escape stands for, and the input after it. -/
def escape (cs : List Char) : Except Failure (Char × List Char) :=
  match cs with
  | 'b' :: r => .ok ('\x08', r)
  | 't' :: r => .ok ('\t', r)
  | 'n' :: r => .ok ('\n', r)
  | 'f' :: r => .ok ('\x0c', r)
  | 'r' :: r => .ok ('\r', r)
  | 'e' :: r => .ok ('\x1b', r)
  | '"' :: r => .ok ('"', r)
  | '\\' :: r => .ok ('\\', r)
  | 'u' :: r => unicode r 4
  | 'U' :: r => unicode r 8
  | _ => fail cs "invalid escape sequence"
where
  unicode (r : List Char) (k : Nat) : Except Failure (Char × List Char) :=
    match hexDigits r k with
    | some v => if v > 0x10FFFF ∨ (0xD800 ≤ v ∧ v ≤ 0xDFFF) then fail r "invalid unicode scalar value"
      else .ok (Char.ofNat v, r.drop k)
    | none => fail r "invalid unicode escape"

/-- A basic string after its opening quote. -/
def basicString : List Char → String → Nat → Except Failure (String × List Char)
  | cs, _, 0 => fail cs "invalid basic string"
  | cs, acc, n + 1 =>
    match cs with
    | '"' :: r => .ok (acc, r)
    | '\\' :: r => do
      let (c, r) ← escape r
      basicString r (acc.push c) n
    | '\n' :: _ | [] => fail cs "invalid basic string"
    | c :: r => basicString r (acc.push c) n

/-- A literal string after its opening quote. -/
def literalString : List Char → String → Nat → Except Failure (String × List Char)
  | cs, _, 0 => fail cs "invalid literal string"
  | cs, acc, n + 1 =>
    match cs with
    | '\'' :: r => .ok (acc, r)
    | '\n' :: _ | [] => fail cs "invalid literal string"
    | c :: r => literalString r (acc.push c) n

/-- A multi-line string after its opening quotes, closed by the last three of a run of three
to five `q`; in basic strings a backslash at the end of a line drops the blanks and line
breaks after it. -/
def multiLine (q : Char) (basic : Bool) : List Char → String → Nat → Except Failure (String × List Char)
  | cs, _, 0 => fail cs "invalid multiline string"
  | cs, acc, n + 1 =>
    let run := (cs.takeWhile (· == q)).length
    if run ≥ 3 then
      if run > 5 then fail (cs.drop 5) "invalid multiline string"
      else .ok (acc ++ String.ofList (List.replicate (run - 3) q), cs.drop run)
    else
      match cs with
      | [] => fail cs "invalid multiline string"
      | '\\' :: r =>
        if !basic then multiLine q basic r (acc.push '\\') n
        else
          let after := r.dropWhile fun c => c == ' ' || c == '\t'
          match after with
          | '\n' :: _ | '\r' :: '\n' :: _ =>
            multiLine q basic (after.dropWhile fun c => c == ' ' || c == '\t' || c == '\n' || c == '\r') acc n
          | _ =>
            match escape r with
            | .ok (c, r) => multiLine q basic r (acc.push c) n
            | .error e => .error e
      | c :: r => multiLine q basic r (acc.push c) n

/-- A key: quoted or bare parts joined by dots. -/
def keyPath (cs : List Char) : Nat → Except Failure ((List String) × List Char)
  | 0 => fail cs "invalid key"
  | n + 1 => do
    let cs := skipBlanks cs
    let (part, rest) ← match cs with
      | '"' :: r => basicString r "" (r.length + 1)
      | '\'' :: r => literalString r "" (r.length + 1)
      | _ =>
        let bare := cs.takeWhile isBareChar
        if bare.isEmpty then fail cs "invalid key" else .ok (String.ofList bare, cs.drop bare.length)
    match skipBlanks rest with
    | '.' :: r => do
      let (more, r) ← keyPath r n
      pure (part :: more, r)
    | r => pure ([part], r)

/-- Sets the value of a key, replacing it in place. -/
def put (entries : List (String × Setting)) (k : String) (v : Setting) : List (String × Setting) :=
  if entries.any (·.1 == k) then entries.map fun e => if e.1 == k then (k, v) else e
  else entries ++ [(k, v)]

/-- Changes the value at a path of keys, going through tables and into the last table of an
array; tables on the way are made as needed. -/
def modifyAt (entries : List (String × Setting)) (path : List String)
    (f : Option Setting → Except String Setting) : Except String (List (String × Setting)) :=
  match path with
  | [] => .ok entries
  | [k] => do
    let v ← f (entries.lookup k)
    pure (put entries k v)
  | k :: rest =>
    match entries.lookup k with
    | none => do
      let sub ← modifyAt [] rest f
      pure (put entries k (.table sub))
    | some (.table sub) => do
      let sub ← modifyAt sub rest f
      pure (put entries k (.table sub))
    | some (.array items) =>
      match items.getLast? with
      | some (.table sub) => do
        let sub ← modifyAt sub rest f
        pure (put entries k (.array (items.dropLast ++ [.table sub])))
      | _ => .error ("duplicate key `" ++ k ++ "`")
    | some _ => .error ("duplicate key `" ++ k ++ "`")

/-- Sets a new key. -/
def setNew (entries : List (String × Setting)) (path : List String) (v : Setting) :
    Except String (List (String × Setting)) :=
  modifyAt entries path fun
    | none => .ok v
    | some _ => .error ("duplicate key `" ++ (path.getLast?.getD "") ++ "`")

/-- The characters of a number or date-time. -/
def isWordChar (c : Char) : Bool := c.isAlphanum || c == '_' || c == '+' || c == '-' || c == '.' || c == ':'

/-- Digits with single `_` between them. -/
def digitsWithUnderscores (ok : Char → Bool) (cs : List Char) : Option (List Char) :=
  match cs with
  | [] => none
  | c :: _ =>
    if !ok c || cs.getLast? == some '_' then none
    else if (cs.zip cs.tail).any (fun (a, b) => a == '_' && b == '_') then none
    else if cs.all (fun c => ok c || c == '_') then some (cs.filter (· != '_')) else none

def radixValue (radix : Nat) (ds : List Char) : Nat :=
  ds.foldl (fun acc c => radix * acc + (if c.isDigit then c.toNat - '0'.toNat else c.toLower.toNat - 'a'.toNat + 10)) 0

def isHex (c : Char) : Bool := c.isDigit || ('a' ≤ c ∧ c ≤ 'f') || ('A' ≤ c ∧ c ≤ 'F')

/-- An integer word, in the 64-bit range. -/
def integer? (w : List Char) : Option Int :=
  let inRange (v : Int) : Option Int := if -Int.pow 2 63 ≤ v ∧ v < Int.pow 2 63 then some v else none
  match w with
  | '0' :: 'x' :: r => (digitsWithUnderscores isHex r).bind fun ds => inRange (radixValue 16 ds)
  | '0' :: 'o' :: r => (digitsWithUnderscores (fun c => '0' ≤ c ∧ c ≤ '7') r).bind fun ds => inRange (radixValue 8 ds)
  | '0' :: 'b' :: r => (digitsWithUnderscores (fun c => c == '0' || c == '1') r).bind fun ds => inRange (radixValue 2 ds)
  | _ =>
    let (neg, body) := match w with
      | '+' :: r => (false, r)
      | '-' :: r => (true, r)
      | r => (false, r)
    match digitsWithUnderscores Char.isDigit body with
    | some ds =>
      if ds.length > 1 && ds.head? == some '0' then none
      else
        let n : Int := radixValue 10 ds
        inRange (if neg then -n else n)
    | none => none

/-- A float word. -/
def float? (w : List Char) : Option Float64Bits :=
  let body := match w with
    | '+' :: r => r
    | '-' :: r => r
    | r => r
  if body == "inf".toList || body == "nan".toList then FloatText.parse? (String.ofList w)
  else
    let intPart := body.takeWhile fun c => c.isDigit || c == '_'
    let rest := body.drop intPart.length
    let okInt := (digitsWithUnderscores Char.isDigit intPart).any fun ds => !(ds.length > 1 && ds.head? == some '0')
    let (fracOk, rest) := match rest with
      | '.' :: r =>
        let frac := r.takeWhile fun c => c.isDigit || c == '_'
        ((digitsWithUnderscores Char.isDigit frac).isSome, r.drop frac.length)
      | r => (true, r)
    let expOk := match rest with
      | [] => true
      | e :: r =>
        (e == 'e' || e == 'E') &&
          (digitsWithUnderscores Char.isDigit (match r with | '+' :: s => s | '-' :: s => s | s => s)).isSome
    let hasPart := body.contains '.' || body.contains 'e' || body.contains 'E'
    if okInt && fracOk && expOk && hasPart then FloatText.parse? (String.ofList (w.filter (· != '_')))
    else none

/-- Is the word a date, a time or a date-time? -/
def isDateTime (w : List Char) : Bool :=
  let digitAt (i : Nat) : Bool := (w[i]?.getD 'x').isDigit
  (w.length ≥ 10 && digitAt 0 && digitAt 3 && w[4]? == some '-' && w[7]? == some '-') ||
    (w.length ≥ 8 && digitAt 0 && digitAt 1 && w[2]? == some ':' && w[5]? == some ':')

/-- A date-time as written back: `T` between date and time, an upper-case `Z`. -/
def dateTimeText (w : List Char) : String :=
  String.ofList (w.map fun c => if c == 't' || c == ' ' then 'T' else if c == 'z' then 'Z' else c)

mutual

/-- A value. -/
def value (cs : List Char) : Nat → Except Failure (Setting × List Char)
  | 0 => fail cs "invalid value"
  | n + 1 =>
    match cs with
    | '"' :: '"' :: '"' :: r =>
      let r := match r with | '\n' :: s => s | '\r' :: '\n' :: s => s | s => s
      (multiLine '"' true r "" (r.length + 1)).map fun (s, r) => (.text s, r)
    | '"' :: r => (basicString r "" (r.length + 1)).map fun (s, r) => (.text s, r)
    | '\'' :: '\'' :: '\'' :: r =>
      let r := match r with | '\n' :: s => s | '\r' :: '\n' :: s => s | s => s
      (multiLine '\'' false r "" (r.length + 1)).map fun (s, r) => (.text s, r)
    | '\'' :: r => (literalString r "" (r.length + 1)).map fun (s, r) => (.text s, r)
    | '[' :: r => (arrayItems r [] n).map fun (items, r) => (.array items, r)
    | '{' :: r => (inlineTable r [] true n).map fun (t, r) => (.table t, r)
    | _ =>
      let w := cs.takeWhile isWordChar
      let rest := cs.drop w.length
      -- a date and a time separated by one space
      let (w, rest) := match rest with
        | ' ' :: d :: more =>
          if d.isDigit && w.length == 10 && isDateTime w then
            let t := (d :: more).takeWhile isWordChar
            (w ++ ' ' :: t, (d :: more).drop t.length)
          else (w, rest)
        | _ => (w, rest)
      if w == "true".toList then .ok (.bool true, rest)
      else if w == "false".toList then .ok (.bool false, rest)
      else if w.isEmpty then fail cs "invalid value"
      else match integer? w with
        | some i => .ok (.int i, rest)
        | none =>
          match float? w with
          | some x => .ok (.float x, rest)
          | none => if isDateTime w then .ok (.text (dateTimeText w), rest) else fail cs "invalid value"

/-- The items of an array after its opening bracket. -/
def arrayItems (cs : List Char) (acc : List Setting) : Nat → Except Failure ((List Setting) × List Char)
  | 0 => fail cs "invalid array"
  | n + 1 =>
    let cs := skipSpace cs cs.length
    match cs with
    | ']' :: r => .ok (acc.reverse, r)
    | _ => do
      let (v, r) ← value cs n
      match skipSpace r r.length with
      | ',' :: r => arrayItems r (v :: acc) n
      | ']' :: r => .ok ((v :: acc).reverse, r)
      | r => fail r "invalid array\nexpected `]`"

/-- The pairs of an inline table after its opening brace. -/
def inlineTable (cs : List Char) (acc : List (String × Setting)) (first : Bool) :
    Nat → Except Failure ((List (String × Setting)) × List Char)
  | 0 => fail cs "invalid inline table"
  | n + 1 =>
    let cs := skipBlanks cs
    match cs with
    | '}' :: r => if first then .ok (acc, r) else fail cs "invalid inline table"
    | _ => do
      let (path, r) ← keyPath cs (cs.length + 1)
      match skipBlanks r with
      | '=' :: r => do
        let (v, r) ← value (skipBlanks r) n
        let acc ← match setNew acc path v with
          | .ok t => pure t
          | .error e => fail r e
        match skipBlanks r with
        | ',' :: r => inlineTable r acc false n
        | '}' :: r => .ok (acc, r)
        | r => fail r "invalid inline table\nexpected `\x7d`"
      | r => fail r "expected `.`, `=`"

end

/-- The state of reading a document: the tables so far and the path of the current one. -/
structure Reader where
  root : List (String × Setting) := []
  current : List String := []

/-- After a value or header, only blanks and a comment may stand on the line. -/
def endOfLine (cs : List Char) : Except Failure (List Char) :=
  match skipBlanks cs with
  | [] => .ok []
  | '\n' :: r => .ok r
  | '\r' :: '\n' :: r => .ok r
  | '#' :: r => .ok ((r.dropWhile (· != '\n')).drop 1)
  | r => fail r "expected newline, `#`"

/-- Reads the lines of a document. -/
def lines (st : Reader) (cs : List Char) : Nat → Except Failure Reader
  | 0 => .ok st
  | n + 1 =>
    let cs := skipSpace cs cs.length
    match cs with
    | [] => .ok st
    | '[' :: '[' :: r => do
      let (path, r) ← keyPath r (r.length + 1)
      match skipBlanks r with
      | ']' :: ']' :: r => do
        let root ← match modifyAt st.root path (fun
            | none => .ok (.array [.table []])
            | some (.array items) => .ok (.array (items ++ [.table []]))
            | some _ => .error ("duplicate key `" ++ (path.getLast?.getD "") ++ "`")) with
          | .ok t => pure t
          | .error e => fail r e
        lines { root, current := path } (← endOfLine r) n
      | r => fail r "invalid table header\nexpected `]]`"
    | '[' :: r => do
      let (path, r) ← keyPath r (r.length + 1)
      match skipBlanks r with
      | ']' :: r => do
        let root ← match modifyAt st.root path (fun
            | none => .ok (.table [])
            | some (.table t) => .ok (.table t)
            | some _ => .error ("duplicate key `" ++ (path.getLast?.getD "") ++ "`")) with
          | .ok t => pure t
          | .error e => fail r e
        lines { root, current := path } (← endOfLine r) n
      | r => fail r "invalid table header\nexpected `.`, `]`"
    | _ => do
      let (path, r) ← keyPath cs (cs.length + 1)
      match skipBlanks r with
      | '=' :: r => do
        let (v, r) ← value (skipBlanks r) (r.length + 1)
        let root ← match setNew st.root (st.current ++ path) v with
          | .ok t => pure t
          | .error e => fail r e
        lines { st with root } (← endOfLine r) n
      | r => fail r "expected `.`, `=`"

end Toml

/-- The line and column (from one) of the place where `rest` starts in `text`. -/
def placeIn (text : List Char) (rest : List Char) : Nat × Nat :=
  let before := text.take (text.length - rest.length)
  let line := before.count '\n' + 1
  let col := (before.reverse.takeWhile (· != '\n')).length + 1
  (line, col)

/-- The table a TOML text holds, or the error report: its place, the line it is on, a caret
under the place, and what was wrong. -/
def Setting.ofToml (text : String) : Except String (List (String × Setting)) :=
  let cs := text.toList
  match Toml.lines {} cs (cs.length + 1) with
  | .ok st => .ok st.root
  | .error (rest, why) =>
    let (line, col) := placeIn cs rest
    let lineText := ((text.splitOn "\n")[line - 1]?).getD ""
    let num := Exact.intText line
    let pad := String.ofList (List.replicate num.length ' ')
    .error ("TOML parse error at line " ++ num ++ ", column " ++ Exact.intText col ++ "\n" ++
      pad ++ " |\n" ++ num ++ " | " ++ lineText ++ "\n" ++ pad ++ " | " ++
      String.ofList (List.replicate (col - 1) ' ') ++ "^\n" ++ why ++ "\n")

end Strainer.Settings
