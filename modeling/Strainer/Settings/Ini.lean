import Strainer.Settings.Value

/-!
# Settings from INI

An INI settings file holds `key = value` (or `key: value`) lines, grouped under `[section]`
headers; keys before the first header are top-level. Every value is text. A value is trimmed,
may be quoted with `"` or `'` (then it may span lines), and takes the backslash escapes `\0`,
`\a`, `\b`, `\t`, `\r`, `\n`, `\xHHHH`, and any
other character as itself. A comment (`;` or `#`) must open its line. A key may run over lines
up to its `=`. A header repeated later replaces the earlier section's keys, and a key repeated
in a section keeps its last value.

Errors name the line (from zero) and the column of the character where reading stopped.
-/

namespace Strainer.Settings

namespace Ini

/-- The reader's place: the input from the current character on, and that character's line
and column. -/
structure Cursor where
  rest : List Char
  line : Nat
  col : Nat

namespace Cursor

def start (cs : List Char) : Cursor :=
  match cs with
  | '\n' :: _ => ⟨cs, 1, 0⟩
  | [] => ⟨cs, 0, 0⟩
  | _ => ⟨cs, 0, 1⟩

def current (c : Cursor) : Option Char := c.rest.head?

/-- Moves to the next character; a line break counts as column zero of the next line. -/
def bump (c : Cursor) : Cursor :=
  match c.rest with
  | [] => c
  | _ :: r =>
    match r with
    | '\n' :: _ => ⟨r, c.line + 1, 0⟩
    | [] => ⟨r, c.line, c.col⟩
    | _ => ⟨r, c.line, c.col + 1⟩

def bumpN (c : Cursor) : Nat → Cursor
  | 0 => c
  | n + 1 => bumpN c.bump n

def fail {α : Type} (c : Cursor) (msg : String) : Except String α :=
  .error (Exact.intText c.line ++ ":" ++ Exact.intText c.col ++ " " ++ msg)

/-- Skips whitespace, line breaks included, or not. -/
def skipSpace (c : Cursor) (breaks : Bool) : Nat → Cursor
  | 0 => c
  | n + 1 =>
    match c.current with
    | some ch =>
      if ch.isWhitespace && (breaks || (ch != '\n' && ch != '\r')) then skipSpace c.bump breaks n else c
    | none => c

end Cursor

/-- The list of stopping characters as the error names it, e.g. `[Some('='), Some(':')]`. -/
def stopsText (stops : List Char) : String :=
  "[" ++ ", ".intercalate (stops.map fun ch =>
    "Some('" ++ (if ch == '\'' then "\\'" else String.singleton ch) ++ "')") ++ "]"

/-- Reads up to one of `stops` (or the end, if `endOk`), applying the backslash escapes. -/
def readUntil (stops : List Char) (endOk : Bool) (c : Cursor) (acc : String) : Nat → Except String (Cursor × String)
  | 0 => .ok (c, acc)
  | n + 1 =>
    match c.current with
    | none =>
      if endOk then .ok (c, acc)
      else c.fail ("expecting \"" ++ stopsText stops ++ "\" but found EOF.")
    | some ch =>
      if stops.contains ch then .ok (c, acc)
      else if ch == '\\' then
        let c := c.bump
        match c.current with
        | none => readUntil stops endOk c (acc.push '\\') n
        | some e =>
          let simple : Option Char := match e with
            | '0' => some '\x00'
            | 'a' => some '\x07'
            | 'b' => some '\x08'
            | 't' => some '\t'
            | 'r' => some '\r'
            | 'n' => some '\n'
            | _ => none
          match simple with
          | some s => readUntil stops endOk c.bump (acc.push s) n
          | none =>
            if e == 'x' then
              let digits := (c.rest.drop 1).take 4
              let v := digits.foldl (fun acc d => acc.bind fun a =>
                if d.isDigit then some (16 * a + (d.toNat - '0'.toNat))
                else if 'a' ≤ d ∧ d ≤ 'f' then some (16 * a + (d.toNat - 'a'.toNat + 10))
                else if 'A' ≤ d ∧ d ≤ 'F' then some (16 * a + (d.toNat - 'A'.toNat + 10))
                else none) (some 0)
              let c := c.bumpN 4
              if digits.length < 4 then c.fail ("expecting \"" ++ stopsText stops ++ "\" but found EOF.")
              else match v with
                | some v =>
                  if v > 0x10FFFF ∨ (0xD800 ≤ v ∧ v ≤ 0xDFFF) then c.fail "unknown character in \\xHH form"
                  else readUntil stops endOk c.bump (acc.push (Char.ofNat v)) n
                | none => c.fail "unknown character in \\xHH form"
            else readUntil stops endOk c.bump (acc.push e) n
      else readUntil stops endOk c.bump (acc.push ch) n

/-- The value after `=` or `:`, up to the end of its line. -/
def value (c : Cursor) : Nat → String → Bool → Except String (Cursor × String)
  | 0, acc, _ => .ok (c, acc)
  | n + 1, acc, firstPart =>
    match c.current with
    | none => .ok (c, acc)
    | some q =>
      if q == '"' || q == '\'' then do
        let (c, s) ← readUntil [q] false c.bump "" c.rest.length
        value c.bump n (acc ++ s) false
      else do
        let (c, s) ← readUntil ['\n', '\r'] true c "" c.rest.length
        let s := if firstPart then s.trimAscii.toString else s.trimAsciiEnd.toString
        pure (c, acc ++ s)

/-- What has been read: the sections in order (top-level keys under `none`), each with its
keys in order. -/
abbrev Sections := List (Option String × List (String × String))

/-- Reads the lines of the file. -/
def lines (c : Cursor) (key : String) (acc : Sections) : Nat → Except String Sections
  | 0 => .ok acc
  | n + 1 =>
    match c.current with
    | none => .ok acc
    | some ch =>
      if ch == ';' || ch == '#' then
        if c.col > 1 then c.fail "doesn't support inline comment"
        else
          let c := skipComment c c.rest.length
          lines (c.skipSpace true c.rest.length) key acc n
      else if ch == '[' then do
        let (c, name) ← readUntil [']'] false c.bump "" c.rest.length
        let c := if c.current == some ']' then c.bump else c
        let acc := acc ++ [(some name.trimAscii.toString, [])]
        lines (c.skipSpace true c.rest.length) key acc n
      else if ch == '=' || ch == ':' then
        if key.isEmpty then c.fail "missing key"
        else do
          let (c, v) ← value (c.bump.skipSpace false c.rest.length) c.rest.length "" true
          let acc := match acc.getLast? with
            | some (sec, keys) => acc.dropLast ++ [(sec, keys ++ [(key, v)])]
            | none => [(none, [(key, v)])]
          lines (c.skipSpace true c.rest.length) "" acc n
      else do
        let (c, k) ← readUntil ['=', ':'] false c "" c.rest.length
        lines (c.skipSpace true c.rest.length) k.trimAscii.toString acc n
where
  skipComment (c : Cursor) : Nat → Cursor
    | 0 => c
    | m + 1 =>
      match c.current with
      | some '\n' => c.bump
      | some _ => skipComment c.bump m
      | none => c

end Ini

/-- Keeps the last value of each key. -/
def lastValues (pairs : List (String × Setting)) : List (String × Setting) :=
  pairs.foldl (fun acc (k, v) => (acc.filter (·.1 != k)) ++ [(k, v)]) []

/-- The table an INI text holds: top-level keys, and a table for each section. -/
def Setting.ofIni (text : String) : Except String (List (String × Setting)) := do
  let c := Ini.Cursor.start text.toList
  let sections ← Ini.lines (c.skipSpace true text.length) "" [(none, [])] (text.length + 1)
  let pairs := sections.flatMap fun (sec, keys) =>
    let values := keys.map fun (k, v) => (k, Setting.text v)
    match sec with
    | some name => [(name, Setting.table (lastValues values))]
    | none => values
  pure (lastValues pairs)

end Strainer.Settings
