import Strainer.Yaml.Token

/-!
# Scanning YAML text into tokens

The scanner walks the text once and produces tokens on demand. It keeps the stack of block
indentations: a line that starts left of the current indentation closes blocks, and a key or an
entry further right opens one. A scalar that could be a simple key is remembered until a `:`
makes it one, or the line ends; a key at the indentation column that gets no `:` is an error.
Flow collections (`[...]`, `{...}`) suspend indentation. Scalars are plain, quoted with `'` or
`"` (with escapes), or literal (`|`) and folded (`>`) blocks with their chomping and indentation
indicators. Line breaks inside flow and plain scalars fold to spaces, blank lines to breaks.
-/

namespace Strainer.Yaml

/-- A place where a simple key may start. -/
structure SimpleKey where
  possible : Bool := false
  required : Bool := false
  tokenNumber : Nat := 0
  mark : Mark := { index := 0, line := 0, col := 0 }
  deriving DecidableEq, Repr

/-- An indentation level to return to; only block levels close with a block end. -/
structure Indent where
  indent : Int
  needsBlockEnd : Bool
  deriving DecidableEq, Repr

/-- The scanner's state. Stacks keep their top first. -/
structure Scanner where
  input : List Char
  mark : Mark := {}
  /-- Tokens scanned and not yet handed out. -/
  tokens : List Token := []
  started : Bool := false
  ended : Bool := false
  adjacentValueAt : Nat := 0
  simpleKeyAllowed : Bool := false
  simpleKeys : List SimpleKey := []
  indent : Int := -1
  indents : List Indent := []
  flowLevel : Nat := 0
  tokensParsed : Nat := 0
  tokenAvailable : Bool := false
  leadingWhitespace : Bool := true
  deriving Repr

/-- A step of the scanner that may fail. -/
abbrev ScanStep := Except ScanError Scanner

namespace Scanner

def new (text : String) : Scanner := { input := text.toList }

/-- The character `n` places ahead; the end reads as the character zero. -/
def peekAt (s : Scanner) (n : Nat) : Char := (s.input[n]?).getD '\x00'

def peek (s : Scanner) : Char := s.peekAt 0

def fail {α : Type} (m : Mark) (info : String) : Except ScanError α := .error ⟨m, info⟩

/-- Moves over one character that is not a line break. -/
def skipBlank (s : Scanner) : Scanner :=
  match s.input with
  | [] => s
  | _ :: rest => { s with input := rest, mark := { s.mark with index := s.mark.index + 1, col := s.mark.col + 1 } }

/-- Moves over one character of content. -/
def skipNonBlank (s : Scanner) : Scanner := { s.skipBlank with leadingWhitespace := false }

def skipN (s : Scanner) : Nat → Scanner
  | 0 => s
  | n + 1 => skipN s.skipNonBlank n

/-- Moves over a line break (`\r\n` counts as one). -/
def skipBreak (s : Scanner) : Scanner :=
  match s.input with
  | '\r' :: '\n' :: rest =>
    { s with input := rest, mark := { index := s.mark.index + 2, line := s.mark.line + 1, col := 0 },
             leadingWhitespace := true }
  | c :: rest =>
    if isBreak c then
      { s with input := rest, mark := { index := s.mark.index + 1, line := s.mark.line + 1, col := 0 },
               leadingWhitespace := true }
    else s
  | [] => s

/-- Moves over a line break, adding one `\n` to `acc`. -/
def readBreak (s : Scanner) (acc : String) : Scanner × String :=
  if isBreak s.peek then (s.skipBreak, acc.push '\n') else (s, acc)

/-- Moves to the end of the line. -/
def skipToBreak (s : Scanner) : Nat → Scanner
  | 0 => s
  | n + 1 => if isBreakOrEnd s.peek then s else skipToBreak s.skipBlank n

def push (s : Scanner) (t : Token) : Scanner := { s with tokens := s.tokens ++ [t] }

def insertAt (s : Scanner) (pos : Nat) (t : Token) : Scanner :=
  { s with tokens := s.tokens.take pos ++ t :: s.tokens.drop pos }

def allow (s : Scanner) : Scanner := { s with simpleKeyAllowed := true }
def disallow (s : Scanner) : Scanner := { s with simpleKeyAllowed := false }

/-- The room the scanning loops may take: one step per character, and some. -/
def room (s : Scanner) : Nat := s.input.length + 2

/-- Skips blanks and, after a blank, a comment, up to the end of the line: whether a tab and
whether a space was met. -/
def skipWsToEol (s : Scanner) (tabs : Bool) : Except ScanError (Scanner × Bool × Bool) :=
  go s false false s.room
where
  go (s : Scanner) (tab space : Bool) : Nat → Except ScanError (Scanner × Bool × Bool)
    | 0 => .ok (s, tab, space)
    | n + 1 =>
      match s.peek with
      | ' ' => go s.skipBlank tab true n
      | '\t' => if tabs then go s.skipBlank true space n else .ok (s, tab, space)
      | '#' =>
        if !tab && !space then fail s.mark "comments must be separated from other tokens by whitespace"
        else .ok (skipToBreak s s.room, tab, space)
      | _ => .ok (s, tab, space)

/-- Is the scanner inside a block? -/
def withinBlock (s : Scanner) : Bool := !s.indents.isEmpty

/-- Skips blanks, line breaks and comments before the next token. -/
def skipToNextToken (s : Scanner) : ScanStep :=
  go s s.room
where
  go (s : Scanner) : Nat → ScanStep
    | 0 => .ok s
    | n + 1 =>
      match s.peek with
      | '\t' =>
        if s.withinBlock && s.leadingWhitespace && (s.mark.col : Int) < s.indent then do
          let (s, _, _) ← s.skipWsToEol true
          if !isBreakOrEnd s.peek then fail s.mark "tabs disallowed within this context (block indentation)"
          else go s n
        else go s.skipBlank n
      | ' ' => go s.skipBlank n
      | '\n' | '\r' =>
        let s := s.skipBreak
        go (if s.flowLevel = 0 then s.allow else s) n
      | '#' => go (skipToBreak s s.room) n
      | _ => .ok s

/-- The top simple key. -/
def topKey (s : Scanner) : SimpleKey := s.simpleKeys.headD {}

def setTopKey (s : Scanner) (k : SimpleKey) : Scanner :=
  { s with simpleKeys := k :: s.simpleKeys.tail }

/-- Remembers the current position as a possible simple key. -/
def saveSimpleKey (s : Scanner) : Scanner :=
  if s.simpleKeyAllowed then
    let required := s.flowLevel = 0 && s.indent == (s.mark.col : Int) &&
      (s.indents.head?.map (·.needsBlockEnd)).getD false
    s.setTopKey { possible := true, required, tokenNumber := s.tokensParsed + s.tokens.length, mark := s.mark }
  else s

/-- Forgets the possible simple key; one that was required is an error. -/
def removeSimpleKey (s : Scanner) : ScanStep :=
  let k := s.topKey
  if k.possible && k.required then fail s.mark "simple key expected"
  else .ok (s.setTopKey { k with possible := false })

/-- Drops possible simple keys that can no longer be keys: in block context, those on an earlier
line or more than 1024 characters back. -/
def staleSimpleKeys (s : Scanner) : ScanStep :=
  if s.flowLevel ≠ 0 then .ok s
  else
    let stale (k : SimpleKey) : Bool :=
      k.possible && (k.mark.line < s.mark.line || k.mark.index + 1024 < s.mark.index)
    if s.simpleKeys.any fun k => stale k && k.required then fail s.mark "simple key expect ':'"
    else .ok { s with simpleKeys := s.simpleKeys.map fun (k : SimpleKey) => if stale k then { k with possible := false } else k }

/-- Closes indentation levels right of `col`, with a block end for each block level. -/
def unrollIndent (s : Scanner) (col : Int) : Scanner :=
  if s.flowLevel > 0 then s else go s s.indents.length
where
  go (s : Scanner) : Nat → Scanner
    | 0 => s
    | n + 1 =>
      if s.indent > col then
        match s.indents with
        | top :: rest =>
          let s' := { s with indent := top.indent, indents := rest }
          go (if top.needsBlockEnd then s'.push ⟨s.mark, .blockEnd⟩ else s') n
        | [] => s
      else s

/-- Opens a block level at `col` with the token `kind`, put at token number `number` or last. -/
def rollIndent (s : Scanner) (col : Nat) (number : Option Nat) (kind : TokenKind) (m : Mark) : Scanner :=
  if s.flowLevel > 0 then s
  else
    let s := if s.indent ≤ col then
        match s.indents with
        | top :: rest => if !top.needsBlockEnd then { s with indent := top.indent, indents := rest } else s
        | [] => s
      else s
    if s.indent < col then
      let s := { s with indents := ⟨s.indent, true⟩ :: s.indents, indent := col }
      match number with
      | some n => s.insertAt (n - s.tokensParsed) ⟨m, kind⟩
      | none => s.push ⟨m, kind⟩
    else s

/-- Opens a level one column right that closes without a block end. -/
def rollOneColIndent (s : Scanner) : Scanner :=
  if s.flowLevel = 0 && (s.indents.head?.map (·.needsBlockEnd)).getD false then
    { s with indents := ⟨s.indent, false⟩ :: s.indents, indent := s.indent + 1 }
  else s

/-- Closes the levels that need no block end. -/
def unrollNonBlockIndents (s : Scanner) : Scanner :=
  go s s.indents.length
where
  go (s : Scanner) : Nat → Scanner
    | 0 => s
    | n + 1 =>
      match s.indents with
      | top :: rest => if top.needsBlockEnd then s else go { s with indent := top.indent, indents := rest } n
      | [] => s

def fetchStreamStart (s : Scanner) : Scanner :=
  let s := s.push ⟨s.mark, .streamStart⟩
  { s with started := true, indent := -1, simpleKeyAllowed := true, simpleKeys := [{}] }

def fetchStreamEnd (s : Scanner) : ScanStep := do
  let s := if s.mark.col ≠ 0 then { s with mark := { s.mark with col := 0, line := s.mark.line + 1 } } else s
  if s.simpleKeys.any fun k => k.required && k.possible then fail s.mark "simple key expected"
  else
    let s := { s with simpleKeys := s.simpleKeys.map fun (k : SimpleKey) => { k with possible := false } }
    let s := s.unrollIndent (-1)
    let s ← s.removeSimpleKey
    pure ((s.disallow).push ⟨s.mark, .streamEnd⟩)

/-- A directive line: it is skipped and stands as one token. -/
def fetchDirective (s : Scanner) : ScanStep := do
  let s := s.unrollIndent (-1)
  let s ← s.removeSimpleKey
  let s := s.disallow
  let m := s.mark
  let s := skipToBreak s s.room
  pure (s.push ⟨m, .directive⟩)

def fetchDocumentIndicator (s : Scanner) (kind : TokenKind) : ScanStep := do
  let s := s.unrollIndent (-1)
  let s ← s.removeSimpleKey
  let s := s.disallow
  let m := s.mark
  let s := s.skipN 3
  let s := s.push ⟨m, kind⟩
  if kind = .documentEnd then
    let (s, _, _) ← s.skipWsToEol true
    if !isBreakOrEnd s.peek then fail s.mark "invalid content after document end marker" else pure s
  else pure s

def fetchFlowCollectionStart (s : Scanner) (kind : TokenKind) : ScanStep := do
  let s := s.saveSimpleKey.rollOneColIndent
  let s := { s with simpleKeys := {} :: s.simpleKeys, flowLevel := s.flowLevel + 1 }
  let s := s.allow
  let m := s.mark
  let (s, _, _) ← s.skipNonBlank.skipWsToEol true
  pure (s.push ⟨m, kind⟩)

def fetchFlowCollectionEnd (s : Scanner) (kind : TokenKind) : ScanStep := do
  let s ← s.removeSimpleKey
  let s := if s.flowLevel > 0 then { s with flowLevel := s.flowLevel - 1, simpleKeys := s.simpleKeys.tail } else s
  let s := s.disallow
  let m := s.mark
  let (s, _, _) ← s.skipNonBlank.skipWsToEol true
  let s := if s.flowLevel > 0 then { s with adjacentValueAt := s.mark.index } else s
  pure (s.push ⟨m, kind⟩)

def fetchFlowEntry (s : Scanner) : ScanStep := do
  let s ← s.removeSimpleKey
  let s := s.allow
  let m := s.mark
  let (s, _, _) ← s.skipNonBlank.skipWsToEol true
  pure (s.push ⟨m, .flowEntry⟩)

def fetchBlockEntry (s : Scanner) : ScanStep := do
  if s.flowLevel > 0 then fail s.mark "\"-\" is only valid inside a block"
  else if !s.simpleKeyAllowed then fail s.mark "block sequence entries are not allowed in this context"
  else
    let m := s.mark
    let s := s.skipNonBlank.rollIndent m.col none .blockSequenceStart m
    let (s, tabs, _) ← s.skipWsToEol true
    if tabs && s.peek == '-' && isBlankOrEnd (s.peekAt 1) then
      fail s.mark "'-' must be followed by a valid YAML whitespace"
    else
      let (s, _, _) ← s.skipWsToEol false
      let s := if isBreak s.peek || isFlow s.peek then s.rollOneColIndent else s
      let s ← s.removeSimpleKey
      let s := s.allow
      pure (s.push ⟨s.mark, .blockEntry⟩)

def fetchKey (s : Scanner) : ScanStep := do
  let m := s.mark
  let s ← if s.flowLevel = 0 then
      if !s.simpleKeyAllowed then fail s.mark "mapping keys are not allowed in this context"
      else pure (s.rollIndent m.col none .blockMappingStart m)
    else pure s
  let s ← s.removeSimpleKey
  let s := if s.flowLevel = 0 then s.allow else s.disallow
  let s := skipSpaces s.skipNonBlank s.room
  if s.peek == '\t' then fail s.mark "tabs disallowed in this context"
  else pure (s.push ⟨m, .key⟩)
where
  skipSpaces (s : Scanner) : Nat → Scanner
    | 0 => s
    | n + 1 => if s.peek == ' ' then skipSpaces s.skipBlank n else s

def fetchValue (s : Scanner) : ScanStep := do
  let k := s.topKey
  let m := s.mark
  let s := s.skipNonBlank
  let s ← if s.peek == '\t' then do
      let (s, _, space) ← s.skipWsToEol true
      if !space && (s.peek == '-' || s.peek.isAlpha) then
        fail s.mark "':' must be followed by a valid YAML whitespace"
      else pure s
    else pure s
  let s ← if k.possible then
      let s := s.insertAt (k.tokenNumber - s.tokensParsed) ⟨k.mark, .key⟩
      let s := (s.rollIndent k.mark.col (some k.tokenNumber) .blockMappingStart m).rollOneColIndent
      pure (s.setTopKey { k with possible := false }).disallow
    else do
      let s ← if s.flowLevel = 0 then
          if !s.simpleKeyAllowed then fail m "mapping values are not allowed in this context"
          else pure (s.rollIndent m.col none .blockMappingStart m)
        else pure s
      let s := s.rollOneColIndent
      pure (if s.flowLevel = 0 then s.allow else s.disallow)
  pure (s.push ⟨m, .value⟩)

/-- Characters of an anchor or alias name. -/
def isAnchorChar (c : Char) : Bool := !isBlankOrEnd c && !isFlow c

def fetchAnchor (s : Scanner) (isAlias : Bool) : ScanStep := do
  let s := s.saveSimpleKey.disallow
  let m := s.mark
  let (s, name) := go s.skipNonBlank "" s.room
  if name.isEmpty then
    fail m "while scanning an anchor or alias, did not find expected alphabetic or numeric character"
  else pure (s.push ⟨m, if isAlias then .reference name else .anchor name⟩)
where
  go (s : Scanner) (acc : String) : Nat → Scanner × String
    | 0 => (s, acc)
    | n + 1 => if isAnchorChar s.peek then go s.skipNonBlank (acc.push s.peek) n else (s, acc)

/-- Characters of a tag's suffix. -/
def isTagChar (c : Char) : Bool :=
  (c.isAlphanum || c == '-' || "#;/?:@&=+$_.~*'()%".contains c) && !isFlow c && c != '!'

def fetchTag (s : Scanner) : ScanStep := do
  let s := s.saveSimpleKey.disallow
  let m := s.mark
  let (s, handle) := handleChars s.skipNonBlank "!" s.room
  let (s, handle) := if s.peek == '!' then (s.skipNonBlank, handle.push '!') else (s, handle)
  let isHandle := handle.length ≥ 2 && handle.startsWith "!" && handle.endsWith "!"
  let head := if isHandle then "" else String.ofList (handle.toList.drop 1)
  let (s, suffix) := suffixChars s head s.room
  let (handle, suffix) :=
    if isHandle then (handle, suffix)
    else if suffix.isEmpty then ("", "!")
    else ("!", suffix)
  if isHandle && suffix.isEmpty then fail m "while parsing a tag, did not find expected tag URI"
  else if isBlankOrEnd s.peek || (s.flowLevel > 0 && isFlow s.peek) then
    pure (s.push ⟨m, .tag handle suffix⟩)
  else fail m "while scanning a tag, did not find expected whitespace or line break"
where
  handleChars (s : Scanner) (acc : String) : Nat → Scanner × String
    | 0 => (s, acc)
    | n + 1 => if isWordChar s.peek then handleChars s.skipNonBlank (acc.push s.peek) n else (s, acc)
  suffixChars (s : Scanner) (acc : String) : Nat → Scanner × String
    | 0 => (s, acc)
    | n + 1 => if isTagChar s.peek then suffixChars s.skipNonBlank (acc.push s.peek) n else (s, acc)

/-- Does a document marker `---` or `...` start here? -/
def atDocumentIndicator (s : Scanner) : Bool :=
  s.mark.col = 0 && isBlankOrEnd (s.peekAt 3) &&
    ((s.peek == '-' && s.peekAt 1 == '-' && s.peekAt 2 == '-') ||
     (s.peek == '.' && s.peekAt 1 == '.' && s.peekAt 2 == '.'))

/-- The text of an escape after `\` in a double-quoted scalar, or the number of hex digits
that follow. -/
def escapeOf : Char → Option (Sum Char Nat)
  | '0' => some (.inl '\x00')
  | 'a' => some (.inl '\x07')
  | 'b' => some (.inl '\x08')
  | 't' | '\t' => some (.inl '\t')
  | 'n' => some (.inl '\n')
  | 'v' => some (.inl '\x0b')
  | 'f' => some (.inl '\x0c')
  | 'r' => some (.inl '\r')
  | 'e' => some (.inl '\x1b')
  | ' ' => some (.inl ' ')
  | '"' => some (.inl '"')
  | '\'' => some (.inl '\'')
  | '\\' => some (.inl '\\')
  | '/' => some (.inl '/')
  | 'N' => some (.inl (Char.ofNat 0x85))
  | '_' => some (.inl (Char.ofNat 0xA0))
  | 'L' => some (.inl (Char.ofNat 0x2028))
  | 'P' => some (.inl (Char.ofNat 0x2029))
  | 'x' => some (.inr 2)
  | 'u' => some (.inr 4)
  | 'U' => some (.inr 8)
  | _ => none

/-- Reads `k` hex digits as a code point. -/
def hexDigits (s : Scanner) (k : Nat) : Option Nat :=
  (List.range k).foldlM (fun acc i => (hexValue? (s.peekAt i)).map (16 * acc + ·)) 0

/-- The characters of a quoted scalar up to a blank, a break or the closing quote; whether an
escaped line break was met. -/
def quotedChars (single : Bool) (start : Mark) (s : Scanner) (acc : String) :
    Nat → Except ScanError (Scanner × String × Bool)
  | 0 => .ok (s, acc, false)
  | n + 1 =>
    let c := s.peek
    if isBlankOrEnd c then .ok (s, acc, false)
    else if single && c == '\'' && s.peekAt 1 == '\'' then
      quotedChars single start (s.skipNonBlank.skipNonBlank) (acc.push '\'') n
    else if single && c == '\'' then .ok (s, acc, false)
    else if !single && c == '"' then .ok (s, acc, false)
    else if !single && c == '\\' && isBreak (s.peekAt 1) then
      .ok (s.skipNonBlank.skipBreak, acc, true)
    else if !single && c == '\\' then
      match escapeOf (s.peekAt 1) with
      | none => fail start "while parsing a quoted scalar, found unknown escape character"
      | some (.inl e) => quotedChars single start (s.skipNonBlank.skipNonBlank) (acc.push e) n
      | some (.inr k) =>
        let s := s.skipNonBlank.skipNonBlank
        match hexDigits s k with
        | none => fail start "while parsing a quoted scalar, did not find expected hexadecimal number"
        | some v =>
          if v > 0x10FFFF ∨ (0xD800 ≤ v ∧ v ≤ 0xDFFF) then
            fail start "while parsing a quoted scalar, found invalid Unicode character escape code"
          else quotedChars single start (s.skipN k) (acc.push (Char.ofNat v)) n
    else quotedChars single start s.skipNonBlank (acc.push c) n

/-- Folding state of a multi-line scalar: pending blanks, the first break, later breaks. -/
structure Fold where
  whitespaces : String := ""
  leadingBreak : String := ""
  trailingBreaks : String := ""
  deriving Repr

/-- The text that joins two pieces of a scalar: the blanks between them on one line, or a
space for one line break, or the breaks of the blank lines. -/
def Fold.joint (f : Fold) (leadingBlanks : Bool) : String :=
  if leadingBlanks then
    if f.leadingBreak.isEmpty then f.trailingBreaks
    else if f.trailingBreaks.isEmpty then " "
    else f.trailingBreaks
  else f.whitespaces

/-- The blanks and breaks inside a quoted scalar. -/
def quotedBlanks (s : Scanner) (f : Fold) (leadingBlanks : Bool) :
    Nat → Except ScanError (Scanner × Fold × Bool)
  | 0 => .ok (s, f, leadingBlanks)
  | n + 1 =>
    let c := s.peek
    if isBlank c then
      if leadingBlanks then
        if c == '\t' && (s.mark.col : Int) < s.indent then fail s.mark "tab cannot be used as indentation"
        else quotedBlanks s.skipBlank f leadingBlanks n
      else quotedBlanks s.skipBlank { f with whitespaces := f.whitespaces.push c } leadingBlanks n
    else if isBreak c then
      if leadingBlanks then
        let (s, b) := s.readBreak f.trailingBreaks
        quotedBlanks s { f with trailingBreaks := b } true n
      else
        let (s, b) := s.readBreak f.leadingBreak
        quotedBlanks s { f with whitespaces := "", leadingBreak := b } true n
    else .ok (s, f, leadingBlanks)

/-- The body of a quoted scalar after its opening quote. -/
def quotedBody (single : Bool) (start : Mark) (s : Scanner) (acc : String) :
    Nat → Except ScanError (Scanner × String)
  | 0 => .ok (s, acc)
  | n + 1 => do
    if s.atDocumentIndicator then
      fail start "while scanning a quoted scalar, found unexpected document indicator"
    else if isEnd s.peek then fail start "while scanning a quoted scalar, found unexpected end of stream"
    else if (s.mark.col : Int) < s.indent then fail start "invalid indentation in quoted scalar"
    else
      let (s, acc, escapedBreak) ← quotedChars single start s acc s.room
      if (single && s.peek == '\'') || (!single && s.peek == '"') then .ok (s, acc)
      else
        let (s, f, leadingBlanks) ← quotedBlanks s {} escapedBreak s.room
        quotedBody single start s (acc ++ f.joint leadingBlanks) n

def scanFlowScalar (s : Scanner) (single : Bool) : Except ScanError (Scanner × Token) := do
  let start := s.mark
  let (s, text) ← quotedBody single start s.skipNonBlank "" s.room
  let s := s.skipNonBlank
  let (s, _, _) ← s.skipWsToEol true
  let c := s.peek
  let fine :=
    (s.flowLevel > 0 && (c == ',' || c == '}' || c == ']')) || isBreakOrEnd c ||
    (c == ':' && (s.flowLevel > 0 || start.line == s.mark.line))
  if fine then .ok (s, ⟨start, .scalar (if single then .singleQuoted else .doubleQuoted) text⟩)
  else fail s.mark "invalid trailing content after double-quoted scalar"

def fetchFlowScalar (s : Scanner) (single : Bool) : ScanStep := do
  let s := s.saveSimpleKey.disallow
  let (s, t) ← s.scanFlowScalar single
  let s ← s.skipToNextToken
  pure ({ s with adjacentValueAt := s.mark.index }.push t)

/-- Can the character here continue a plain scalar? -/
def plainContinues (s : Scanner) : Bool :=
  let c := s.peek
  let inFlow := s.flowLevel > 0
  if c == ':' && (isBlankOrEnd (s.peekAt 1) || (inFlow && isFlow (s.peekAt 1))) then false
  else if inFlow && isFlow c then false
  else true

/-- The content characters of one stretch of a plain scalar. -/
def plainChars (s : Scanner) (acc : String) : Nat → Scanner × String
  | 0 => (s, acc)
  | n + 1 =>
    if isBlankOrEnd s.peek || !s.plainContinues then (s, acc)
    else plainChars s.skipNonBlank (acc.push s.peek) n

/-- The blanks and breaks after a stretch of a plain scalar. -/
def plainBlanks (start : Mark) (indent : Int) (s : Scanner) (f : Fold) :
    Nat → Except ScanError (Scanner × Fold)
  | 0 => .ok (s, f)
  | n + 1 => do
    let c := s.peek
    if isBlank c then
      if !s.leadingWhitespace then
        plainBlanks start indent s.skipBlank { f with whitespaces := f.whitespaces.push c } n
      else if (s.mark.col : Int) < indent && c == '\t' then
        let (s, _, _) ← s.skipWsToEol true
        if !isBreakOrEnd s.peek then fail start "while scanning a plain scalar, found a tab"
        else plainBlanks start indent s f n
      else plainBlanks start indent s.skipBlank f n
    else if isBreak c then
      if s.leadingWhitespace then
        plainBlanks start indent s.skipBreak { f with trailingBreaks := f.trailingBreaks.push '\n' } n
      else
        plainBlanks start indent s.skipBreak { f with whitespaces := "", leadingBreak := f.leadingBreak.push '\n' } n
    else .ok (s, f)

/-- The stretches of a plain scalar, joined. -/
def plainBody (start : Mark) (indent : Int) (s : Scanner) (acc : String) (f : Fold) :
    Nat → Except ScanError (Scanner × String)
  | 0 => .ok (s, acc)
  | n + 1 => do
    if s.atDocumentIndicator || s.peek == '#' then .ok (s, acc)
    else if s.flowLevel > 0 && s.peek == '-' && isFlow (s.peekAt 1) then
      fail s.mark "plain scalar cannot start with '-' followed by ,[]\x7b\x7d"
    else
      let (s, acc, f) :=
        if !isBlankOrEnd s.peek && s.plainContinues then
          let joined := acc ++ f.joint s.leadingWhitespace
          let s' := if s.leadingWhitespace then { s with leadingWhitespace := false } else s
          let (s', acc') := plainChars s'.skipNonBlank (joined.push s.peek) s.room
          (s', acc', ({} : Fold))
        else (s, acc, f)
      if !(isBlank s.peek || isBreak s.peek) then .ok (s, acc)
      else
        let (s, f) ← plainBlanks start indent s f s.room
        if s.flowLevel = 0 && (s.mark.col : Int) < indent then .ok (s, acc)
        else plainBody start indent s acc f n

def scanPlainScalar (s : Scanner) : Except ScanError (Scanner × Token) := do
  let s := s.unrollNonBlockIndents
  let indent := s.indent + 1
  let start := s.mark
  if s.flowLevel > 0 && (start.col : Int) < indent then fail start "invalid indentation in flow construct"
  else
    let (s, text) ← plainBody start indent s "" {} s.room
    let s := if s.leadingWhitespace then s.allow else s
    if text.isEmpty then fail start "unexpected end of plain scalar"
    else .ok (s, ⟨start, .scalar .plain text⟩)

def fetchPlainScalar (s : Scanner) : ScanStep := do
  let s := s.saveSimpleKey.disallow
  let (s, t) ← s.scanPlainScalar
  pure (s.push t)

/-- How the end of a block scalar is kept: stripped, clipped to one break, or kept. -/
inductive Chomping where
  | strip
  | clip
  | keep
  deriving DecidableEq, Repr

/-- Skips the indentation of a block scalar's lines up to `indent`, and its empty lines. -/
def blockIndent (s : Scanner) (indent : Nat) (breaks : String) : Nat → Scanner × String
  | 0 => (s, breaks)
  | n + 1 =>
    let s := spaces s indent s.room
    if isBreak s.peek then
      let (s, b) := s.readBreak breaks
      blockIndent s indent b n
    else (s, breaks)
where
  spaces (s : Scanner) (indent : Nat) : Nat → Scanner
    | 0 => s
    | n + 1 => if s.mark.col < indent && s.peek == ' ' then spaces s.skipBlank indent n else s

/-- Skips the leading empty lines of a block scalar and finds its indentation. -/
def blockFirstIndent (s : Scanner) (breaks : String) : Scanner × Nat × String :=
  let (s, widest, breaks) := go s 0 breaks s.room
  let indent := max widest (s.indent + 1).toNat
  (s, (if s.indent > 0 then max indent 1 else indent), breaks)
where
  spaces (s : Scanner) : Nat → Scanner
    | 0 => s
    | n + 1 => if s.peek == ' ' then spaces s.skipBlank n else s
  go (s : Scanner) (widest : Nat) (breaks : String) : Nat → Scanner × Nat × String
    | 0 => (s, widest, breaks)
    | n + 1 =>
      let s := spaces s s.room
      let widest := max widest s.mark.col
      if isBreak s.peek then
        let (s, b) := s.readBreak breaks
        go s widest b n
      else (s, widest, breaks)

/-- The rest of a line of a block scalar. -/
def lineChars (s : Scanner) (acc : String) : Nat → Scanner × String
  | 0 => (s, acc)
  | n + 1 => if isBreakOrEnd s.peek then (s, acc) else lineChars s.skipBlank (acc.push s.peek) n

/-- The lines of a block scalar at its indentation. -/
def blockLines (literal : Bool) (indent : Nat) (s : Scanner) (acc leadingBreak trailingBreaks : String)
    (leadingBlank : Bool) : Nat → Scanner × String × String × String
  | 0 => (s, acc, leadingBreak, trailingBreaks)
  | n + 1 =>
    if s.mark.col ≠ indent || isEnd s.peek then (s, acc, leadingBreak, trailingBreaks)
    else if indent = 0 && s.peek == '.' && s.peekAt 1 == '.' && s.peekAt 2 == '.' && isBlankOrEnd (s.peekAt 3) then
      (s, acc, leadingBreak, trailingBreaks)
    else
      let trailingBlank := isBlank s.peek
      let acc :=
        if !literal && !leadingBreak.isEmpty && !leadingBlank && !trailingBlank then
          acc ++ trailingBreaks ++ (if trailingBreaks.isEmpty then " " else "")
        else acc ++ leadingBreak ++ trailingBreaks
      let leadingBlank := isBlank s.peek
      let (s, acc) := lineChars s acc s.room
      if isEnd s.peek then (s, acc, "", "")
      else
        let (s, lb) := s.readBreak ""
        let (s, tb) := blockIndent s indent "" s.room
        blockLines literal indent s acc lb tb leadingBlank n

def scanBlockScalar (s : Scanner) (literal : Bool) : Except ScanError (Scanner × Token) := do
  let start := s.mark
  let style := if literal then ScalarStyle.literal else .folded
  let s := s.skipNonBlank.unrollNonBlockIndents
  let chompOf (c : Char) : Option Chomping :=
    if c == '+' then some .keep else if c == '-' then some .strip else none
  let digitOf (c : Char) : Option Nat := if c.isDigit then some (c.toNat - '0'.toNat) else none
  let (s, chomping, increment) ← match chompOf s.peek with
    | some ch =>
      let s := s.skipNonBlank
      match digitOf s.peek with
      | some 0 => fail start "while scanning a block scalar, found an indentation indicator equal to 0"
      | some d => pure (s.skipNonBlank, ch, d)
      | none => pure (s, ch, 0)
    | none =>
      match digitOf s.peek with
      | some 0 => fail start "while scanning a block scalar, found an indentation indicator equal to 0"
      | some d =>
        let s := s.skipNonBlank
        match chompOf s.peek with
        | some ch => pure (s.skipNonBlank, ch, d)
        | none => pure (s, Chomping.clip, d)
      | none => pure (s, Chomping.clip, 0)
  let (s, _, _) ← s.skipWsToEol true
  if !isBreakOrEnd s.peek then
    fail start "while scanning a block scalar, did not find expected comment or line break"
  else
    let (s, chompingBreak) := if isBreak s.peek then s.readBreak "" else (s, "")
    if s.peek == '\t' then fail start "a block scalar content cannot start with a tab"
    else
      let (s, indent, trailing) :=
        if increment > 0 then
          let indent := if s.indent ≥ 0 then (s.indent + increment).toNat else increment
          let (s, b) := blockIndent s indent "" s.room
          (s, indent, b)
        else blockFirstIndent s ""
      if isEnd s.peek then
        let text := match chomping with
          | .strip => ""
          | .clip => chompingBreak
          | .keep => if s.mark.line == start.line then chompingBreak else chompingBreak ++ trailing
        .ok (s, ⟨start, .scalar style text⟩)
      else if s.mark.col < indent && (s.mark.col : Int) > s.indent then
        fail s.mark "wrongly indented line in block scalar"
      else
        let contentStart := s.mark
        let (s, text, leadingBreak, trailingBreaks) :=
          blockLines literal indent s "" "" trailing false s.room
        let text :=
          if chomping ≠ .strip then
            text ++ leadingBreak ++ (if isEnd s.peek && s.mark.col ≥ max indent 1 then "\n" else "")
          else text
        let text := if chomping = .keep then text ++ trailingBreaks else text
        .ok (s, ⟨contentStart, .scalar style text⟩)

def fetchBlockScalar (s : Scanner) (literal : Bool) : ScanStep := do
  let s := s.saveSimpleKey.allow
  let (s, t) ← s.scanBlockScalar literal
  pure (s.push t)

/-- Scans the next token. -/
def fetchNextToken (s : Scanner) : ScanStep := do
  if !s.started then pure s.fetchStreamStart
  else
    let s ← s.skipToNextToken
    let s ← s.staleSimpleKeys
    let s := s.unrollIndent s.mark.col
    let c := s.peek
    let nc := s.peekAt 1
    if isEnd c then s.fetchStreamEnd
    else if s.mark.col = 0 && c == '%' then s.fetchDirective
    else if s.mark.col = 0 && c == '-' && nc == '-' && s.peekAt 2 == '-' && isBlankOrEnd (s.peekAt 3) then
      s.fetchDocumentIndicator .documentStart
    else if s.mark.col = 0 && c == '.' && nc == '.' && s.peekAt 2 == '.' && isBlankOrEnd (s.peekAt 3) then
      s.fetchDocumentIndicator .documentEnd
    else if (s.mark.col : Int) < s.indent then fail s.mark "invalid indentation"
    else match c with
      | '[' => s.fetchFlowCollectionStart .flowSequenceStart
      | '{' => s.fetchFlowCollectionStart .flowMappingStart
      | ']' => s.fetchFlowCollectionEnd .flowSequenceEnd
      | '}' => s.fetchFlowCollectionEnd .flowMappingEnd
      | ',' => s.fetchFlowEntry
      | '-' => if isBlankOrEnd nc then s.fetchBlockEntry else s.fetchPlainScalar
      | '?' => if isBlankOrEnd nc then s.fetchKey else s.fetchPlainScalar
      | ':' =>
        if isBlankOrEnd nc || (s.flowLevel > 0 && (isFlow nc || s.mark.index == s.adjacentValueAt)) then
          s.fetchValue
        else s.fetchPlainScalar
      | '*' => s.fetchAnchor true
      | '&' => s.fetchAnchor false
      | '!' => s.fetchTag
      | '|' => if s.flowLevel = 0 then s.fetchBlockScalar true else s.fetchPlainScalar
      | '>' => if s.flowLevel = 0 then s.fetchBlockScalar false else s.fetchPlainScalar
      | '\'' => s.fetchFlowScalar true
      | '"' => s.fetchFlowScalar false
      | '%' | '@' | '\x60' => fail s.mark ("unexpected character: `" ++ String.singleton c ++ "'")
      | _ => s.fetchPlainScalar

/-- Scans until the next token is certain: none is queued, or the first queued one may still
become a key. -/
def fetchMoreTokens (s : Scanner) : Nat → ScanStep
  | 0 => .ok s
  | n + 1 => do
    let needMore ← if s.tokens.isEmpty then pure (true, s)
      else do
        let s ← s.staleSimpleKeys
        pure (s.simpleKeys.any (fun k => k.possible && k.tokenNumber == s.tokensParsed), s)
    match needMore with
    | (true, s) => fetchMoreTokens (← s.fetchNextToken) n
    | (false, s) => .ok { s with tokenAvailable := true }

/-- Hands out the next token; `none` after the end of the stream. -/
def nextToken (s : Scanner) : Except ScanError (Scanner × Option Token) := do
  if s.ended then pure (s, none)
  else
    let s ← if s.tokenAvailable then pure s else s.fetchMoreTokens (4 * s.room + 8)
    match s.tokens with
    | [] => fail s.mark "did not find expected next token"
    | t :: rest =>
      let s := { s with tokens := rest, tokenAvailable := false, tokensParsed := s.tokensParsed + 1 }
      pure ((if t.kind = .streamEnd then { s with ended := true } else s), some t)

end Scanner

end Strainer.Yaml
