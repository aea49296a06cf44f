import Strainer.Yaml.Scanner

/-!
# YAML events

The parser turns tokens into the events of a document's tree: documents, collections opening
and closing, scalars and aliases. It is a state machine over the token stream with a stack of
states to return to, one per open collection. A key or value with no content gives the empty
scalar `~`; an anchor is numbered from one in the order anchors appear, and an alias names the
number of the last anchor of its name in the same document. A tag `!!x` stands for
`tag:yaml.org,2002:x`.
-/

namespace Strainer.Yaml

/-- The tag of a node: the handle as resolved, and the suffix. -/
structure Tag where
  handle : String
  suffix : String
  deriving DecidableEq, Repr

/-- An event of the tree of a YAML stream. Anchors are numbered from one; zero means none. -/
inductive Event where
  | streamStart
  | streamEnd
  | documentStart
  | documentEnd
  /-- An alias to the node of an anchor. -/
  | reference (id : Nat)
  | scalar (text : String) (style : ScalarStyle) (anchor : Nat) (tag : Option Tag)
  | sequenceStart (anchor : Nat)
  | sequenceEnd
  | mappingStart (anchor : Nat)
  | mappingEnd
  deriving DecidableEq, Repr

/-- The scalar that stands for missing content. -/
def Event.empty : Event := .scalar "~" .plain 0 none

/-- Where the parser is in the grammar. -/
inductive ParseState where
  | streamStart
  | implicitDocumentStart
  | documentStart
  | documentContent
  | documentEnd
  | blockNode
  | blockSequenceFirstEntry
  | blockSequenceEntry
  | indentlessSequenceEntry
  | blockMappingFirstKey
  | blockMappingKey
  | blockMappingValue
  | flowSequenceFirstEntry
  | flowSequenceEntry
  | flowSequenceEntryMappingKey
  | flowSequenceEntryMappingValue
  | flowSequenceEntryMappingEnd
  | flowMappingFirstKey
  | flowMappingKey
  | flowMappingValue
  | flowMappingEmptyValue
  | done
  deriving DecidableEq, Repr

/-- The parser: the scanner, the token looked at, the state and the states to return to, and
the anchors of the current document. -/
structure Parser where
  scanner : Scanner
  peeked : Option Token := none
  state : ParseState := .streamStart
  states : List ParseState := []
  anchors : List (String × Nat) := []
  nextAnchor : Nat := 1

/-- A parser step: the parser after it and the event it gives. -/
abbrev ParseStep := Except ScanError (Parser × Event)

namespace Parser

/-- The next token, scanned if need be. -/
def peek (p : Parser) : Except ScanError (Parser × Token) :=
  match p.peeked with
  | some t => .ok (p, t)
  | none => do
    let (s, t?) ← p.scanner.nextToken
    match t? with
    | some t => .ok ({ p with scanner := s, peeked := some t }, t)
    | none => .error ⟨s.mark, "unexpected eof"⟩

def skip (p : Parser) : Parser := { p with peeked := none }

def push (p : Parser) (st : ParseState) : Parser := { p with states := st :: p.states }

def pop (p : Parser) : Parser :=
  { p with state := p.states.headD .done, states := p.states.tail }

def goto (p : Parser) (st : ParseState) : Parser := { p with state := st }

def fail {α : Type} (m : Mark) (info : String) : Except ScanError α := .error ⟨m, info⟩

def registerAnchor (p : Parser) (name : String) : Parser × Nat :=
  ({ p with anchors := (name, p.nextAnchor) :: p.anchors, nextAnchor := p.nextAnchor + 1 }, p.nextAnchor)

/-- The tag a handle and suffix stand for; no handles are declared, so a named one is an error. -/
def resolveTag (m : Mark) (handle suffix : String) : Except ScanError Tag :=
  if handle == "!!" then .ok ⟨"tag:yaml.org,2002:", suffix⟩
  else if handle.isEmpty && suffix == "!" then .ok ⟨"", suffix⟩
  else if handle.length ≥ 2 && handle.startsWith "!" && handle.endsWith "!" then
    fail m "the handle wasn't declared"
  else .ok ⟨handle, suffix⟩

/-- The properties before a node: its anchor and tag, in either order. -/
def properties (p : Parser) : Except ScanError (Parser × Nat × Option Tag) := do
  let (p, t) ← p.peek
  match t.kind with
  | .anchor name =>
    let (p, id) := p.skip.registerAnchor name
    let (p, t') ← p.peek
    match t'.kind with
    | .tag h s => pure (p.skip, id, some (← resolveTag t.mark h s))
    | _ => pure (p, id, none)
  | .tag h s =>
    let tag ← resolveTag t.mark h s
    let (p, t') ← p.skip.peek
    match t'.kind with
    | .anchor name =>
      let (p, id) := p.skip.registerAnchor name
      pure (p, id, some tag)
    | _ => pure (p, 0, some tag)
  | _ => pure (p, 0, none)

/-- A node: an alias, a scalar, or the start of a collection. -/
def node (p : Parser) (block indentless : Bool) : ParseStep := do
  let (p, t) ← p.peek
  match t.kind with
  | .reference name =>
    match p.anchors.lookup name with
    | some id => pure (p.skip.pop, .reference id)
    | none => fail t.mark "while parsing node, found unknown anchor"
  | _ =>
    let (p, anchor, tag) ← p.properties
    let (p, t) ← p.peek
    match t.kind with
    | .blockEntry =>
      if indentless then pure (p.goto .indentlessSequenceEntry, .sequenceStart anchor)
      else if tag.isSome || anchor > 0 then pure (p.pop, .scalar "~" .plain anchor tag)
      else fail t.mark "while parsing a node, did not find expected node content"
    | .scalar style text => pure (p.skip.pop, .scalar text style anchor tag)
    | .flowSequenceStart => pure (p.goto .flowSequenceFirstEntry, .sequenceStart anchor)
    | .flowMappingStart => pure (p.goto .flowMappingFirstKey, .mappingStart anchor)
    | .blockSequenceStart =>
      if block then pure (p.goto .blockSequenceFirstEntry, .sequenceStart anchor)
      else if tag.isSome || anchor > 0 then pure (p.pop, .scalar "~" .plain anchor tag)
      else fail t.mark "while parsing a node, did not find expected node content"
    | .blockMappingStart =>
      if block then pure (p.goto .blockMappingFirstKey, .mappingStart anchor)
      else if tag.isSome || anchor > 0 then pure (p.pop, .scalar "~" .plain anchor tag)
      else fail t.mark "while parsing a node, did not find expected node content"
    | _ =>
      if tag.isSome || anchor > 0 then pure (p.pop, .scalar "~" .plain anchor tag)
      else fail t.mark "while parsing a node, did not find expected node content"

/-- Skips the directives before a document. -/
def directives (p : Parser) : Nat → Except ScanError Parser
  | 0 => .ok p
  | n + 1 => do
    let (p, t) ← p.peek
    if t.kind = .directive then directives p.skip n else pure p

def explicitDocumentStart (p : Parser) : ParseStep := do
  let p ← p.directives p.scanner.room
  let (p, t) ← p.peek
  if t.kind = .documentStart then
    pure ({ ((p.push .documentEnd).goto .documentContent).skip with anchors := [] }, .documentStart)
  else fail t.mark "did not find expected <document start>"

/-- Skips the document end markers before a document. -/
def documentEnds (p : Parser) : Nat → Except ScanError Parser
  | 0 => .ok p
  | n + 1 => do
    let (p, t) ← p.peek
    if t.kind = .documentEnd then documentEnds p.skip n else pure p

def documentStart (p : Parser) (implicit : Bool) : ParseStep := do
  let p ← p.documentEnds p.scanner.room
  let (p, t) ← p.peek
  match t.kind with
  | .streamEnd => pure ((p.goto .done).skip, .streamEnd)
  | .directive | .documentStart => p.explicitDocumentStart
  | _ =>
    if implicit then
      let p ← p.directives p.scanner.room
      pure ({ (p.push .documentEnd).goto .blockNode with anchors := [] }, .documentStart)
    else p.explicitDocumentStart

def documentContent (p : Parser) : ParseStep := do
  let (p, t) ← p.peek
  match t.kind with
  | .directive | .documentStart | .documentEnd | .streamEnd => pure (p.pop, Event.empty)
  | _ => p.node true false

def documentEnd (p : Parser) : ParseStep := do
  let (p, t) ← p.peek
  if t.kind = .documentEnd then pure ((p.skip.goto .implicitDocumentStart), .documentEnd)
  else
    if t.kind = .directive then fail t.mark "missing explicit document end marker before directive"
    else pure (p.goto .documentStart, .documentEnd)

def blockSequenceEntry (p : Parser) (first : Bool) : ParseStep := do
  let p ← if first then do let (p, _) ← p.peek; pure p.skip else pure p
  let (p, t) ← p.peek
  match t.kind with
  | .blockEnd => pure (p.pop.skip, .sequenceEnd)
  | .blockEntry =>
    let (p, t) ← p.skip.peek
    match t.kind with
    | .blockEntry | .blockEnd => pure (p.goto .blockSequenceEntry, Event.empty)
    | _ => (p.push .blockSequenceEntry).node true false
  | _ => fail t.mark "while parsing a block collection, did not find expected '-' indicator"

def indentlessSequenceEntry (p : Parser) : ParseStep := do
  let (p, t) ← p.peek
  if t.kind ≠ .blockEntry then pure (p.pop, .sequenceEnd)
  else
    let (p, t) ← p.skip.peek
    match t.kind with
    | .blockEntry | .key | .value | .blockEnd => pure (p.goto .indentlessSequenceEntry, Event.empty)
    | _ => (p.push .indentlessSequenceEntry).node true false

def blockMappingKey (p : Parser) (first : Bool) : ParseStep := do
  let p ← if first then do let (p, _) ← p.peek; pure p.skip else pure p
  let (p, t) ← p.peek
  match t.kind with
  | .key =>
    let (p, t) ← p.skip.peek
    match t.kind with
    | .key | .value | .blockEnd => pure (p.goto .blockMappingValue, Event.empty)
    | _ => (p.push .blockMappingValue).node true true
  | .value => pure (p.goto .blockMappingValue, Event.empty)
  | .blockEnd => pure (p.pop.skip, .mappingEnd)
  | _ => fail t.mark "while parsing a block mapping, did not find expected key"

def blockMappingValue (p : Parser) : ParseStep := do
  let (p, t) ← p.peek
  match t.kind with
  | .value =>
    let (p, t) ← p.skip.peek
    match t.kind with
    | .key | .value | .blockEnd => pure (p.goto .blockMappingKey, Event.empty)
    | _ => (p.push .blockMappingKey).node true true
  | _ => pure (p.goto .blockMappingKey, Event.empty)

def flowSequenceEntry (p : Parser) (first : Bool) : ParseStep := do
  let p ← if first then do let (p, _) ← p.peek; pure p.skip else pure p
  let (p, t) ← p.peek
  if t.kind = .flowSequenceEnd then pure (p.pop.skip, .sequenceEnd)
  else
    let p ← if first then pure p
      else if t.kind = .flowEntry then pure p.skip
      else fail t.mark "while parsing a flow sequence, expected ',' or ']'"
    let (p, t) ← p.peek
    match t.kind with
    | .flowSequenceEnd => pure (p.pop.skip, .sequenceEnd)
    | .key => pure ((p.goto .flowSequenceEntryMappingKey).skip, .mappingStart 0)
    | _ => (p.push .flowSequenceEntry).node false false

def flowSequenceEntryMappingKey (p : Parser) : ParseStep := do
  let (p, t) ← p.peek
  match t.kind with
  | .value | .flowEntry | .flowSequenceEnd => pure ((p.skip.goto .flowSequenceEntryMappingValue), Event.empty)
  | _ => (p.push .flowSequenceEntryMappingValue).node false false

def flowSequenceEntryMappingValue (p : Parser) : ParseStep := do
  let (p, t) ← p.peek
  match t.kind with
  | .value =>
    let (p, t) ← p.skip.peek
    match t.kind with
    | .flowEntry | .flowSequenceEnd => pure (p.goto .flowSequenceEntryMappingEnd, Event.empty)
    | _ => (p.push .flowSequenceEntryMappingEnd).node false false
  | _ => pure (p.goto .flowSequenceEntryMappingEnd, Event.empty)

def flowMappingKey (p : Parser) (first : Bool) : ParseStep := do
  let p ← if first then do let (p, _) ← p.peek; pure p.skip else pure p
  let (p, t) ← p.peek
  if t.kind = .flowMappingEnd then pure (p.pop.skip, .mappingEnd)
  else
    let p ← if first then pure p
      else if t.kind = .flowEntry then pure p.skip
      else fail t.mark "while parsing a flow mapping, did not find expected ',' or '\x7d'"
    let (p, t) ← p.peek
    match t.kind with
    | .key =>
      let (p, t) ← p.skip.peek
      match t.kind with
      | .value | .flowEntry | .flowMappingEnd => pure (p.goto .flowMappingValue, Event.empty)
      | _ => (p.push .flowMappingValue).node false false
    | .value => pure (p.goto .flowMappingValue, Event.empty)
    | .flowMappingEnd => pure (p.pop.skip, .mappingEnd)
    | _ => (p.push .flowMappingEmptyValue).node false false

def flowMappingValue (p : Parser) (empty : Bool) : ParseStep := do
  if empty then
    let (p, _) ← p.peek
    pure (p.goto .flowMappingKey, Event.empty)
  else
    let (p, t) ← p.peek
    match t.kind with
    | .value =>
      let (p, t) ← p.skip.peek
      match t.kind with
      | .flowEntry | .flowMappingEnd => pure (p.goto .flowMappingKey, Event.empty)
      | _ => (p.push .flowMappingKey).node false false
    | _ => pure (p.goto .flowMappingKey, Event.empty)

/-- One event. -/
def step (p : Parser) : ParseStep :=
  match p.state with
  | .streamStart => do
    let (p, t) ← p.peek
    if t.kind = .streamStart then pure ((p.goto .implicitDocumentStart).skip, .streamStart)
    else fail t.mark "did not find expected <stream-start>"
  | .implicitDocumentStart => p.documentStart true
  | .documentStart => p.documentStart false
  | .documentContent => p.documentContent
  | .documentEnd => p.documentEnd
  | .blockNode => p.node true false
  | .blockSequenceFirstEntry => p.blockSequenceEntry true
  | .blockSequenceEntry => p.blockSequenceEntry false
  | .indentlessSequenceEntry => p.indentlessSequenceEntry
  | .blockMappingFirstKey => p.blockMappingKey true
  | .blockMappingKey => p.blockMappingKey false
  | .blockMappingValue => p.blockMappingValue
  | .flowSequenceFirstEntry => p.flowSequenceEntry true
  | .flowSequenceEntry => p.flowSequenceEntry false
  | .flowSequenceEntryMappingKey => p.flowSequenceEntryMappingKey
  | .flowSequenceEntryMappingValue => p.flowSequenceEntryMappingValue
  | .flowSequenceEntryMappingEnd => pure (p.goto .flowSequenceEntry, .mappingEnd)
  | .flowMappingFirstKey => p.flowMappingKey true
  | .flowMappingKey => p.flowMappingKey false
  | .flowMappingValue => p.flowMappingValue false
  | .flowMappingEmptyValue => p.flowMappingValue true
  | .done => pure (p, .streamEnd)

/-- The events up to the end of the stream, in order. -/
def events (p : Parser) (acc : Array Event) : Nat → Except ScanError (Array Event)
  | 0 => .ok acc
  | n + 1 => do
    let (p, e) ← p.step
    if e = .streamEnd then pure (acc.push e) else events p (acc.push e) n

end Parser

/-- The events of a YAML text, or the first error met. -/
def Event.ofText (text : String) : Except ScanError (List Event) :=
  let p : Parser := { scanner := Scanner.new text }
  (p.events #[] (8 * text.length + 16)).map Array.toList

end Strainer.Yaml
