import Strainer.Rows.View
import Strainer.Value.Json

/-!
# Rows from lines of JSON text

A cursor over text holding one JSON object per line. Each line is its own row and brings its own
fields, so names, kinds and type names describe the current row only: a member's kind is that of
its value (a null reads as a string field) and its type name is the JSON type. Blank lines are
skipped but counted, so the line number always names the line the cursor is on. A line that does
not parse, or holds something other than an object, fails the move onto it; the next move goes on
with the following line.
-/

namespace Strainer.Rows

/-- The lines of a text, each with its line feed; a last line without one is kept if it is not
empty. -/
def linesOf : List Char → List Char → List (List Char)
  | [], current => if current.isEmpty then [] else [current.reverse]
  | c :: cs, current =>
    if c = '\n' then (c :: current).reverse :: linesOf cs []
    else linesOf cs (c :: current)

/-- The name of a JSON value's type. -/
def jsonTypeName : Json → String
  | .null => "null"
  | .bool _ => "boolean"
  | .number _ => "number"
  | .string _ => "string"
  | .array _ => "array"
  | .object _ => "object"

/-- The fields of one line. -/
structure JsonRow where
  names : List String
  values : List Value
  typeNames : List String
  deriving DecidableEq

/-- The row a line of JSON text holds, or why it holds none. -/
def JsonRow.parse (line : Nat) (text : List Char) : Except CursorError JsonRow :=
  match Json.parse (String.ofList text) with
  | .error e => .error (.json line e)
  | .ok (.object ms) =>
    .ok ⟨ms.map (·.1), ms.map (Value.ofJson ·.2), ms.map (jsonTypeName ·.2)⟩
  | .ok _ => .error (.notAnObject line)

/-- A cursor over lines of JSON objects. -/
structure JsonLinesCursor where
  /-- The lines not read yet. -/
  pending : List (List Char)
  /-- The number of lines read. -/
  line : Nat := 0
  row : Option JsonRow := none
  /-- A failure of the text underneath, met at every read. -/
  failure : Option IoError := none
  deriving DecidableEq

namespace JsonLinesCursor

/-- A cursor over a text. -/
def ofText (s : String) : JsonLinesCursor := ⟨linesOf s.toList [], 0, none, none⟩

/-- A cursor over a text that cannot be read. -/
def failing (e : IoError) : JsonLinesCursor := ⟨[], 0, none, some e⟩

/-- Skips blank lines and reads the next: the lines left, the lines read, and the row. -/
def nextRow : List (List Char) → Nat → List (List Char) × Nat × Except CursorError (Option JsonRow)
  | [], n => ([], n, .ok none)
  | l :: ls, n =>
    if (Text.trim l).isEmpty then nextRow ls (n + 1)
    else (ls, n + 1, (JsonRow.parse (n + 1) l).map some)

def advance (c : JsonLinesCursor) : JsonLinesCursor × Except CursorError Bool :=
  match c.failure with
  | some e => ({ c with row := none }, .error (.io e))
  | none =>
    let (pending, line, r) := nextRow c.pending c.line
    let c := { c with pending, line, row := none }
    match r with
    | .ok (some row) => ({ c with row := some row }, .ok true)
    | .ok none => (c, .ok false)
    | .error e => (c, .error e)

def current (c : JsonLinesCursor) : Except CursorError JsonRow :=
  match c.row with
  | some r => .ok r
  | none => .error .noCurrentRow

private def pick {β : Type} (xs : List β) (i : Nat) : Except CursorError β :=
  match xs[i]? with
  | some x => .ok x
  | none => .error (.ordinalOutOfRange i xs.length)

def valueAt (c : JsonLinesCursor) (i : Nat) : Except CursorError Value := do
  pick (← c.current).values i

instance : RowCursor JsonLinesCursor where
  fieldCount c := (c.row.map (·.names.length)).getD 0
  name c i := do pick (← c.current).names i
  fieldKind c i := do pure ((← c.valueAt i).kind.getD .string)
  dataTypeName c i := do pick (← c.current).typeNames i
  isNull c i := do pure (← c.valueAt i).isNull
  value c i := c.valueAt i
  advance := advance
  remaining c := c.pending.length

/-! Reading the fields of the row the cursor is on. -/

section Reads

variable {c : JsonLinesCursor} {row : JsonRow} {i : Nat}

theorem fieldCount_eq (h : c.row = some row) : RowView.fieldCount c = row.names.length := by
  show (c.row.map (·.names.length)).getD 0 = _
  rw [h]
  rfl

theorem name_eq_ok {n : String} (h : c.row = some row) (hi : row.names[i]? = some n) :
    RowView.name c i = .ok n := by
  show (do pick (← c.current).names i) = _
  simp [current, h, pick, hi, bind, Except.bind]

theorem dataTypeName_eq_ok {t : String} (h : c.row = some row) (hi : row.typeNames[i]? = some t) :
    RowView.dataTypeName c i = .ok t := by
  show (do pick (← c.current).typeNames i) = _
  simp [current, h, pick, hi, bind, Except.bind]

theorem value_eq_ok {v : Value} (h : c.row = some row) (hi : row.values[i]? = some v) :
    RowView.value c i = .ok v := by
  show (do pick (← c.current).values i) = _
  simp [current, h, pick, hi, bind, Except.bind]

/-- A member's kind is that of its value, and a null reads as a string field. -/
theorem fieldKind_eq_ok {v : Value} (h : c.row = some row) (hi : row.values[i]? = some v) :
    RowView.fieldKind c i = .ok (v.kind.getD .string) := by
  show (do pure ((← c.valueAt i).kind.getD .string)) = _
  rw [show c.valueAt i = .ok v from value_eq_ok h hi]
  rfl

end Reads

end JsonLinesCursor

end Strainer.Rows
