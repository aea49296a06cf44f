import Strainer.Rows.View

/-!
# Rows held in memory

A cursor over a table of rows given up front. Every row must hold one value per column. The
cursor starts before the first row; moving past the last row leaves it after the end, where it
stays.
-/

namespace Strainer.Rows

/-- A cursor over rows held in memory. -/
structure MemoryCursor where
  columns : List Column
  rows : List (List Value)
  /-- The row the cursor is on; `none` before the first move, `rows.length` after the end. -/
  position : Option Nat := none
  deriving DecidableEq

namespace MemoryCursor

/-- The first row whose width differs from the number of columns, with its position. -/
def raggedRow? (width : Nat) (rows : List (List Value)) : Option (Nat × Nat) :=
  ((List.range rows.length).zip rows).findSome? fun (i, r) =>
    if r.length = width then none else some (i, r.length)

/-- A cursor over `rows`, which must all have one value per column. -/
def build (columns : List Column) (rows : List (List Value)) : Except CursorError MemoryCursor :=
  match raggedRow? columns.length rows with
  | some (i, found) => .error (.rowWidth i columns.length found)
  | none => .ok ⟨columns, rows, none⟩

def rowCount (c : MemoryCursor) : Nat := c.rows.length

/-- The row the cursor is on. -/
def current (c : MemoryCursor) : Except CursorError (List Value) :=
  match c.position.bind (c.rows[·]?) with
  | some r => .ok r
  | none => .error .noCurrentRow

def column (c : MemoryCursor) (ordinal : Nat) : Except CursorError Column :=
  match c.columns[ordinal]? with
  | some col => .ok col
  | none => .error (.ordinalOutOfRange ordinal c.columns.length)

def valueAt (c : MemoryCursor) (ordinal : Nat) : Except CursorError Value := do
  let r ← c.current
  match r[ordinal]? with
  | some v => pure v
  | none => throw (.ordinalOutOfRange ordinal r.length)

/-- One row further; after the last row the cursor stays after the end. -/
def advance (c : MemoryCursor) : MemoryCursor × Except CursorError Bool :=
  let next := match c.position with
    | some p => p + 1
    | none => 0
  if next < c.rows.length then ({ c with position := some next }, .ok true)
  else ({ c with position := some c.rows.length }, .ok false)

instance : RowCursor MemoryCursor where
  fieldCount c := c.columns.length
  name c i := do pure (← c.column i).name
  fieldKind c i := do pure (← c.column i).kind
  dataTypeName c i := do pure (← c.column i).typeName
  isNull c i := do pure (← c.valueAt i).isNull
  value c i := c.valueAt i
  advance := advance
  remaining c := c.rows.length - (c.position.map (· + 1)).getD 0

end MemoryCursor

end Strainer.Rows
