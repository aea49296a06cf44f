import Strainer.Rows.View
import Strainer.Record.Members

/-!
# Row records

A row record is a snapshot of one row: its columns and one value per column, kept after the
source has moved on. Filters read it by member name, with the row rules: the name is matched as
column names are (exactly, else ignoring ASCII case); asked for a kind, a null member reads as
that kind's default, a value already of that kind is kept, and any other value is converted.

A sequence of records numbers the column lists it captures: records with the same `layout`
share one column list.
-/

namespace Strainer.Rows

open Strainer.Filter Record

/-- A snapshot of one row. -/
structure RowRecord where
  columns : List Column
  values : List Value
  /-- Which column list of its sequence the record uses. -/
  layout : Nat := 0
  deriving DecidableEq

namespace RowRecord

/-- A record of the given columns and values, which must be as many. -/
def new (columns : List Column) (values : List Value) : Except CursorError RowRecord :=
  if columns.length = values.length then .ok ⟨columns, values, 0⟩
  else .error (.rowWidth 0 columns.length values.length)

/-- The column at a position. -/
def column (r : RowRecord) (ordinal : Nat) : Except CursorError Column :=
  match r.columns[ordinal]? with
  | some c => .ok c
  | none => .error (.ordinalOutOfRange ordinal r.columns.length)

/-- The value at a position. -/
def valueAt (r : RowRecord) (ordinal : Nat) : Except CursorError Value :=
  match r.values[ordinal]? with
  | some v => .ok v
  | none => .error (.ordinalOutOfRange ordinal r.values.length)

instance : RowView RowRecord where
  fieldCount r := r.columns.length
  name r i := do pure (← r.column i).name
  fieldKind r i := do pure (← r.column i).kind
  dataTypeName r i := do pure (← r.column i).typeName
  isNull r i := do pure (← r.valueAt i).isNull
  value r i := r.valueAt i

/-- The member called `name`, matched as column names are. -/
def find? (r : RowRecord) (name : String) : Option Value :=
  match RowView.ordinal r name with
  | .ok i => r.values[i]?
  | .error _ => none

/-- Nulls read as the default of the kind asked for; values of that kind are kept; others are
converted. -/
def resolveAs (r : RowRecord) (name : String) (k : Kind) : Except EvalError Value :=
  match r.find? name with
  | none => .error (.unresolvedMember name)
  | some v => match v.kind with
    | none => .ok k.defaultValue
    | some found => if found = k then .ok v else convertValue v k

instance : Members RowRecord where
  resolve := find?
  names r := r.columns.map (·.name)
  resolveAs := resolveAs

/-- The record as a JSON object, member by column; a repeated name keeps its first place and
its last value. -/
def toJson (r : RowRecord) : Json :=
  .object ((r.columns.zip r.values).foldl
    (fun ms (c, v) => Json.insertMember ms c.name v.toJson) [])

/-- Does the row in `source` have exactly these columns? -/
def sameSchema {α : Type} [RowView α] (source : α) (columns : List Column) :
    Except CursorError Bool := do
  if RowView.fieldCount source ≠ columns.length then return false
  (List.range columns.length).zip columns |>.allM fun (i, c) => do
    if (← RowView.name source i) ≠ c.name then return false
    if (← RowView.fieldKind source i) ≠ c.kind then return false
    return (← RowView.dataTypeName source i) = c.typeName

/-- A snapshot of the row `source` is on, sharing the column list of `previous` when the
columns have not changed. -/
def capture {α : Type} [RowView α] (source : α) (previous : Option RowRecord) :
    Except CursorError RowRecord := do
  let (columns, layout) ← match previous with
    | some p => do
      if ← sameSchema source p.columns then pure (p.columns, p.layout)
      else pure (← RowView.columns source, p.layout + 1)
    | none => pure (← RowView.columns source, 0)
  let values ← (List.range columns.length).mapM (RowView.value source)
  pure ⟨columns, values, layout⟩

end RowRecord

end Strainer.Rows
