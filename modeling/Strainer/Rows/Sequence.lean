import Strainer.Rows.Record

/-!
# Sequences of records

A cursor read as a sequence of row records, one snapshot per row. `Records` is one pass over the
cursor and `next` its step: the sequence stops at the first failure, which it yields; after
that, or after the last row, it yields nothing and leaves the cursor alone. Consecutive records
with the same columns share one column list. `records` collects a whole pass and keeps the pass
after it, which yields nothing more.

`Interrupted` is a cursor whose source drops after a number of rows: the move after them fails
and leaves the source where it was.
-/

namespace Strainer.Rows

variable {σ : Type} [RowCursor σ]

/-- A single pass over a cursor: the cursor, the last record yielded (whose column list the
next record shares while the columns stay the same), and whether the pass is over. -/
structure Records (σ : Type) where
  cursor : σ
  last : Option RowRecord := none
  done : Bool := false

namespace Records

/-- A pass that has not started. -/
def start (c : σ) : Records σ := ⟨c, none, false⟩

/-- The next item of the pass: the record of the next row; or a failure to move to it or to
read it, after which the pass is over; or nothing, at the end of the rows and after the pass
is over. -/
def next (s : Records σ) : Records σ × Option (Except CursorError RowRecord) :=
  if s.done then (s, none)
  else
    match RowCursor.advance s.cursor with
    | (c, .ok false) => ({ s with cursor := c, done := true }, none)
    | (c, .error e) => ({ s with cursor := c, done := true }, some (.error e))
    | (c, .ok true) =>
      match RowRecord.capture c s.last with
      | .error e => ({ s with cursor := c, done := true }, some (.error e))
      | .ok r => ({ s with cursor := c, last := some r }, some (.ok r))

/-- The items of at most `fuel` more calls of `next`, up to the first that yields nothing, and
the pass after them. -/
def drain : Nat → Records σ → List (Except CursorError RowRecord) × Records σ
  | 0, s => ([], s)
  | fuel + 1, s =>
    match s.next with
    | (s, none) => ([], s)
    | (s, some item) =>
      let (rest, s) := drain fuel s
      (item :: rest, s)

end Records

/-- A whole pass over the cursor: every remaining row as a record, up to the first failure, and
the pass after the call that yields nothing. It takes one call per row still to come and one
more. -/
def records (c : σ) : List (Except CursorError RowRecord) × Records σ :=
  (Records.start c).drain (RowCursor.remaining c + 1)

/-- A cursor whose source drops after `rowsLeft` more rows. -/
structure Interrupted (σ : Type) where
  inner : σ
  rowsLeft : Nat

namespace Interrupted

def advance (c : Interrupted σ) : Interrupted σ × Except CursorError Bool :=
  match c.rowsLeft with
  | 0 => (c, .error (.io .connectionReset))
  | n + 1 =>
    let (inner, moved) := RowCursor.advance c.inner
    match moved with
    | .ok true => (⟨inner, n⟩, .ok true)
    | other => (⟨inner, n + 1⟩, other)

instance : RowCursor (Interrupted σ) where
  fieldCount c := RowView.fieldCount c.inner
  name c := RowView.name c.inner
  fieldKind c := RowView.fieldKind c.inner
  dataTypeName c := RowView.dataTypeName c.inner
  isNull c := RowView.isNull c.inner
  value c := RowView.value c.inner
  advance := advance
  remaining c := RowCursor.remaining c.inner

end Interrupted

end Strainer.Rows
