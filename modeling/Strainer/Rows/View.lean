import Strainer.Rows.Error
import Strainer.Value.Basic
import Strainer.Text.Blank

/-!
# Reading the fields of a row

A row view gives random access to the fields of one row by zero-based position: the column's
name, kind and type name, and the stored value. Everything else is defined once from these:
finding a position by name (an exact match first, else the first match ignoring ASCII case),
copying the row into a buffer, strict typed reads (a field must hold exactly the kind asked
for; null fails unless a missing value is allowed) and reads of a block of bytes or characters
from an offset.

A row cursor is a row view that moves forward over a source, one row at a time.
-/

namespace Strainer.Rows

/-- The description of one column. -/
structure Column where
  name : String
  kind : Kind
  /-- The source's own name for the column's type. -/
  typeName : String
  deriving DecidableEq, Repr

/-- Random access to the fields of one row. Positions are zero-based. -/
class RowView (α : Type) where
  fieldCount : α → Nat
  name : α → Nat → Except CursorError String
  fieldKind : α → Nat → Except CursorError Kind
  dataTypeName : α → Nat → Except CursorError String
  isNull : α → Nat → Except CursorError Bool
  /-- The stored value; null for a null field. -/
  value : α → Nat → Except CursorError Value

/-- A forward-only source of rows. -/
class RowCursor (α : Type) extends RowView α where
  /-- Moves to the next row: `false` once the source is exhausted. The cursor moves even when
  the step fails. -/
  advance : α → α × Except CursorError Bool
  /-- A bound on the number of rows still to come. -/
  remaining : α → Nat

/-- The text a failed typed read gives for what the field held. -/
def kindText (v : Value) : String :=
  (v.kind.map Kind.name).getD "null"

/-- A value that must be of kind `k`. -/
def cast (ordinal : Nat) (k : Kind) (v : Value) : Except CursorError Value :=
  if v.kind = some k then .ok v else .error (.invalidCast ordinal k (kindText v))

/-- A value that must be of kind `k` or null. -/
def castOptional (ordinal : Nat) (k : Kind) (v : Value) : Except CursorError Value :=
  if v.isNull then .ok v else cast ordinal k v

/-- The part of `source` from `offset`, at most `room` items long. -/
def block {β : Type} (source : List β) (offset room : Nat) : List β :=
  (source.drop offset).take room

namespace RowView

variable {α : Type} [RowView α]

/-- The search behind `ordinal`, over the positions still to look at: an exact match returns at
once, and `folded` keeps the first position matched ignoring ASCII case. -/
def ordinalFrom (r : α) (wanted : String) :
    List Nat → Option Nat → Except CursorError Nat
  | [], folded =>
    match folded with
    | some i => .ok i
    | none => .error (.unknownColumn wanted)
  | i :: rest, folded => do
    let candidate ← name r i
    if candidate = wanted then pure i
    else
      let folded := folded <|> if Text.eqIgnoreAsciiCase candidate wanted then some i else none
      ordinalFrom r wanted rest folded

/-- The position of the column called `wanted`: an exact match, else the first that matches
ignoring ASCII case. -/
def ordinal (r : α) (wanted : String) : Except CursorError Nat :=
  ordinalFrom r wanted (List.range (fieldCount r)) none

/-- The row copied into a buffer of `room` slots that starts out null: the number of values
written, and the buffer. -/
def values (r : α) (room : Nat) : Except CursorError (Nat × List Value) := do
  let count := min (fieldCount r) room
  let written ← (List.range count).mapM (value r)
  pure (count, written ++ List.replicate (room - count) .null)

def valueByName (r : α) (wanted : String) : Except CursorError Value := do
  value r (← ordinal r wanted)

/-- The field as a value of exactly kind `k`. -/
def get (r : α) (ordinal : Nat) (k : Kind) : Except CursorError Value := do
  cast ordinal k (← value r ordinal)

/-- The field as a value of kind `k`, or null. -/
def getOptional (r : α) (ordinal : Nat) (k : Kind) : Except CursorError Value := do
  castOptional ordinal k (← value r ordinal)

/-- `get` or `getOptional` of the column called `wanted`. -/
def getByName (r : α) (wanted : String) (k : Kind) (optional : Bool) : Except CursorError Value := do
  let i ← ordinal r wanted
  if optional then getOptional r i k else get r i k

/-- The bytes of a binary field. -/
def bytesOf (r : α) (ordinal : Nat) : Except CursorError (List UInt8) := do
  match ← cast ordinal .bytes (← value r ordinal) with
  | .bytes bs => pure bs
  | _ => pure []

/-- The characters of a character field; a string field is read as its characters. -/
def charsOf (r : α) (ordinal : Nat) : Except CursorError (List Char) := do
  match ← value r ordinal with
  | .string s => pure s.toList
  | v => match ← cast ordinal .chars v with
    | .chars cs => pure cs
    | _ => pure []

/-- The metadata of every column. -/
def columns (r : α) : Except CursorError (List Column) :=
  (List.range (fieldCount r)).mapM fun i => do
    pure ⟨← name r i, ← fieldKind r i, ← dataTypeName r i⟩

end RowView

end Strainer.Rows
