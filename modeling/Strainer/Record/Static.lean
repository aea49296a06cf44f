import Strainer.Filter.Eval

/-!
# Records of a declared type

A record type declares its fields in order, each with a kind, and says which may be absent
(null). A record of the type holds one value per field. A filter compiled against the type's
shape reads a bound field by position; a field bound by name is looked up among the declared
fields, so a filter compiled without a shape still runs on such records. A position past the
values reads as null.
-/

namespace Strainer

/-- The value of a field of kind `k` that was never set: zero, false, the empty text or the
empty sequence, and null for kinds without a zero. -/
def Kind.emptyValue : Kind → Value
  | .string => .string ""
  | .bytes => .bytes []
  | .chars => .chars []
  | k => k.defaultValue

namespace Record

open Strainer.Filter

/-- A declared field: optional fields hold null when absent. -/
structure FieldSpec where
  name : String
  kind : Kind
  optional : Bool
  deriving DecidableEq, Repr

/-- A record type: its fields in order. -/
structure RecordType where
  fields : List FieldSpec
  deriving DecidableEq, Repr

namespace RecordType

/-- The static shape filters are compiled against. -/
def shape (t : RecordType) : Shape :=
  .static (t.fields.map fun f => ⟨f.name, f.kind⟩)

/-- The value a field holds when it was not given. -/
def FieldSpec.absent (f : FieldSpec) : Value :=
  if f.optional then .null else f.kind.emptyValue

end RecordType

/-- A record of a declared type: the field declarations and one value per field. -/
structure StaticRecord where
  fields : List FieldDef
  values : List Value
  deriving DecidableEq

namespace StaticRecord

/-- The record of type `t` whose fields take the given values, absent ones their default. -/
def ofType (t : RecordType) (given : String → Option Value) : StaticRecord :=
  ⟨t.fields.map (fun f => ⟨f.name, f.kind⟩),
    t.fields.map fun f => (given f.name).getD (RecordType.FieldSpec.absent f)⟩

/-- The value at a position; null past the end. -/
def field (r : StaticRecord) (i : Nat) : Value :=
  (r.values[i]?).getD .null

instance : Target StaticRecord where
  read r f requested := do
    let i ← match f with
      | .bound _ i _ => pure i
      | .byName n => match r.fields.findIdx? (·.name == n) with
        | some i => pure i
        | none => throw (.unresolvedMember n)
    let v := r.field i
    match requested with
    | some k => convertValue v k
    | none => pure v

end StaticRecord

end Record

end Strainer
