import Strainer.Filter.Eval
import Strainer.Value.Json

/-!
# Records with members found by name

A record whose members are looked up by name when a filter runs. A member that is there but
null resolves to null; one that is not there does not resolve. Asking for a member of a given
kind converts it, unless the record has rules of its own. Two such records are given here: a map
from names to values, and a JSON object whose members are read as values.
-/

namespace Strainer.Record

open Strainer.Filter

/-- Records whose members are found by name. -/
class Members (α : Type) where
  /-- The member called `name`, if there is one. -/
  resolve : α → String → Option Value
  /-- The names of the members. -/
  names : α → List String
  /-- The member called `name` as a value of kind `k`. -/
  resolveAs : α → String → Kind → Except EvalError Value := fun r name k =>
    match resolve r name with
    | none => .error (.unresolvedMember name)
    | some v => convertValue v k

/-- A filter reads a record with members by name, whatever the binding of the field. -/
instance (priority := low) {α : Type} [Members α] : Target α where
  read r f requested :=
    match requested with
    | some k => Members.resolveAs r f.name k
    | none => match Members.resolve r f.name with
      | some v => .ok v
      | none => .error (.unresolvedMember f.name)

/-- A map from member names to values, without an order of its own; a name occurs at most once.
Its names are listed in code-point order. -/
structure MemberMap where
  entries : List (String × Value)

instance : Members MemberMap where
  resolve m name := (m.entries.find? (·.1 == name)).map (·.2)
  names m := (m.entries.map (·.1)).mergeSort (fun a b => decide (a ≤ b))

/-- A JSON object; a member is read as the value closest to its JSON. -/
structure JsonObject where
  members : List (String × Json)

instance : Members JsonObject where
  resolve o name := (o.members.find? (·.1 == name)).map fun m => Value.ofJson m.2
  names o := o.members.map (·.1)

end Strainer.Record
