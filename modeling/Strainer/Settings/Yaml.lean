import Strainer.Settings.Value
import Strainer.Yaml.Node

/-!
# Settings from YAML

A YAML settings file holds at most one document: none reads as an empty table, and the one
must be a mapping. Mapping keys are text or integers (written in decimal); other keys are
outside what a settings file may hold. Null and bad values read as nothing. A float is read
again from its text as a decimal number, so the YAML spellings `.inf` and `.nan` fail there.
-/

namespace Strainer.Settings

open Strainer.Yaml in
/-- The setting a YAML node stands for, or why it stands for none. -/
def Setting.ofYaml : Yaml.Node → Except SettingError Setting
  | .null | .bad => .ok .nil
  | .bool b => .ok (.bool b)
  | .int i => .ok (.int i)
  | .real t =>
    match FloatText.parse? (f := BinaryFormat.double) t with
    | some x => .ok (.float x)
    | none => .error (.unreadable ("Parsing " ++ t ++ " as floating point number failed"))
  | .text s => .ok (.text s)
  | .array items => (ofYamlItems items).map .array
  | .hash entries => (ofYamlEntries entries).map .table
where
  ofYamlItems : List Yaml.Node → Except SettingError (List Setting)
    | [] => .ok []
    | n :: rest => do
      let v ← Setting.ofYaml n
      let vs ← ofYamlItems rest
      pure (v :: vs)
  ofYamlEntries : List (Yaml.Node × Yaml.Node) → Except SettingError (List (String × Setting))
    | [] => .ok []
    | (k, n) :: rest => do
      let key ← match k with
        | .text s => pure s
        | .int i => pure (Exact.intText i)
        | _ => .error (.internal "internal error: entered unreachable code")
      let v ← Setting.ofYaml n
      let vs ← ofYamlEntries rest
      pure (if vs.any (·.1 == key) then vs else (key, v) :: vs)

end Strainer.Settings
