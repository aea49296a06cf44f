import Strainer.Settings.File
import Strainer.Filter.Operator

/-!
# The filters file

A filters file names filter expressions, and may set the grammar and the batch size:

```yaml
grammar: strict
batch_size: 100
filters:
  first: "[Name] == 'Name0'"
```

`filters` is required and must be a table; each of its values is read as text. `grammar` is
`compatible` or `strict`, exactly, or a table whose one key is one of them. `batch_size` is an
unsigned integer, read as `Setting.toWord` reads one. Nothing stands for an absent grammar or
batch size; other keys are ignored. A filter is looked up by its exact name.
-/

namespace Strainer.Settings

/-- The contents of a filters file. -/
structure FiltersFile where
  /-- The named filters, sorted by name. -/
  filters : List (String × String)
  grammar : Option Filter.Grammar := none
  batchSize : Option Nat := none

/-- The complaint about a value that fits none of the shapes expected. -/
def notShaped (v : Setting) (expected : String) : SettingError :=
  .custom ("invalid type: " ++ v.shape ++ ", expected " ++ expected) none

/-- The named filters of the `filters` table, sorted by name. -/
def readFilters (uri : String) (v : Setting) : Except SettingError (List (String × String)) :=
  match v with
  | .table entries => do
    let pairs ← entries.mapM fun (k, x) =>
      match x.toText uri with
      | .ok s => .ok (k, s)
      | .error e => .error (e.underKey k)
    pure (pairs.mergeSort fun a b => a.1 ≤ b.1)
  | v => .error (notShaped v "a map")

/-- The grammar a variant name stands for. -/
def grammarOfVariant (name : String) : Except SettingError Filter.Grammar :=
  if name == "compatible" then .ok .compatible
  else if name == "strict" then .ok .strict
  else .error (.custom ("enum Grammar does not have variant constructor " ++ name) none)

def grammarShapeError : SettingError :=
  .custom "value of enum Grammar should be represented by either string or table with exactly one key" none

/-- The grammar a value names: nothing names none. -/
def readGrammar : Setting → Except SettingError (Option Filter.Grammar)
  | .nil => .ok none
  | .text s => some <$> grammarOfVariant s
  | .table [(k, _)] => some <$> grammarOfVariant k
  | _ => .error grammarShapeError

/-- The batch size a value gives: nothing gives none. -/
def readBatchSize (uri : String) : Setting → Except SettingError (Option Nat)
  | .nil => .ok none
  | v => some <$> v.toWord uri

/-- Reads one key of the file into what is read so far. -/
def FiltersFile.readKey (uri : String) (acc : Option (List (String × String)) × Option Filter.Grammar × Option Nat)
    (k : String) (v : Setting) :
    Except SettingError (Option (List (String × String)) × Option Filter.Grammar × Option Nat) :=
  let (filters, grammar, batchSize) := acc
  if k == "filters" then
    match readFilters uri v with
    | .ok fs => .ok (some fs, grammar, batchSize)
    | .error e => .error (e.underKey k)
  else if k == "grammar" then
    match readGrammar v with
    | .ok g => .ok (filters, g, batchSize)
    | .error e => .error (e.underKey k)
  else if k == "batch_size" then
    match readBatchSize uri v with
    | .ok b => .ok (filters, grammar, b)
    | .error e => .error (e.underKey k)
  else .ok acc

/-- The filters file a settings tree describes. -/
def FiltersFile.ofSettings (uri : String) (entries : List (String × Setting)) :
    Except SettingError FiltersFile := do
  let (filters, grammar, batchSize) ← entries.foldlM (fun acc (k, v) => FiltersFile.readKey uri acc k v)
    (none, none, none)
  match filters with
  | some filters => pure { filters, grammar, batchSize }
  | none => .error (.missingField "filters")

/-- Reads the filters file `name` from the store. -/
def FiltersFile.load (store : FileStore) (workdir name : String) : Except SettingError FiltersFile := do
  let (uri, entries) ← loadSettings store workdir name
  FiltersFile.ofSettings uri entries

/-- A filter name that the file does not define, with the names it does. -/
structure UnknownFilter where
  name : String
  known : List String

def UnknownFilter.message (e : UnknownFilter) : String :=
  "Config: Unknown filter '" ++ e.name ++ "' (available: " ++ ", ".intercalate e.known ++ ")"

/-- The filter of a name. -/
def FiltersFile.filter (f : FiltersFile) (name : String) : Except UnknownFilter String :=
  match f.filters.lookup name with
  | some s => .ok s
  | none => .error ⟨name, f.filters.map (·.1)⟩

end Strainer.Settings
