import Strainer.Settings.Yaml
import Strainer.Settings.Toml
import Strainer.Settings.Ini
import Strainer.Json.Read
import Strainer.Files.Store
import Strainer.Pipeline.Format

/-!
# Settings files

A settings file is found by its name, or else by its name with an extension of a known format
added (`toml`, `json`, `yaml`, `yml`, `ini`, `ron`, `json5`, tried in that order). A file found
by its own name is read in the format its extension names, which must be a known one. Errors
name the file by its path relative to the working directory, except the one about an unknown
extension, which names it by its full path.

The top-level keys of the file's table are paths: `a.b` sets the key `b` of the table `a`.
Setting a table merges it into the table already there, key by key; anything else replaces
what was there.
-/

namespace Strainer.Settings

/-- The formats a settings file may be in. -/
inductive FileFormat where
  | toml
  | json
  | yaml
  | ini
  | ron
  | json5
  deriving DecidableEq, Repr

namespace FileFormat

def all : List FileFormat := [toml, json, yaml, ini, ron, json5]

def extensions : FileFormat → List String
  | toml => ["toml"]
  | json => ["json"]
  | yaml => ["yaml", "yml"]
  | ini => ["ini"]
  | ron => ["ron"]
  | json5 => ["json5"]

/-- The format an extension names. -/
def ofExtension? (ext : String) : Option FileFormat := all.find? (·.extensions.contains ext)

end FileFormat

/-- The setting a JSON value stands for: integers in the 64-bit range stay integers, other
numbers become floats; of a repeated member the last counts. -/
def Setting.ofJson : Json → Setting
  | .null => .nil
  | .bool b => .bool b
  | .number n => match n.toInt64? with
    | some i => .int i
    | none => .float n.toFloat
  | .string s => .text s
  | .array items => .array (ofItems items)
  | .object members => .table (ofMembers members)
where
  ofItems : List Json → List Setting
    | [] => []
    | j :: rest => Setting.ofJson j :: ofItems rest
  ofMembers : List (String × Json) → List (String × Setting)
    | [] => []
    | (k, j) :: rest =>
      let later := ofMembers rest
      if later.any (·.1 == k) then later else (k, Setting.ofJson j) :: later

/-- The complaint about a top level that is not a table. -/
def rootError (uri : String) (v : Setting) : String :=
  (SettingError.wrongType v.found "a map" none (some uri)).message

/-- The top-level table of a file's text in a format. -/
def FileFormat.read (uri text : String) : FileFormat → Except SettingError (List (String × Setting))
  | .yaml =>
    match Yaml.Node.documents text with
    | .error e => .error (.parse uri e.message)
    | .ok [] => .ok []
    | .ok [d] =>
      match Setting.ofYaml d with
      | .error (.internal t) => .error (.internal t)
      | .error e => .error (.parse uri e.message)
      | .ok (.table t) => .ok t
      | .ok v => .error (.parse uri (rootError uri v))
    | .ok ds => .error (.parse uri ("Got " ++ Exact.intText ds.length ++ " YAML documents, expected 1"))
  | .json | .json5 =>
    match Json.parse text with
    | .error e => .error (.parse uri e.message)
    | .ok j =>
      match Setting.ofJson j with
      | .table t => .ok t
      | v => .error (.parse uri (rootError uri v))
  | .toml => (Setting.ofToml text).mapError (.parse uri)
  | .ini => (Setting.ofIni text).mapError (.parse uri)
  | .ron => .error (.parse uri "RON settings are not read")

/-- Sets the value of a key, replacing it in place. -/
def putEntry (entries : List (String × Setting)) (k : String) (v : Setting) : List (String × Setting) :=
  if entries.any (·.1 == k) then entries.map fun e => if e.1 == k then (k, v) else e
  else entries ++ [(k, v)]

/-- The table under a key, or an empty one. -/
def tableAt (entries : List (String × Setting)) (k : String) : List (String × Setting) :=
  match entries.lookup k with
  | some (.table t) => t
  | _ => []

mutual

/-- Sets a key: a table merges into the table there, anything else replaces. -/
def mergeEntry (entries : List (String × Setting)) (k : String) : Setting → List (String × Setting)
  | .table incoming => putEntry entries k (.table (mergeAll (tableAt entries k) incoming))
  | v => putEntry entries k v

/-- Sets each key of a table in turn. -/
def mergeAll (acc : List (String × Setting)) : List (String × Setting) → List (String × Setting)
  | [] => acc
  | (k, v) :: rest => mergeAll (mergeEntry acc k v) rest

end

/-- Sets a value at a path of keys, making tables on the way. -/
def setPath (entries : List (String × Setting)) : List String → Setting → List (String × Setting)
  | [], _ => entries
  | [k], v => mergeEntry entries k v
  | k :: rest, v => putEntry entries k (.table (setPath (tableAt entries k) rest v))

/-- The path a top-level key stands for: dotted words of letters, digits, `_` and `-`, or
else the key itself. -/
def keyPath (key : String) : List String :=
  let parts := key.splitOn "."
  if parts.all fun p => !p.isEmpty && p.all fun c => c.isAlphanum || c == '_' || c == '-' then parts
  else [key]

/-- The settings tree of a file's top-level table. -/
def settingsOf (entries : List (String × Setting)) : List (String × Setting) :=
  entries.foldl (fun acc (k, v) => setPath acc (keyPath k) v) []

/-- A path joined to the working directory, unless it is absolute. -/
def fullPath (workdir name : String) : String :=
  if name.startsWith "/" then name else workdir ++ "/" ++ name

/-- Is there a file (not a directory) at the path? -/
def isFile (store : FileStore) (path : String) : Bool :=
  match store.find? path with
  | some .directory | none => false
  | some _ => true

/-- The paths tried after the name itself, each with its format, in order. -/
def candidatePaths (name : String) : List (String × FileFormat) :=
  FileFormat.all.flatMap fun f => f.extensions.map fun e => (name ++ "." ++ e, f)

/-- The file to read: its path relative to the working directory, its format and its data. -/
def locate (store : FileStore) (workdir name : String) : Except SettingError (String × FileFormat × FileData) :=
  if isFile store name then
    match (Pipeline.extension? name).bind FileFormat.ofExtension? with
    | some f => .ok (FileStore.normalize name, f, (store.find? name).getD (.text ""))
    | none => .error (.unsupportedFormat (fullPath workdir name))
  else
    match (candidatePaths name).find? (isFile store ·.1) with
    | some (p, f) => .ok (FileStore.normalize p, f, (store.find? p).getD (.text ""))
    | none => .error (.notFound name)

/-- The text of a file. -/
def fileText : FileData → Except SettingError String
  | .text s => .ok s
  | .bytes bs =>
    match String.fromUTF8? (ByteArray.mk bs.toArray) with
    | some s => .ok s
    | none => .error (.unreadable "stream did not contain valid UTF-8")
  | .columnar _ => .error (.unreadable "stream did not contain valid UTF-8")
  | .directory => .error (.unreadable "Is a directory (os error 21)")

/-- The settings tree of the file `name`, read from the store, and the path that names the
file in errors. -/
def loadSettings (store : FileStore) (workdir name : String) :
    Except SettingError (String × List (String × Setting)) := do
  let (uri, format, data) ← locate store workdir name
  let text ← fileText data
  let entries ← format.read uri text
  pure (uri, settingsOf entries)

end Strainer.Settings
