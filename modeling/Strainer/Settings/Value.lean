import Strainer.Float.Text
import Strainer.Text.Literal
import Strainer.Number.Integer

/-!
# Values of a settings file

A settings file reads into a tree of values: nothing, booleans, 64-bit integers, floats, text,
arrays and tables of named values. Every value but a table remembers the file it came from, so
an error about it names the file; tables are rebuilt when files are merged and name none.

Errors about a value say what was found and what was expected, and the dotted path of keys that
leads to it, e.g. ``invalid type: map, expected a string for key `filters.nested` ``. What was
found is worded in one of two vocabularies: conversions of a value name integers as
"64-bit integer", while a value that fits no expected shape at all names them as "integer" and
writes floats with a decimal point.
-/

namespace Strainer.Settings

/-- A value read from a settings file. -/
inductive Setting where
  | nil
  | bool (b : Bool)
  | int (i : Int)
  | float (x : Float64Bits)
  | text (s : String)
  | array (items : List Setting)
  | table (entries : List (String × Setting))

/-- Why settings could not be read. -/
inductive SettingError where
  /-- No file by the name, nor by the name with a known extension. -/
  | notFound (name : String)
  /-- The file's extension names no known format. -/
  | unsupportedFormat (path : String)
  /-- The file's text does not read in its format. -/
  | parse (uri : String) (cause : String)
  /-- The file could not be read. -/
  | unreadable (text : String)
  /-- A value of the wrong kind, with the key that leads to it and its file. -/
  | wrongType (found expected : String) (key : Option String) (origin : Option String)
  /-- Any other complaint about a value, with the key that leads to it. -/
  | custom (text : String) (key : Option String)
  /-- A required field is absent. -/
  | missingField (key : String)
  /-- The reader met a case it does not handle. -/
  | internal (text : String)

namespace SettingError

private def keyPart : Option String → String
  | some k => " for key `" ++ k ++ "`"
  | none => ""

private def originPart : Option String → String
  | some o => " in " ++ o
  | none => ""

def message : SettingError → String
  | notFound n => "configuration file " ++ Text.literal n ++ " not found"
  | unsupportedFormat p => "configuration file " ++ Text.literal p ++ " is not of a supported file format"
  | parse uri cause => cause ++ " in " ++ uri
  | unreadable t => t
  | wrongType found expected key origin =>
    "invalid type: " ++ found ++ ", expected " ++ expected ++ keyPart key ++ originPart origin
  | custom t key => t ++ keyPart key
  | missingField k => "missing configuration field " ++ Text.literal k
  | internal t => t

/-- A key joined in front of a path: `a` and `b.c` give `a.b.c`, and `a` and `[0]` give `a[0]`. -/
def joinKey (k : String) : Option String → String
  | none => k
  | some rest => if rest.startsWith "[" then k ++ rest else k ++ "." ++ rest

/-- The error as seen from the table that holds the key `k`. -/
def underKey (k : String) : SettingError → SettingError
  | wrongType f e key o => wrongType f e (some (joinKey k key)) o
  | custom t key => custom t (some (joinKey k key))
  | missingField key => missingField (joinKey k (some key))
  | e => custom e.message (some k)

end SettingError

namespace Setting

/-- A float as plain text: positional, without `.0`. -/
def floatText (x : Float64Bits) : String := FloatLayout.display.render x

/-- What a conversion found, as its error says. -/
def found : Setting → String
  | nil => "unit value"
  | bool b => "boolean `" ++ (if b then "true" else "false") ++ "`"
  | int i => "64-bit integer `" ++ Exact.intText i ++ "`"
  | float x => "floating point `" ++ floatText x ++ "`"
  | text s => "string " ++ Text.literal s
  | array _ => "sequence"
  | table _ => "map"

/-- What a value that fits no expected shape is, as its error says. -/
def shape : Setting → String
  | int i => "integer `" ++ Exact.intText i ++ "`"
  | float x =>
    let t := floatText x
    "floating point `" ++ (if x.isFinite && !t.contains '.' then t ++ ".0" else t) ++ "`"
  | v => v.found

/-- The file a value names in errors: none for a table. -/
def origin (uri : String) : Setting → Option String
  | table _ => none
  | _ => some uri

/-- The value as text: scalars are written out; nothing, arrays and tables are errors. -/
def toText (uri : String) : Setting → Except SettingError String
  | text s => .ok s
  | bool b => .ok (if b then "true" else "false")
  | int i => .ok (Exact.intText i)
  | float x => .ok (floatText x)
  | v => .error (.wrongType v.found "a string" none (v.origin uri))

/-- Rounds a float half away from zero into `[0, 2 ^ 64 - 1]`; NaN gives zero. -/
def roundToWord (x : Float64Bits) : Nat :=
  let top := Nat.pow 2 64 - 1
  match x.magnitude with
  | .nan => 0
  | .infinite => if x.sign then 0 else top
  | .finite m e =>
    if x.sign then 0
    else if 0 ≤ e then min (m * Nat.pow 2 e.toNat) top
    else min ((2 * m + Nat.pow 2 (-e).toNat) / Nat.pow 2 ((-e).toNat + 1)) top

/-- The value as an unsigned 64-bit integer. Text may be a number or one of `true`, `on`,
`yes` (one) and `false`, `off`, `no` (zero), in any case; booleans count as one and zero;
floats are rounded. -/
def toWord (uri : String) (v : Setting) : Except SettingError Nat :=
  let bad : Except SettingError Nat :=
    .error (.wrongType v.found "an unsigned 64 bit or less integer" none (v.origin uri))
  match v with
  | int i => if 0 ≤ i then .ok i.toNat else bad
  | text s =>
    let w := String.ofList (s.toList.map Char.toLower)
    if w == "true" || w == "on" || w == "yes" then .ok 1
    else if w == "false" || w == "off" || w == "no" then .ok 0
    else match IntReading.read false 0 (Int.pow 2 64 - 1) s.toList with
      | .ok n => .ok n.toNat
      | _ => bad
  | bool b => .ok (if b then 1 else 0)
  | float x => .ok (roundToWord x)
  | _ => bad

end Setting

end Strainer.Settings
