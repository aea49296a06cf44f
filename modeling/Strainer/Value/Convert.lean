import Strainer.Value.Basic
import Strainer.Float.Text
import Strainer.Decimal.Text
import Strainer.Time.Parse
import Strainer.Number.Integer
import Strainer.Text.Utf8

/-!
# Conversions between kinds

`Value.convert v t` turns `v` into a value of kind `t`:

* null stays null, and a value already of kind `t` is returned unchanged;
* a pair that `Kind.canConvertTo` refuses fails as `unsupported`;
* text is read as `t` (blanks trimmed, except for a single character);
* anything becomes text through its plain rendering;
* numbers (booleans and characters included) pass through an exact intermediate: an integer,
  a 64-bit float or a decimal. Floats round to integers half to even, decimals likewise, and a
  result outside the target range is an `overflow` naming the integer (or the value) that did
  not fit; it never wraps or saturates.
-/

namespace Strainer

/-- Why a conversion failed. -/
inductive ConvertError where
  | unsupported (source target : Kind)
  | invalid (text : String) (target : Kind)
  | overflow (text : String) (target : Kind)
  /-- A time stamp whose UTC instant lies past the year range: no value can stand for it. -/
  | dateOutOfRange
  deriving DecidableEq, Repr

namespace ConvertError

def message : ConvertError → String
  | unsupported s t => "Conversion from " ++ s.name ++ " to " ++ t.name ++ " is not supported"
  | invalid text t => "'" ++ text ++ "' is not a valid " ++ t.name
  | overflow text t => "Value " ++ text ++ " is out of range for " ++ t.name
  | dateOutOfRange => "local datetime out of valid range"

/-- The name of the cause, as error reports tag it. -/
def label : ConvertError → String
  | unsupported _ _ => "Unsupported"
  | invalid _ _ => "Invalid"
  | overflow _ _ => "Overflow"
  | dateOutOfRange => "DateOutOfRange"

end ConvertError

namespace Value

/-- Plain text of a value; `none` for null and bytes. -/
def render? : Value → Option String
  | null => none
  | bytes _ => none
  | bool b => some (if b then "true" else "false")
  | uint8 n => some (Exact.intText n.toNat)
  | int16 n => some (Exact.intText n.toInt)
  | int32 n => some (Exact.intText n.toInt)
  | int64 n => some (Exact.intText n.toInt)
  | float32 x => some (FloatLayout.display.render x)
  | float64 x => some (FloatLayout.display.render x)
  | decimal d => some (Decimal.render d)
  | dateTime t => some t.render
  | guid g => some g.render
  | char c => some (String.singleton c)
  | string s => some s
  | chars cs => some (String.ofList cs)

/-- The display text: `null`, `<n bytes>`, or the plain text. -/
def display (v : Value) : String :=
  match v with
  | null => "null"
  | bytes bs => "<" ++ Exact.intText bs.length ++ " bytes>"
  | _ => (v.render?).getD ""

end Value

/-- The exact intermediate of a numeric conversion. -/
inductive Number where
  | int (i : Int)
  | float (x : Float64Bits)
  | decimal (d : Decimal)

namespace Number

/-- The intermediate of a numeric or character value. -/
def ofValue? : Value → Option Number
  | .bool b => some (.int (if b then 1 else 0))
  | .uint8 n => some (.int n.toNat)
  | .int16 n => some (.int n.toInt)
  | .int32 n => some (.int n.toInt)
  | .int64 n => some (.int n.toInt)
  | .char c => some (.int c.toNat)
  | .float32 x => some (.float x.convert)
  | .float64 x => some (.float x)
  | .decimal d => some (.decimal d)
  | _ => none

/-- The range of an integer kind, and the character kind as the range of code points. -/
def range : Kind → Option (Int × Int)
  | .uint8 => some (0, 255)
  | .int16 => some (-32768, 32767)
  | .int32 => some (-2147483648, 2147483647)
  | .int64 => some (-9223372036854775808, 9223372036854775807)
  | .char => some (0, 4294967295)
  | _ => none

/-- The value of an integer kind holding `i`, when `i` fits; a character also needs a code point
that is a Unicode scalar value. -/
def narrow (i : Int) : Kind → Option Value
  | .uint8 => if 0 ≤ i ∧ i ≤ 255 then some (.uint8 (UInt8.ofNat i.toNat)) else none
  | .int16 => if -32768 ≤ i ∧ i ≤ 32767 then some (.int16 (Int16.ofInt i)) else none
  | .int32 =>
    if -2147483648 ≤ i ∧ i ≤ 2147483647 then some (.int32 (Int32.ofInt i)) else none
  | .int64 =>
    if -9223372036854775808 ≤ i ∧ i ≤ 9223372036854775807 then some (.int64 (Int64.ofInt i))
    else none
  | .char =>
    if 0 ≤ i ∧ (i < 0xD800 ∨ (0xE000 ≤ i ∧ i ≤ 0x10FFFF)) then some (.char (Char.ofNat i.toNat))
    else none
  | _ => none

/-- The 128-bit signed range that float-to-integer conversion saturates into. -/
def wideMin : Int := -Int.pow 2 127
def wideMax : Int := Int.pow 2 127 - 1

/-- The text of a 64-bit float as a conversion error names it. -/
private def floatText (x : Float64Bits) : String := FloatLayout.display.render x

/-- Converts the intermediate to kind `t` (a numeric kind or `char`). -/
def convertTo (n : Number) (t : Kind) : Except ConvertError Value :=
  let overflow (text : String) : ConvertError := .overflow text t
  match t with
  | .bool => .ok (.bool (match n with
      | .int i => i ≠ 0
      | .float x => !x.isZero
      | .decimal d => !d.isZero))
  | .float32 => .ok (.float32 (match n with
      | .int i => BinaryFloat.ofInt i
      | .float x => x.convert
      | .decimal d => d.toFloat))
  | .float64 => .ok (.float64 (match n with
      | .int i => BinaryFloat.ofInt i
      | .float x => x
      | .decimal d => d.toFloat))
  | .decimal =>
    match n with
    | .int i =>
      if -9223372036854775808 ≤ i ∧ i ≤ 9223372036854775807 then .ok (.decimal (Decimal.ofInt i))
      else .error (overflow (Exact.intText i))
    | .float x =>
      match Decimal.ofFloat? x with
      | some d => .ok (.decimal d)
      | none => .error (overflow (floatText x))
    | .decimal d => .ok (.decimal d)
  | _ =>
    let integral : Except ConvertError Int := match n with
      | .int i => .ok i
      | .float x =>
        match x.roundTiesEven? with
        | some i => .ok (max wideMin (min wideMax i))
        | none => .error (overflow (floatText x))
      | .decimal d =>
        let i := d.roundToInt
        if wideMin ≤ i ∧ i ≤ wideMax then .ok i else .error (overflow (Decimal.render d))
    match integral with
    | .error e => .error e
    | .ok i =>
      match narrow i t with
      | some v => .ok v
      | none => .error (overflow (Exact.intText i))

end Number

namespace Value

/-- Reads text as a value of kind `t`. Blanks around the text are trimmed, except when reading a
single character; the text named by an error is the trimmed text for integer kinds and the
text as given otherwise. -/
def parseAs (text : String) (t : Kind) : Except ConvertError Value :=
  let trimmed := Text.trimString text
  let invalid : ConvertError := .invalid text t
  let readInt (mk : Int → Option Value) : Except ConvertError Value :=
    match Number.range t with
    | none => .error invalid
    | some (lo, hi) =>
      match IntReading.read (lo < 0) lo hi trimmed.toList with
      | .ok i => match mk i with
        | some v => .ok v
        | none => .error (.invalid trimmed t)
      | .outOfRange => .error (.overflow trimmed t)
      | .invalid => .error (.invalid trimmed t)
  match t with
  | .bool =>
    if Text.eqIgnoreAsciiCase trimmed "true" then .ok (.bool true)
    else if Text.eqIgnoreAsciiCase trimmed "false" then .ok (.bool false)
    else .error invalid
  | .uint8 | .int16 | .int32 | .int64 => readInt (Number.narrow · t)
  | .float32 => match FloatText.parse? trimmed with
    | some x => .ok (.float32 x)
    | none => .error invalid
  | .float64 => match FloatText.parse? trimmed with
    | some x => .ok (.float64 x)
    | none => .error invalid
  | .decimal => match Decimal.parse? trimmed with
    | some d => .ok (.decimal d)
    | none => .error invalid
  | .dateTime => match DateTime.read trimmed with
    | .ok d => .ok (.dateTime d)
    | .invalid => .error invalid
    | .beyondRange => .error .dateOutOfRange
  | .guid => match Guid.parse? trimmed with
    | some g => .ok (.guid g)
    | none => .error invalid
  | .char => match text.toList with
    | [c] => .ok (.char c)
    | _ => .error invalid
  | .string => .ok (.string text)
  | .bytes => .ok (.bytes (Text.utf8Bytes text.toList))
  | .chars => .ok (.chars text.toList)

/-- Converts a value to kind `t` (see the module note). -/
def convert (v : Value) (t : Kind) : Except ConvertError Value :=
  match v.kind with
  | none => .ok .null
  | some k =>
    if k = t then .ok v
    else if !k.canConvertTo t then .error (.unsupported k t)
    else match v with
      | .string s => parseAs s t
      | _ =>
        if t = .string then
          match v.render? with
          | some s => .ok (.string s)
          | none => .error (.unsupported k t)
        else
          match Number.ofValue? v with
          | some n => n.convertTo t
          | none => .error (.unsupported k t)

end Value

end Strainer
