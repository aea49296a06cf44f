/-!
# Blank characters

`isBlank` is the Unicode `White_Space` property: the characters that trimming removes and that
separate a date from its time. It is wider than `Char.isWhitespace`, which knows ASCII only
(`'\x0c'`, U+0085, U+00A0 and the typographic spaces are blank here). `isAsciiBlank` is the
narrower class the filter scanner skips: space, tab, line feed, form feed and carriage return.
-/

namespace Strainer.Text

/-- The Unicode `White_Space` property. -/
def isBlank (c : Char) : Bool :=
  let n := c.toNat
  (0x09 ≤ n ∧ n ≤ 0x0D) ∨ n = 0x20 ∨ n = 0x85 ∨ n = 0xA0 ∨ n = 0x1680 ∨
  (0x2000 ≤ n ∧ n ≤ 0x200A) ∨ n = 0x2028 ∨ n = 0x2029 ∨ n = 0x202F ∨ n = 0x205F ∨
  n = 0x3000

/-- ASCII whitespace: space, tab, line feed, form feed, carriage return (not vertical tab). -/
def isAsciiBlank (c : Char) : Bool :=
  c = ' ' ∨ c = '\t' ∨ c = '\n' ∨ c = '\x0c' ∨ c = '\r'

/-- Drops blank characters at both ends. -/
def trim (cs : List Char) : List Char :=
  ((cs.dropWhile isBlank).reverse.dropWhile isBlank).reverse

/-- Drops blank characters at both ends of a string. -/
def trimString (s : String) : String :=
  String.ofList (trim s.toList)

/-- ASCII lower case; other characters are kept. -/
def asciiLower (cs : List Char) : List Char :=
  cs.map fun c => if 'A' ≤ c ∧ c ≤ 'Z' then Char.ofNat (c.toNat + 32) else c

/-- Equality up to ASCII case. -/
def eqIgnoreAsciiCase (a b : String) : Bool :=
  asciiLower a.toList == asciiLower b.toList

theorem isWhitespace_isBlank (c : Char) (h : c.isWhitespace = true) : isBlank c = true := by
  simp only [Char.isWhitespace, Bool.or_eq_true, decide_eq_true_eq] at h
  simp only [isBlank, decide_eq_true_eq]
  rcases h with ((h | h) | h) | h <;> subst h <;> decide

end Strainer.Text
