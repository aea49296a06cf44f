import Strainer.Number.Exact

/-!
# String literals

The text of a string as a literal in double quotes. A character stays as it is when it prints
as itself; the quote and the backslash are escaped, tab, line feed, carriage return and NUL take
their short escapes, and every other character that is invisible (controls, formatting marks,
separators other than the space, private-use and unassigned code points) or that combines with
the character before it is written by its code point, `\u{hex}`.

The classes are tables of ranges (`invisible`, `combining`); they cover the ranges a filter text
is likely to hold.
-/

namespace Strainer.Text

private def inRanges (rs : List (Nat × Nat)) (n : Nat) : Bool :=
  rs.any fun (lo, hi) => lo ≤ n ∧ n ≤ hi

/-- Code points that print as nothing visible: controls, formatting marks, separators other than
the space, surrogates, private use and noncharacters. -/
def invisible : List (Nat × Nat) :=
  [(0x00, 0x1f), (0x7f, 0xa0), (0xad, 0xad), (0x378, 0x379), (0x600, 0x605), (0x61c, 0x61c),
    (0x6dd, 0x6dd), (0x70f, 0x70f), (0x1680, 0x1680), (0x180e, 0x180e), (0x2000, 0x200b),
    (0x200d, 0x200f), (0x2028, 0x202f), (0x205f, 0x2064), (0x2066, 0x206f), (0x3000, 0x3000),
    (0xd800, 0xf8ff), (0xfeff, 0xfeff), (0xfff0, 0xfffb), (0xfffe, 0xffff), (0x110bd, 0x110bd),
    (0x110cd, 0x110cd), (0x13430, 0x1343f), (0x1bca0, 0x1bca3), (0x1d173, 0x1d17a),
    (0xe0000, 0xe00ff), (0xe01f0, 0x10ffff)]

/-- Code points that extend the character before them (combining marks, variation selectors and
the zero-width non-joiner). -/
def combining : List (Nat × Nat) :=
  [(0x300, 0x36f), (0x483, 0x489), (0x591, 0x5bd), (0x5bf, 0x5bf), (0x5c1, 0x5c2),
    (0x5c4, 0x5c5), (0x5c7, 0x5c7), (0x610, 0x61a), (0x64b, 0x65f), (0x670, 0x670),
    (0x6d6, 0x6dc), (0x6df, 0x6e4), (0x6e7, 0x6e8), (0x6ea, 0x6ed), (0x900, 0x902),
    (0x93a, 0x93a), (0x93c, 0x93c), (0x941, 0x948), (0x94d, 0x94d), (0x951, 0x957),
    (0x1ab0, 0x1aff), (0x1dc0, 0x1dff), (0x200c, 0x200c), (0x20d0, 0x20ff), (0x302a, 0x302f),
    (0x3099, 0x309a), (0xfe00, 0xfe0f), (0xfe20, 0xfe2f), (0x1f3fb, 0x1f3ff),
    (0xe0100, 0xe01ef)]

/-- `\u{hex}` for a code point, lowercase and without leading zeros. -/
def codePointEscape (c : Char) : List Char :=
  ['\\', 'u', '{'] ++ Nat.toDigits 16 c.toNat ++ ['}']

/-- A character as it is written inside a string literal. -/
def literalChar (c : Char) : List Char :=
  match c with
  | '"' => ['\\', '"']
  | '\\' => ['\\', '\\']
  | '\t' => ['\\', 't']
  | '\n' => ['\\', 'n']
  | '\r' => ['\\', 'r']
  | '\x00' => ['\\', '0']
  | c =>
    if inRanges invisible c.toNat ∨ inRanges combining c.toNat then codePointEscape c else [c]

/-- The string as a literal in double quotes. -/
def literal (s : String) : String :=
  String.ofList ('"' :: s.toList.flatMap literalChar ++ ['"'])

end Strainer.Text
