/-!
# Globally unique identifiers

A 128-bit identifier, ordered as its 16 bytes in sequence (the same as the order of the
big-endian number). Text is read in four spellings: 32 hex digits; the hyphenated groups
`8-4-4-4-12`; the hyphenated form in braces; and the hyphenated form after `urn:uuid:`. Hex
digits may be of either case. It is written hyphenated in lower case.
-/

namespace Strainer

/-- A 128-bit identifier. -/
structure Guid where
  value : Nat
  value_lt : value < Nat.pow 2 128
  deriving DecidableEq

namespace Guid

/-- The all-zero identifier. -/
def nil : Guid := ⟨0, by decide⟩

/-- The identifier whose big-endian value is `n` modulo `2 ^ 128`. -/
def ofNat (n : Nat) : Guid := ⟨n % Nat.pow 2 128, Nat.mod_lt _ (Nat.two_pow_pos _)⟩

/-- The 16 bytes, most significant first. -/
def bytes (g : Guid) : List Nat :=
  (List.range 16).map fun i => g.value / Nat.pow 2 (8 * (15 - i)) % 256

/-- The identifier with these 16 bytes. -/
def ofBytes (bs : List Nat) : Guid :=
  ofNat (bs.foldl (fun acc b => 256 * acc + b % 256) 0)

def compareTo (a b : Guid) : Ordering := compare a.value b.value

def hexValue (c : Char) : Option Nat :=
  if '0' ≤ c ∧ c ≤ '9' then some (c.toNat - '0'.toNat)
  else if 'a' ≤ c ∧ c ≤ 'f' then some (c.toNat - 'a'.toNat + 10)
  else if 'A' ≤ c ∧ c ≤ 'F' then some (c.toNat - 'A'.toNat + 10)
  else none

/-- The value of 32 hex digits. -/
def ofHex (cs : List Char) : Option Guid :=
  if cs.length ≠ 32 then none
  else
    (cs.foldl (fun acc c => acc.bind fun n => (hexValue c).map (16 * n + ·)) (some 0)).map ofNat

/-- The hyphenated groups `8-4-4-4-12`. -/
def ofHyphenated (cs : List Char) : Option Guid :=
  if cs.length = 36 ∧ cs[8]? = some '-' ∧ cs[13]? = some '-' ∧ cs[18]? = some '-' ∧
      cs[23]? = some '-' then
    ofHex (cs.take 8 ++ (cs.drop 9).take 4 ++ (cs.drop 14).take 4 ++ (cs.drop 19).take 4 ++
      cs.drop 24)
  else none

/-- Reads an identifier in any of its four spellings. -/
def parse? (s : String) : Option Guid :=
  let cs := s.toList
  match cs.length with
  | 32 => ofHex cs
  | 36 => ofHyphenated cs
  | 38 =>
    if cs.head? = some '{' ∧ cs.getLast? = some '}' then ofHyphenated ((cs.drop 1).take 36)
    else none
  | 45 =>
    if cs.take 9 = "urn:uuid:".toList then ofHyphenated (cs.drop 9) else none
  | _ => none

def hexDigit (n : Nat) : Char :=
  if n < 10 then Char.ofNat ('0'.toNat + n) else Char.ofNat ('a'.toNat + n - 10)

/-- The 32 lower-case hex digits. -/
def hexDigits (g : Guid) : List Char :=
  (List.range 32).map fun i => hexDigit (g.value / Nat.pow 16 (31 - i) % 16)

/-- Hyphenated lower-case text. -/
def render (g : Guid) : String :=
  let h := g.hexDigits
  String.ofList (h.take 8 ++ '-' :: (h.drop 8).take 4 ++ '-' :: (h.drop 12).take 4 ++
    '-' :: (h.drop 16).take 4 ++ '-' :: h.drop 20)

end Guid

end Strainer
