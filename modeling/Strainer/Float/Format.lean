import Strainer.Number.Exact

/-!
# Binary floating-point formats

A binary format is fixed by its stored fraction width and its exponent width; a value of the
format is its bit pattern. A pattern denotes a sign and one of: a finite magnitude `m * 2 ^ e`
(zero included), infinity, or not-a-number. The one way into a format is `ofRatio`, which
rounds an exact positive quotient to the nearest representable magnitude, ties to the even
significand, and overflows to infinity: reading text, widening integers and narrowing a wider
float all go through it, so they round alike.
-/

namespace Strainer

/-- A binary interchange format: one sign bit, `exponentBits` exponent bits and
`fractionBits` stored significand bits. -/
structure BinaryFormat where
  fractionBits : Nat
  exponentBits : Nat
  deriving DecidableEq, Repr

namespace BinaryFormat

/-- The 32-bit format: 8 exponent bits, 23 fraction bits. -/
def single : BinaryFormat := ⟨23, 8⟩

/-- The 64-bit format: 11 exponent bits, 52 fraction bits. -/
def double : BinaryFormat := ⟨52, 11⟩

/-- Total width in bits. -/
def width (f : BinaryFormat) : Nat := 1 + f.exponentBits + f.fractionBits

/-- Bias of the stored exponent. -/
def bias (f : BinaryFormat) : Nat := Nat.pow 2 (f.exponentBits - 1) - 1

/-- The stored exponent of infinities and NaNs. -/
def topExponent (f : BinaryFormat) : Nat := Nat.pow 2 f.exponentBits - 1

/-- Exponent of the unit in the last place of subnormal numbers and of the smallest normal
binade. -/
def minExp (f : BinaryFormat) : Int := 1 - (f.bias : Int) - (f.fractionBits : Int)

/-- The significand of a normal number lies in `[hidden, 2 * hidden)`. -/
def hidden (f : BinaryFormat) : Nat := Nat.pow 2 f.fractionBits

end BinaryFormat

/-- What a bit pattern denotes, sign apart. -/
inductive Magnitude where
  /-- `m * 2 ^ e`; zero is `m = 0`. -/
  | finite (m : Nat) (e : Int)
  | infinite
  | nan
  deriving DecidableEq, Repr

/-- A value of a binary format, kept as its bit pattern. -/
structure BinaryFloat (f : BinaryFormat) where
  bits : Nat
  bits_lt : bits < Nat.pow 2 f.width
  deriving DecidableEq

/-- A value of the 32-bit format. -/
abbrev Float32Bits := BinaryFloat BinaryFormat.single

/-- A value of the 64-bit format. -/
abbrev Float64Bits := BinaryFloat BinaryFormat.double

namespace BinaryFloat

variable {f : BinaryFormat}

/-- The value whose pattern is `n` reduced modulo the width. -/
def ofBits (n : Nat) : BinaryFloat f :=
  ⟨n % Nat.pow 2 f.width, Nat.mod_lt _ (Nat.two_pow_pos _)⟩

/-- The sign bit. -/
def sign (x : BinaryFloat f) : Bool :=
  x.bits / Nat.pow 2 (f.exponentBits + f.fractionBits) % 2 = 1

/-- The stored (biased) exponent field. -/
def storedExponent (x : BinaryFloat f) : Nat :=
  x.bits / Nat.pow 2 f.fractionBits % Nat.pow 2 f.exponentBits

/-- The stored fraction field. -/
def fraction (x : BinaryFloat f) : Nat :=
  x.bits % Nat.pow 2 f.fractionBits

/-- The magnitude a pattern denotes. -/
def magnitude (x : BinaryFloat f) : Magnitude :=
  let s := x.storedExponent
  if s = f.topExponent then
    if x.fraction = 0 then .infinite else .nan
  else if s = 0 then .finite x.fraction f.minExp
  else .finite (x.fraction + f.hidden) ((s : Int) - 1 + f.minExp)

def isNaN (x : BinaryFloat f) : Bool :=
  x.magnitude matches .nan

def isInfinite (x : BinaryFloat f) : Bool :=
  x.magnitude matches .infinite

def isFinite (x : BinaryFloat f) : Bool :=
  x.magnitude matches .finite _ _

/-- Zero of either sign. -/
def isZero (x : BinaryFloat f) : Bool :=
  x.magnitude matches .finite 0 _

/-- The pattern with the sign bit set as given. -/
def withSign (x : BinaryFloat f) (neg : Bool) : BinaryFloat f :=
  let magnitudeBits := x.bits % Nat.pow 2 (f.exponentBits + f.fractionBits)
  ofBits (if neg then magnitudeBits + Nat.pow 2 (f.exponentBits + f.fractionBits) else magnitudeBits)

/-- Flips the sign. -/
def neg (x : BinaryFloat f) : BinaryFloat f := x.withSign (!x.sign)

/-- Positive zero. -/
def zero : BinaryFloat f := ofBits 0

/-- Infinity of the given sign. -/
def infinity (neg : Bool) : BinaryFloat f :=
  (ofBits (f.topExponent * f.hidden) : BinaryFloat f).withSign neg

/-- The quiet NaN of the given sign. -/
def quietNaN (neg : Bool) : BinaryFloat f :=
  (ofBits (f.topExponent * f.hidden + f.hidden / 2) : BinaryFloat f).withSign neg

/-- Pattern of the finite magnitude `m * 2 ^ e` where `m * 2 ^ e` is already representable with
`e ≥ minExp` and `m < 2 * hidden` (a normal significand, or a subnormal one at `minExp`). -/
def packFinite (m : Nat) (e : Int) : Nat :=
  (e - f.minExp).toNat * f.hidden + m

/-- Rounds the positive quotient `n / d` (with `d > 0`) to the nearest magnitude of the format,
ties to an even significand; too large a quotient becomes infinity. The sign is applied
afterwards. -/
def ofRatio (neg : Bool) (n d : Nat) : BinaryFloat f :=
  if n = 0 ∨ d = 0 then (zero : BinaryFloat f).withSign neg
  else
    -- unit of the last place: `2 ^ (floor(log2 q) - fractionBits)`, at least `minExp`
    let e := max (Exact.floorLog2 n d - f.fractionBits) f.minExp
    let (a, b) := Exact.scaleByTwo 1 e
    -- `q / 2 ^ e = n * b / (d * a)`
    let m := Exact.roundHalfEven (n * b) (d * a)
    let (m, e) := if m = 2 * f.hidden then (f.hidden, e + 1) else (m, e)
    if (e - f.minExp).toNat * f.hidden + m ≥ f.topExponent * f.hidden then infinity neg
    else (ofBits (packFinite (f := f) m e) : BinaryFloat f).withSign neg

/-- Rounds `m * 2 ^ e` into the format. -/
def ofScaled (neg : Bool) (m : Nat) (e : Int) : BinaryFloat f :=
  let (n, d) := Exact.scaleByTwo m e
  ofRatio neg n d

/-- Rounds an integer into the format. -/
def ofInt (i : Int) : BinaryFloat f :=
  ofRatio (i < 0) i.natAbs 1

end BinaryFloat

end Strainer
