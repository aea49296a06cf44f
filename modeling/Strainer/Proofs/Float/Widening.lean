import Strainer.Proofs.Float.ReadBack

/-!
# Widening a 32-bit float

A 32-bit float converts to the 64-bit format through `ofRatio`, like every rounding into a format.
Its magnitude is below `2 ^ 128`, far under the largest 64-bit float, so the rounding never
overflows: a float widens to a finite float exactly when it is finite
(`BinaryFloat.isFinite_convert_single`), and NaN and the infinities stay what they are.

The argument is the overflow check of `ofRatio`: the unit it rounds to is at most `2 ^ 947` for
a quotient below `2 ^ 1000`, the rounded significand at most `2 ^ 53`, and a pattern below the top
exponent is finite (`isFinite_ofBits_withSign`).
-/

namespace Strainer.BinaryFloat

open Exact

variable {f : BinaryFormat}

/-- A pattern below the top exponent is a finite float, with either sign. -/
theorem isFinite_ofBits_withSign {p : ℕ} (hp : p < f.topExponent * f.hidden) (neg : Bool) :
    ((ofBits p : BinaryFloat f).withSign neg).isFinite = true := by
  have hlt := lt_of_lt_of_le hp (topExponent_mul_hidden_le f)
  have htop : p / f.hidden < f.topExponent := Nat.div_lt_of_lt_mul (by rwa [Nat.mul_comm])
  have htop' : f.topExponent < 2 ^ f.exponentBits := by
    rw [topExponent_eq]
    exact Nat.sub_lt (Nat.two_pow_pos _) Nat.one_pos
  -- the sign bit lies above the stored exponent, which is `p / hidden`
  have hstored : ((ofBits p : BinaryFloat f).withSign neg).storedExponent = p / f.hidden := by
    have hh := hidden_pos f
    simp only [storedExponent, withSign_ofBits hlt, Nat.pow_eq, ← hidden_eq]
    split
    · rw [Nat.pow_add, ← hidden_eq, Nat.add_comm, Nat.add_mul_div_right _ _ hh, Nat.add_mod_right,
        Nat.mod_eq_of_lt (by omega)]
    · rw [Nat.zero_add, Nat.mod_eq_of_lt (by omega)]
  unfold isFinite magnitude
  rw [hstored, if_neg (Nat.ne_of_lt htop)]
  split_ifs <;> rfl

theorem double_hidden : BinaryFormat.double.hidden = 4503599627370496 := by decide

theorem double_topExponent : BinaryFormat.double.topExponent = 2047 := by decide

theorem double_minExp : BinaryFormat.double.minExp = -1074 := by decide

/-- The last step of rounding into the 64-bit format: a significand of at most `2 ^ 53` at an
exponent of at most `948` passes the overflow check and packs into a finite float. -/
theorem pack_double_isFinite (neg : Bool) {m : ℕ} {e : ℤ} (hm : m ≤ 2 * 4503599627370496)
    (he : e ≤ 948) :
    (if (e - -1074).toNat * 4503599627370496 + m ≥ 2047 * 4503599627370496 then
        (infinity neg : Float64Bits)
      else (ofBits (packFinite (f := BinaryFormat.double) m e) : Float64Bits).withSign neg).isFinite
      = true := by
  have hfit : ¬((e - -1074).toNat * 4503599627370496 + m ≥ 2047 * 4503599627370496) := by omega
  rw [if_neg hfit]
  refine isFinite_ofBits_withSign ?_ neg
  rw [double_topExponent, double_hidden]
  unfold packFinite
  rw [double_minExp, double_hidden]
  omega

/-- Rounding into the 64-bit format overflows only at `2 ^ 1024`; below `2 ^ 1000` it is finite. -/
theorem ofRatio_double_isFinite (neg : Bool) {n d : ℕ} (hd : 0 < d)
    (hq : (n : ℚ) / d < 2 ^ (1000 : ℤ)) : (ofRatio neg n d : Float64Bits).isFinite = true := by
  unfold ofRatio
  split_ifs with h0
  · exact isFinite_ofBits_withSign (by rw [double_topExponent, double_hidden]; omega) neg
  have hn : 0 < n := by omega
  dsimp only
  have hL := floorLog2_lt hn hd hq
  generalize hE : max (floorLog2 n d - ↑BinaryFormat.double.fractionBits)
    BinaryFormat.double.minExp = E
  have hEhi : E ≤ 947 := by
    rw [← hE, double_minExp]
    exact max_le (by simp only [BinaryFormat.double]; omega) (by omega)
  -- the quotient in units of `2 ^ E` is below `2 ^ 53`, and so is the significand rounded from it
  have hunits : ((n * (scaleByTwo 1 E).2 : ℕ) : ℚ) / ((d * (scaleByTwo 1 E).1 : ℕ) : ℚ) <
      2 ^ (53 : ℤ) := by
    rw [scaleByTwo_ratio hd E]
    have hE2 : (0 : ℚ) < 2 ^ E := zpow_pos (by norm_num) E
    have hLE : floorLog2 n d - 52 ≤ E := by
      rw [← hE]
      exact le_max_left _ _
    calc (n : ℚ) / d / 2 ^ E < 2 ^ (floorLog2 n d + 1) / 2 ^ E :=
          div_lt_div_of_pos_right (floorLog2_spec hn hd).2 hE2
      _ = 2 ^ (floorLog2 n d + 1 - E) := by rw [zpow_sub₀ two_ne_zero]
      _ ≤ 2 ^ (53 : ℤ) := zpow_le_zpow_right₀ (by norm_num) (by omega)
  have hround : roundHalfEven (n * (scaleByTwo 1 E).2) (d * (scaleByTwo 1 E).1) ≤
      4503599627370496 * 2 := by
    have hden : 0 < d * (scaleByTwo 1 E).1 := Nat.mul_pos hd (scaleByTwo_fst_pos Nat.one_pos E)
    have hdiv : (n * (scaleByTwo 1 E).2) / (d * (scaleByTwo 1 E).1) < 4503599627370496 * 2 := by
      have hden' : (0 : ℚ) < ((d * (scaleByTwo 1 E).1 : ℕ) : ℚ) := by exact_mod_cast hden
      have hcast : ((n * (scaleByTwo 1 E).2 : ℕ) : ℚ) <
          ((4503599627370496 * 2 * (d * (scaleByTwo 1 E).1) : ℕ) : ℚ) := by
        have hmul := (div_lt_iff₀ hden').1 hunits
        push_cast at hmul ⊢
        linarith
      exact (Nat.div_lt_iff_lt_mul hden).2 (by exact_mod_cast hcast)
    have := roundHalfEven_le_succ (n * (scaleByTwo 1 E).2) (d * (scaleByTwo 1 E).1)
    omega
  generalize roundHalfEven (n * (scaleByTwo 1 E).2) (d * (scaleByTwo 1 E).1) = r at hround
  rw [double_hidden, double_topExponent, double_minExp]
  -- a significand of `2 ^ 53` carries into the next unit
  by_cases hcarry : r = 2 * 4503599627370496
  · rw [if_pos hcarry]
    exact pack_double_isFinite neg (by omega) (by omega)
  · rw [if_neg hcarry]
    exact pack_double_isFinite neg hround (by omega)

/-- A 32-bit float widens to a finite 64-bit float exactly when it is finite. -/
theorem isFinite_convert_single (x : Float32Bits) :
    (x.convert : Float64Bits).isFinite = x.isFinite := by
  unfold convert
  cases hm : x.magnitude with
  | nan | infinite =>
    -- NaN and the infinities are rebuilt from their sign alone
    have hx : x.isFinite = false := by simp [isFinite, hm]
    rw [hx]
    cases x.sign <;> decide
  | finite m e =>
    have hx : x.isFinite = true := by simp [isFinite, hm]
    rw [hx]
    unfold ofScaled
    dsimp only
    apply ofRatio_double_isFinite _ (scaleByTwo_pos m e)
    rw [scaleByTwo_div]
    -- a 32-bit magnitude is below `2 ^ 24 * 2 ^ 104`
    have hm2 : (m : ℚ) < 2 ^ (24 : ℤ) := by
      have := (magnitude_finite_range hm).2.1
      rw [hidden_eq] at this
      exact_mod_cast this
    have he : e ≤ 104 := exponent_le_of_magnitude (by decide) hm
    have hE : (0 : ℚ) < 2 ^ e := zpow_pos (by norm_num) e
    calc (m : ℚ) * 2 ^ e < 2 ^ (24 : ℤ) * 2 ^ e := mul_lt_mul_of_pos_right hm2 hE
      _ = 2 ^ (24 + e) := by rw [zpow_add₀ two_ne_zero]
      _ ≤ 2 ^ (1000 : ℤ) := zpow_le_zpow_right₀ (by norm_num) (by omega)

end Strainer.BinaryFloat
