import Mathlib.Algebra.Order.Field.Power
import Mathlib.Algebra.Order.Field.Rat
import Mathlib.Data.Rat.Cast.Order
import Mathlib.Tactic.FieldSimp
import Mathlib.Tactic.Linarith
import Mathlib.Tactic.NormNum
import Mathlib.Tactic.Positivity
import Mathlib.Tactic.Ring
import Strainer.Float.Arith
import Strainer.Float.Shortest

/-!
# Rounding into a binary format is correct

`BinaryFloat.ofRatio` rounds a positive quotient to the nearest magnitude of a format, ties to
the even significand. Here that is proved in the form a reader of decimal text needs: every
rational that lies in the rounding interval of a finite non-zero float rounds to exactly that
float (`ofRatio_eq_of_roundsTo`). The interval is the one the shortest-digit search tests
(`BinaryFloat.interval`): from the midpoint with the float below to the midpoint with the float
above, both midpoints included when the significand is even (`RoundsTo`).

The exact arithmetic underneath is read as rational arithmetic first: the scaled pairs are
`a * 2 ^ x` and `a * 10 ^ x`, `compareQuot` compares quotients, `roundHalfEven` is the nearest
integer with ties to even, `floorLog2` is the binary magnitude. The proof then follows
`ofRatio`: the binade found by `floorLog2` is the float's own, or the one below when the
rational lies under the bottom of the float's binade; the significand rounds to the float's,
and a carry out of the binade below lands on it.
-/

namespace Strainer

namespace Exact

/-! ## Exact arithmetic as rational arithmetic -/

theorem scaleByTwo_pos (a : ℕ) (x : ℤ) : 0 < (scaleByTwo a x).2 := by
  unfold scaleByTwo
  split
  · exact Nat.one_pos
  · exact Nat.two_pow_pos _

theorem scaleByTwo_fst_pos {a : ℕ} (ha : 0 < a) (x : ℤ) : 0 < (scaleByTwo a x).1 := by
  unfold scaleByTwo
  split
  · exact Nat.mul_pos ha (Nat.two_pow_pos _)
  · exact ha

theorem scaleByTen_pos (a : ℕ) (x : ℤ) : 0 < (scaleByTen a x).2 := by
  unfold scaleByTen
  split
  · exact Nat.one_pos
  · exact Nat.pow_pos (by norm_num)

theorem scaleByTwo_div (a : ℕ) (x : ℤ) :
    ((scaleByTwo a x).1 : ℚ) / (scaleByTwo a x).2 = a * 2 ^ x := by
  unfold scaleByTwo
  split
  · rename_i hx
    simp only [Nat.pow_eq, Nat.cast_mul, Nat.cast_pow, Nat.cast_ofNat, Nat.cast_one, div_one]
    rw [← zpow_natCast, Int.toNat_of_nonneg hx]
  · rename_i hx
    simp only [Nat.pow_eq, Nat.cast_pow, Nat.cast_ofNat]
    rw [← zpow_natCast, Int.toNat_of_nonneg (by omega), zpow_neg, div_eq_mul_inv, inv_inv]

/-- Dividing a quotient by `2 ^ x` through `scaleByTwo 1 x`, as `ofRatio` does. -/
theorem scaleByTwo_ratio {n d : ℕ} (hd : 0 < d) (x : ℤ) :
    ((n * (scaleByTwo 1 x).2 : ℕ) : ℚ) / ((d * (scaleByTwo 1 x).1 : ℕ) : ℚ) =
      (n : ℚ) / d / 2 ^ x := by
  have h := scaleByTwo_div 1 x
  rw [Nat.cast_one, one_mul] at h
  have h2 : (0 : ℚ) < (scaleByTwo 1 x).2 := by exact_mod_cast scaleByTwo_pos 1 x
  have h1 : (0 : ℚ) < (scaleByTwo 1 x).1 := by exact_mod_cast scaleByTwo_fst_pos Nat.one_pos x
  have hd' : (0 : ℚ) < d := by exact_mod_cast hd
  rw [← h]
  push_cast
  field_simp

theorem scaleByTen_div (a : ℕ) (x : ℤ) :
    ((scaleByTen a x).1 : ℚ) / (scaleByTen a x).2 = a * 10 ^ x := by
  unfold scaleByTen
  split
  · rename_i hx
    simp only [Nat.pow_eq, Nat.cast_mul, Nat.cast_pow, Nat.cast_ofNat, Nat.cast_one, div_one]
    rw [← zpow_natCast, Int.toNat_of_nonneg hx]
  · rename_i hx
    simp only [Nat.pow_eq, Nat.cast_pow, Nat.cast_ofNat]
    rw [← zpow_natCast, Int.toNat_of_nonneg (by omega), zpow_neg, div_eq_mul_inv, inv_inv]

theorem scaleByTen_fst_pos {a : ℕ} (ha : 0 < a) (x : ℤ) : 0 < (scaleByTen a x).1 := by
  unfold scaleByTen
  split
  · exact Nat.mul_pos ha (Nat.pow_pos (by norm_num))
  · exact ha

/-- Dividing a quotient by `10 ^ x` through `scaleByTen 1 x`. -/
theorem scaleByTen_ratio {n d : ℕ} (hd : 0 < d) (x : ℤ) :
    ((n * (scaleByTen 1 x).2 : ℕ) : ℚ) / ((d * (scaleByTen 1 x).1 : ℕ) : ℚ) =
      (n : ℚ) / d / 10 ^ x := by
  have h := scaleByTen_div 1 x
  rw [Nat.cast_one, one_mul] at h
  have h2 : (0 : ℚ) < (scaleByTen 1 x).2 := by exact_mod_cast scaleByTen_pos 1 x
  have h1 : (0 : ℚ) < (scaleByTen 1 x).1 := by exact_mod_cast scaleByTen_fst_pos Nat.one_pos x
  have hd' : (0 : ℚ) < d := by exact_mod_cast hd
  rw [← h]
  push_cast
  field_simp

/-- `compareQuot` compares the two quotients. -/
theorem compareQuot_eq {a b c d : ℕ} (hb : 0 < b) (hd : 0 < d) :
    compareQuot a b c d = compare ((a : ℚ) / b) ((c : ℚ) / d) := by
  have hb' : (0 : ℚ) < b := by exact_mod_cast hb
  have hd' : (0 : ℚ) < d := by exact_mod_cast hd
  unfold compareQuot
  rcases lt_trichotomy (a * d) (c * b) with h | h | h
  · have hq : (a : ℚ) / b < c / d := by
      rw [div_lt_div_iff₀ hb' hd']
      exact_mod_cast h
    rw [compare_lt_iff_lt.mpr h, compare_lt_iff_lt.mpr hq]
  · have hq : (a : ℚ) / b = c / d := by
      rw [div_eq_div_iff hb'.ne' hd'.ne']
      exact_mod_cast h
    rw [compare_eq_iff_eq.mpr h, compare_eq_iff_eq.mpr hq]
  · have hq : (c : ℚ) / d < a / b := by
      rw [div_lt_div_iff₀ hd' hb']
      exact_mod_cast h
    rw [compare_gt_iff_gt.mpr h, compare_gt_iff_gt.mpr hq]

/-! ## Rounding half to even -/

/-- A quotient is its integer part plus the share of the remainder. -/
theorem div_eq_quot_add {n d : ℕ} (hd : 0 < d) :
    (n : ℚ) / d = (n / d : ℕ) + ((n % d : ℕ) : ℚ) / d := by
  have hd' : (0 : ℚ) < d := by exact_mod_cast hd
  rw [div_eq_iff hd'.ne', add_mul, div_mul_cancel₀ _ hd'.ne']
  exact_mod_cast (Nat.div_add_mod' n d).symm

/-- The share of the remainder lies in `[0, 1)` and is compared with one half as twice the
remainder is compared with the divisor. -/
theorem remainder_share {n d : ℕ} (hd : 0 < d) :
    let t := ((n % d : ℕ) : ℚ) / d
    0 ≤ t ∧ t < 1 ∧ (d < 2 * (n % d) → 1 / 2 < t) ∧ (2 * (n % d) < d → t < 1 / 2) ∧
      (2 * (n % d) = d → t = 1 / 2) := by
  intro t
  have hd' : (0 : ℚ) < d := by exact_mod_cast hd
  have hr : ((n % d : ℕ) : ℚ) < d := by exact_mod_cast Nat.mod_lt n hd
  refine ⟨div_nonneg (Nat.cast_nonneg _) hd'.le, (div_lt_one hd').mpr hr, fun h => ?_, fun h => ?_,
    fun h => ?_⟩
  · have h' : (d : ℚ) < 2 * (n % d : ℕ) := by exact_mod_cast h
    rw [lt_div_iff₀ hd']
    linarith
  · have h' : 2 * ((n % d : ℕ) : ℚ) < d := by exact_mod_cast h
    rw [div_lt_iff₀ hd']
    linarith
  · have h' : 2 * ((n % d : ℕ) : ℚ) = d := by exact_mod_cast h
    rw [div_eq_iff hd'.ne']
    linarith

/-- `roundHalfEven` is within one half of the quotient. -/
theorem roundHalfEven_near {n d : ℕ} (hd : 0 < d) :
    |(n : ℚ) / d - roundHalfEven n d| ≤ 1 / 2 := by
  obtain ⟨h0, h1, hgt, hlt, heq⟩ := @remainder_share n d hd
  rw [div_eq_quot_add hd, abs_le]
  unfold roundHalfEven
  dsimp only
  split
  · have := hgt ‹_›
    push_cast
    constructor <;> linarith
  · split
    · have := hlt ‹_›
      constructor <;> linarith
    · have := heq (by omega)
      split <;> push_cast <;> constructor <;> linarith

/-- At an exact half `roundHalfEven` picks the even neighbour. -/
theorem roundHalfEven_even_of_tie {n d : ℕ} (hd : 0 < d)
    (h : |(n : ℚ) / d - roundHalfEven n d| = 1 / 2) : roundHalfEven n d % 2 = 0 := by
  obtain ⟨h0, h1, hgt, hlt, heq⟩ := @remainder_share n d hd
  rw [div_eq_quot_add hd, abs_eq (by norm_num)] at h
  unfold roundHalfEven at h ⊢
  dsimp only at h ⊢
  -- off the half-way point the quotient is nearer than one half to the rounded value
  split at h
  · have := hgt ‹_›
    push_cast at h
    rcases h with h | h <;> linarith
  · split at h
    · have := hlt ‹_›
      rcases h with h | h <;> linarith
    · rw [if_neg ‹_›, if_neg ‹_›]
      split <;> omega

/-- The integer within one half of a quotient, and even when exactly one half away, is what
`roundHalfEven` gives. -/
theorem roundHalfEven_eq {n d m : ℕ} (hd : 0 < d) (hnear : |(n : ℚ) / d - m| ≤ 1 / 2)
    (htie : |(n : ℚ) / d - m| = 1 / 2 → m % 2 = 0) : roundHalfEven n d = m := by
  have hr := @roundHalfEven_near n d hd
  have hr' := hr
  have hnear' := hnear
  rw [abs_le] at hr' hnear'
  -- as integers the two are at most one apart
  have hle : roundHalfEven n d ≤ m + 1 := by
    exact_mod_cast (show ((roundHalfEven n d : ℕ) : ℚ) ≤ m + 1 by linarith)
  have hge : m ≤ roundHalfEven n d + 1 := by
    exact_mod_cast (show (m : ℚ) ≤ roundHalfEven n d + 1 by linarith)
  by_contra hne
  -- one apart, both lie exactly one half from the quotient, so both are even
  have hboth : |(n : ℚ) / d - m| = 1 / 2 ∧ |(n : ℚ) / d - roundHalfEven n d| = 1 / 2 := by
    rcases Nat.lt_or_gt_of_ne hne with hlt | hgt
    · have hm : (m : ℚ) = roundHalfEven n d + 1 := by exact_mod_cast (show m = _ + 1 by omega)
      have e1 : (n : ℚ) / d - m = -(1 / 2) := by linarith
      have e2 : (n : ℚ) / d - roundHalfEven n d = 1 / 2 := by linarith
      rw [e1, e2]
      norm_num
    · have hm : ((roundHalfEven n d : ℕ) : ℚ) = m + 1 := by exact_mod_cast (show _ = m + 1 by omega)
      have e1 : (n : ℚ) / d - m = 1 / 2 := by linarith
      have e2 : (n : ℚ) / d - roundHalfEven n d = -(1 / 2) := by linarith
      rw [e1, e2]
      norm_num
  have hm := htie hboth.1
  have hr := roundHalfEven_even_of_tie hd hboth.2
  omega

/-! ## Binary and decimal magnitudes -/

theorem two_zpow_natCast (k : ℕ) : ((2 ^ k : ℕ) : ℚ) = (2 : ℚ) ^ (k : ℤ) := by
  rw [zpow_natCast]
  push_cast
  rfl

/-- `floorLog2 n d` is the binary magnitude of `n / d`. -/
theorem floorLog2_spec {n d : ℕ} (hn : 0 < n) (hd : 0 < d) :
    (2 : ℚ) ^ floorLog2 n d ≤ (n : ℚ) / d ∧ (n : ℚ) / d < 2 ^ (floorLog2 n d + 1) := by
  have hd' : (0 : ℚ) < d := by exact_mod_cast hd
  -- the bit lengths bound `n` and `d` within a factor of two
  have h1 : (2 : ℚ) ^ (n.log2 : ℤ) ≤ n := by
    rw [← two_zpow_natCast]; exact_mod_cast Nat.log2_self_le hn.ne'
  have h2 : (n : ℚ) < 2 ^ ((n.log2 : ℤ) + 1) := by
    rw [show ((n.log2 : ℤ) + 1) = ((n.log2 + 1 : ℕ) : ℤ) by push_cast; rfl, ← two_zpow_natCast]
    exact_mod_cast Nat.lt_log2_self
  have h3 : (2 : ℚ) ^ (d.log2 : ℤ) ≤ d := by
    rw [← two_zpow_natCast]; exact_mod_cast Nat.log2_self_le hd.ne'
  have h4 : (d : ℚ) < 2 ^ ((d.log2 : ℤ) + 1) := by
    rw [show ((d.log2 : ℤ) + 1) = ((d.log2 + 1 : ℕ) : ℤ) by push_cast; rfl, ← two_zpow_natCast]
    exact_mod_cast Nat.lt_log2_self
  unfold floorLog2
  dsimp only
  generalize (n.log2 : ℤ) = a at h1 h2 ⊢
  generalize (d.log2 : ℤ) = b at h3 h4 ⊢
  have two0 : (2 : ℚ) ≠ 0 := by norm_num
  have lo : (2 : ℚ) ^ (a - b - 1) < n / d := by
    rw [lt_div_iff₀ hd']
    calc (2 : ℚ) ^ (a - b - 1) * d < 2 ^ (a - b - 1) * 2 ^ (b + 1) :=
          mul_lt_mul_of_pos_left h4 (zpow_pos (by norm_num) _)
      _ = 2 ^ a := by rw [← zpow_add₀ two0]; ring_nf
      _ ≤ n := h1
  have hi : (n : ℚ) / d < 2 ^ (a - b + 1) := by
    rw [div_lt_iff₀ hd']
    calc (n : ℚ) < 2 ^ (a + 1) := h2
      _ = 2 ^ (a - b + 1) * 2 ^ b := by rw [← zpow_add₀ two0]; ring_nf
      _ ≤ 2 ^ (a - b + 1) * d := mul_le_mul_of_nonneg_left h3 (zpow_pos (by norm_num) _).le
  have huv : ((scaleByTwo 1 (a - b)).1 : ℚ) / (scaleByTwo 1 (a - b)).2 = 2 ^ (a - b) := by
    simpa using scaleByTwo_div 1 (a - b)
  rw [compareQuot_eq (scaleByTwo_pos 1 (a - b)) hd, huv]
  split
  · rename_i hgt
    have hlt : (n : ℚ) / d < 2 ^ (a - b) := compare_gt_iff_gt.mp hgt
    exact ⟨lo.le, by rwa [sub_add_cancel]⟩
  · rename_i hngt
    have hle : (2 : ℚ) ^ (a - b) ≤ n / d := by
      by_contra h
      exact hngt (compare_gt_iff_gt.mpr (lt_of_not_ge h))
    exact ⟨hle, hi⟩

theorem le_floorLog2 {n d : ℕ} (hn : 0 < n) (hd : 0 < d) {k : ℤ} (h : (2 : ℚ) ^ k ≤ (n : ℚ) / d) :
    k ≤ floorLog2 n d := by
  have hs := (floorLog2_spec hn hd).2
  have : (2 : ℚ) ^ k < 2 ^ (floorLog2 n d + 1) := lt_of_le_of_lt h hs
  have := (zpow_lt_zpow_iff_right₀ (by norm_num : (1 : ℚ) < 2)).mp this
  omega

theorem floorLog2_lt {n d : ℕ} (hn : 0 < n) (hd : 0 < d) {k : ℤ} (h : (n : ℚ) / d < 2 ^ k) :
    floorLog2 n d < k := by
  have hs := (floorLog2_spec hn hd).1
  exact (zpow_lt_zpow_iff_right₀ (by norm_num : (1 : ℚ) < 2)).mp (lt_of_le_of_lt hs h)

/-- A positive number has `digitCount` digits: it lies between `10 ^ (count - 1)` and
`10 ^ count`. -/
theorem digitCount_spec {n : ℕ} (hn : 0 < n) :
    0 < digitCount n ∧ 10 ^ (digitCount n - 1) ≤ n ∧ n < 10 ^ digitCount n := by
  have hpos : 0 < digitCount n := List.length_pos_iff.mpr (Nat.toDigits_ne_nil)
  refine ⟨hpos, ?_, (Nat.length_toDigits_le_iff (by norm_num) hpos).mp le_rfl⟩
  have hcount : digitCount n = (Nat.toDigits 10 n).length := rfl
  by_cases h1 : digitCount n = 1
  · rw [h1, Nat.sub_self, pow_zero]
    exact hn
  · by_contra hlt
    have := (Nat.length_toDigits_le_iff (by norm_num) (by omega)).mpr (lt_of_not_ge hlt)
    omega

/-- `floorLog10 n d` is at most the decimal magnitude of `n / d`. -/
theorem ten_zpow_floorLog10_le {n d : ℕ} (hn : 0 < n) (hd : 0 < d) :
    (10 : ℚ) ^ floorLog10 n d ≤ (n : ℚ) / d := by
  have hd' : (0 : ℚ) < d := by exact_mod_cast hd
  obtain ⟨-, hn1, -⟩ := digitCount_spec hn
  obtain ⟨hdpos, -, hd2⟩ := digitCount_spec hd
  have ten0 : (10 : ℚ) ≠ 0 := by norm_num
  unfold floorLog10
  dsimp only
  have huv : ((scaleByTen 1 ((digitCount n : ℤ) - digitCount d)).1 : ℚ) /
      (scaleByTen 1 ((digitCount n : ℤ) - digitCount d)).2 = 10 ^ ((digitCount n : ℤ) - digitCount d) := by
    simpa using scaleByTen_div 1 ((digitCount n : ℤ) - digitCount d)
  rw [compareQuot_eq (scaleByTen_pos _ _) hd, huv]
  split
  · -- one decimal place lower is below the quotient: `n ≥ 10 ^ (count n - 1)`, `d < 10 ^ count d`
    rw [le_div_iff₀ hd']
    have hn1' : (10 : ℚ) ^ ((digitCount n - 1 : ℕ) : ℤ) ≤ n := by
      rw [zpow_natCast]; exact_mod_cast hn1
    have hd2' : (d : ℚ) < 10 ^ ((digitCount d : ℕ) : ℤ) := by
      rw [zpow_natCast]; exact_mod_cast hd2
    have hpos : 0 < digitCount n := (digitCount_spec hn).1
    calc (10 : ℚ) ^ ((digitCount n : ℤ) - digitCount d - 1) * d
        ≤ 10 ^ ((digitCount n : ℤ) - digitCount d - 1) * 10 ^ ((digitCount d : ℕ) : ℤ) :=
          mul_le_mul_of_nonneg_left hd2'.le (zpow_pos (by norm_num) _).le
      _ = 10 ^ ((digitCount n - 1 : ℕ) : ℤ) := by
          rw [← zpow_add₀ ten0]
          congr 1
          omega
      _ ≤ n := hn1'
  · rename_i hngt
    by_contra h
    exact hngt (compare_gt_iff_gt.mpr (lt_of_not_ge h))

/-- Stripping trailing zeros keeps the value. -/
theorem stripTens_spec (n : ℕ) : (stripTens n).1 * 10 ^ (stripTens n).2 = n := by
  unfold stripTens
  suffices h : ∀ fuel m, (stripTens.go fuel m).1 * 10 ^ (stripTens.go fuel m).2 = m from h n n
  intro fuel
  induction fuel with
  | zero => intro m; simp [stripTens.go]
  | succ fuel ih =>
    intro m
    unfold stripTens.go
    split
    · rename_i h
      have := ih (m / 10)
      dsimp only
      rw [pow_succ, ← mul_assoc, this]
      omega
    · simp

end Exact

namespace BinaryFloat

open Exact

variable {f : BinaryFormat}

/-! ## The bit layout of a float -/

theorem ext_bits {x y : BinaryFloat f} (h : x.bits = y.bits) : x = y := by
  cases x
  cases y
  cases h
  rfl

theorem hidden_eq (f : BinaryFormat) : f.hidden = 2 ^ f.fractionBits := rfl

theorem hidden_pos (f : BinaryFormat) : 0 < f.hidden := Nat.two_pow_pos _

theorem topExponent_eq (f : BinaryFormat) : f.topExponent = 2 ^ f.exponentBits - 1 := rfl

theorem two_pow_width (f : BinaryFormat) :
    Nat.pow 2 f.width = 2 * 2 ^ (f.exponentBits + f.fractionBits) := by
  rw [BinaryFormat.width, Nat.pow_eq, Nat.add_assoc, Nat.pow_add, Nat.pow_one]

theorem fraction_lt (x : BinaryFloat f) : x.fraction < f.hidden :=
  Nat.mod_lt _ (Nat.two_pow_pos _)

theorem storedExponent_lt (x : BinaryFloat f) : x.storedExponent < 2 ^ f.exponentBits :=
  Nat.mod_lt _ (Nat.two_pow_pos _)

/-- A pattern is its sign bit above the stored exponent above the fraction. -/
theorem bits_decompose (x : BinaryFloat f) :
    x.bits = (if x.sign then 2 ^ (f.exponentBits + f.fractionBits) else 0) +
      (x.storedExponent * f.hidden + x.fraction) := by
  have hlt : x.bits < 2 * 2 ^ (f.exponentBits + f.fractionBits) := by
    have := x.bits_lt
    rwa [two_pow_width] at this
  have hP : 0 < 2 ^ (f.exponentBits + f.fractionBits) := Nat.two_pow_pos _
  -- below the sign bit: the fraction, then the stored exponent
  have hmod : x.bits % 2 ^ (f.exponentBits + f.fractionBits) =
      x.storedExponent * f.hidden + x.fraction := by
    rw [Nat.add_comm f.exponentBits, Nat.pow_add, Nat.mod_mul]
    simp only [storedExponent, fraction, hidden_eq, Nat.pow_eq]
    ring
  have hdiv : x.bits / 2 ^ (f.exponentBits + f.fractionBits) < 2 :=
    Nat.div_lt_of_lt_mul (by rw [Nat.mul_comm]; exact hlt)
  have hsplit := (Nat.mod_add_div x.bits (2 ^ (f.exponentBits + f.fractionBits))).symm
  rw [hmod] at hsplit
  have hsign : x.sign = decide (x.bits / 2 ^ (f.exponentBits + f.fractionBits) % 2 = 1) := rfl
  rw [hsign]
  -- the sign bit is the quotient by the rest, zero or one
  generalize x.bits / 2 ^ (f.exponentBits + f.fractionBits) = q at hsplit hdiv
  generalize 2 ^ (f.exponentBits + f.fractionBits) = P at *
  rcases (show q = 0 ∨ q = 1 by omega) with rfl | rfl
  · simp only [Nat.mul_zero, Nat.add_zero] at hsplit
    simp [hsplit]
  · simp only [Nat.mul_one] at hsplit
    simp only [Nat.one_mod, decide_true, if_true]
    omega

/-- Setting the sign of a pattern below the sign bit. -/
theorem withSign_ofBits {n : ℕ} (hn : n < 2 ^ (f.exponentBits + f.fractionBits)) (neg : Bool) :
    ((ofBits n : BinaryFloat f).withSign neg).bits =
      (if neg then 2 ^ (f.exponentBits + f.fractionBits) else 0) + n := by
  have hw := two_pow_width f
  have hn' : n % Nat.pow 2 f.width = n := Nat.mod_eq_of_lt (by rw [hw]; omega)
  simp only [withSign, ofBits, hn', Nat.pow_eq] at *
  rw [Nat.mod_eq_of_lt hn]
  split
  · rw [Nat.mod_eq_of_lt (by rw [hw]; omega)]
    omega
  · rw [Nat.mod_eq_of_lt (by rw [hw]; omega)]
    omega

/-- What a finite magnitude says of the stored fields: a subnormal or zero has stored exponent
zero, a normal number one below the top, with the hidden bit added. -/
theorem magnitude_finite_shape {x : BinaryFloat f} {m : ℕ} {e : ℤ}
    (hx : x.magnitude = .finite m e) :
    x.storedExponent < f.topExponent ∧
      ((x.storedExponent = 0 ∧ m = x.fraction ∧ e = f.minExp) ∨
        (0 < x.storedExponent ∧ m = x.fraction + f.hidden ∧
          e = (x.storedExponent : ℤ) - 1 + f.minExp)) := by
  have hs := x.storedExponent_lt
  unfold magnitude at hx
  dsimp only at hx
  -- the top exponent is an infinity or a NaN, so the stored exponent is below it
  split_ifs at hx with htop hfrac hzero
  · cases hx
    refine ⟨?_, .inl ⟨hzero, rfl, rfl⟩⟩
    rw [topExponent_eq] at htop ⊢
    omega
  · cases hx
    refine ⟨?_, .inr ⟨by omega, rfl, rfl⟩⟩
    rw [topExponent_eq] at htop ⊢
    omega

/-- The pattern `packFinite` builds for a float's own magnitude is the float's pattern below the
sign bit. -/
theorem packFinite_of_magnitude {x : BinaryFloat f} {m : ℕ} {e : ℤ}
    (hx : x.magnitude = .finite m e) :
    packFinite (f := f) m e = x.storedExponent * f.hidden + x.fraction := by
  unfold packFinite
  rcases (magnitude_finite_shape hx).2 with ⟨hs, rfl, rfl⟩ | ⟨hs, rfl, rfl⟩
  · rw [hs, sub_self]
    simp
  · have : (x.storedExponent - 1 + f.minExp - f.minExp).toNat = x.storedExponent - 1 := by omega
    rw [this]
    obtain ⟨k, hk⟩ : ∃ k, x.storedExponent = k + 1 := ⟨x.storedExponent - 1, by omega⟩
    rw [hk, Nat.add_sub_cancel, Nat.add_mul, Nat.one_mul]
    ring

theorem packFinite_lt {x : BinaryFloat f} {m : ℕ} {e : ℤ} (hx : x.magnitude = .finite m e) :
    packFinite (f := f) m e < f.topExponent * f.hidden := by
  rw [packFinite_of_magnitude hx]
  have hs := (magnitude_finite_shape hx).1
  have hf := x.fraction_lt
  calc x.storedExponent * f.hidden + x.fraction < (x.storedExponent + 1) * f.hidden := by
        rw [Nat.add_mul, Nat.one_mul]; omega
    _ ≤ f.topExponent * f.hidden := Nat.mul_le_mul_right _ hs

theorem topExponent_mul_hidden_le (f : BinaryFormat) :
    f.topExponent * f.hidden ≤ 2 ^ (f.exponentBits + f.fractionBits) := by
  rw [topExponent_eq, hidden_eq, Nat.pow_add]
  exact Nat.mul_le_mul_right _ (Nat.sub_le _ _)

/-- A finite float is the pattern of its magnitude with its sign. -/
theorem ofBits_packFinite_withSign {x : BinaryFloat f} {m : ℕ} {e : ℤ}
    (hx : x.magnitude = .finite m e) :
    (ofBits (packFinite (f := f) m e) : BinaryFloat f).withSign x.sign = x := by
  have hlt := lt_of_lt_of_le (packFinite_lt hx) (topExponent_mul_hidden_le f)
  apply ext_bits
  rw [withSign_ofBits hlt, packFinite_of_magnitude hx, bits_decompose x]

/-- A zero is the positive zero with its sign. -/
theorem eq_zero_withSign {x : BinaryFloat f} {e : ℤ} (hx : x.magnitude = .finite 0 e) :
    (zero : BinaryFloat f).withSign x.sign = x := by
  have hshape := (magnitude_finite_shape hx).2
  have hh := hidden_pos f
  have hfields : x.storedExponent = 0 ∧ x.fraction = 0 := by
    rcases hshape with ⟨hs, hm, -⟩ | ⟨-, hm, -⟩
    · exact ⟨hs, hm.symm⟩
    · omega
  apply ext_bits
  rw [zero, withSign_ofBits (Nat.two_pow_pos _), bits_decompose x, hfields.1, hfields.2]
  simp

/-- An infinity is the positive infinity with its sign. -/
theorem eq_infinity {x : BinaryFloat f} (hx : x.magnitude = .infinite) :
    infinity x.sign = x := by
  have hfields : x.storedExponent = f.topExponent ∧ x.fraction = 0 := by
    unfold magnitude at hx
    dsimp only at hx
    split_ifs at hx with htop hfrac
    · exact ⟨htop, hfrac⟩
  have hlt : f.topExponent * f.hidden < 2 ^ (f.exponentBits + f.fractionBits) := by
    rw [topExponent_eq, hidden_eq, Nat.pow_add]
    have := Nat.two_pow_pos f.exponentBits
    have := Nat.two_pow_pos f.fractionBits
    exact Nat.mul_lt_mul_of_pos_right (by omega) (by assumption)
  apply ext_bits
  rw [infinity, withSign_ofBits hlt, bits_decompose x, hfields.1, hfields.2, Nat.add_zero]

/-! ## The rounding interval -/

/-- The rationals that round to the positive finite magnitude `m * 2 ^ e`: those between the
midpoints with its neighbours (the ends of `interval`, in units of `2 ^ (e - 2)`), the midpoints
included exactly when `m` is even. -/
def RoundsTo (f : BinaryFormat) (m : ℕ) (e : ℤ) (q : ℚ) : Prop :=
  (((interval (f := f) m e).1 : ℚ) * 2 ^ (e - 2) < q ∨
      (((interval (f := f) m e).1 : ℚ) * 2 ^ (e - 2) = q ∧ m % 2 = 0)) ∧
    (q < ((interval (f := f) m e).2 : ℚ) * 2 ^ (e - 2) ∨
      (q = ((interval (f := f) m e).2 : ℚ) * 2 ^ (e - 2) ∧ m % 2 = 0))

theorem two_zpow_sub_two (e : ℤ) : (2 : ℚ) ^ (e - 2) = 2 ^ e / 4 := by
  rw [zpow_sub₀ (by norm_num)]
  norm_num

/-- The interval reaches half a unit in the last place above `m`, and half a unit below it, a
quarter at the bottom of a binade above the subnormals; a midpoint is in it only for even `m`. -/
theorem RoundsTo.bounds {m : ℕ} {e : ℤ} {q : ℚ} (hq : RoundsTo f m e q) (hm : 0 < m) :
    ((m : ℚ) - 1 / 2) * 2 ^ e ≤ q ∧ q ≤ ((m : ℚ) + 1 / 2) * 2 ^ e ∧
      (q = ((m : ℚ) - 1 / 2) * 2 ^ e → m % 2 = 0) ∧ (q = ((m : ℚ) + 1 / 2) * 2 ^ e → m % 2 = 0) ∧
      (m = f.hidden ∧ f.minExp < e → ((m : ℚ) - 1 / 4) * 2 ^ e ≤ q) := by
  have hE : (0 : ℚ) < 2 ^ e := zpow_pos (by norm_num) e
  obtain ⟨hlo, hhi⟩ := hq
  simp only [interval, two_zpow_sub_two] at hlo hhi
  have hhi' : q ≤ ((m : ℚ) + 1 / 2) * 2 ^ e := by
    rcases hhi with h | ⟨h, -⟩
    · push_cast at h; linarith
    · push_cast at h; linarith
  refine ⟨?_, hhi', ?_, fun h => ?_, fun hbottom => ?_⟩
  · split_ifs at hlo <;> rcases hlo with h | ⟨h, -⟩ <;>
      · rw [Nat.cast_sub (by omega)] at h; push_cast at h; linarith
  · intro h
    split_ifs at hlo
    · -- a quarter below: the midpoint lies outside
      rcases hlo with h' | ⟨h', -⟩ <;>
        · rw [Nat.cast_sub (by omega)] at h'; push_cast at h'; nlinarith
    · rcases hlo with h' | ⟨-, heven⟩
      · rw [Nat.cast_sub (by omega)] at h'; push_cast at h'; linarith
      · exact heven
  · rcases hhi with h' | ⟨-, heven⟩
    · push_cast at h'; linarith
    · exact heven
  · rw [if_pos ⟨hbottom.1, hbottom.2⟩] at hlo
    rcases hlo with h | ⟨h, -⟩ <;>
      · rw [Nat.cast_sub (by omega)] at h; push_cast at h; linarith

theorem RoundsTo.pos {m : ℕ} {e : ℤ} {q : ℚ} (hq : RoundsTo f m e q) (hm : 0 < m) : 0 < q := by
  have hE : (0 : ℚ) < 2 ^ e := zpow_pos (by norm_num) e
  have hm' : (1 : ℚ) ≤ m := by exact_mod_cast hm
  have := (hq.bounds hm).1
  nlinarith

/-- Scaled to units of `2 ^ e`, the interval is within one half of `m`, and one half away only
for even `m`. -/
theorem RoundsTo.near {m : ℕ} {e : ℤ} {q : ℚ} (hq : RoundsTo f m e q) (hm : 0 < m) :
    |q / 2 ^ e - m| ≤ 1 / 2 ∧ (|q / 2 ^ e - m| = 1 / 2 → m % 2 = 0) := by
  have hE : (0 : ℚ) < 2 ^ e := zpow_pos (by norm_num) e
  obtain ⟨hlo, hhi, htlo, hthi, -⟩ := hq.bounds hm
  refine ⟨?_, fun h => ?_⟩
  · rw [abs_le]
    constructor
    · rw [le_sub_iff_add_le, le_div_iff₀ hE]; linarith
    · rw [sub_le_iff_le_add, div_le_iff₀ hE]; linarith
  · rw [abs_eq (by norm_num)] at h
    rcases h with h | h
    · exact hthi (by rw [sub_eq_iff_eq_add, div_eq_iff hE.ne'] at h; rw [h]; ring)
    · exact htlo (by rw [sub_eq_iff_eq_add, div_eq_iff hE.ne'] at h; rw [h]; ring)

/-- A finite magnitude has its exponent at least `minExp`, a significand below `2 * hidden`, and
a significand below `hidden` only at `minExp`. -/
theorem magnitude_finite_range {x : BinaryFloat f} {m : ℕ} {e : ℤ}
    (hx : x.magnitude = .finite m e) :
    f.minExp ≤ e ∧ m < 2 * f.hidden ∧ (m < f.hidden → e = f.minExp) := by
  have hf := x.fraction_lt
  rcases (magnitude_finite_shape hx).2 with ⟨-, rfl, rfl⟩ | ⟨hs, rfl, rfl⟩ <;> omega

theorem hidden_cast (f : BinaryFormat) : (f.hidden : ℚ) = 2 ^ (f.fractionBits : ℤ) := by
  rw [hidden_eq]
  exact two_zpow_natCast _

/-- The unit in the last place `ofRatio` takes for a quotient in the binade `[2 ^ L, 2 ^ (L + 1))`
that rounds to `m * 2 ^ e`: the float's own unit, or, at the bottom of a binade, the unit of the
binade below, which the quotient then lies in. -/
theorem RoundsTo.exponent {x : BinaryFloat f} {m : ℕ} {e L : ℤ} {q : ℚ}
    (hx : x.magnitude = .finite m e) (hm : 0 < m) (hq : RoundsTo f m e q)
    (hL : 2 ^ L ≤ q ∧ q < 2 ^ (L + 1)) :
    max (L - f.fractionBits) f.minExp = e ∨
      (max (L - f.fractionBits) f.minExp = e - 1 ∧ m = f.hidden ∧ f.minExp < e ∧
        q < f.hidden * 2 ^ e) := by
  obtain ⟨hmin, hm2, hsub⟩ := magnitude_finite_range hx
  obtain ⟨hlo, hhi, -, -, hbottom⟩ := hq.bounds hm
  have hE : (0 : ℚ) < 2 ^ e := zpow_pos (by norm_num) e
  have hH := hidden_cast f
  have hpow : ∀ a b : ℤ, (2 : ℚ) ^ a < 2 ^ b ↔ a < b :=
    fun a b => zpow_lt_zpow_iff_right₀ (by norm_num)
  have hmono : ∀ a b : ℤ, a ≤ b → (2 : ℚ) ^ a ≤ 2 ^ b :=
    fun a b h => zpow_le_zpow_right₀ (by norm_num) h
  have hshift : ∀ k : ℤ, (2 : ℚ) ^ ((f.fractionBits : ℤ) + k) = f.hidden * 2 ^ k := by
    intro k
    rw [zpow_add₀ two_ne_zero, hH]
  -- the quotient stays below the binade above the float's
  have hup : L - f.fractionBits ≤ e := by
    have hm' : (m : ℚ) + 1 / 2 < 2 * f.hidden := by
      have : (m : ℚ) + 1 ≤ 2 * f.hidden := by exact_mod_cast hm2
      linarith
    have : q < 2 ^ ((f.fractionBits : ℤ) + (e + 1)) := by
      rw [hshift, zpow_add_one₀ two_ne_zero]
      nlinarith
    have := (hpow L _).1 (lt_of_le_of_lt hL.1 this)
    omega
  by_cases hbot : m = f.hidden ∧ f.minExp < e
  · -- a quarter unit below the bottom of a binade lies in the binade below
    have hdown : e - 1 ≤ L - f.fractionBits := by
      have hq' : (2 : ℚ) ^ ((f.fractionBits : ℤ) + (e - 1)) ≤ q := by
        have h1 : (1 : ℚ) ≤ f.hidden := by exact_mod_cast hidden_pos f
        rw [hshift, zpow_sub_one₀ two_ne_zero]
        have := hbottom hbot
        rw [hbot.1] at this
        nlinarith
      by_contra h
      linarith [hL.2, hmono (L + 1) ((f.fractionBits : ℤ) + (e - 1)) (by omega)]
    rcases (show L - f.fractionBits = e ∨ L - f.fractionBits = e - 1 by omega) with h | h
    · left
      rw [h]
      exact max_eq_left hmin
    · right
      refine ⟨by rw [h]; exact max_eq_left (by omega), hbot.1, hbot.2, ?_⟩
      calc q < 2 ^ (L + 1) := hL.2
        _ = 2 ^ ((f.fractionBits : ℤ) + e) := by congr 1; omega
        _ = f.hidden * 2 ^ e := hshift e
  · left
    by_cases hemin : e = f.minExp
    · rw [hemin] at hup ⊢
      exact max_eq_right hup
    · -- above the bottom of its binade the quotient is in the float's own binade
      have hgt : f.hidden + 1 ≤ m := by
        have := fun h => hemin (hsub h)
        omega
      have hq' : (2 : ℚ) ^ ((f.fractionBits : ℤ) + e) ≤ q := by
        have : (f.hidden : ℚ) + 1 ≤ m := by exact_mod_cast hgt
        rw [hshift]
        nlinarith
      have : (f.fractionBits : ℤ) + e < L + 1 := by
        by_contra h
        linarith [hL.2, hmono (L + 1) ((f.fractionBits : ℤ) + e) (by omega)]
      rw [show L - f.fractionBits = e by omega]
      exact max_eq_left hmin

/-- `ofRatio` gives back the float whose rounding interval holds the quotient: a positive
quotient rounds to the one finite magnitude whose interval it lies in, and the sign is kept. -/
theorem ofRatio_eq_of_roundsTo {x : BinaryFloat f} {m : ℕ} {e : ℤ}
    (hx : x.magnitude = .finite m e) (hm : 0 < m) {n d : ℕ} (hd : 0 < d)
    (hq : RoundsTo f m e ((n : ℚ) / d)) : ofRatio x.sign n d = x := by
  have hn : 0 < n := by
    have hpos := hq.pos hm
    rcases Nat.eq_zero_or_pos n with h | h
    · rw [h, Nat.cast_zero, zero_div] at hpos
      exact absurd hpos (lt_irrefl 0)
    · exact h
  have hm2 := (magnitude_finite_range hx).2.1
  unfold ofRatio
  rw [if_neg (by omega)]
  dsimp only
  generalize hE : max (floorLog2 n d - ↑f.fractionBits) f.minExp = E
  generalize hr : roundHalfEven (n * (scaleByTwo 1 E).2) (d * (scaleByTwo 1 E).1) = r
  have hden : 0 < d * (scaleByTwo 1 E).1 := Nat.mul_pos hd (scaleByTwo_fst_pos Nat.one_pos E)
  have hratio := scaleByTwo_ratio (n := n) hd E
  have hpair : (if r = 2 * f.hidden then (f.hidden, E + 1) else (r, E)) = (m, e) := by
    rcases hq.exponent hx hm (floorLog2_spec hn hd) with hE' | ⟨hE', rfl, hmin, hlt⟩
    · -- the float's own unit: the quotient rounds to `m` itself
      rw [hE] at hE'
      subst hE'
      have hnear := hq.near hm
      rw [← hratio] at hnear
      rw [← hr, roundHalfEven_eq hden hnear.1 hnear.2, if_neg (by omega)]
    · -- the unit below: the quotient rounds up to `2 * hidden`, which carries into `e`
      rw [hE] at hE'
      subst hE'
      have hbound := (hq.bounds hm).2.2.2.2 ⟨rfl, hmin⟩
      have hE : (0 : ℚ) < 2 ^ e := zpow_pos (by norm_num) e
      have hnear : |(n : ℚ) / d / 2 ^ (e - 1) - ((2 * f.hidden : ℕ) : ℚ)| ≤ 1 / 2 := by
        rw [zpow_sub_one₀ two_ne_zero, abs_le]
        push_cast
        constructor
        · rw [le_sub_iff_add_le, le_div_iff₀ (by positivity)]
          linarith
        · rw [sub_le_iff_le_add, div_le_iff₀ (by positivity)]
          linarith
      rw [← hratio] at hnear
      rw [← hr, roundHalfEven_eq hden hnear (fun _ => by omega), if_pos rfl, sub_add_cancel]
  rw [hpair]
  dsimp only
  have hfit : ¬((e - f.minExp).toNat * f.hidden + m ≥ f.topExponent * f.hidden) :=
    not_le.2 (packFinite_lt hx)
  rw [if_neg hfit, ofBits_packFinite_withSign hx]

end BinaryFloat

end Strainer
