import Mathlib.Data.List.TakeWhile
import Strainer.Proofs.Float.Rounding
import Strainer.Float.Text

/-!
# Float text reads back

The plain text of a float (`FloatLayout.display`) reads back as the same float under
`FloatText.parse?`, NaN apart: `FloatText.parse?_render`. It holds for every format with the
margins of `BinaryFormat.ReadsBack`, the 32- and 64-bit formats among them.

Three facts make it up. The digits `shortestOf` picks lie in the float's rounding interval
(`shortestOf_roundsTo`): a hit of the digit search passed `inInterval`, which decides
`RoundsTo`, and without a hit the float rounded to `maxDigits` digits is within a quarter unit
in the last place. Positional text reads back as a decimal of the same value
(`readUnsigned_positional`). And a decimal of the interval is rounded by `Reading.round` to the
float again (`round_decimal`): its cut-offs lie beyond the finite values, and `ofRatio` finds
the float (`ofRatio_eq_of_roundsTo`).
-/

namespace Strainer

namespace BinaryFloat

open Exact

variable {f : BinaryFormat}

theorem inInterval_iff {m : ℕ} {e : ℤ} {d : ℕ} {k : ℤ} :
    inInterval (f := f) m e d k = true ↔ RoundsTo f m e (d * 10 ^ k) := by
  unfold inInterval scaledLe RoundsTo
  dsimp only
  rw [compareQuot_eq (scaleByTwo_pos _ _) (scaleByTen_pos _ _),
    compareQuot_eq (scaleByTen_pos _ _) (scaleByTwo_pos _ _), scaleByTwo_div, scaleByTen_div,
    scaleByTwo_div]
  generalize ((interval (f := f) m e).1 : ℚ) * 2 ^ (e - 2) = lo
  generalize ((interval (f := f) m e).2 : ℚ) * 2 ^ (e - 2) = hi
  generalize (d : ℚ) * 10 ^ k = q
  -- each test is a three-way comparison, and each outcome one order fact
  generalize hc1 : compare lo q = c1
  generalize hc2 : compare q hi = c2
  cases c1 <;> cases c2 <;>
    simp only [compare_lt_iff_lt, compare_eq_iff_eq, compare_gt_iff_gt] at hc1 hc2 <;> grind

theorem stripTens_value (d : ℕ) (k : ℤ) :
    ((stripTens d).1 : ℚ) * 10 ^ (k + (stripTens d).2) = d * 10 ^ k := by
  have h : (d : ℚ) = (stripTens d).1 * 10 ^ (stripTens d).2 := by
    exact_mod_cast (stripTens_spec d).symm
  rw [h, zpow_add₀ (by norm_num), zpow_natCast]
  ring

theorem gridHit_roundsTo {m : ℕ} {e : ℤ} {n : ℕ} {D : Digits}
    (h : gridHit (f := f) m e n = some D) : RoundsTo f m e (D.digits * 10 ^ D.exponent) := by
  unfold gridHit at h
  dsimp only at h
  generalize floorLog10 (scaleByTwo m e).1 (scaleByTwo m e).2 - ↑n + 1 = k at h
  generalize (scaleByTwo m e).1 * (scaleByTen 1 k).2 / ((scaleByTwo m e).2 * (scaleByTen 1 k).1) = b at h
  -- every answer is a neighbour on the grid that passed `inInterval`, trailing zeros stripped
  have hpick : ∀ d, inInterval (f := f) m e d k = true →
      some (⟨(stripTens d).1, k + (stripTens d).2⟩ : Digits) = some D →
      RoundsTo f m e (D.digits * 10 ^ D.exponent) := by
    rintro d hd ⟨⟩
    rw [stripTens_value]
    exact inInterval_iff.1 hd
  split_ifs at h <;> simp only [Bool.and_eq_true] at * <;> exact hpick _ (by tauto) h

theorem firstHit_roundsTo {m : ℕ} {e : ℤ} {ns : List ℕ} {D : Digits}
    (h : firstHit (f := f) m e ns = some D) : RoundsTo f m e (D.digits * 10 ^ D.exponent) := by
  induction ns with
  | nil => cases h
  | cons n ns ih =>
    unfold firstHit at h
    split at h
    · cases h
      exact gridHit_roundsTo ‹_›
    · exact ih h

/-- Anything within a quarter unit in the last place of a positive float rounds to it. -/
theorem roundsTo_of_near {m : ℕ} {e : ℤ} (hm : 0 < m) {q : ℚ}
    (hq : |q - m * 2 ^ e| < 2 ^ e / 4) : RoundsTo f m e q := by
  have hE : (0 : ℚ) < 2 ^ e := zpow_pos (by norm_num) e
  rw [abs_lt] at hq
  unfold RoundsTo interval
  dsimp only
  rw [two_zpow_sub_two]
  refine ⟨.inl ?_, .inl ?_⟩
  · split_ifs <;> rw [Nat.cast_sub (by omega)] <;> push_cast <;> linarith
  · push_cast
    linarith

/-- Whatever digits `shortestOf` settles on lie in the rounding interval: a hit of the search,
or, past `maxDigits` digits, the float rounded half to even, which is near enough once
`maxDigits` digits resolve a unit in the last place. -/
theorem shortestOf_roundsTo (hgrid : 4 * f.hidden ≤ 10 ^ (maxDigits f - 1)) {m : ℕ} {e : ℤ}
    (hm : 0 < m) (hm2 : m < 2 * f.hidden) :
    RoundsTo f m e ((shortestOf (f := f) m e).digits * 10 ^ (shortestOf (f := f) m e).exponent) := by
  unfold shortestOf
  split
  · exact firstHit_roundsTo ‹_›
  · dsimp only
    rw [stripTens_value]
    generalize hk : floorLog10 (scaleByTwo m e).1 (scaleByTwo m e).2 - (maxDigits f : ℤ) + 1 = k
    apply roundsTo_of_near hm
    have hE : (0 : ℚ) < 2 ^ e := zpow_pos (by norm_num) e
    have hT : (0 : ℚ) < 10 ^ k := zpow_pos (by norm_num) k
    have hvd := scaleByTwo_pos m e
    have hv := scaleByTwo_div m e
    have hnear := roundHalfEven_near (n := (scaleByTwo m e).1 * (scaleByTen 1 k).2)
      (Nat.mul_pos hvd (scaleByTen_fst_pos Nat.one_pos k))
    rw [scaleByTen_ratio hvd k, hv] at hnear
    -- the grid step is below half a unit in the last place
    have hstep : (10 : ℚ) ^ k < 2 ^ e / 2 := by
      have hlog := ten_zpow_floorLog10_le (scaleByTwo_fst_pos hm e) hvd
      rw [hv] at hlog
      have hM : 1 ≤ maxDigits f := by unfold maxDigits; omega
      have hP : (0 : ℚ) < 10 ^ ((maxDigits f : ℤ) - 1) := zpow_pos (by norm_num) _
      have hten : (10 : ℚ) ^ k * 10 ^ ((maxDigits f : ℤ) - 1) =
          10 ^ floorLog10 (scaleByTwo m e).1 (scaleByTwo m e).2 := by
        rw [← zpow_add₀ (by norm_num)]
        congr 1
        omega
      have hgrid' : (4 * f.hidden : ℚ) ≤ 10 ^ ((maxDigits f : ℤ) - 1) := by
        rw [show (maxDigits f : ℤ) - 1 = ((maxDigits f - 1 : ℕ) : ℤ) by omega, zpow_natCast]
        exact_mod_cast hgrid
      have hm' : (m : ℚ) + 1 ≤ 2 * f.hidden := by exact_mod_cast hm2
      have : (10 : ℚ) ^ k * 10 ^ ((maxDigits f : ℤ) - 1) <
          2 ^ e / 2 * 10 ^ ((maxDigits f : ℤ) - 1) := by
        rw [hten]
        nlinarith
      exact lt_of_mul_lt_mul_right this hP.le
    have hy : (m : ℚ) * 2 ^ e = (m * 2 ^ e / 10 ^ k) * 10 ^ k := by field_simp
    rw [hy, ← sub_mul, abs_mul, abs_of_pos hT, abs_sub_comm]
    calc |(m : ℚ) * 2 ^ e / 10 ^ k - _| * 10 ^ k ≤ 1 / 2 * 10 ^ k :=
          mul_le_mul_of_nonneg_right hnear hT.le
      _ < 2 ^ e / 4 := by linarith

theorem exponent_le_of_magnitude (heb : 2 ≤ f.exponentBits) {x : BinaryFloat f} {m : ℕ} {e : ℤ}
    (hx : x.magnitude = .finite m e) : e ≤ (f.bias : ℤ) - f.fractionBits := by
  obtain ⟨hs, hshape⟩ := magnitude_finite_shape hx
  -- with two exponent bits or more the bias is at least one and the top exponent `2 * bias + 1`
  have hpow : 2 ^ f.exponentBits = 2 * 2 ^ (f.exponentBits - 1) := by
    rw [← pow_succ']
    congr 1
    omega
  have h2 : 2 ≤ 2 ^ (f.exponentBits - 1) :=
    le_trans (by norm_num) (Nat.pow_le_pow_right (by norm_num) (by omega : 1 ≤ f.exponentBits - 1))
  have hbias : f.bias = 2 ^ (f.exponentBits - 1) - 1 := rfl
  rw [topExponent_eq] at hs
  unfold BinaryFormat.minExp at hshape
  rcases hshape with ⟨-, -, rfl⟩ | ⟨-, -, rfl⟩ <;> omega

/-- A quotient rounding to a finite float is below the first power of two past the format. -/
theorem RoundsTo.lt_top (heb : 2 ≤ f.exponentBits) {x : BinaryFloat f} {m : ℕ} {e : ℤ} {q : ℚ}
    (hx : x.magnitude = .finite m e) (hm : 0 < m) (hq : RoundsTo f m e q) :
    q < 2 ^ ((f.bias : ℤ) + 1) := by
  obtain ⟨-, hhi, -, -, -⟩ := hq.bounds hm
  have hm2 : (m : ℚ) + 1 / 2 < 2 * f.hidden := by
    have : (m : ℚ) + 1 ≤ 2 * f.hidden := by exact_mod_cast (magnitude_finite_range hx).2.1
    linarith
  have he := exponent_le_of_magnitude heb hx
  have hE : (0 : ℚ) < 2 ^ e := zpow_pos (by norm_num) e
  calc q ≤ ((m : ℚ) + 1 / 2) * 2 ^ e := hhi
    _ < 2 * f.hidden * 2 ^ e := mul_lt_mul_of_pos_right hm2 hE
    _ = 2 ^ ((f.fractionBits : ℤ) + 1 + e) := by
      rw [hidden_cast, zpow_add₀ two_ne_zero, zpow_add₀ two_ne_zero, zpow_one]
      ring
    _ ≤ 2 ^ ((f.bias : ℤ) + 1) := zpow_le_zpow_right₀ (by norm_num) (by omega)

/-- A quotient rounding to a positive float is at least half the smallest one. -/
theorem RoundsTo.bottom_le {x : BinaryFloat f} {m : ℕ} {e : ℤ} {q : ℚ}
    (hx : x.magnitude = .finite m e) (hm : 0 < m) (hq : RoundsTo f m e q) :
    2 ^ (f.minExp - 1) ≤ q := by
  obtain ⟨hlo, -⟩ := hq.bounds hm
  have hmin := (magnitude_finite_range hx).1
  have hm' : (1 : ℚ) ≤ m := by exact_mod_cast hm
  have hE : (0 : ℚ) < 2 ^ e := zpow_pos (by norm_num) e
  calc (2 : ℚ) ^ (f.minExp - 1) ≤ 2 ^ (e - 1) := zpow_le_zpow_right₀ (by norm_num) (by omega)
    _ = 1 / 2 * 2 ^ e := by
      rw [zpow_sub_one₀ two_ne_zero]
      ring
    _ ≤ ((m : ℚ) - 1 / 2) * 2 ^ e := by nlinarith
    _ ≤ q := hlo

end BinaryFloat

/-- What the text of a format needs to read back: two exponent bits or more, enough digits in
the search to resolve a quarter of a unit in the last place, and the cut-offs of
`FloatText.Reading.round` beyond the finite values. -/
structure BinaryFormat.ReadsBack (f : BinaryFormat) : Prop where
  two_le_exponentBits : 2 ≤ f.exponentBits
  hidden_le_digits : 4 * f.hidden ≤ 10 ^ (BinaryFloat.maxDigits f - 1)
  top_le_cutoff : 2 ^ (f.bias + 1) ≤ 10 ^ ((f.bias + 1) * 31 / 100 + 2)
  bottom_le_cutoff :
    2 ^ (f.bias + f.fractionBits) ≤ 10 ^ ((f.bias + f.fractionBits) * 31 / 100 + 2)

theorem BinaryFormat.single_readsBack : BinaryFormat.single.ReadsBack :=
  ⟨by decide, by decide, by decide, by decide⟩

theorem BinaryFormat.double_readsBack : BinaryFormat.double.ReadsBack :=
  ⟨by decide, by decide, by decide +kernel, by decide +kernel⟩

namespace Exact

theorem decimalDigits_isDigit (D : ℕ) : ∀ c ∈ decimalDigits D, c.isDigit = true :=
  fun _ hc => Nat.isDigit_of_mem_toDigits (by decide) (by decide) hc

theorem decimalDigits_ne_nil (D : ℕ) : decimalDigits D ≠ [] := Nat.toDigits_ne_nil

theorem ofDigitChars_decimalDigits (D : ℕ) : Nat.ofDigitChars 10 (decimalDigits D) 0 = D :=
  Nat.ofDigitChars_ten_toDigits

theorem intText_toList (x : ℤ) :
    (intText x).toList = (if x < 0 then ['-'] else []) ++ decimalDigits x.natAbs := by
  unfold intText
  split_ifs <;> simp

end Exact

namespace FloatText

open Exact

theorem digitsValue_eq (ds : List Char) : digitsValue ds = Nat.ofDigitChars 10 ds 0 :=
  Nat.ofDigitChars_eq_foldl.symm

theorem toLower_of_isDigit {c : Char} (hc : c.isDigit = true) : c.toLower = c := by
  have h := Char.isDigit_iff_toNat.1 hc
  unfold Char.toLower
  rw [dif_neg]
  rintro ⟨hA, -⟩
  have hA' : 'A'.val.toNat ≤ c.val.toNat := hA
  have h9 : ('9' : Char).toNat = 57 := rfl
  simp at hA'
  omega

theorem lower_cons_ne {c : Char} (hc : c.isDigit = true) (cs : List Char) {w : List Char}
    (hw : ∀ a ∈ w.head?, a.isDigit = false) : lower (c :: cs) ≠ w := by
  intro h
  have := congrArg List.head? h
  simp only [lower, List.map_cons, List.head?_cons, toLower_of_isDigit hc] at this
  have := hw c this.symm
  rw [hc] at this
  cases this

theorem spanDigits_of_all {a : List Char} (hda : ∀ c ∈ a, c.isDigit = true) :
    spanDigits a = (a, []) := by
  unfold spanDigits
  rw [List.takeWhile_eq_self_iff.2 hda, List.dropWhile_eq_nil_iff.2 hda]

theorem spanDigits_point {a b : List Char} (hda : ∀ c ∈ a, c.isDigit = true) :
    spanDigits (a ++ '.' :: b) = (a, '.' :: b) := by
  unfold spanDigits
  rw [List.takeWhile_append_of_pos hda, List.dropWhile_append_of_pos hda]
  simp

/-- The words `inf`, `infinity` and `nan` are not read from text that starts with a digit. -/
theorem lower_ne_words {c : Char} (hc : c.isDigit = true) (cs : List Char) :
    ¬(lower (c :: cs) = "inf".toList ∨ lower (c :: cs) = "infinity".toList) ∧
      lower (c :: cs) ≠ "nan".toList := by
  refine ⟨not_or.2 ⟨lower_cons_ne hc cs ?_, lower_cons_ne hc cs ?_⟩, lower_cons_ne hc cs ?_⟩ <;>
    simp

theorem readUnsigned_digits (neg : Bool) {a : List Char} (ha : a ≠ [])
    (hda : ∀ d ∈ a, d.isDigit = true) :
    readUnsigned neg a = some (.decimal neg (digitsValue a) 0) := by
  obtain ⟨c, cs, rfl⟩ := List.exists_cons_of_ne_nil ha
  have hw := lower_ne_words (hda c List.mem_cons_self) cs
  unfold readUnsigned
  dsimp only
  rw [if_neg hw.1, if_neg hw.2, spanDigits_of_all hda]
  simp

theorem readUnsigned_point (neg : Bool) {a b : List Char} (ha : a ≠ [])
    (hda : ∀ d ∈ a, d.isDigit = true) (hdb : ∀ d ∈ b, d.isDigit = true) :
    readUnsigned neg (a ++ '.' :: b) =
      some (.decimal neg (digitsValue (a ++ b)) (-(b.length : ℤ))) := by
  obtain ⟨c, cs, rfl⟩ := List.exists_cons_of_ne_nil ha
  have hw := lower_ne_words (hda c List.mem_cons_self) (cs ++ '.' :: b)
  unfold readUnsigned
  dsimp only
  rw [List.cons_append, if_neg hw.1, if_neg hw.2, ← List.cons_append, spanDigits_point hda]
  simp [spanDigits_of_all hdb]

theorem digitsValue_decimalDigits (D : ℕ) : digitsValue (decimalDigits D) = D := by
  rw [digitsValue_eq]
  exact ofDigitChars_decimalDigits D

theorem zeros_isDigit (n : ℕ) : ∀ c ∈ FloatLayout.zeros n, c.isDigit = true := by
  intro c hc
  rw [FloatLayout.zeros, List.mem_replicate] at hc
  rw [hc.2]
  rfl

theorem read_of_isDigit {c : Char} (hc : c.isDigit = true) (cs : List Char) (neg : Bool) :
    read ((if neg then ['-'] else []) ++ c :: cs) = readUnsigned neg (c :: cs) := by
  cases neg
  · unfold read
    split <;> simp_all
  · rfl

theorem display_positionalText (ds : List Char) (K : ℤ) :
    FloatLayout.display.positionalText ds K =
      if 0 ≤ K then ds ++ FloatLayout.zeros K.toNat
      else if 0 < (ds.length : ℤ) + K then
        ds.take ((ds.length : ℤ) + K).toNat ++ '.' :: ds.drop ((ds.length : ℤ) + K).toNat
      else '0' :: '.' :: FloatLayout.zeros (-((ds.length : ℤ) + K)).toNat ++ ds := by
  unfold FloatLayout.positionalText
  simp [FloatLayout.display]

/-- Positional text starts with a digit. -/
theorem positionalText_head (D : ℕ) (K : ℤ) :
    ∃ c cs, FloatLayout.display.positionalText (decimalDigits D) K = c :: cs ∧
      c.isDigit = true := by
  obtain ⟨c, cs, hccs⟩ := List.exists_cons_of_ne_nil (decimalDigits_ne_nil D)
  have hc := decimalDigits_isDigit D c (by rw [hccs]; exact List.mem_cons_self)
  rw [display_positionalText]
  split_ifs with hK hp
  · exact ⟨c, _, by rw [hccs, List.cons_append], hc⟩
  · obtain ⟨n, hn⟩ : ∃ n, ((decimalDigits D).length + K).toNat = n + 1 :=
      ⟨((decimalDigits D).length + K).toNat - 1, by omega⟩
    exact ⟨c, _, by rw [hn, hccs, List.take_succ_cons, List.cons_append], hc⟩
  · exact ⟨'0', _, rfl, rfl⟩

/-- Positional text is digits and at most a point. -/
theorem positionalText_chars (D : ℕ) (K : ℤ) :
    ∀ c ∈ FloatLayout.display.positionalText (decimalDigits D) K, c.isDigit = true ∨ c = '.' := by
  have hdig := decimalDigits_isDigit D
  intro c hc
  rw [display_positionalText] at hc
  split_ifs at hc
  · rcases List.mem_append.1 hc with h | h
    exacts [.inl (hdig c h), .inl (zeros_isDigit _ c h)]
  · rcases List.mem_append.1 hc with h | h
    · exact .inl (hdig c (List.mem_of_mem_take h))
    · rcases List.mem_cons.1 h with h | h
      exacts [.inr h, .inl (hdig c (List.mem_of_mem_drop h))]
  · rcases List.mem_cons.1 hc with h | h
    · exact .inl (by rw [h]; rfl)
    rcases List.mem_cons.1 h with h | h
    · exact .inr h
    rcases List.mem_append.1 h with h | h
    exacts [.inl (zeros_isDigit _ c h), .inl (hdig c h)]

/-- Positional text of a digit string reads back as a decimal of the same value. -/
theorem readUnsigned_positional (D : ℕ) (K : ℤ) (neg : Bool) :
    ∃ N K', readUnsigned neg (FloatLayout.display.positionalText (decimalDigits D) K) =
      some (.decimal neg N K') ∧ (N : ℚ) * 10 ^ K' = D * 10 ^ K := by
  have hdig := decimalDigits_isDigit D
  have hne := decimalDigits_ne_nil D
  rw [display_positionalText]
  split_ifs with hK hp
  · -- an integer: the digits, then `K` zeros
    have hall : ∀ d ∈ decimalDigits D ++ FloatLayout.zeros K.toNat, d.isDigit = true := by
      intro d hd
      rcases List.mem_append.1 hd with h | h
      exacts [hdig d h, zeros_isDigit _ d h]
    refine ⟨_, 0, readUnsigned_digits neg (by simp [hne]) hall, ?_⟩
    rw [digitsValue_eq, Nat.ofDigitChars_append, ← digitsValue_eq, digitsValue_decimalDigits,
      FloatLayout.zeros, Nat.ofDigitChars_replicate_zero]
    push_cast
    rw [mul_one, ← zpow_natCast, Int.toNat_of_nonneg hK]
    ring
  · -- a point among the digits
    refine ⟨_, _, readUnsigned_point neg ?_ (fun d hd => hdig d (List.mem_of_mem_take hd))
      (fun d hd => hdig d (List.mem_of_mem_drop hd)), ?_⟩
    · simp [hne]
      omega
    · rw [List.take_append_drop, digitsValue_decimalDigits, List.length_drop]
      congr 2
      omega
  · -- a point before the digits, then zeros
    have hz : ∀ d ∈ FloatLayout.zeros (-((decimalDigits D).length + K)).toNat ++ decimalDigits D,
        d.isDigit = true := by
      intro d hd
      rcases List.mem_append.1 hd with h | h
      exacts [zeros_isDigit _ d h, hdig d h]
    have := readUnsigned_point neg (a := ['0']) (by simp) (by simp) hz
    rw [List.singleton_append] at this
    refine ⟨_, _, this, ?_⟩
    have h0 : 10 * 0 + ('0'.toNat - '0'.toNat) = 0 := rfl
    rw [List.singleton_append, digitsValue_eq, Nat.ofDigitChars_cons, h0, Nat.ofDigitChars_append,
      FloatLayout.zeros, Nat.ofDigitChars_replicate_zero, Nat.mul_zero, ← digitsValue_eq,
      digitsValue_decimalDigits, List.length_append, List.length_replicate]
    congr 2
    omega

variable {f : BinaryFormat}

/-- A decimal that rounds to a positive finite float, read with the float's sign, gives the
float back: the cut-offs of `Reading.round` are beyond it. -/
theorem round_decimal (hf : f.ReadsBack) {x : BinaryFloat f} {m : ℕ} {e : ℤ}
    (hx : x.magnitude = .finite m e) (hm : 0 < m) {N : ℕ} {K : ℤ}
    (hq : BinaryFloat.RoundsTo f m e (N * 10 ^ K)) : (Reading.decimal x.sign N K).round = x := by
  have hpos := hq.pos hm
  have hN : 0 < N := by
    rcases Nat.eq_zero_or_pos N with h | h
    · rw [h, Nat.cast_zero, zero_mul] at hpos
      exact absurd hpos (lt_irrefl 0)
    · exact h
  obtain ⟨hc, hN1, hN2⟩ := digitCount_spec hN
  have hT : (0 : ℚ) < 10 ^ K := zpow_pos (by norm_num) K
  -- the decimal magnitude of the value is `top = digitCount N + K`
  have hlow : (10 : ℚ) ^ ((digitCount N : ℤ) + K - 1) ≤ N * 10 ^ K := by
    have : (10 : ℚ) ^ ((digitCount N : ℤ) - 1) ≤ N := by
      rw [show (digitCount N : ℤ) - 1 = ((digitCount N - 1 : ℕ) : ℤ) by omega, zpow_natCast]
      exact_mod_cast hN1
    rw [show (digitCount N : ℤ) + K - 1 = ((digitCount N : ℤ) - 1) + K by ring,
      zpow_add₀ (by norm_num)]
    exact mul_le_mul_of_nonneg_right this hT.le
  have hhigh : (N : ℚ) * 10 ^ K < 10 ^ ((digitCount N : ℤ) + K) := by
    rw [zpow_add₀ (by norm_num), zpow_natCast]
    exact mul_lt_mul_of_pos_right (by exact_mod_cast hN2) hT
  have htop := hq.lt_top hf.two_le_exponentBits hx hm
  have hbot := hq.bottom_le hx hm
  have hcut : (2 : ℚ) ^ ((f.bias : ℤ) + 1) ≤ 10 ^ (((f.bias + 1) * 31 / 100 + 2 : ℕ) : ℤ) := by
    rw [show (f.bias : ℤ) + 1 = ((f.bias + 1 : ℕ) : ℤ) by push_cast; rfl, zpow_natCast,
      zpow_natCast]
    exact_mod_cast hf.top_le_cutoff
  have hcut' : (10 : ℚ) ^ (-(((f.bias + f.fractionBits) * 31 / 100 + 2 : ℕ) : ℤ)) ≤
      2 ^ (f.minExp - 1) := by
    rw [show f.minExp - 1 = -(((f.bias + f.fractionBits : ℕ) : ℤ)) by
      unfold BinaryFormat.minExp; push_cast; ring, zpow_neg, zpow_neg, zpow_natCast, zpow_natCast]
    exact inv_anti₀ (by positivity) (by exact_mod_cast hf.bottom_le_cutoff)
  simp only [Reading.round]
  rw [if_neg hN.ne', if_neg, if_neg]
  · exact BinaryFloat.ofRatio_eq_of_roundsTo hx hm (scaleByTen_pos N K) (by rwa [scaleByTen_div])
  · -- not below the lower cut-off
    intro hlt
    have : (10 : ℚ) ^ ((digitCount N : ℤ) + K) ≤
        10 ^ (-(((f.bias + f.fractionBits) * 31 / 100 + 2 : ℕ) : ℤ)) :=
      zpow_le_zpow_right₀ (by norm_num) (by omega)
    linarith
  · -- not above the upper cut-off
    intro hgt
    have : (10 : ℚ) ^ (((f.bias + 1) * 31 / 100 + 2 : ℕ) : ℤ) ≤
        10 ^ ((digitCount N : ℤ) + K - 1) :=
      zpow_le_zpow_right₀ (by norm_num) (by omega)
    linarith

/-! ## Plain text reads back -/

section Display

variable {x : BinaryFloat f}

theorem display_render_infinite (hx : x.magnitude = .infinite) :
    FloatLayout.display.render x =
      String.ofList ((if x.sign then ['-'] else []) ++ "inf".toList) := by
  simp only [FloatLayout.render, hx]
  rfl

theorem display_render_zero {e : ℤ} (hx : x.magnitude = .finite 0 e) :
    FloatLayout.display.render x = String.ofList ((if x.sign then ['-'] else []) ++ ['0']) := by
  simp only [FloatLayout.render, hx]
  rfl

theorem display_render_finite {m : ℕ} {e : ℤ} (hx : x.magnitude = .finite m e) (hm : 0 < m) :
    FloatLayout.display.render x =
      String.ofList ((if x.sign then ['-'] else []) ++
        FloatLayout.display.positionalText
          (decimalDigits (BinaryFloat.shortestOf (f := f) m e).digits)
          (BinaryFloat.shortestOf (f := f) m e).exponent) := by
  obtain ⟨k, rfl⟩ : ∃ k, m = k + 1 := ⟨m - 1, by omega⟩
  simp only [FloatLayout.render, hx]
  rfl

end Display

/-- Plain float text is printable ASCII: a sign, then digits and a point, or a word. -/
theorem display_render_printable (x : BinaryFloat f) :
    ∀ c ∈ (FloatLayout.display.render x).toList, 0x20 < c.toNat ∧ c.toNat < 0x7F := by
  have hsign : ∀ c ∈ (if x.sign then ['-'] else []), 0x20 < c.toNat ∧ c.toNat < 0x7F := by
    cases x.sign <;> simp
  cases hmag : x.magnitude with
  | nan =>
    simp only [FloatLayout.render, hmag]
    simp [FloatLayout.display]
  | infinite =>
    rw [display_render_infinite hmag, String.toList_ofList]
    intro c hc
    rcases List.mem_append.1 hc with h | h
    exacts [hsign c h, (by simp : ∀ c ∈ "inf".toList, 0x20 < c.toNat ∧ c.toNat < 0x7F) c h]
  | finite m e =>
    rcases Nat.eq_zero_or_pos m with rfl | hm
    · rw [display_render_zero hmag, String.toList_ofList]
      intro c hc
      rcases List.mem_append.1 hc with h | h
      exacts [hsign c h, (by simp : ∀ c ∈ ['0'], 0x20 < c.toNat ∧ c.toNat < 0x7F) c h]
    · rw [display_render_finite hmag hm, String.toList_ofList]
      intro c hc
      rcases List.mem_append.1 hc with h | h
      · exact hsign c h
      rcases positionalText_chars _ _ c h with h | rfl
      · have := Char.isDigit_iff_toNat.1 h
        have h0 : ('0' : Char).toNat = 48 := rfl
        have h9 : ('9' : Char).toNat = 57 := rfl
        omega
      · decide

theorem parse?_render (hf : f.ReadsBack) {x : BinaryFloat f} (hnan : x.isNaN = false) :
    parse? (FloatLayout.display.render x) = some x := by
  unfold parse?
  cases hmag : x.magnitude with
  | nan => simp [BinaryFloat.isNaN, hmag] at hnan
  | infinite =>
    rw [display_render_infinite hmag, String.toList_ofList]
    have hread : read ((if x.sign then ['-'] else []) ++ "inf".toList) = some (.infinity x.sign) := by
      cases x.sign <;> decide
    rw [hread, Option.map_some, Reading.round, BinaryFloat.eq_infinity hmag]
  | finite m e =>
    rcases Nat.eq_zero_or_pos m with rfl | hm
    · rw [display_render_zero hmag, String.toList_ofList]
      have hread : read ((if x.sign then ['-'] else []) ++ ['0']) = some (.decimal x.sign 0 0) := by
        cases x.sign <;> decide
      rw [hread, Option.map_some]
      simp only [Reading.round, if_pos]
      rw [BinaryFloat.eq_zero_withSign hmag]
    · rw [display_render_finite hmag hm, String.toList_ofList]
      obtain ⟨c, cs, htext, hc⟩ := positionalText_head (BinaryFloat.shortestOf (f := f) m e).digits
        (BinaryFloat.shortestOf (f := f) m e).exponent
      obtain ⟨N, K, hread, hval⟩ := readUnsigned_positional
        (BinaryFloat.shortestOf (f := f) m e).digits (BinaryFloat.shortestOf (f := f) m e).exponent x.sign
      rw [htext, read_of_isDigit hc, ← htext, hread, Option.map_some]
      have hq := BinaryFloat.shortestOf_roundsTo (e := e) hf.hidden_le_digits hm
        (BinaryFloat.magnitude_finite_range hmag).2.1
      rw [← hval] at hq
      rw [round_decimal hf hmag hm hq]

end FloatText

end Strainer
