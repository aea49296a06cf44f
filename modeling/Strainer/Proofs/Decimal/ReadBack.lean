import Strainer.Proofs.Float.ReadBack
import Strainer.Decimal.Text

/-!
# Decimal text reads back

`Decimal.parse?` reads the text `Decimal.render` writes as a decimal of the same value
(`parse?_render`, `compareTo_textForm`), for every scale of 64 bits. The scale comes back as it
was, except for zero and for an integer with at most twenty trailing zeros, which are written
out without an exponent and so come back with scale zero (`textForm`).

The text has five shapes, and each is read by one of two lemmas: `parse?_integer` for digits
with an optional sign and exponent, `parse?_point` for digits around a point. Both are stated for
the text after the digits: nothing, or an exponent mark and an exponent that `readExponent`
reads.
-/

namespace Strainer

namespace Decimal

open Exact

theorem findIdx?_append_cons {p : Char → Bool} {a b : List Char} {c : Char}
    (ha : ∀ x ∈ a, p x = false) (hc : p c = true) : (a ++ c :: b).findIdx? p = some a.length := by
  rw [List.findIdx?_append, List.findIdx?_eq_none_iff.2 ha, List.findIdx?_cons, if_pos hc]
  simp

theorem readMagnitude_digits {ds : List Char} (hne : ds ≠ []) (hd : ∀ c ∈ ds, c.isDigit = true) :
    readMagnitude ds = some (Nat.ofDigitChars 10 ds 0) := by
  -- digits only: each step multiplies by ten and adds the digit, as `ofDigitChars` does
  have hfold : ∀ (l : List Char) (n : ℕ), (∀ c ∈ l, c.isDigit = true) →
      l.foldl (fun acc c => acc.bind fun n =>
        if c = '_' then some n
        else if c.isDigit then some (10 * n + (c.toNat - '0'.toNat))
        else none) (some n) = some (Nat.ofDigitChars 10 l n) := by
    intro l
    induction l with
    | nil => intro n _; rfl
    | cons c l ih =>
      intro n hl
      have hc := hl c List.mem_cons_self
      have hc' : c ≠ '_' := by rintro rfl; cases hc
      rw [List.foldl_cons, Option.bind_some, if_neg hc', if_pos hc, Nat.ofDigitChars_cons]
      exact ih _ fun x hx => hl x (List.mem_cons_of_mem c hx)
  unfold readMagnitude
  split
  · exact absurd rfl hne
  · cases hd '_' List.mem_cons_self
  · exact hfold ds 0 hd

theorem readInteger_signed (neg : Prop) [Decidable neg] {ds : List Char} (hne : ds ≠ [])
    (hd : ∀ c ∈ ds, c.isDigit = true) :
    readInteger ((if neg then ['-'] else []) ++ ds) =
      some (if neg then -(Nat.ofDigitChars 10 ds 0 : ℤ) else Nat.ofDigitChars 10 ds 0) := by
  obtain ⟨c, cs, rfl⟩ := List.exists_cons_of_ne_nil hne
  have hc := hd c List.mem_cons_self
  have hplus : c ≠ '+' := by rintro rfl; cases hc
  have hminus : c ≠ '-' := by rintro rfl; cases hc
  unfold readInteger
  by_cases hn : neg <;> simp [hn, hplus, hminus, readMagnitude_digits hne hd]

theorem readExponent_signed (neg : Prop) [Decidable neg] {ds : List Char} (hne : ds ≠ [])
    (hd : ∀ c ∈ ds, c.isDigit = true)
    (hv : -2 ^ 127 ≤ (if neg then -(Nat.ofDigitChars 10 ds 0 : ℤ) else Nat.ofDigitChars 10 ds 0) ∧
      (if neg then -(Nat.ofDigitChars 10 ds 0 : ℤ) else Nat.ofDigitChars 10 ds 0) < 2 ^ 127) :
    readExponent ((if neg then ['-'] else []) ++ ds) =
      some (if neg then -(Nat.ofDigitChars 10 ds 0 : ℤ) else Nat.ofDigitChars 10 ds 0) := by
  obtain ⟨c, cs, rfl⟩ := List.exists_cons_of_ne_nil hne
  have hc := hd c List.mem_cons_self
  have hplus : c ≠ '+' := by rintro rfl; cases hc
  have hminus : c ≠ '-' := by rintro rfl; cases hc
  have hall : (c :: cs).all Char.isDigit = true := List.all_eq_true.2 hd
  unfold readExponent
  simp only [← Nat.ofDigitChars_eq_foldl]
  by_cases hn : neg <;> simp [hn, hplus, hminus, hall] at hv ⊢ <;> omega

theorem signed_chars (neg : Prop) [Decidable neg] {ds : List Char} (hd : ∀ c ∈ ds, c.isDigit = true) :
    ∀ c ∈ (if neg then ['-'] else []) ++ ds, c.isDigit = true ∨ c = '-' := by
  intro c hc
  rcases List.mem_append.1 hc with h | h
  · split_ifs at h
    · exact .inr (List.mem_singleton.1 h)
    · cases h
  · exact .inl (hd c h)

theorem parse?_integer (neg : Prop) [Decidable neg] {a t : List Char} {x : ℤ} (hne : a ≠ [])
    (hd : ∀ c ∈ a, c.isDigit = true)
    (htail : (t = [] ∧ x = 0) ∨
      ∃ m ex, t = m :: ex ∧ (m = 'e' ∨ m = 'E') ∧ readExponent ex = some x)
    (hx : -2 ^ 63 ≤ -x ∧ -x < 2 ^ 63) :
    parse? (String.ofList ((if neg then ['-'] else []) ++ a ++ t)) =
      some ⟨if neg then -(Nat.ofDigitChars 10 a 0 : ℤ) else Nat.ofDigitChars 10 a 0, -x⟩ := by
  have hchars := signed_chars neg hd
  have hnoexp : ∀ c ∈ (if neg then ['-'] else []) ++ a, decide (c = 'e' ∨ c = 'E') = false := by
    intro c hc
    rcases hchars c hc with h | rfl
    · simp only [decide_eq_false_iff_not]
      rintro (rfl | rfl) <;> cases h
    · decide
  have hnopoint : ∀ c ∈ (if neg then ['-'] else []) ++ a, decide (c = '.') = false := by
    intro c hc
    rcases hchars c hc with h | rfl
    · simp only [decide_eq_false_iff_not]
      rintro rfl
      cases h
    · decide
  have hread := readInteger_signed neg hne hd
  have hbase : (if neg then ['-'] else []) ++ a ≠ [] := by simp [hne]
  generalize (if neg then ['-'] else []) ++ a = base at *
  unfold parse?
  rw [String.toList_ofList]
  dsimp only
  rcases htail with ⟨rfl, rfl⟩ | ⟨m, ex, rfl, hm, hex⟩
  · rw [List.append_nil, List.findIdx?_eq_none_iff.2 hnoexp]
    simp [List.findIdx?_eq_none_iff.2 hnopoint, hread, hbase]
  · have htake : (base ++ m :: ex).take base.length = base := List.take_left' rfl
    have hdrop : (base ++ m :: ex).drop (base.length + 1) = ex := by simp
    rw [findIdx?_append_cons hnoexp (by simpa using hm)]
    dsimp only
    rw [htake, hdrop, hex]
    simp [List.findIdx?_eq_none_iff.2 hnopoint, hread, hbase]
    norm_num at hx
    omega

theorem parse?_point (neg : Prop) [Decidable neg] {a b t : List Char} {x : ℤ} (ha : a ≠ []) (hb : b ≠ [])
    (hda : ∀ c ∈ a, c.isDigit = true) (hdb : ∀ c ∈ b, c.isDigit = true)
    (htail : (t = [] ∧ x = 0) ∨
      ∃ m ex, t = m :: ex ∧ (m = 'e' ∨ m = 'E') ∧ readExponent ex = some x)
    (hx : -2 ^ 63 ≤ (b.length : ℤ) - x ∧ (b.length : ℤ) - x < 2 ^ 63) :
    parse? (String.ofList ((if neg then ['-'] else []) ++ a ++ '.' :: b ++ t)) =
      some ⟨if neg then -(Nat.ofDigitChars 10 (a ++ b) 0 : ℤ) else Nat.ofDigitChars 10 (a ++ b) 0,
        b.length - x⟩ := by
  have hdab : ∀ c ∈ a ++ b, c.isDigit = true := by
    intro c hc
    rcases List.mem_append.1 hc with h | h
    exacts [hda c h, hdb c h]
  have hread := readInteger_signed neg (by simp [ha]) hdab
  rw [← List.append_assoc] at hread
  have hchars := signed_chars neg hda
  have hbchars : ∀ c ∈ b, decide (c = 'e' ∨ c = 'E') = false := by
    intro c hc
    simp only [decide_eq_false_iff_not]
    rintro (rfl | rfl) <;> cases hdb _ hc
  have hpre : ∀ c ∈ (if neg then ['-'] else []) ++ a, decide (c = 'e' ∨ c = 'E') = false := by
    intro c hc
    rcases hchars c hc with h | rfl
    · simp only [decide_eq_false_iff_not]
      rintro (rfl | rfl) <;> cases h
    · decide
  have hprept : ∀ c ∈ (if neg then ['-'] else []) ++ a, decide (c = '.') = false := by
    intro c hc
    rcases hchars c hc with h | rfl
    · simp only [decide_eq_false_iff_not]
      rintro rfl
      cases h
    · decide
  have hnoexp : ∀ c ∈ (if neg then ['-'] else []) ++ a ++ '.' :: b,
      decide (c = 'e' ∨ c = 'E') = false := by
    intro c hc
    rcases List.mem_append.1 hc with h | h
    · exact hpre c h
    rcases List.mem_cons.1 h with rfl | h
    · decide
    · exact hbchars c h
  have hplaces : (b.filter fun c => !decide (c = '_')).length = b.length := by
    rw [List.filter_eq_self.2]
    intro c hc
    simp only [Bool.not_eq_eq_eq_not, Bool.not_true, decide_eq_false_iff_not]
    rintro rfl
    cases hdb _ hc
  generalize (if neg then ['-'] else []) ++ a = pre at *
  have hpoint : (pre ++ '.' :: b).findIdx? (fun c => decide (c = '.')) = some pre.length :=
    findIdx?_append_cons hprept (by decide)
  have hlen : pre.length + 1 ≠ (pre ++ '.' :: b).length := by
    simp only [List.length_append, List.length_cons]
    have := List.length_pos_iff.2 hb
    omega
  have htake : (pre ++ '.' :: b).take pre.length = pre := List.take_left' rfl
  have hdrop : (pre ++ '.' :: b).drop (pre.length + 1) = b := by simp
  have hne : pre ++ '.' :: b ≠ [] := by simp
  generalize pre ++ '.' :: b = base at *
  unfold parse?
  rw [String.toList_ofList]
  dsimp only
  rcases htail with ⟨rfl, rfl⟩ | ⟨m, ex, rfl, hm, hex⟩
  · rw [List.append_nil, List.findIdx?_eq_none_iff.2 hnoexp]
    simp [hpoint, hlen, htake, hdrop, hplaces, hread, hne]
    norm_num at hx
    omega
  · have htake' : (base ++ m :: ex).take base.length = base := List.take_left' rfl
    have hdrop' : (base ++ m :: ex).drop (base.length + 1) = ex := by simp
    rw [findIdx?_append_cons hnoexp (by simpa using hm)]
    dsimp only
    rw [htake', hdrop', hex]
    simp [hpoint, hlen, htake, hdrop, hplaces, hread, hne]
    norm_num at hx
    omega

theorem readExponent_plus {ds : List Char} (hne : ds ≠ []) (hd : ∀ c ∈ ds, c.isDigit = true)
    (hv : Nat.ofDigitChars 10 ds 0 < 2 ^ 127) :
    readExponent ('+' :: ds) = some ((Nat.ofDigitChars 10 ds 0 : ℕ) : ℤ) := by
  have hall : ds.all Char.isDigit = true := List.all_eq_true.2 hd
  unfold readExponent
  simp only [← Nat.ofDigitChars_eq_foldl]
  simp [hall, List.isEmpty_iff.not.2 hne]
  omega

theorem readExponent_intText {x : ℤ} (hx : -2 ^ 127 ≤ x ∧ x < 2 ^ 127) :
    readExponent (intText x).toList = some x := by
  have hval := ofDigitChars_decimalDigits x.natAbs
  rw [intText_toList, readExponent_signed _ (decimalDigits_ne_nil _) (decimalDigits_isDigit _)]
  · rw [hval]
    split_ifs <;> congr 1 <;> omega
  · rw [hval]
    split_ifs <;> omega

theorem readExponent_plus_intText {x : ℤ} (h0 : 0 ≤ x) (hx : x < 2 ^ 127) :
    readExponent ('+' :: (intText x).toList) = some x := by
  have hval := ofDigitChars_decimalDigits x.natAbs
  rw [intText_toList, if_neg (by omega), List.nil_append,
    readExponent_plus (decimalDigits_ne_nil _) (decimalDigits_isDigit _) (by rw [hval]; omega), hval]
  congr 1
  omega

/-- The decimal that the text of `d` denotes: `d` itself, except that zero is written `0` and an
integer with at most twenty trailing zeros is written out in full, both read back with scale
zero. -/
def textForm (d : Decimal) : Decimal :=
  if d.unscaled = 0 then zero
  else if d.scale ≤ 0 ∧ -d.scale ≤ 20 then ⟨d.unscaled * 10 ^ (-d.scale).toNat, 0⟩
  else d

theorem parse?_render {d : Decimal} (hs : -2 ^ 63 ≤ d.scale ∧ d.scale < 2 ^ 63) :
    parse? (render d) = some d.textForm := by
  obtain ⟨u, σ⟩ := d
  simp only at hs
  have hdig := decimalDigits_isDigit u.natAbs
  have hne := decimalDigits_ne_nil u.natAbs
  have hval := ofDigitChars_decimalDigits u.natAbs
  unfold render textForm
  dsimp only
  have hsign : (if u < 0 then -(u.natAbs : ℤ) else u.natAbs) = u := by
    split_ifs <;> omega
  generalize decimalDigits u.natAbs = ds at *
  have hlen := List.length_pos_iff.2 hne
  have hzero : '0'.isDigit = true := rfl
  by_cases hu : u = 0
  · -- zero is written `0`
    rw [if_pos hu, if_pos hu]
    subst hu
    have key := parse?_integer (0 < (0 : ℤ)) (a := ['0']) (t := []) (by simp) (by simp)
      (.inl ⟨rfl, rfl⟩) (by norm_num)
    rw [List.append_nil] at key
    rw [key]
    rfl
  rw [if_neg hu, if_neg hu]
  have hE : DecimalLayout.standard.scientificMark.toList = ['E'] := rfl
  have he : DecimalLayout.standard.integerMark.toList = ['e', '+'] := rfl
  have h5 : DecimalLayout.standard.leadingZeroLimit = 5 := rfl
  have h20 : DecimalLayout.standard.trailingZeroLimit = 20 := rfl
  by_cases hsci : σ > (ds.length : ℤ) + (DecimalLayout.standard.leadingZeroLimit : ℤ)
  · -- scientific form: the first digit, the rest after a point, `E` and the exponent
    rw [if_pos hsci]
    rw [h5] at hsci
    rw [if_neg (show ¬(σ ≤ 0 ∧ -σ ≤ 20) by omega)]
    have hexp := readExponent_intText (x := (ds.length : ℤ) - 1 - σ) (by norm_num at hs ⊢; omega)
    rcases ds with _ | ⟨c, _ | ⟨c', r⟩⟩
    · exact absurd rfl hne
    · have key := parse?_integer (u < 0) (a := [c]) (t := 'E' :: (intText _).toList) (by simp)
        hdig (.inr ⟨_, _, rfl, .inr rfl, hexp⟩) (by norm_num at hs ⊢; omega)
      dsimp only
      simp only [hE, List.append_assoc, List.cons_append, List.nil_append] at key ⊢
      rw [key, hval, hsign]
      congr 2
      simp only [List.length_singleton]
      omega
    · have key := parse?_point (u < 0) (a := [c]) (b := c' :: r) (t := 'E' :: (intText _).toList)
        (by simp) (by simp) (fun x hx => hdig x (by simp_all)) (fun x hx => hdig x (by simp_all))
        (.inr ⟨_, _, rfl, .inr rfl, hexp⟩) (by simp only [List.length_cons] at hs ⊢; omega)
      dsimp only
      simp only [hE, List.append_assoc, List.cons_append, List.nil_append] at key ⊢
      rw [key, hval, hsign]
      congr 2
      simp only [List.length_cons]
      omega
  rw [if_neg hsci]
  by_cases hnonpos : σ ≤ 0
  · rw [if_pos hnonpos]
    by_cases hmany : (-σ).toNat > DecimalLayout.standard.trailingZeroLimit
    · -- many trailing zeros: the digits, `e+` and their number
      rw [if_pos hmany]
      rw [h20] at hmany
      rw [if_neg (show ¬(σ ≤ 0 ∧ -σ ≤ 20) by omega)]
      have hexp := readExponent_plus_intText (x := ((-σ).toNat : ℤ)) (by omega)
        (by norm_num at hs ⊢; omega)
      have key := parse?_integer (u < 0) (a := ds) (t := 'e' :: '+' :: (intText _).toList) hne
        hdig (.inr ⟨_, _, rfl, .inl rfl, hexp⟩) (by norm_num at hs ⊢; omega)
      simp only [he, List.append_assoc, List.cons_append, List.nil_append] at key ⊢
      rw [key, hval, hsign]
      congr 2
      omega
    · -- few trailing zeros: written out, read back with scale zero
      rw [if_neg hmany]
      rw [h20] at hmany
      rw [if_pos (show σ ≤ 0 ∧ -σ ≤ 20 from ⟨hnonpos, by omega⟩)]
      have hdz : ∀ c ∈ ds ++ List.replicate (-σ).toNat '0', c.isDigit = true := by
        intro c hc
        rcases List.mem_append.1 hc with h | h
        · exact hdig c h
        · rw [(List.mem_replicate.1 h).2]
          rfl
      have key := parse?_integer (u < 0) (a := ds ++ List.replicate (-σ).toNat '0') (t := [])
        (by simp [hne]) hdz (.inl ⟨rfl, rfl⟩) (by norm_num)
      rw [List.append_nil] at key
      rw [key, Nat.ofDigitChars_append, Nat.ofDigitChars_replicate_zero, hval]
      congr 2
      rcases lt_or_ge u 0 with h | h
      · rw [if_pos h]
        push_cast
        rw [abs_of_neg h]
        ring
      · rw [if_neg (not_lt.2 h)]
        push_cast
        rw [abs_of_nonneg h]
        ring
  · -- places after a point
    rw [if_neg hnonpos, if_neg (show ¬(σ ≤ 0 ∧ -σ ≤ 20) by omega)]
    by_cases hinside : σ.toNat < ds.length
    · rw [if_pos hinside]
      have key := parse?_point (u < 0) (a := ds.take (ds.length - σ.toNat))
        (b := ds.drop (ds.length - σ.toNat)) (t := []) (by simp [hne]; omega) (by simp; omega)
        (fun x hx => hdig x (List.mem_of_mem_take hx)) (fun x hx => hdig x (List.mem_of_mem_drop hx))
        (.inl ⟨rfl, rfl⟩) (by simp only [List.length_drop]; norm_num at hs ⊢; omega)
      simp only [List.append_nil, List.append_assoc] at key ⊢
      rw [key, List.take_append_drop, hval, hsign]
      congr 2
      simp only [List.length_drop]
      omega
    · rw [if_neg hinside]
      have hdz : ∀ c ∈ List.replicate (σ.toNat - ds.length) '0' ++ ds, c.isDigit = true := by
        intro c hc
        rcases List.mem_append.1 hc with h | h
        · rw [(List.mem_replicate.1 h).2]
          rfl
        · exact hdig c h
      have key := parse?_point (u < 0) (a := ['0']) (b := List.replicate (σ.toNat - ds.length) '0' ++ ds)
        (t := []) (by simp) (by simp [hne]) (by simp) hdz
        (.inl ⟨rfl, rfl⟩) (by simp only [List.length_append, List.length_replicate]; norm_num at hs ⊢; omega)
      simp only [List.append_nil, List.append_assoc, List.cons_append, List.nil_append] at key ⊢
      have h0 : 10 * 0 + ('0'.toNat - '0'.toNat) = 0 := rfl
      rw [key, Nat.ofDigitChars_cons, Nat.ofDigitChars_append, Nat.ofDigitChars_replicate_zero, h0,
        Nat.mul_zero, hval, hsign]
      congr 2
      simp only [List.length_append, List.length_replicate]
      omega

theorem ratio_eq (d : Decimal) :
    d.ratio = (decide (d.unscaled < 0), (scaleByTen d.unscaled.natAbs (-d.scale)).1,
      (scaleByTen d.unscaled.natAbs (-d.scale)).2) := rfl

/-- Two decimals of the same sign whose quotients cross-multiply equal compare equal. -/
theorem compareTo_eq_of_ratio {a b : Decimal} {s s' : Bool} {na da nb db : ℕ}
    (ha : a.ratio = (s, na, da)) (hb : b.ratio = (s', nb, db))
    (hsign : (s && decide (na ≠ 0)) = (s' && decide (nb ≠ 0))) (hcross : na * db = nb * da) :
    a.compareTo b = .eq := by
  unfold compareTo
  rw [ha, hb]
  dsimp only
  rw [hsign]
  simp only [compareQuot, hcross, Bool.and_not_self, Bool.false_eq_true, if_false,
    Bool.not_and_self]
  split <;> simp

theorem scaleByTen_zero (x : ℤ) : (scaleByTen 0 x).1 = 0 := by
  unfold scaleByTen
  split <;> simp

theorem scaleByTen_of_nonneg (a : ℕ) {x : ℤ} (hx : 0 ≤ x) : scaleByTen a x = (a * 10 ^ x.toNat, 1) := by
  unfold scaleByTen
  rw [if_pos hx]
  rfl

/-- The decimal read back from the text of `d` equals `d` in value. -/
theorem compareTo_textForm (d : Decimal) : d.textForm.compareTo d = .eq := by
  unfold textForm
  split_ifs with h0 hint
  · -- zero, whatever its scale
    refine compareTo_eq_of_ratio (ratio_eq _) (ratio_eq _) ?_ ?_
    · simp [h0, zero, ofInt]
    · simp [h0, scaleByTen_zero, zero, ofInt]
  · -- an integer written out in full
    have hpos : (0 : ℤ) < 10 ^ (-d.scale).toNat := by positivity
    refine compareTo_eq_of_ratio (ratio_eq _) (ratio_eq _) ?_ ?_ <;>
      simp only [scaleByTen_of_nonneg _ (le_refl _), neg_zero, scaleByTen_of_nonneg _ (neg_nonneg.2 hint.1)]
    · simp [mul_neg_iff, hpos, not_lt.2 hpos.le, h0, Int.natAbs_mul]
    · simp [Int.natAbs_mul, Int.natAbs_pow]
  · refine compareTo_eq_of_ratio (ratio_eq _) (ratio_eq _) rfl rfl

end Decimal

end Strainer
