import Strainer.Proofs.Decimal.ReadBack
import Strainer.Proofs.Value.Conversion
import Strainer.Proofs.Guid

/-!
# Text reads back

Every value that has text, converted to a string and the string converted back to the value's
kind, gives the value again (`Value.convert_string_roundTrip`). Each kind is its own pair of
writer and reader: integers are written as plain integer text and read within the kind's range;
floats by their shortest text (`FloatText.parse?_render`); decimals by the three forms of
`Decimal.render` (`Decimal.parse?_render`), read back with the same value but not always the same
scale; date-times, identifiers, characters and character lists by their own texts. Everything but
a character is trimmed before it is read, so each writer is shown to write no blank at either end.
-/

namespace Strainer

open Exact

/-! ## Integer text -/

theorem intText_chars (x : ℤ) : ∀ c ∈ (intText x).toList, c.isDigit = true ∨ c = '-' := by
  intro c hc
  rw [intText_toList] at hc
  rcases List.mem_append.1 hc with h | h
  · split_ifs at h
    · exact .inr (List.mem_singleton.1 h)
    · cases h
  · exact .inl (decimalDigits_isDigit _ c h)

namespace IntReading

theorem foldl_digits {ds : List Char} (hd : ∀ c ∈ ds, c.isDigit = true) (n : ℕ) :
    ds.foldl (fun (acc : ℤ) c => 10 * acc + ((c.toNat : ℤ) - ('0'.toNat : ℤ))) n =
      (Nat.ofDigitChars 10 ds n : ℤ) := by
  induction ds generalizing n with
  | nil => rfl
  | cons c ds ih =>
    have hc : '0'.toNat ≤ c.toNat := (Char.isDigit_iff_toNat.1 (hd c List.mem_cons_self)).1
    have hstep : 10 * (n : ℤ) + ((c.toNat : ℤ) - ('0'.toNat : ℤ)) =
        ((10 * n + (c.toNat - '0'.toNat) : ℕ) : ℤ) := by omega
    rw [List.foldl_cons, Nat.ofDigitChars_cons, hstep]
    exact ih (fun x hx => hd x (List.mem_cons_of_mem c hx)) _

/-- Integer text of a value in the range reads back as it. -/
theorem read_intText {signed : Bool} {lo hi i : ℤ} (hlo : lo ≤ i) (hhi : i ≤ hi)
    (hsigned : i < 0 → signed = true) : read signed lo hi (intText i).toList = .ok i := by
  have hdig := decimalDigits_isDigit i.natAbs
  have hval := ofDigitChars_decimalDigits i.natAbs
  have hfold : (decimalDigits i.natAbs).foldl
      (fun (acc : ℤ) c => 10 * acc + ((c.toNat : ℤ) - ('0'.toNat : ℤ))) 0 = i.natAbs := by
    have h := foldl_digits hdig 0
    rw [hval] at h
    exact_mod_cast h
  have htake : (decimalDigits i.natAbs).takeWhile Char.isDigit = decimalDigits i.natAbs :=
    List.takeWhile_eq_self_iff.2 hdig
  have hdrop : (decimalDigits i.natAbs).dropWhile Char.isDigit = [] :=
    List.dropWhile_eq_nil_iff.2 hdig
  obtain ⟨c, cs, hccs⟩ := List.exists_cons_of_ne_nil (decimalDigits_ne_nil i.natAbs)
  have hc := hdig c (hccs ▸ List.mem_cons_self)
  have hplus : c ≠ '+' := by rintro rfl; cases hc
  have hminus : c ≠ '-' := by rintro rfl; cases hc
  rw [intText_toList]
  unfold read
  -- the step is kept opaque: `simp` would evaluate `'0'.toNat` inside it and miss `hfold`
  generalize (fun (acc : ℤ) (c : Char) => 10 * acc + ((c.toNat : ℤ) - ('0'.toNat : ℤ))) = F
    at hfold ⊢
  rw [hccs] at htake hdrop hfold
  by_cases hneg : i < 0
  · rw [if_pos hneg, List.singleton_append, hccs]
    simp [hsigned hneg, htake, hdrop, hfold, abs_of_neg hneg]
    exact ⟨hlo, hhi⟩
  · have habs : (i.natAbs : ℤ) = i := by omega
    rw [if_neg hneg, List.nil_append, hccs]
    simp [hplus, hminus, htake, hdrop, hfold, habs]
    exact ⟨hlo, hhi⟩

end IntReading

theorem trimString_intText (i : ℤ) : Text.trimString (intText i) = intText i := by
  refine Text.trimString_of_nonblank fun c hc => ?_
  rcases intText_chars i c hc with h | rfl
  exacts [Text.isBlank_of_isDigit h, rfl]

theorem Value.parseAs_intText {t : Kind} (ht : t.isInteger = true) {i : ℤ} (h : t.Holds i) :
    ∃ w, Value.parseAs (intText i) t = .ok w ∧ w.kind = some t ∧ w.integral? = some i := by
  obtain ⟨w, hn, hk, hi⟩ := Number.narrow_of_holds h
  refine ⟨w, ?_, hk, hi⟩
  cases t <;> simp only [Kind.isInteger, Bool.false_eq_true] at ht <;> simp only [Kind.Holds] at h
  -- unfolded and reduced to the integer branch first: a `simp` given `parseAs` whole is slow
  all_goals
    unfold Value.parseAs
    dsimp only
    rw [trimString_intText]
    simp only [Number.range]
    rw [IntReading.read_intText (by omega) (by omega) (by intro; simp only [decide_eq_true_eq]; omega)]
    simp only [hn]

/-! ## Decimal, float and date-time text have no blank at either end -/

namespace Decimal

theorem render_chars (d : Decimal) :
    ∀ c ∈ (render d).toList, c.isDigit = true ∨ c ∈ ['-', '.', 'E', 'e', '+'] := by
  have hdig := decimalDigits_isDigit d.unscaled.natAbs
  intro c hc
  unfold render at hc
  simp only [String.toList_ofList, List.mem_append] at hc
  generalize decimalDigits d.unscaled.natAbs = ds at *
  -- the characters of each piece: digits, the marks, and integer text
  have hds : ∀ c ∈ ds, c.isDigit = true ∨ c ∈ ['-', '.', 'E', 'e', '+'] :=
    fun c h => .inl (hdig c h)
  have hint : ∀ x, ∀ c ∈ (intText x).toList,
      c.isDigit = true ∨ c ∈ ['-', '.', 'E', 'e', '+'] := by
    intro x c h
    rcases intText_chars x c h with h | rfl
    exacts [.inl h, .inr (by simp)]
  have hzeros : ∀ n, ∀ c ∈ List.replicate n '0',
      c.isDigit = true ∨ c ∈ ['-', '.', 'E', 'e', '+'] := by
    intro n c h
    rw [List.eq_of_mem_replicate h]
    exact .inl rfl
  rcases hc with h | h
  · split_ifs at h <;> simp_all
  split_ifs at h
  · simp_all
  all_goals simp only [List.mem_append] at h
  · -- scientific form
    have hE : DecimalLayout.standard.scientificMark.toList = ['E'] := rfl
    rw [hE] at h
    rcases h with (h | h) | h
    · split at h
      · rcases List.mem_cons.1 h with rfl | h
        · exact hds _ List.mem_cons_self
        rcases List.mem_cons.1 h with rfl | h
        · simp
        · exact hds c (List.mem_cons_of_mem _ h)
      · exact hds c h
    · simp_all
    · exact hint _ c h
  · -- digits, `e+` and the number of places
    have he : DecimalLayout.standard.integerMark.toList = ['e', '+'] := rfl
    rw [he] at h
    rcases h with (h | h) | h
    exacts [hds c h, .inr (by simp_all), hint _ c h]
  · -- digits and trailing zeros
    rcases h with h | h
    exacts [hds c h, hzeros _ c h]
  · -- a point inside the digits
    rcases h with h | h
    · exact hds c (List.mem_of_mem_take h)
    rcases List.mem_cons.1 h with rfl | h
    exacts [.inr (by simp), hds c (List.mem_of_mem_drop h)]
  · -- `0.`, leading zeros, the digits
    rcases h with h | h
    · rcases List.mem_cons.1 h with rfl | h
      · exact .inl rfl
      rcases List.mem_cons.1 h with rfl | h
      exacts [.inr (by simp), hzeros _ c h]
    · exact hds c h

theorem trimString_render (d : Decimal) : Text.trimString (render d) = render d := by
  refine Text.trimString_of_nonblank fun c hc => ?_
  rcases render_chars d c hc with h | h
  · exact Text.isBlank_of_isDigit h
  · simp only [List.mem_cons, List.not_mem_nil, or_false] at h
    rcases h with rfl | rfl | rfl | rfl | rfl <;> rfl

end Decimal

theorem DateTime.trimString_render (t : DateTime) : Text.trimString t.render = t.render := by
  rw [Text.trimString, DateTime.render, String.toList_ofList, DateTime.trim_renderText]

theorem FloatText.trimString_render {f : BinaryFormat} (x : BinaryFloat f) :
    Text.trimString (FloatLayout.display.render x) = FloatLayout.display.render x :=
  Text.trimString_of_nonblank fun c hc =>
    Text.isBlank_of_printable (FloatText.display_render_printable x c hc).1
      (FloatText.display_render_printable x c hc).2

/-! ## Each kind reads its own text -/

namespace Value

theorem parseAs_bool_render (b : Bool) : parseAs (if b then "true" else "false") .bool = .ok (.bool b) := by
  cases b <;> rfl

theorem parseAs_float32_render {x : Float32Bits} (hx : x.isNaN = false) :
    parseAs (FloatLayout.display.render x) .float32 = .ok (.float32 x) := by
  unfold parseAs
  dsimp only
  rw [FloatText.trimString_render, FloatText.parse?_render BinaryFormat.single_readsBack hx]

theorem parseAs_float64_render {x : Float64Bits} (hx : x.isNaN = false) :
    parseAs (FloatLayout.display.render x) .float64 = .ok (.float64 x) := by
  unfold parseAs
  dsimp only
  rw [FloatText.trimString_render, FloatText.parse?_render BinaryFormat.double_readsBack hx]

theorem parseAs_decimal_render {d : Decimal} (hs : -2 ^ 63 ≤ d.scale ∧ d.scale < 2 ^ 63) :
    parseAs (Decimal.render d) .decimal = .ok (.decimal d.textForm) := by
  unfold parseAs
  dsimp only
  rw [Decimal.trimString_render, Decimal.parse?_render hs]

theorem parseAs_dateTime_render {t : DateTime} (hv : t.isValid) (hn : t.nanosecond = 0) :
    parseAs t.render .dateTime = .ok (.dateTime t) := by
  unfold parseAs
  dsimp only
  rw [DateTime.trimString_render, DateTime.read_render hv hn]

theorem parseAs_guid_render (g : Guid) : parseAs g.render .guid = .ok (.guid g) := by
  unfold parseAs
  dsimp only
  rw [Guid.trimString_render, Guid.parse?_render]

theorem parseAs_char_render (c : Char) : parseAs (String.singleton c) .char = .ok (.char c) := by
  unfold parseAs
  dsimp only
  rw [String.toList_singleton]

theorem parseAs_chars_render (cs : List Char) : parseAs (String.ofList cs) .chars = .ok (.chars cs) := by
  unfold parseAs
  dsimp only
  rw [String.toList_ofList]

/-- A value of an integer kind is written as its integer, which reads back as the value. -/
theorem parseAs_integer_render {v : Value} {t : Kind} (hk : v.kind = some t) (ht : t.isInteger = true) :
    ∃ s, v.render? = some s ∧ parseAs s t = .ok v := by
  have hint : t.isIntegral = true := by simp [Kind.isIntegral, ht]
  obtain ⟨i, hi, hh⟩ := holds_of_kind hk hint
  obtain ⟨w, hw, hwk, hwi⟩ := parseAs_intText ht hh
  have hs : v.render? = some (intText i) := by
    cases v <;> cases hk <;> simp only [Kind.isInteger, Bool.false_eq_true] at ht <;>
      simp only [integral?, Option.some.injEq] at hi <;> rw [← hi] <;> rfl
  exact ⟨_, hs, by rw [hw, eq_of_integral?_eq hwk hk (hwi.trans hi.symm) hint]⟩

/-! ## The round trip -/

/-- The values whose text reads back: every value but null and bytes, which have no text, a NaN,
a decimal whose scale does not fit in 64 bits, and a date-time that is not valid or has a fraction
of a second. -/
def ReadsBack : Value → Prop
  | .null | .bytes _ => False
  | .float32 x | .float64 x => x.isNaN = false
  | .decimal d => -2 ^ 63 ≤ d.scale ∧ d.scale < 2 ^ 63
  | .dateTime t => t.isValid ∧ t.nanosecond = 0
  | _ => True

instance : DecidablePred ReadsBack := fun v => by
  cases v <;> unfold ReadsBack <;> infer_instance

theorem convert_render_bind {v : Value} {k : Kind} {s : String} (hk : v.kind = some k)
    (hks : k ≠ .string) (hs : v.render? = some s) :
    (v.convert .string).bind (fun s => s.convert k) = parseAs s k := by
  rw [convert_of_render hk hks hs]
  exact convert_of_string s k

/-- A value converted to text and the text converted back to the value's kind gives the value:
the same value, and for a decimal one of equal value (its text form). -/
theorem convert_string_roundTrip {v : Value} {k : Kind} (hk : v.kind = some k) (hv : v.ReadsBack) :
    ∃ w, (v.convert .string).bind (fun s => s.convert k) = .ok w ∧
      (k = .decimal → w.compareTo v = some .eq) ∧ (k ≠ .decimal → w = v) := by
  -- every kind but the decimal reads back as the value itself
  have hself : ∀ {s : String}, k ≠ .string → k ≠ .decimal → v.render? = some s →
      parseAs s k = .ok v →
      ∃ w, (v.convert .string).bind (fun s => s.convert k) = .ok w ∧
        (k = .decimal → w.compareTo v = some .eq) ∧ (k ≠ .decimal → w = v) :=
    fun hks hkd hs hp =>
      ⟨v, by rw [convert_render_bind hk hks hs, hp], fun h => absurd h hkd, fun _ => rfl⟩
  by_cases hint : k.isInteger = true
  · obtain ⟨s, hs, hp⟩ := parseAs_integer_render hk hint
    exact hself (by rintro rfl; cases hint) (by rintro rfl; cases hint) hs hp
  cases v with
  | null => cases hk
  | bytes _ => exact (hv : False).elim
  | string s =>
    cases hk
    refine ⟨.string s, ?_, nofun, fun _ => rfl⟩
    simp only [convert_of_string]
    rfl
  | decimal d =>
    -- a decimal reads back as its text form, of equal value
    cases hk
    refine ⟨.decimal d.textForm, ?_, fun _ => congrArg some (Decimal.compareTo_textForm d),
      fun h => absurd rfl h⟩
    rw [convert_render_bind rfl (by decide) rfl, parseAs_decimal_render hv]
  | uint8 _ | int16 _ | int32 _ | int64 _ => cases hk; exact absurd rfl hint
  | bool b => cases hk; exact hself (by decide) (by decide) rfl (parseAs_bool_render b)
  | float32 x => cases hk; exact hself (by decide) (by decide) rfl (parseAs_float32_render hv)
  | float64 x => cases hk; exact hself (by decide) (by decide) rfl (parseAs_float64_render hv)
  | dateTime t => cases hk; exact hself (by decide) (by decide) rfl (parseAs_dateTime_render hv.1 hv.2)
  | guid g => cases hk; exact hself (by decide) (by decide) rfl (parseAs_guid_render g)
  | char c => cases hk; exact hself (by decide) (by decide) rfl (parseAs_char_render c)
  | chars cs => cases hk; exact hself (by decide) (by decide) rfl (parseAs_chars_render cs)

/-- `5E+3` is written `5000`, which reads back as five thousand with scale zero. -/
theorem convert_string_roundTrip_scaled :
    ∃ w, ((Value.decimal ⟨5, -3⟩).convert .string).bind (fun s => s.convert .decimal) = .ok w ∧
      (Kind.decimal = .decimal → w.compareTo (.decimal ⟨5, -3⟩) = some .eq) ∧
      (Kind.decimal ≠ .decimal → w = .decimal ⟨5, -3⟩) :=
  convert_string_roundTrip rfl ⟨by norm_num, by norm_num⟩

end Value

end Strainer
