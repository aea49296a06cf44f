import Strainer.Proofs.Filter.DateTexts

/-!
# What a conversion refuses, and how integers narrow

Two things are decided about `Value.convert` before any value is looked at. Which pairs of kinds
convert at all is `Kind.canConvertTo`, and a conversion is refused (`unsupported`) exactly when
that table says no (`convert_refused_iff_not_canConvertTo`). A pair the table admits is carried
out along one of four routes (`ConvertRoute`): the value itself, text read as the target, the
value's text, or the numeric intermediate towards a numeric kind or a character. None of them
reaches a fallback, so such a conversion fails only on the value: text that does not read, a
number out of range, or a time stamp past the year range.

Towards an integer kind or a character, a conversion is exact or overflows
(`convert_integral_exact`). The value stands for one integer (`Value.integral?`): a boolean is 0
or 1, a character its code point, a float rounded half to even, a decimal likewise. When the
target holds that integer the result holds it too, and otherwise the conversion is an overflow
naming the target; nothing wraps and nothing saturates. Between the integer kinds and
characters a successful conversion can therefore be undone.
-/

namespace Strainer

/-! ## Refused conversions -/

theorem Kind.canConvertTo_self (k : Kind) : k.canConvertTo k = true := by
  simp [Kind.canConvertTo]

namespace Value

theorem convert_null (t : Kind) : Value.null.convert t = .ok .null := rfl

theorem convert_of_kind_eq {v : Value} {t : Kind} (hk : v.kind = some t) : v.convert t = .ok v := by
  simp [Value.convert, hk]

theorem convert_of_not_canConvertTo {v : Value} {k t : Kind} (hk : v.kind = some k)
    (hc : k.canConvertTo t = false) : v.convert t = .error (.unsupported k t) := by
  have hkt : k ≠ t := by
    rintro rfl
    simp [Kind.canConvertTo_self] at hc
  simp [Value.convert, hk, hkt, hc]

end Value

/-- The failures that depend on the value converted, each naming the target: text that does not
read as it, a number out of its range, and a time stamp past the year range. -/
def ConvertError.OnValue (t : Kind) : ConvertError → Prop
  | .invalid _ target => target = t
  | .overflow _ target => target = t
  | .dateOutOfRange => True
  | .unsupported _ _ => False

theorem Number.convertTo_onValue (n : Number) (t : Kind) :
    Except.Meets (ConvertError.OnValue t) (fun _ => True) (n.convertTo t) := by
  unfold Number.convertTo
  dsimp only
  -- the only failure of each target is an overflow that names it
  split
  · trivial
  · trivial
  · trivial
  · split
    · split_ifs <;> trivial
    · split <;> trivial
    · trivial
  · split
    · rename_i e he
      split at he
      · cases he
      · split at he
        · cases he
        · cases he
          rfl
      · split_ifs at he
        cases he
        rfl
    · split
      · trivial
      · rfl

theorem Value.parseAs_onValue (s : String) (t : Kind) :
    Except.Meets (ConvertError.OnValue t) (fun _ => True) (parseAs s t) := by
  cases t
  all_goals unfold Value.parseAs; dsimp only
  case bool =>
    generalize Text.eqIgnoreAsciiCase (Text.trimString s) "true" = isTrue
    generalize Text.eqIgnoreAsciiCase (Text.trimString s) "false" = isFalse
    cases isTrue <;> cases isFalse <;> trivial
  case uint8 | int16 | int32 | int64 =>
    simp only [Number.range]
    split
    · split
      · trivial
      · rfl
    · rfl
    · rfl
  case float32 | float64 | decimal | guid | char =>
    split
    · trivial
    · rfl
  case dateTime =>
    split
    · trivial
    · rfl
    · trivial
  case string | bytes | chars => trivial

/-- The ways a conversion that the kinds admit is carried out. Text is read, anything converts
to text through its rendering, and the rest goes through the numeric intermediate towards a
numeric kind or a character; no route ends in a fallback. -/
inductive ConvertRoute (v : Value) (t : Kind) : Prop where
  /-- The value already has the target kind. -/
  | same : v.kind = some t → v.convert t = .ok v → ConvertRoute v t
  /-- Text is read as the target kind. -/
  | read (s : String) : v = .string s → v.convert t = Value.parseAs s t → ConvertRoute v t
  /-- A value with a rendering becomes that text. -/
  | render (s : String) : t = .string → v.render? = some s → v.convert t = .ok (.string s) →
      ConvertRoute v t
  /-- A number or character goes through its intermediate to a numeric kind or a character. -/
  | number (n : Number) : (t.isNumeric = true ∨ t = .char) → Number.ofValue? v = some n →
      v.convert t = n.convertTo t → ConvertRoute v t

theorem Kind.numeric_target_of_canConvertTo {k t : Kind} (hc : k.canConvertTo t = true)
    (hkt : k ≠ t) (hk : k ≠ .string) (ht : t ≠ .string) : t.isNumeric = true ∨ t = .char := by
  revert hc hkt hk ht
  cases k <;> cases t <;> decide

namespace Value

theorem convert_of_string (s : String) (t : Kind) : (Value.string s).convert t = parseAs s t := by
  by_cases ht : t = .string
  · subst ht
    rfl
  · simp [Value.convert, Value.kind, Kind.canConvertTo, Ne.symm ht]

theorem exists_string_of_kind {v : Value} (hk : v.kind = some .string) : ∃ s, v = .string s := by
  cases v <;> first | exact ⟨_, rfl⟩ | cases hk

theorem convert_of_render {v : Value} {k : Kind} {s : String} (hk : v.kind = some k)
    (hks : k ≠ .string) (hs : v.render? = some s) : v.convert .string = .ok (.string s) := by
  -- bytes have no text, so the pair is admitted
  have hc : k.canConvertTo .string = true := by
    cases v <;> cases hk <;> first | decide | exact absurd rfl hks | cases hs
  unfold Value.convert
  rw [hk]
  dsimp only
  rw [if_neg hks, if_neg (by simp [hc])]
  split
  · cases hk
    exact absurd rfl hks
  · rw [if_pos rfl, hs]

theorem convert_of_number {v : Value} {k t : Kind} {n : Number} (hk : v.kind = some k)
    (hkt : k ≠ t) (hc : k.canConvertTo t = true) (ht : t ≠ .string)
    (hn : Number.ofValue? v = some n) : v.convert t = n.convertTo t := by
  unfold Value.convert
  rw [hk]
  dsimp only
  rw [if_neg hkt, if_neg (by simp [hc])]
  split
  · cases hn
  · rw [if_neg ht, hn]

theorem convertRoute_of_canConvertTo {v : Value} {k t : Kind} (hk : v.kind = some k)
    (hc : k.canConvertTo t = true) : ConvertRoute v t := by
  by_cases hkt : k = t
  · subst hkt
    exact .same hk (convert_of_kind_eq hk)
  by_cases hks : k = .string
  · subst hks
    obtain ⟨s, rfl⟩ := exists_string_of_kind hk
    exact .read s rfl (convert_of_string s t)
  by_cases ht : t = .string
  · -- bytes are the one kind without text, and they convert to nothing else
    have hkb : k ≠ .bytes := by
      rintro rfl
      subst ht
      exact absurd hc (by decide)
    obtain ⟨s, hs⟩ := render?_isSome hk hkb
    subst ht
    exact .render s rfl hs (convert_of_render hk hks hs)
  · obtain ⟨n, hn⟩ := Number.ofValue?_isSome hk (Kind.numeric_of_canConvertTo hc hkt hks ht)
    exact .number n (Kind.numeric_target_of_canConvertTo hc hkt hks ht) hn
      (convert_of_number hk hkt hc ht hn)

end Value

theorem ConvertRoute.onValue {v : Value} {t : Kind} (h : ConvertRoute v t) :
    Except.Meets (ConvertError.OnValue t) (fun _ => True) (v.convert t) := by
  cases h with
  | same _ h => rw [h]; trivial
  | read s _ h => rw [h]; exact Value.parseAs_onValue s t
  | render s _ _ h => rw [h]; trivial
  | number n _ _ h => rw [h]; exact n.convertTo_onValue t

namespace Value

/-- A conversion is refused exactly when `Kind.canConvertTo` refuses the pair, and the refusal
names the value's kind and the target. A pair the table admits takes one of the routes of
`ConvertRoute` and fails, if at all, on the value. -/
theorem convert_refused_iff_not_canConvertTo (v : Value) (t : Kind) :
    (∀ k s, v.convert t = .error (.unsupported k s) ↔
      v.kind = some k ∧ k.canConvertTo t = false ∧ s = t) ∧
    ∀ k, v.kind = some k → k.canConvertTo t = true →
      ConvertRoute v t ∧ ∀ e, v.convert t = .error e → e.OnValue t := by
  have admitted : ∀ k, v.kind = some k → k.canConvertTo t = true →
      ConvertRoute v t ∧ ∀ e, v.convert t = .error e → e.OnValue t := by
    intro k hk hc
    have hroute := convertRoute_of_canConvertTo hk hc
    refine ⟨hroute, fun e he => ?_⟩
    have hmeets := hroute.onValue
    rw [he] at hmeets
    exact hmeets
  refine ⟨fun k s => ⟨fun h => ?_, ?_⟩, admitted⟩
  · cases hk : v.kind with
    | none =>
      rw [eq_null_of_kind_eq_none hk, convert_null] at h
      cases h
    | some k' =>
      cases hc : k'.canConvertTo t with
      | false =>
        rw [convert_of_not_canConvertTo hk hc] at h
        cases h
        exact ⟨rfl, hc, rfl⟩
      | true =>
        -- an admitted pair fails only on the value, never as a refusal
        exact ((admitted k' hk hc).2 _ h).elim
  · rintro ⟨hk, hc, rfl⟩
    exact convert_of_not_canConvertTo hk hc

/-- A decimal has no character, and text that reads as an integer converts to one. -/
theorem convert_decimal_refused_text_read :
    (Value.decimal Decimal.zero).convert .char = .error (.unsupported .decimal .char) ∧
      ConvertRoute (.string "17") .int32 :=
  ⟨((convert_refused_iff_not_canConvertTo _ _).1 _ _).2 ⟨rfl, rfl, rfl⟩,
    ((convert_refused_iff_not_canConvertTo (.string "17") .int32).2 .string rfl rfl).1⟩

/-- An RFC 3339 stamp one hour behind UTC at the last second of year 9999 names an instant of
year 10000: reading it as a date-time fails past the year range. -/
theorem convert_stamp_past_range :
    (Value.string "9999-12-31T23:59:59-01:00").convert .dateTime = .error .dateOutOfRange := by
  decide

end Value

/-! ## Integer targets -/

/-- The kinds an integer is narrowed into: the integer kinds and the character. -/
def Kind.isIntegral (k : Kind) : Bool := k.isInteger || k == .char

/-- Whether the integral kind `t` has a value holding `i`: `i` lies in the range of the integer
kind, or is a Unicode scalar value for a character. -/
def Kind.Holds : Kind → Int → Prop
  | .uint8, i => 0 ≤ i ∧ i < 256
  | .int16, i => -32768 ≤ i ∧ i < 32768
  | .int32, i => -2147483648 ≤ i ∧ i < 2147483648
  | .int64, i => -9223372036854775808 ≤ i ∧ i < 9223372036854775808
  | .char, i => 0 ≤ i ∧ i.toNat.isValidChar
  | _, _ => False

/-- The integer a value stands for when it converts to an integral kind: a boolean is 0 or 1, a
character its code point, a float its value as a 64-bit float rounded half to even (none for NaN
and the infinities), and a decimal its value rounded half to even. -/
def Value.integral? : Value → Option Int
  | .bool b => some (if b then 1 else 0)
  | .uint8 n => some n.toNat
  | .int16 n => some n.toInt
  | .int32 n => some n.toInt
  | .int64 n => some n.toInt
  | .char c => some c.toNat
  | .float32 x => (x.convert : Float64Bits).roundTiesEven?
  | .float64 x => x.roundTiesEven?
  | .decimal d => some d.roundToInt
  | _ => none

/-- The integer the numeric intermediate stands for. -/
def Number.integral? : Number → Option Int
  | .int i => some i
  | .float x => x.roundTiesEven?
  | .decimal d => some d.roundToInt

/-- A conversion to the integral kind `t` of a value standing for `n` is exact or overflows: when
`t` holds `n` it gives a value of kind `t` holding `n`; otherwise, and when there is no `n`, it
is an overflow naming `t`. -/
def ExactOrOverflow (t : Kind) (n : Option Int) (r : Except ConvertError Value) : Prop :=
  (∃ i w, n = some i ∧ t.Holds i ∧ r = .ok w ∧ w.kind = some t ∧ w.integral? = some i) ∨
    ((∀ i, n = some i → ¬ t.Holds i) ∧ ∃ text, r = .error (.overflow text t))

theorem Value.integral?_eq_bind (v : Value) : (Number.ofValue? v).bind Number.integral? = v.integral? := by
  cases v <;> rfl

/-- Every integral kind holds only integers of 64 bits. -/
theorem Kind.Holds.bounds {t : Kind} {i : Int} (h : t.Holds i) :
    -9223372036854775808 ≤ i ∧ i < 9223372036854775808 := by
  cases t <;> simp only [Kind.Holds] at h <;> omega

theorem Value.holds_of_kind {v : Value} {t : Kind} (hk : v.kind = some t) (ht : t.isIntegral = true) :
    ∃ i, v.integral? = some i ∧ t.Holds i := by
  cases v <;> cases hk <;> simp only [Kind.isIntegral, Kind.isInteger] at ht
  case uint8 n =>
    have := n.toNat_lt
    exact ⟨_, rfl, by simp only [Kind.Holds]; omega⟩
  case int16 n =>
    have h1 := n.le_toInt
    have h2 := n.toInt_lt
    exact ⟨_, rfl, by simp only [Kind.Holds]; omega⟩
  case int32 n =>
    have h1 := n.le_toInt
    have h2 := n.toInt_lt
    exact ⟨_, rfl, by simp only [Kind.Holds]; omega⟩
  case int64 n =>
    have h1 := n.le_toInt
    have h2 := n.toInt_lt
    exact ⟨_, rfl, by simp only [Kind.Holds]; omega⟩
  case char c =>
    exact ⟨_, rfl, by simp only [Kind.Holds, Int.toNat_natCast]; exact ⟨by omega, c.valid⟩⟩
  all_goals cases ht

theorem Value.eq_of_integral?_eq {a b : Value} {t : Kind} (ha : a.kind = some t)
    (hb : b.kind = some t) (h : a.integral? = b.integral?) : t.isIntegral = true → a = b := by
  intro ht
  cases a <;> cases ha <;> cases b <;> cases hb <;> simp only [Kind.isIntegral, Kind.isInteger] at ht
  all_goals simp only [Value.integral?, Option.some.injEq, Nat.cast_inj] at h
  case uint8.refl.uint8.refl => rw [UInt8.toNat_inj.mp h]
  case int16.refl.int16.refl => rw [Int16.toInt_inj.mp h]
  case int32.refl.int32.refl => rw [Int32.toInt_inj.mp h]
  case int64.refl.int64.refl => rw [Int64.toInt_inj.mp h]
  case char.refl.char.refl => rw [Char.toNat_inj.mp h]
  all_goals cases ht

namespace Number

theorem narrow_of_holds {i : Int} {t : Kind} (h : t.Holds i) :
    ∃ w, narrow i t = some w ∧ w.kind = some t ∧ w.integral? = some i := by
  cases t <;> simp only [Kind.Holds] at h
  case uint8 =>
    refine ⟨_, if_pos (by omega), rfl, ?_⟩
    simp only [Value.integral?, UInt8.toNat_ofNat', Option.some.injEq]
    omega
  case int16 =>
    exact ⟨_, if_pos (by omega), rfl, by
      simp only [Value.integral?, @Int16.toInt_ofInt_of_le i (by omega) (by omega)]⟩
  case int32 =>
    exact ⟨_, if_pos (by omega), rfl, by
      simp only [Value.integral?, @Int32.toInt_ofInt_of_le i (by omega) (by omega)]⟩
  case int64 =>
    exact ⟨_, if_pos (by omega), rfl, by
      simp only [Value.integral?, @Int64.toInt_ofInt_of_le i (by omega) (by omega)]⟩
  case char =>
    obtain ⟨h0, hc⟩ := h
    refine ⟨_, if_pos ⟨h0, by omega⟩, rfl, ?_⟩
    have hn : (Char.ofNat i.toNat).toNat = i.toNat := by
      rw [Char.ofNat, dif_pos hc]
      rfl
    simp only [Value.integral?, hn, Option.some.injEq]
    exact Int.toNat_of_nonneg h0

theorem narrow_of_not_holds {i : Int} {t : Kind} (ht : t.isIntegral = true) (h : ¬ t.Holds i) :
    narrow i t = none := by
  cases t <;> simp only [Kind.isIntegral, Kind.isInteger] at ht <;> simp only [Kind.Holds] at h
  case uint8 => exact if_neg (by omega)
  case int16 => exact if_neg (by omega)
  case int32 => exact if_neg (by omega)
  case int64 => exact if_neg (by omega)
  case char =>
    refine if_neg fun hc => h ⟨hc.1, ?_⟩
    show i.toNat < 0xd800 ∨ (0xdfff < i.toNat ∧ i.toNat < 0x110000)
    omega
  all_goals cases ht

/-- Narrowing `c`, which a target holds exactly when it holds `i`, and holds `i` only as `c = i`,
is exact for `i` or overflows. -/
theorem exactOrOverflow_of_narrow {t : Kind} {i c : Int} (ht : t.isIntegral = true)
    (hc : t.Holds c ↔ t.Holds i) (heq : t.Holds i → c = i) {r : Except ConvertError Value}
    (hsome : ∀ w, narrow c t = some w → r = .ok w)
    (hnone : narrow c t = none → ∃ text, r = .error (.overflow text t)) :
    ExactOrOverflow t (some i) r := by
  by_cases h : t.Holds i
  · obtain ⟨w, hw, hwk, hwi⟩ := narrow_of_holds (hc.mpr h)
    rw [heq h] at hwi
    exact .inl ⟨i, w, rfl, h, hsome w hw, hwk, hwi⟩
  · refine .inr ⟨fun j hj => ?_, hnone (narrow_of_not_holds ht fun hc' => h (hc.mp hc'))⟩
    cases hj
    exact h

theorem wideMin_eq : wideMin = -170141183460469231731687303715884105728 := by decide

theorem wideMax_eq : wideMax = 170141183460469231731687303715884105727 := by decide

/-- Saturating to the 128-bit range changes nothing an integral kind can hold. -/
theorem holds_clamp {t : Kind} (j : Int) :
    (t.Holds (max wideMin (min wideMax j)) ↔ t.Holds j) ∧
      (t.Holds j → max wideMin (min wideMax j) = j) := by
  rw [wideMin_eq, wideMax_eq]
  refine ⟨⟨fun h => ?_, fun h => ?_⟩, fun h => ?_⟩
  · have hb := h.bounds
    have : max (-170141183460469231731687303715884105728) (min 170141183460469231731687303715884105727 j) = j := by
      omega
    rwa [this] at h
  · have hb := h.bounds
    have : max (-170141183460469231731687303715884105728) (min 170141183460469231731687303715884105727 j) = j := by
      omega
    rwa [this]
  · have hb := h.bounds
    omega

/-- Towards an integral kind the numeric intermediate is rounded to an integer, saturated to the
128-bit range and narrowed: exact for the integer it stands for, or an overflow. -/
theorem convertTo_exactOrOverflow (n : Number) {t : Kind} (ht : t.isIntegral = true) :
    ExactOrOverflow t n.integral? (n.convertTo t) := by
  unfold Number.convertTo
  dsimp only
  split
  · cases ht
  · cases ht
  · cases ht
  · cases ht
  cases n with
  | int i =>
    dsimp only
    refine exactOrOverflow_of_narrow ht Iff.rfl (fun _ => rfl) (fun w hw => ?_) (fun hw => ?_)
    · rw [hw]
    · rw [hw]
      exact ⟨_, rfl⟩
  | float x =>
    dsimp only
    show ExactOrOverflow t x.roundTiesEven? _
    generalize x.roundTiesEven? = o
    cases o with
    | none => exact .inr ⟨fun j hj => (by cases hj), _, rfl⟩
    | some j =>
      dsimp only
      refine exactOrOverflow_of_narrow ht (holds_clamp j).1 (holds_clamp j).2 (fun w hw => ?_)
        (fun hw => ?_)
      · rw [hw]
      · rw [hw]
        exact ⟨_, rfl⟩
  | decimal d =>
    dsimp only
    split_ifs with hw
    · dsimp only
      refine exactOrOverflow_of_narrow ht Iff.rfl (fun _ => rfl) (fun w hw => ?_) (fun hw => ?_)
      · rw [hw]
      · rw [hw]
        exact ⟨_, rfl⟩
    · -- out of the 128-bit range no integral kind holds the integer either
      refine .inr ⟨fun j hj h => hw ?_, _, rfl⟩
      cases hj
      have hb := h.bounds
      rw [wideMin_eq, wideMax_eq]
      omega

end Number

theorem Kind.canConvertTo_integral {k t : Kind} (hk : k.isNumeric = true ∨ k = .char)
    (ht : t.isIntegral = true) (hchar : t = .char → k.isIntegral = true) :
    k.canConvertTo t = true := by
  revert hk ht hchar
  cases k <;> cases t <;> decide

theorem Kind.numeric_of_isIntegral {t : Kind} (ht : t.isIntegral = true) :
    t.isNumeric = true ∨ t = .char := by
  revert ht
  cases t <;> decide

namespace Value

/-- A number, boolean or character converts to an integral kind exactly or overflows; a character
target takes integral values only. -/
theorem convert_exactOrOverflow {v : Value} {k t : Kind} (hk : v.kind = some k)
    (hsrc : k.isNumeric = true ∨ k = .char) (ht : t.isIntegral = true)
    (hchar : t = .char → k.isIntegral = true) : ExactOrOverflow t v.integral? (v.convert t) := by
  by_cases hkt : k = t
  · subst hkt
    obtain ⟨i, hi, hholds⟩ := holds_of_kind hk ht
    rw [convert_of_kind_eq hk, hi]
    exact .inl ⟨i, v, rfl, hholds, rfl, hk, hi⟩
  have hc := Kind.canConvertTo_integral hsrc ht hchar
  have hts : t ≠ .string := by
    rintro rfl
    cases ht
  obtain ⟨n, hn⟩ := Number.ofValue?_isSome hk hsrc
  rw [convert_of_number hk hkt hc hts hn, ← integral?_eq_bind, hn]
  exact n.convertTo_exactOrOverflow ht

/-- Towards an integer kind or a character, converting a boolean, a number or a character is
exact or overflows. When the target holds the integer the value stands for (`integral?`), the
result is a value of the target holding it; otherwise, NaN and the infinities included, the
conversion is an overflow naming the target. Nothing wraps and nothing saturates, so between the
integer kinds and characters a successful conversion is undone by converting back. -/
theorem convert_integral_exact (v : Value) (k t : Kind) (hk : v.kind = some k)
    (hsrc : k.isNumeric = true ∨ k = .char) (ht : t.isIntegral = true)
    (hchar : t = .char → k.isIntegral = true) :
    ExactOrOverflow t v.integral? (v.convert t) ∧
      (k.isIntegral = true → ∀ w, v.convert t = .ok w → w.convert k = .ok v) := by
  refine ⟨convert_exactOrOverflow hk hsrc ht hchar, fun hki w hw => ?_⟩
  obtain ⟨i, hi, hholds⟩ := holds_of_kind hk hki
  -- the conversion succeeded, so its result holds the integer `v` stands for
  have hwi : w.kind = some t ∧ w.integral? = some i := by
    rcases convert_exactOrOverflow hk hsrc ht hchar with ⟨j, w', hj, -, hw', hwk, hwj⟩ | ⟨-, text, he⟩
    · rw [hw] at hw'
      cases hw'
      rw [hi] at hj
      cases hj
      exact ⟨hwk, hwj⟩
    · rw [hw] at he
      cases he
  -- converting back is exact for the same integer, which `k` holds since `v` does
  rcases convert_exactOrOverflow hwi.1 (Kind.numeric_of_isIntegral ht) hki (fun _ => ht) with
    ⟨j, v', hj, -, hv', hvk, hvj⟩ | ⟨hno, -⟩
  · rw [hwi.2] at hj
    cases hj
    rw [hv', eq_of_integral?_eq hvk hk (hvj.trans hi.symm) hki]
  · exact absurd hholds (hno i hwi.2)

/-- The code point 955 converts from a 64-bit integer to a character and back. -/
theorem convert_int64_char_exact :
    ExactOrOverflow .char (Value.int64 955).integral? ((Value.int64 955).convert .char) ∧
      ∀ w, (Value.int64 955).convert .char = .ok w → w.convert .int64 = .ok (.int64 955) :=
  let h := convert_integral_exact (.int64 955) .int64 .char rfl (.inl rfl) rfl (fun _ => rfl)
  ⟨h.1, h.2 rfl⟩

end Value

end Strainer
