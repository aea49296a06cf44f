import Mathlib.Tactic.IntervalCases
import Strainer.Guid
import Strainer.Proofs.Time.Reading

/-!
# Identifier encodings

An identifier is a 128-bit number, written as 32 hex digits or stored as 16 bytes, most
significant first. Both are its digits in a base, 16 or 256, and both readers gather the digits
by Horner's rule, so one lemma about Horner's rule over the digits of a number
(`Guid.foldl_range_digits`) gives both round trips: the hyphenated text reads back as the
identifier (`Guid.parse?_render`), and so do its bytes (`Guid.ofBytes_bytes`).
-/

namespace Strainer.Guid

/-- Horner's rule over the first `k` of the `n` base-`b` digits of `v`, most significant first,
gives `v` without its last `n - k` digits. -/
theorem foldl_range_digits {b n v : ℕ} (hv : v < b ^ n) : ∀ k ≤ n,
    (List.range k).foldl (fun acc i => b * acc + v / b ^ (n - 1 - i) % b) 0 = v / b ^ (n - k) := by
  intro k
  induction k with
  | zero =>
    intro _
    rw [Nat.sub_zero, Nat.div_eq_of_lt hv]
    rfl
  | succ k ih =>
    intro hk
    rw [List.range_succ, List.foldl_append, ih (by omega), List.foldl_cons, List.foldl_nil]
    -- one more digit: the quotient by the next power, times the base, plus the digit
    rw [show n - k = (n - 1 - k) + 1 by omega, show n - (k + 1) = n - 1 - k by omega, Nat.pow_succ,
      ← Nat.div_div_eq_div_mul]
    exact Nat.div_add_mod _ b

theorem ofNat_value (g : Guid) : ofNat g.value = g := by
  obtain ⟨v, hlt⟩ := g
  simp only [ofNat]
  congr
  exact Nat.mod_eq_of_lt hlt

/-! ## Hex text -/

theorem hexValue_hexDigit {n : ℕ} (hn : n < 16) : hexValue (hexDigit n) = some n := by
  interval_cases n <;> rfl

/-- Reading hex digits of values below sixteen is Horner's rule in base sixteen. -/
theorem foldl_hexValue {ds : List ℕ} (hd : ∀ d ∈ ds, d < 16) (a : ℕ) :
    (ds.map hexDigit).foldl (fun acc c => acc.bind fun n => (hexValue c).map (16 * n + ·)) (some a) =
      some (ds.foldl (fun acc d => 16 * acc + d) a) := by
  induction ds generalizing a with
  | nil => rfl
  | cons d ds ih =>
    rw [List.map_cons, List.foldl_cons, List.foldl_cons, Option.bind_some,
      hexValue_hexDigit (hd d List.mem_cons_self), Option.map_some]
    exact ih (fun x hx => hd x (List.mem_cons_of_mem d hx)) _

theorem ofHex_hexDigits (g : Guid) : ofHex g.hexDigits = some g := by
  have hv : g.value < 16 ^ 32 := by
    have := g.value_lt
    norm_num at this ⊢
    exact this
  have hdigits : ∀ d ∈ (List.range 32).map (fun i => g.value / Nat.pow 16 (31 - i) % 16), d < 16 := by
    intro d hd
    obtain ⟨i, -, rfl⟩ := List.mem_map.1 hd
    exact Nat.mod_lt _ (by norm_num)
  have hhorner := foldl_range_digits hv 32 le_rfl
  have hmap : (List.range 32).map (fun i => hexDigit (g.value / Nat.pow 16 (31 - i) % 16)) =
      ((List.range 32).map fun i => g.value / Nat.pow 16 (31 - i) % 16).map hexDigit := by
    simp
  unfold ofHex
  -- the 32 characters are the hex digits of the value's base-16 digits, read by Horner's rule
  rw [if_neg (by simp [hexDigits]), hexDigits, hmap, foldl_hexValue hdigits, List.foldl_map]
  simp only [Nat.pow_eq] at hhorner ⊢
  rw [hhorner, Nat.sub_self, pow_zero, Nat.div_one, Option.map_some, ofNat_value]

theorem hyphenated_parts {a b c d e : List Char} (ha : a.length = 8) (hb : b.length = 4)
    (hc : c.length = 4) (hd : d.length = 4) (he : e.length = 12) :
    let cs := a ++ '-' :: b ++ '-' :: c ++ '-' :: d ++ '-' :: e
    cs.length = 36 ∧ cs[8]? = some '-' ∧ cs[13]? = some '-' ∧ cs[18]? = some '-' ∧
      cs[23]? = some '-' ∧
      cs.take 8 ++ (cs.drop 9).take 4 ++ (cs.drop 14).take 4 ++ (cs.drop 19).take 4 ++ cs.drop 24 =
        a ++ b ++ c ++ d ++ e := by
  intro cs
  simp [cs, List.drop_append, List.drop_of_length_le, ha, hb, hc, hd, he]

theorem split_hex (h : List Char) :
    h.take 8 ++ (h.drop 8).take 4 ++ (h.drop 12).take 4 ++ (h.drop 16).take 4 ++ h.drop 20 = h := by
  have e1 : (h.drop 8).take 4 ++ h.drop 12 = h.drop 8 := by
    rw [show 12 = 8 + 4 from rfl, ← List.drop_drop, List.take_append_drop]
  have e2 : (h.drop 12).take 4 ++ h.drop 16 = h.drop 12 := by
    rw [show 16 = 12 + 4 from rfl, ← List.drop_drop, List.take_append_drop]
  have e3 : (h.drop 16).take 4 ++ h.drop 20 = h.drop 16 := by
    rw [show 20 = 16 + 4 from rfl, ← List.drop_drop, List.take_append_drop]
  simp only [List.append_assoc, e3, e2, e1, List.take_append_drop]

theorem parse?_render (g : Guid) : parse? g.render = some g := by
  have hl : g.hexDigits.length = 32 := by simp [hexDigits]
  obtain ⟨h36, h8, h13, h18, h23, hparts⟩ := hyphenated_parts (a := g.hexDigits.take 8)
    (b := (g.hexDigits.drop 8).take 4) (c := (g.hexDigits.drop 12).take 4)
    (d := (g.hexDigits.drop 16).take 4) (e := g.hexDigits.drop 20) (by simp [hl]) (by simp [hl])
    (by simp [hl]) (by simp [hl]) (by simp [hl])
  unfold parse? render
  rw [String.toList_ofList]
  dsimp only
  rw [h36]
  unfold ofHyphenated
  rw [if_pos ⟨h36, h8, h13, h18, h23⟩, hparts, split_hex, ofHex_hexDigits]
  rfl

theorem isBlank_hexDigit {n : ℕ} (hn : n < 16) : Text.isBlank (hexDigit n) = false := by
  interval_cases n <;> rfl

theorem trimString_render (g : Guid) : Text.trimString g.render = g.render := by
  have hhex : ∀ c ∈ g.hexDigits, Text.isBlank c = false := by
    intro c hc
    obtain ⟨i, -, rfl⟩ := List.mem_map.1 hc
    exact isBlank_hexDigit (Nat.mod_lt _ (by norm_num))
  refine Text.trimString_of_nonblank fun c hc => ?_
  simp only [render, String.toList_ofList, List.mem_append, List.mem_cons] at hc
  -- four hyphens between five runs of hex digits
  rcases hc with (((h | rfl | h) | rfl | h) | rfl | h) | rfl | h
  exacts [hhex c (List.mem_of_mem_take h), rfl,
    hhex c (List.mem_of_mem_drop (List.mem_of_mem_take h)), rfl,
    hhex c (List.mem_of_mem_drop (List.mem_of_mem_take h)), rfl,
    hhex c (List.mem_of_mem_drop (List.mem_of_mem_take h)), rfl, hhex c (List.mem_of_mem_drop h)]

/-! ## Bytes -/

theorem bytes_lt (g : Guid) : ∀ b ∈ g.bytes, b < 256 := by
  intro b hb
  obtain ⟨i, -, rfl⟩ := List.mem_map.1 hb
  exact Nat.mod_lt _ (by norm_num)

theorem ofBytes_bytes (g : Guid) : ofBytes g.bytes = g := by
  have hv : g.value < 256 ^ 16 := by
    have := g.value_lt
    norm_num at this ⊢
    exact this
  have hhorner := foldl_range_digits hv 16 le_rfl
  -- the bytes are the base-256 digits: `2 ^ (8 * m)` is `256 ^ m`
  have hpow : ∀ i, Nat.pow 2 (8 * (15 - i)) = 256 ^ (16 - 1 - i) := by
    intro i
    rw [Nat.pow_eq, pow_mul]
    rfl
  unfold ofBytes bytes
  rw [List.foldl_map]
  simp only [hpow, Nat.mod_mod]
  rw [hhorner, Nat.sub_self, pow_zero, Nat.div_one, ofNat_value]

end Strainer.Guid
