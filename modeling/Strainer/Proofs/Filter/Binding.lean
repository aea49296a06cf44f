import Strainer.Proofs.Filter.Soundness

/-!
# Binding by position and by name agree

A filter text compiled against a record type's fields and the same text compiled without a shape
give two trees: the first binds fields to positions and converts where the kinds differ, the
second looks fields up by name and leaves the kinds to the run. Whenever the first compiles, so
does the second, and on every record of the type with no null field the two give the same
outcome, the same boolean or the same error (`compileWith_dynamic_agrees`).

The trees are not the same: the static one converts the left side of a comparison only where the
kinds differ, the dynamic one wherever the right side's kind is known, and it leaves to
`compareValues` the conversions the static one inserts against a field. `BindsAlike` relates the
two by what they evaluate to, and the compiler's scan carries it (`bindsAlike_simulation`). The
comparisons agree because converting the left side to the right side's kind before comparing
changes nothing (`compareValues_convert_left`).
-/

namespace Strainer.Filter

open Record

theorem Except.bind_congr_of_ok {ε α β : Type} {x : Except ε α} {f f' : α → Except ε β}
    (h : ∀ a, x = .ok a → f a = f' a) : x >>= f = x >>= f' := by
  cases x with
  | error e => rfl
  | ok a => exact h a rfl

/-! ## Comparing after a conversion -/

theorem Value.not_isNull_of_kind {v : Value} {k : Kind} (h : v.kind = some k) :
    ¬v.isNull = true := by
  cases v <;> first | exact Bool.false_ne_true | cases h

theorem convertValue_of_kind {v : Value} {t : Kind} (h : v.kind = some t) :
    convertValue v t = .ok v := by
  unfold convertValue Value.convert
  rw [h]
  dsimp only
  rw [if_pos rfl]

/-- Two values of one kind, neither null, are compared as they are. -/
theorem compareValues_of_kind {op : Operator} {a b : Value} {t : Kind} (ha : a.kind = some t)
    (hb : b.kind = some t) :
    compareValues op a b = .ok (match op with
      | .equal => a.compareTo b = some .eq
      | .notEqual => a.compareTo b ≠ some .eq
      | .greaterThan => a.compareTo b = some .gt
      | .greaterOrEqual => a.compareTo b = some .gt ∨ a.compareTo b = some .eq
      | .lessThan => a.compareTo b = some .lt
      | .lessOrEqual => a.compareTo b = some .lt ∨ a.compareTo b = some .eq
      | _ => false) := by
  unfold compareValues
  rw [if_neg (not_or.mpr ⟨Value.not_isNull_of_kind ha, Value.not_isNull_of_kind hb⟩), ha, hb]
  dsimp only
  rw [if_pos rfl]
  rfl

/-- Converting the left side to the right side's kind before a comparison changes nothing: the
comparison converts it itself when the kinds differ. -/
theorem compareValues_convert_left {op : Operator} {a b : Value} {t : Kind}
    (hb : b.kind = some t) (ha : ∀ k, a.kind = some k → k.canConvertTo t = true) :
    (convertValue a t >>= fun a' => compareValues op a' b) = compareValues op a b := by
  cases hka : a.kind with
  | none =>
    rw [Value.eq_null_of_kind_eq_none hka]
    rfl
  | some k =>
    by_cases hkt : k = t
    · subst hkt
      rw [convertValue_of_kind hka]
      rfl
    · have hnull := not_or.mpr ⟨Value.not_isNull_of_kind hka, Value.not_isNull_of_kind hb⟩
      conv => rhs; unfold compareValues
      rw [if_neg hnull, hka, hb]
      dsimp only
      rw [if_neg hkt]
      apply Except.bind_congr_of_ok
      intro a' ha'
      -- the converted value has the right side's kind, so the comparison converts no more
      have hconv := Value.convert_convertsTo hka (ha k hka)
      unfold convertValue at ha'
      revert hconv
      cases hc : a.convert t with
      | error e => rw [hc] at ha'; cases ha'
      | ok w =>
        rw [hc] at ha'
        cases ha'
        intro hw
        rw [compareValues_of_kind hw hb]
        rfl

/-! ## Trees that evaluate alike -/

/-- A record of the fields with no null: it declares those fields, and each holds a value of its
declared kind. -/
def Complete (fields : List FieldDef) (r : StaticRecord) : Prop :=
  r.fields = fields ∧ ∀ i (hi : i < fields.length), (r.field i).kind = some fields[i].kind

/-- A tree bound against the static fields and one bound by name from the same text: the first
is well formed; the second has the same kind or, as a field looked up by name, no kind and a value
on every record; and the two evaluate alike on every record of the fields with no null. -/
structure BindsAlike (fields : List FieldDef) (g : Grammar) (s d : Expr) : Prop where
  wellFormed : WellFormed (.static fields) g s
  kind : d.kind = s.kind ∨ (d.kind = none ∧ ∀ r, Complete fields r → ∃ v, d.eval r = .ok v)
  eval : ∀ r, Complete fields r → s.eval r = d.eval r

section

variable {fields : List FieldDef} {g : Grammar} {r : StaticRecord}

theorem Complete.conforms (h : Complete fields r) : Conforms fields r :=
  fun i hi => .inr (h.2 i hi)

/-- On a record with no null, a statically compiled tree's values have the tree's kind. -/
theorem eval_kind_of_complete (hc : Complete fields r) {e : Expr}
    (wf : WellFormed (.static fields) g e) {v : Value} (h : e.eval r = .ok v) :
    v.kind = e.kind := by
  have hmeets := eval_meets hc.conforms wf
  rw [h] at hmeets
  rcases hmeets with hkind | ⟨-, i, hi, hnull⟩
  · exact hkind
  · have hfield := hc.2 i hi
    rw [hnull] at hfield
    cases hfield

/-- Converting a statically compiled tree to its own kind changes nothing on a record with no
null. -/
theorem eval_convert_of_kind (hc : Complete fields r) {e : Expr}
    (wf : WellFormed (.static fields) g e) {t : Kind} (ht : e.kind = some t) :
    (Expr.convert e t).eval r = e.eval r := by
  rw [eval_convert_static]
  conv => rhs; rw [← bind_pure (e.eval r)]
  apply Except.bind_congr_of_ok
  intro v hv
  exact convertValue_of_kind ((eval_kind_of_complete hc wf hv).trans ht)

theorem BindsAlike.maybeBool {s d : Expr} (h : BindsAlike fields g s d) (hs : s.MaybeBool) :
    d.MaybeBool := by
  rcases h.kind with hsame | ⟨hnone, -⟩
  · unfold Expr.MaybeBool
    rw [hsame]
    exact hs
  · exact .inl hnone

/-- A field of the static fields is found by name at the position it is bound to. -/
theorem findIdx?_of_binds {name : String} {i : Nat} {k : Kind}
    (hb : (Shape.static fields).Binds (.bound name i k)) :
    fields.findIdx? (·.name == name) = some i := by
  obtain ⟨hget, hfirst⟩ := hb
  obtain ⟨hi, hdef⟩ := List.getElem?_eq_some_iff.mp hget
  refine List.findIdx?_eq_some_iff_getElem.mpr ⟨hi, by simp [hdef], fun j hj => ?_⟩
  have hj' : fields[j] ∈ fields[j]? := List.getElem?_eq_getElem (hj.trans hi)
  simpa using hfirst j hj fields[j] hj'

theorem bindField_bindsAlike {name : String} {e : Expr}
    (h : Compiler.bindField ⟨.static fields, g⟩ name = .ok e) :
    BindsAlike fields g e (.field (.byName name)) := by
  obtain ⟨f, rfl, hname, hf⟩ := Compiler.bindField_cases h
  cases f with
  | byName n => exact hf.elim
  | bound n i k =>
    cases hname
    -- looked up by name, the field is found at its position among the record's fields
    have hread : ∀ r, Complete fields r →
        (Expr.field (.byName n)).eval r = .ok (r.field i) := by
      intro r hc
      show Target.read r (.byName n) none = _
      simp only [Target.read]
      rw [hc.1, findIdx?_of_binds hf]
      rfl
    exact ⟨.field hf, .inr ⟨rfl, fun r hc => ⟨_, hread r hc⟩⟩, fun r hc => (hread r hc).symm⟩

/-! ## The compiler's steps keep trees alike -/

namespace Compiler

theorem coerce_of_kind_none {op : Operator} {l : Expr} {t : Kind} (hl : l.kind = none) :
    coerce op l (some t) = .ok (.convert l t) := by
  unfold coerce
  rw [hl]

theorem coerce_of_kind_eq {op : Operator} {l : Expr} {t : Kind} (hl : l.kind = some t) :
    coerce op l (some t) = .ok l := by
  unfold coerce
  rw [hl]
  dsimp only
  rw [if_pos rfl]

theorem coerce_of_canConvertTo {op : Operator} {l : Expr} {k t : Kind} (hl : l.kind = some k)
    (hkt : k ≠ t) (hc : k.canConvertTo t = true) : coerce op l (some t) = .ok (.convert l t) := by
  unfold coerce
  rw [hl]
  dsimp only
  rw [if_neg hkt, if_neg (by simp [hc])]

theorem binary_comparison {op : Operator} (hop : op.isComparison = true) (l r : Expr) :
    binary op l r = coerce op l r.kind >>= fun l' => pure (.binary op l' r) := by
  cases op <;> first | rfl | cases hop

theorem binary_connective {op : Operator} (hop : op.isConnective = true) {l r : Expr}
    (hl : l.MaybeBool) (hr : r.MaybeBool) : binary op l r = .ok (.binary op l r) := by
  cases op <;> cases hop
  all_goals
    simp only [binary, bind, Except.bind, requireBoolean_eq_ok.mpr hl, requireBoolean_eq_ok.mpr hr]
    rfl

theorem unary_not {o : Expr} (ho : o.MaybeBool) : unary .not o = .ok (.unary .not o) := by
  simp only [unary, if_pos, bind, Except.bind, requireBoolean_eq_ok.mpr ho]
  rfl

end Compiler

theorem eval_unary_congr {o₁ o₂ : Expr} (h : o₁.eval r = o₂.eval r) (op : Operator) :
    (Expr.unary op o₁).eval r = (Expr.unary op o₂).eval r := by
  rw [Expr.eval_unary, Expr.eval_unary, h]

theorem eval_binary_congr {l₁ l₂ o₁ o₂ : Expr} (hl : l₁.eval r = l₂.eval r)
    (ho : o₁.eval r = o₂.eval r) (op : Operator) :
    (Expr.binary op l₁ o₁).eval r = (Expr.binary op l₂ o₂).eval r := by
  cases op <;> simp only [Expr.eval, hl, ho]

/-- A comparison whose right side gives a value of kind `t` is not changed by converting its
left side to `t` first, when the left side's values convert to `t`. -/
theorem eval_comparison_convert_left {op : Operator} (hop : op.isComparison = true)
    (hc : Complete fields r) {l o : Expr} (wfl : WellFormed (.static fields) g l) {k t : Kind}
    (hk : l.kind = some k) (hkt : k.canConvertTo t = true) {b : Value} (hb : o.eval r = pure b)
    (hbkind : b.kind = some t) :
    (Expr.binary op (.convert l t) o).eval r = (Expr.binary op l o).eval r := by
  rw [Expr.eval_comparison hop, Expr.eval_comparison hop, eval_convert_static, hb, bind_assoc]
  apply Except.bind_congr_of_ok
  intro a ha
  have hakind : ∀ k', a.kind = some k' → k'.canConvertTo t = true := by
    intro k' hk'
    rw [eval_kind_of_complete hc wfl ha, hk] at hk'
    cases hk'
    exact hkt
  simp only [pure_bind]
  rw [← compareValues_convert_left hbkind hakind, bind_assoc]

/-- The left side of a comparison, as each compiler coerces it: the static compiler converts it
where the kinds differ, the dynamic one wherever the right side's kind is known, and where it is
not, the comparison converts the value itself. Either way the comparison evaluates alike. -/
theorem coerce_bindsAlike {op : Operator} (hop : op.isComparison = true) {l₁ l₂ o₁ o₂ l₁' : Expr}
    (hl : BindsAlike fields g l₁ l₂) (ho : BindsAlike fields g o₁ o₂)
    (h : Compiler.coerce op l₁ o₁.kind = .ok l₁') :
    ∃ l₂', Compiler.coerce op l₂ o₂.kind = .ok l₂' ∧
      ∀ r, Complete fields r → (Expr.binary op l₁' o₁).eval r = (Expr.binary op l₂' o₂).eval r := by
  obtain ⟨t, ht⟩ := ho.wellFormed.kind_isSome
  obtain ⟨k, hk⟩ := hl.wellFormed.kind_isSome
  rcases Compiler.coerce_cases h with ⟨hkeep, hkind⟩ | ⟨t', ht', rfl, hconv⟩
  · -- the static compiler keeps the left side: it already has the right side's kind
    rw [hkeep]
    have hkt : k = t := by
      rcases hkind with hnone | hsame
      · rw [ht] at hnone
        cases hnone
      · rw [hk, ht] at hsame
        cases hsame
        rfl
    subst hkt
    rcases ho.kind with hsame | ⟨hnone, -⟩
    · rw [hsame, ht]
      rcases hl.kind with hlsame | ⟨hlnone, -⟩
      · exact ⟨l₂, Compiler.coerce_of_kind_eq (hlsame.trans hk),
          fun r hc => eval_binary_congr (hl.eval r hc) (ho.eval r hc) op⟩
      · refine ⟨_, Compiler.coerce_of_kind_none hlnone, fun r hc => ?_⟩
        have hleft : l₁.eval r = (Expr.convert l₂ k).eval r := by
          rw [eval_convert_static, ← hl.eval r hc, ← eval_convert_static,
            eval_convert_of_kind hc hl.wellFormed hk]
        exact eval_binary_congr hleft (ho.eval r hc) op
    · rw [hnone]
      exact ⟨l₂, rfl, fun r hc => eval_binary_congr (hl.eval r hc) (ho.eval r hc) op⟩
  · -- the static compiler converts the left side to the right side's kind
    rw [ht] at ht'
    cases ht'
    obtain ⟨hkt, hc'⟩ : k ≠ t ∧ k.canConvertTo t = true := by
      rcases hconv with hnone | ⟨k', hk', hne, hc'⟩
      · rw [hk] at hnone
        cases hnone
      · rw [hk] at hk'
        cases hk'
        exact ⟨hne, hc'⟩
    rcases ho.kind with hsame | ⟨hnone, hvalue⟩
    · -- the dynamic compiler converts it too
      have hconverted : Compiler.coerce op l₂ (some t) = .ok (.convert l₂ t) := by
        rcases hl.kind with hlsame | ⟨hlnone, -⟩
        · exact Compiler.coerce_of_canConvertTo (hlsame.trans hk) hkt hc'
        · exact Compiler.coerce_of_kind_none hlnone
      rw [hsame, ht]
      refine ⟨_, hconverted, fun r hc => ?_⟩
      have hleft : (Expr.convert l₁ t).eval r = (Expr.convert l₂ t).eval r := by
        rw [eval_convert_static, eval_convert_static, hl.eval r hc]
      exact eval_binary_congr hleft (ho.eval r hc) op
    · -- the right side is a field looked up by name: the comparison converts the left side
      rw [hnone]
      refine ⟨l₂, rfl, fun r hc => ?_⟩
      obtain ⟨b, hb⟩ := hvalue r hc
      have hb₁ : o₁.eval r = pure b := (ho.eval r hc).trans hb
      have hbkind : b.kind = some t := by
        rw [← ht]
        exact eval_kind_of_complete hc ho.wellFormed hb₁
      rw [eval_comparison_convert_left hop hc hl.wellFormed hk hc' hb₁ hbkind]
      exact eval_binary_congr (hl.eval r hc) (ho.eval r hc) op

theorem binary_bindsAlike {op : Operator} (hg : g.Reads op) {l₁ l₂ o₁ o₂ n₁ : Expr}
    (hl : BindsAlike fields g l₁ l₂) (ho : BindsAlike fields g o₁ o₂)
    (h : Compiler.binary op l₁ o₁ = .ok n₁) :
    ∃ n₂, Compiler.binary op l₂ o₂ = .ok n₂ ∧ BindsAlike fields g n₁ n₂ := by
  have wf := Compiler.binary_wellFormed hg hl.wellFormed ho.wellFormed h
  rcases Compiler.binary_cases h with ⟨hop, hlb, hob, rfl⟩ | ⟨hop, l₁', hcoerce, rfl⟩
  · refine ⟨_, Compiler.binary_connective hop (hl.maybeBool hlb) (ho.maybeBool hob), wf,
      .inl rfl, fun r hc => ?_⟩
    exact eval_binary_congr (hl.eval r hc) (ho.eval r hc) op
  · obtain ⟨l₂', hcoerce₂, heval⟩ := coerce_bindsAlike hop hl ho hcoerce
    refine ⟨.binary op l₂' o₂, ?_, wf, .inl rfl, heval⟩
    rw [Compiler.binary_comparison hop, hcoerce₂]
    rfl

theorem unary_bindsAlike {op : Operator} {o₁ o₂ n₁ : Expr} (ho : BindsAlike fields g o₁ o₂)
    (h : Compiler.unary op o₁ = .ok n₁) :
    ∃ n₂, Compiler.unary op o₂ = .ok n₂ ∧ BindsAlike fields g n₁ n₂ := by
  have wf := Compiler.unary_wellFormed ho.wellFormed h
  obtain ⟨rfl, hob, rfl⟩ := Compiler.unary_cases h
  exact ⟨_, Compiler.unary_not (ho.maybeBool hob), wf, .inl rfl,
    fun r hc => eval_unary_congr (ho.eval r hc) .not⟩

/-- Compiling against the static fields is simulated by compiling without a shape. -/
theorem bindsAlike_simulation (fields : List FieldDef) (g : Grammar) :
    Simulation ⟨.static fields, g⟩ ⟨.dynamic, g⟩ (BindsAlike fields g) where
  grammar_eq := rfl
  field _ _ h := ⟨_, rfl, bindField_bindsAlike h⟩
  literal _ hv := ⟨.literal hv, .inl rfl, fun _ _ => rfl⟩
  combine _ _ _ _ _ _ hcur ho hpend h :=
    Compiler.combine_rel (fun _ _ _ _ ho h => unary_bindsAlike ho h)
      (fun _ _ _ _ _ _ hg hl ho h => binary_bindsAlike hg hl ho h) ho hcur hpend h

end

/-- Binding by position and by name agree. Whenever a text compiles for use against a static field
list, it also compiles without a shape, and on every record of those fields with no null the two
filters give the same outcome: the same boolean or the same error. -/
theorem compileWith_dynamic_agrees (fields : List FieldDef) (text : String) (g : Grammar)
    (fs : Expr) (hs : compileWith text (.static fields) g = .ok fs) :
    ∃ fd, compileWith text .dynamic g = .ok fd ∧
      ∀ r : StaticRecord, r.fields = fields →
        (∀ i (hi : i < fields.length), (r.field i).kind = some fields[i].kind) →
          fs.test r = fd.test r := by
  obtain ⟨hcompile, hroot⟩ := compileWith_eq_ok.mp hs
  obtain ⟨_, hcompile₂, hrel⟩ := (bindsAlike_simulation fields g).compile hcompile
  cases hrel with
  | @some _ fd hsd =>
    refine ⟨fd, compileWith_eq_ok.mpr ⟨hcompile₂, hsd.maybeBool hroot⟩, fun r hfields hkinds => ?_⟩
    show fs.eval r >>= truth = fd.eval r >>= truth
    rw [hsd.eval r ⟨hfields, hkinds⟩]

/-- An integer field compared with a field of another integer kind: the static filter converts
the first field where it is read, the filter compiled without a shape converts its value inside
the comparison. -/
theorem compileWith_dynamic_agrees_on_fields :
    compileWith "[A] > [B]" (.static [⟨"A", .int64⟩, ⟨"B", .int32⟩]) .compatible =
        .ok (.binary .greaterThan (.convert (.field (.bound "A" 0 .int64)) .int32)
          (.field (.bound "B" 1 .int32))) ∧
      ∃ fd, compileWith "[A] > [B]" .dynamic .compatible = .ok fd ∧
        ∀ r : StaticRecord, r.fields = [⟨"A", .int64⟩, ⟨"B", .int32⟩] →
          (∀ i (hi : i < [(⟨"A", .int64⟩ : FieldDef), ⟨"B", .int32⟩].length),
            (r.field i).kind = some ([(⟨"A", .int64⟩ : FieldDef), ⟨"B", .int32⟩][i]).kind) →
            (Expr.binary .greaterThan (.convert (.field (.bound "A" 0 .int64)) .int32)
              (.field (.bound "B" 1 .int32))).test r = fd.test r := by
  have hcompile : compileWith "[A] > [B]" (.static [⟨"A", .int64⟩, ⟨"B", .int32⟩]) .compatible =
      .ok (.binary .greaterThan (.convert (.field (.bound "A" 0 .int64)) .int32)
        (.field (.bound "B" 1 .int32))) := by
    decide
  exact ⟨hcompile, compileWith_dynamic_agrees _ _ _ _ hcompile⟩

end Strainer.Filter
