import Strainer.Proofs.Filter.Simulation

/-!
# Compiled trees are well formed

What the compiler's checks guarantee of every tree it returns, whatever the text, the shape and
the operator table: `!` stands over a boolean operand, the connectives over boolean operands, and
a comparison has sides of one kind, the left converted to the right's kind where the compiler
inserted a conversion, and only where that conversion exists. Fields are bound to the first
declared field of their name, literals are those text can spell, and the strict less-than comes
only from the strict table.

`WellFormed` states this node by node, a conversion having no rule of its own. The steps are
`unary_wellFormed` and `binary_wellFormed`: each node the compiler builds from well-formed trees
is well formed. `combine` and the scan carry them to every tree the compiler returns
(`compile_wellFormed`).
-/

namespace Strainer.Filter

/-- How a shape binds a field: a static shape to the first declared field of that name, with
its position and kind; a dynamic shape by name. -/
def Shape.Binds : Shape → FieldRef → Prop
  | .static fields, .bound name i k =>
    fields[i]? = some ⟨name, k⟩ ∧ ∀ j < i, ∀ f ∈ fields[j]?, f.name ≠ name
  | .dynamic, .byName _ => True
  | _, _ => False

/-- The node may stand where a boolean is needed: its kind is boolean, or known only when the
filter runs. -/
def Expr.MaybeBool (e : Expr) : Prop :=
  e.kind = none ∨ e.kind = some .bool

/-- The trees the compiler builds against the shape `sh` with the table `g`. A conversion has no
rule of its own: it stands only as the left side of a comparison whose right side has the
conversion's kind (`compareConverted`). -/
inductive WellFormed (sh : Shape) (g : Grammar) : Expr → Prop
  | literal {v : Value} (hv : v.IsLiteral) : WellFormed sh g (.literal v)
  | field {f : FieldRef} (hf : sh.Binds f) : WellFormed sh g (.field f)
  | not {e : Expr} (he : e.MaybeBool) (wf : WellFormed sh g e) : WellFormed sh g (.unary .not e)
  | connective {op : Operator} {l r : Expr} (hop : op.isConnective) (hl : l.MaybeBool)
      (hr : r.MaybeBool) (wfl : WellFormed sh g l) (wfr : WellFormed sh g r) :
      WellFormed sh g (.binary op l r)
  | compare {op : Operator} {l r : Expr} (hop : op.isComparison) (hg : g.Reads op)
      (hkind : r.kind = none ∨ l.kind = r.kind) (wfl : WellFormed sh g l)
      (wfr : WellFormed sh g r) : WellFormed sh g (.binary op l r)
  | compareConverted {op : Operator} {e r : Expr} {t : Kind} (hop : op.isComparison)
      (hg : g.Reads op) (hr : r.kind = some t)
      (he : e.kind = none ∨ ∃ k, e.kind = some k ∧ k ≠ t ∧ k.canConvertTo t)
      (wfe : WellFormed sh g e) (wfr : WellFormed sh g r) :
      WellFormed sh g (.binary op (.convert e t) r)

theorem WellFormed.not_convert {sh : Shape} {g : Grammar} {e : Expr} {t : Kind} :
    ¬WellFormed sh g (.convert e t) := by
  intro h
  cases h

/-! ## What each check lets through -/

namespace Compiler

theorem requireBoolean_eq_ok {op : Operator} {e : Expr} :
    requireBoolean op e = .ok () ↔ e.MaybeBool := by
  unfold requireBoolean Expr.MaybeBool
  split
  · rename_i k hk
    by_cases hb : k = .bool
    · simp [hk, hb]
    · simp [hk, hb]
  · rename_i hk
    simp [hk]

/-- What `coerce` can do: keep the left side when the right side's kind is unknown or already
the left side's, or convert the left side to that kind when its own kind is unknown or
converts to it. -/
theorem coerce_cases {op : Operator} {l l' : Expr} {target : Option Kind}
    (h : coerce op l target = .ok l') :
    (l' = l ∧ (target = none ∨ l.kind = target)) ∨
      ∃ t, target = some t ∧ l' = .convert l t ∧
        (l.kind = none ∨ ∃ k, l.kind = some k ∧ k ≠ t ∧ k.canConvertTo t) := by
  unfold coerce at h
  cases target with
  | none => cases h; exact .inl ⟨rfl, .inl rfl⟩
  | some t =>
    dsimp only at h
    cases hk : l.kind with
    | none =>
      rw [hk] at h
      cases h
      exact .inr ⟨t, rfl, rfl, .inl rfl⟩
    | some k =>
      rw [hk] at h
      dsimp only at h
      -- the mismatch branch fails, so `split_ifs` leaves the kept and the converted left side
      split_ifs at h with hkt hconv
      · cases h; exact .inl ⟨rfl, .inr (by rw [hkt])⟩
      · cases h
        simp only [Bool.not_eq_true', Bool.not_eq_false] at hconv
        exact .inr ⟨t, rfl, rfl, .inr ⟨k, rfl, hkt, hconv⟩⟩

/-- What `binary` can build: a connective over two operands that may be boolean, or a
comparison whose left side went through `coerce`. -/
theorem binary_cases {op : Operator} {l r e : Expr} (h : binary op l r = .ok e) :
    (op.isConnective ∧ l.MaybeBool ∧ r.MaybeBool ∧ e = .binary op l r) ∨
      (op.isComparison ∧ ∃ l', coerce op l r.kind = .ok l' ∧ e = .binary op l' r) := by
  have hcomparison : ∀ l', coerce op l r.kind = .ok l' → (pure (Expr.binary op l' r) :
      Except CompileError Expr) = .ok e → e = .binary op l' r := by
    intro l' _ he
    cases he
    rfl
  cases op
  all_goals simp only [binary, bind, Except.bind] at h
  case not => cases h
  case and | or =>
    split at h
    · cases h
    · rename_i hl
      split at h
      · cases h
      · rename_i hr
        cases h
        exact .inl ⟨rfl, requireBoolean_eq_ok.mp hl, requireBoolean_eq_ok.mp hr, rfl⟩
  all_goals
    split at h
    · cases h
    · rename_i l' hl
      exact .inr ⟨rfl, l', hl, hcomparison l' hl h⟩

theorem unary_cases {op : Operator} {o e : Expr} (h : unary op o = .ok e) :
    op = .not ∧ o.MaybeBool ∧ e = .unary .not o := by
  unfold unary at h
  split_ifs at h with hop
  · subst hop
    simp only [bind, Except.bind] at h
    split at h
    · cases h
    · rename_i hb
      cases h
      exact ⟨rfl, requireBoolean_eq_ok.mp hb, rfl⟩

/-! ## The invariant, node by node -/

section

variable {sh : Shape} {g : Grammar}

theorem binary_wellFormed {op : Operator} {l r e : Expr} (hg : g.Reads op)
    (wfl : WellFormed sh g l) (wfr : WellFormed sh g r) (h : binary op l r = .ok e) :
    WellFormed sh g e := by
  rcases binary_cases h with ⟨hop, hl, hr, rfl⟩ | ⟨hop, l', hcoerce, rfl⟩
  · exact .connective hop hl hr wfl wfr
  · rcases coerce_cases hcoerce with ⟨rfl, hkind⟩ | ⟨t, ht, rfl, hconv⟩
    · exact .compare hop hg hkind wfl wfr
    · exact .compareConverted hop hg ht hconv wfl wfr

theorem unary_wellFormed {op : Operator} {o e : Expr} (wfo : WellFormed sh g o)
    (h : unary op o = .ok e) : WellFormed sh g e := by
  obtain ⟨-, ho, rfl⟩ := unary_cases h
  exact .not ho wfo

end

/-- A field is bound as the shape says: under a static shape to the first declared field of its
name, with that field's position and kind; under a dynamic shape by its name. -/
theorem bindField_cases {c : Compiler} {name : String} {e : Expr} (h : c.bindField name = .ok e) :
    ∃ f, e = .field f ∧ f.name = name ∧ c.shape.Binds f := by
  unfold bindField at h
  split at h
  · rename_i fields hsh
    split at h
    · rename_i i hidx
      split at h
      · rename_i f hf
        cases h
        rw [hsh]
        obtain ⟨hlt, hname, hfirst⟩ := List.findIdx?_eq_some_iff_getElem.mp hidx
        rw [List.getElem?_eq_getElem hlt, Option.some_inj] at hf
        subst hf
        refine ⟨_, rfl, rfl, ?_, fun j hj f' hf' hsame => ?_⟩
        · rw [List.getElem?_eq_getElem hlt, ← eq_of_beq hname]
        · rw [Option.mem_def, List.getElem?_eq_getElem (hj.trans hlt), Option.some_inj] at hf'
          subst hf'
          exact hfirst j hj (beq_iff_eq.mpr hsame)
      · cases h
    · cases h
  · rename_i hsh
    cases h
    rw [hsh]
    exact ⟨_, rfl, rfl, trivial⟩

theorem bindField_wellFormed {c : Compiler} {g : Grammar} {name : String} {e : Expr}
    (h : c.bindField name = .ok e) : WellFormed c.shape g e := by
  obtain ⟨f, rfl, -, hf⟩ := bindField_cases h
  exact .field hf

end Compiler

/-! ## Every compiled tree -/

/-- Related by being one tree, well formed if there is one. -/
theorem rel_wellFormed_iff {sh : Shape} {g : Grammar} {x y : Option Expr} :
    Option.Rel (fun a b => a = b ∧ WellFormed sh g a) x y ↔
      x = y ∧ ∀ e ∈ x, WellFormed sh g e := by
  constructor
  · intro h
    cases h with
    | none => exact ⟨rfl, by simp⟩
    | some hab => obtain ⟨rfl, wf⟩ := hab; exact ⟨rfl, by simpa using wf⟩
  · rintro ⟨rfl, wf⟩
    cases x with
    | none => exact .none
    | some a => exact .some ⟨rfl, wf a rfl⟩

/-- A compiler simulates itself with its trees kept well formed. -/
theorem wellFormed_simulation (c : Compiler) :
    Simulation c c (fun a b => a = b ∧ WellFormed c.shape c.grammar a) where
  grammar_eq := rfl
  field name e h := ⟨e, h, rfl, Compiler.bindField_wellFormed h⟩
  literal _ hv := ⟨rfl, .literal hv⟩
  combine _ _ _ _ _ _ hcur ho hpend h := by
    -- each node is built from one well-formed tree on both sides
    refine Compiler.combine_rel ?_ ?_ ho hcur hpend h
    · rintro op o₁ o₂ n ⟨rfl, wf⟩ hn
      exact ⟨n, hn, rfl, Compiler.unary_wellFormed wf hn⟩
    · rintro op l₁ l₂ o₁ o₂ n hg ⟨rfl, wfl⟩ ⟨rfl, wfo⟩ hn
      exact ⟨n, hn, rfl, Compiler.binary_wellFormed hg wfl wfo hn⟩

/-- A filter is compiled for use when the text compiles to a tree that may stand where a boolean
is needed. -/
theorem compileWith_eq_ok {text : String} {sh : Shape} {g : Grammar} {e : Expr} :
    compileWith text sh g = .ok e ↔ (Compiler.mk sh g).compile text = .ok (some e) ∧ e.MaybeBool := by
  unfold compileWith Expr.MaybeBool
  cases (Compiler.mk sh g).compile text with
  | error err => exact ⟨(fun h => by cases h), (fun h => by cases h.1)⟩
  | ok x =>
    cases x with
    | none => exact ⟨(fun h => by cases h), (fun h => by cases h.1)⟩
    | some e' =>
      dsimp only [bind, Except.bind]
      constructor
      · intro h
        split at h
        · rename_i k hk
          split_ifs at h with hbool
          cases h
          exact ⟨rfl, .inr (by rw [hk, hbool])⟩
        · rename_i hk
          cases h
          exact ⟨rfl, .inl hk⟩
      · rintro ⟨h, hroot⟩
        cases h
        rcases hroot with hk | hk <;> rw [hk]
        rfl

/-- A filter compiled for use is a well-formed tree that may stand where a boolean is needed. -/
theorem compileWith_wellFormed {text : String} {sh : Shape} {g : Grammar} {e : Expr}
    (h : compileWith text sh g = .ok e) : WellFormed sh g e ∧ e.MaybeBool := by
  obtain ⟨hcompile, hroot⟩ := compileWith_eq_ok.mp h
  obtain ⟨_, -, hrel⟩ := (wellFormed_simulation ⟨sh, g⟩).compile hcompile
  obtain ⟨-, wf⟩ := rel_wellFormed_iff.mp hrel
  exact ⟨wf e rfl, hroot⟩

/-- The compiler's checks, read together: every tree it returns is well formed against its
shape and its operator table. -/
theorem compile_wellFormed (c : Compiler) (text : String) (e : Expr)
    (h : c.compile text = .ok (some e)) : WellFormed c.shape c.grammar e := by
  obtain ⟨_, -, hrel⟩ := (wellFormed_simulation c).compile h
  obtain ⟨-, wf⟩ := rel_wellFormed_iff.mp hrel
  exact wf e rfl

/-- `[A] == 1` over a 64-bit field `A`: the field is converted to the literal's 32-bit kind, a
conversion that exists. -/
theorem compile_converted_field_wellFormed :
    (⟨.static [⟨"A", .int64⟩], .compatible⟩ : Compiler).compile "[A] == 1" =
        .ok (some (.binary .equal (.convert (.field (.bound "A" 0 .int64)) .int32)
          (.literal (.int32 1)))) ∧
      WellFormed (.static [⟨"A", .int64⟩]) .compatible
        (.binary .equal (.convert (.field (.bound "A" 0 .int64)) .int32)
          (.literal (.int32 1))) := by
  have hcompile : (⟨.static [⟨"A", .int64⟩], .compatible⟩ : Compiler).compile "[A] == 1" =
      .ok (some (.binary .equal (.convert (.field (.bound "A" 0 .int64)) .int32)
        (.literal (.int32 1)))) := by
    decide
  exact ⟨hcompile, compile_wellFormed _ _ _ hcompile⟩

end Strainer.Filter
