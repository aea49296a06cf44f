import Mathlib.Data.List.TakeWhile
import Strainer.Filter.Compile

/-!
# Compiling one text with two compilers

Two compilers that read the same text take the same steps: the scan depends only on the text and
the operator table. What can differ is the trees they build, since fields are bound against each
compiler's shape. A `Simulation` says that the trees stay related all along the scan: the two
compilers read one operator table, bind each field to related trees, treat every literal the
text can spell alike, and `combine` keeps related trees related. Then whenever the first compiler
compiles a text, the second compiles it too, to a related tree (`Simulation.compile`).

Two instances are used: a compiler related to itself by an invariant of its trees, and the same
text bound against a static shape and by name.
-/

namespace Strainer

/-- The literals filter text can spell: a non-negative 32-bit integer, a string without a quote,
or a date. -/
def Value.IsLiteral : Value → Prop
  | .int32 n => 0 ≤ n.toInt
  | .string s => '\'' ∉ s.toList
  | .dateTime _ => True
  | _ => False

namespace Filter

namespace Compiler

theorem numberLiteral_isLiteral {digits : List Char} {pos : Nat} {e : Expr}
    (h : numberLiteral digits pos = .ok e) : ∃ v : Value, e = .literal v ∧ v.IsLiteral := by
  unfold numberLiteral at h
  dsimp only at h
  split at h
  · rename_i hle
    cases h
    refine ⟨_, rfl, ?_⟩
    show 0 ≤ (Int32.ofNat (Scanner.digitsValue digits)).toInt
    rw [Int32.toInt_ofNat_of_lt (by omega)]
    exact Int.natCast_nonneg _
  · cases h

theorem dateLiteral_isLiteral {body : List Char} {pos : Nat} {e : Expr}
    (h : dateLiteral body pos = .ok e) : ∃ v : Value, e = .literal v ∧ v.IsLiteral := by
  unfold dateLiteral at h
  split at h
  · cases h
    exact ⟨_, rfl, trivial⟩
  all_goals cases h

/-- A string literal runs to the next quote, so it holds none. -/
theorem stringLiteral_isLiteral (rest : List Char) :
    (Value.string (String.ofList (Scanner.delimited '\'' rest).1)).IsLiteral := by
  show '\'' ∉ (String.ofList (rest.takeWhile (· ≠ '\''))).toList
  rw [String.toList_ofList]
  intro hmem
  simpa using List.mem_takeWhile_imp hmem

end Compiler

/-- The operators a table reads: all of them, but the strict less-than only in the strict
table. -/
def Grammar.Reads (g : Grammar) (op : Operator) : Prop :=
  op = .lessThan → g = .strict

theorem Grammar.reads_of_operator? {g : Grammar} {symbol : String} {op : Operator}
    (h : g.operator? symbol = some op) : g.Reads op := by
  intro hlt
  subst hlt
  cases g
  · -- the compatible table reads a bare `<` as `<=`
    unfold Grammar.operator? at h
    split at h <;> cases h
  · rfl

/-! ## Folding an operand into a level -/

theorem Except.bind_eq_ok {ε α β : Type} {x : Except ε α} {f : α → Except ε β} {b : β} :
    x >>= f = .ok b ↔ ∃ a, x = .ok a ∧ f a = .ok b := by
  cases x <;> simp [bind, Except.bind]

namespace Compiler

theorem combine_none_nil (o : Expr) : combine none [] o = .ok (some o) := rfl

theorem combine_some_nil (cur o : Expr) : combine (some cur) [] o = .ok (some cur) := rfl

/-- The most recent waiting operator is applied first, and its node becomes the tree the next
one applies to. -/
theorem combine_some_cons (cur : Expr) (op : Operator) (ops : List Operator) (o : Expr) :
    combine (some cur) (op :: ops) o =
      binary op cur o >>= fun node => combine (some node) ops o := by
  cases h : binary op cur o <;> cases ops <;>
    simp [combine, List.foldlM_cons, h, bind, Except.bind, pure, Except.pure, Functor.map, Except.map]

theorem combine_none_cons (op : Operator) (ops : List Operator) (o : Expr) :
    combine none (op :: ops) o = unary op o >>= fun node => combine (some node) ops o := by
  cases h : unary op o <;> cases ops <;>
    simp [combine, List.foldlM_cons, h, bind, Except.bind, pure, Except.pure, Functor.map, Except.map]

/-- `combine` keeps trees related when each operator's node does: the waiting operators are
applied one at a time, each to the tree the one before built. -/
theorem combine_rel {R : Expr → Expr → Prop} {P : Operator → Prop}
    (hunary : ∀ op o₁ o₂ n₁, R o₁ o₂ → unary op o₁ = .ok n₁ →
      ∃ n₂, unary op o₂ = .ok n₂ ∧ R n₁ n₂)
    (hbinary : ∀ op l₁ l₂ o₁ o₂ n₁, P op → R l₁ l₂ → R o₁ o₂ → binary op l₁ o₁ = .ok n₁ →
      ∃ n₂, binary op l₂ o₂ = .ok n₂ ∧ R n₁ n₂)
    {o₁ o₂ : Expr} (ho : R o₁ o₂) :
    ∀ {cur₁ cur₂ : Option Expr} {pend : List Operator} {x₁ : Option Expr},
      Option.Rel R cur₁ cur₂ → (∀ op ∈ pend, P op) → combine cur₁ pend o₁ = .ok x₁ →
        ∃ x₂, combine cur₂ pend o₂ = .ok x₂ ∧ Option.Rel R x₁ x₂ := by
  intro cur₁ cur₂ pend
  -- on the waiting operators: the first builds a node that the rest extend
  induction pend generalizing cur₁ cur₂ with
  | nil =>
    intro x₁ hcur _ h
    cases hcur with
    | none =>
      rw [combine_none_nil] at h
      cases h
      exact ⟨_, combine_none_nil o₂, .some ho⟩
    | @some a₁ a₂ ha =>
      rw [combine_some_nil] at h
      cases h
      exact ⟨_, combine_some_nil a₂ o₂, .some ha⟩
  | cons op ops ih =>
    intro x₁ hcur hpend h
    have hops : ∀ op ∈ ops, P op := fun op' h' => hpend op' (List.mem_cons_of_mem op h')
    cases hcur with
    | none =>
      rw [combine_none_cons] at h
      obtain ⟨node₁, hnode₁, hrest⟩ := Except.bind_eq_ok.mp h
      obtain ⟨node₂, hnode₂, hnode⟩ := hunary op o₁ o₂ node₁ ho hnode₁
      obtain ⟨x₂, hx₂, hx⟩ := ih (.some hnode) hops hrest
      refine ⟨x₂, ?_, hx⟩
      rw [combine_none_cons, hnode₂]
      exact hx₂
    | @some a₁ a₂ ha =>
      rw [combine_some_cons] at h
      obtain ⟨node₁, hnode₁, hrest⟩ := Except.bind_eq_ok.mp h
      obtain ⟨node₂, hnode₂, hnode⟩ :=
        hbinary op a₁ a₂ o₁ o₂ node₁ (hpend op List.mem_cons_self) ha ho hnode₁
      obtain ⟨x₂, hx₂, hx⟩ := ih (.some hnode) hops hrest
      refine ⟨x₂, ?_, hx⟩
      rw [combine_some_cons, hnode₂]
      exact hx₂

end Compiler

/-- Two compilers whose trees stay related by `R` while they read the same text. -/
structure Simulation (c₁ c₂ : Compiler) (R : Expr → Expr → Prop) : Prop where
  grammar_eq : c₁.grammar = c₂.grammar
  field : ∀ name e₁, c₁.bindField name = .ok e₁ → ∃ e₂, c₂.bindField name = .ok e₂ ∧ R e₁ e₂
  literal : ∀ v : Value, v.IsLiteral → R (.literal v) (.literal v)
  combine : ∀ cur₁ cur₂ pend o₁ o₂ x₁, Option.Rel R cur₁ cur₂ → R o₁ o₂ →
    (∀ op ∈ pend, c₁.grammar.Reads op) → Compiler.combine cur₁ pend o₁ = .ok x₁ →
      ∃ x₂, Compiler.combine cur₂ pend o₂ = .ok x₂ ∧ Option.Rel R x₁ x₂

/-- The second of two outcomes answers the first: whenever the first is a tree with the rest of
the text and a position, the second is a related tree with the same rest and position. -/
def Answers {β : Type} (R : Expr → Expr → Prop) (r₁ r₂ : Except CompileError (Option Expr × β)) :
    Prop :=
  ∀ x₁ rest, r₁ = .ok (x₁, rest) → ∃ x₂, r₂ = .ok (x₂, rest) ∧ Option.Rel R x₁ x₂

namespace Simulation

variable {c₁ c₂ : Compiler} {R : Expr → Expr → Prop}

/-- A literal operand is read alike by both compilers. -/
theorem literal_operand (sim : Simulation c₁ c₂ R) {o : Except CompileError Expr}
    (ho : ∀ e, o = .ok e → ∃ v : Value, e = .literal v ∧ v.IsLiteral) :
    ∀ e₁, o = .ok e₁ → ∃ e₂, o = .ok e₂ ∧ R e₁ e₂ := by
  intro e₁ h
  obtain ⟨v, rfl, hv⟩ := ho e₁ h
  exact ⟨_, h, sim.literal v hv⟩

/-- Related operands folded into related levels, each followed by the rest of its level. -/
theorem next (sim : Simulation c₁ c₂ R) {n depth pos : Nat} {after : List Char}
    {cur₁ cur₂ : Option Expr} {pend : List Operator} (hcur : Option.Rel R cur₁ cur₂)
    (hpend : ∀ op ∈ pend, c₁.grammar.Reads op)
    {o₁ o₂ : Except CompileError Expr} (ho : ∀ e₁, o₁ = .ok e₁ → ∃ e₂, o₂ = .ok e₂ ∧ R e₁ e₂)
    (ih : ∀ a₁ a₂, Option.Rel R a₁ a₂ →
      Answers R (c₁.level n depth after pos a₁ []) (c₂.level n depth after pos a₂ [])) :
    Answers R
      (match o₁ >>= Compiler.combine cur₁ pend with
        | .error e => .error e
        | .ok cur' => c₁.level n depth after pos cur' [])
      (match o₂ >>= Compiler.combine cur₂ pend with
        | .error e => .error e
        | .ok cur' => c₂.level n depth after pos cur' []) := by
  intro x₁ rest h
  cases o₁ with
  | error e => cases h
  | ok e₁ =>
    obtain ⟨e₂, rfl, he⟩ := ho e₁ rfl
    cases h₁ : Compiler.combine cur₁ pend e₁ with
    | error e => simp only [bind, Except.bind, h₁] at h; cases h
    | ok a₁ =>
      obtain ⟨a₂, h₂, ha⟩ := sim.combine cur₁ cur₂ pend e₁ e₂ a₁ hcur he hpend h₁
      simp only [bind, Except.bind, h₁] at h
      simp only [bind, Except.bind, h₂]
      exact ih a₁ a₂ ha x₁ rest h

/-- A group is compiled alike by both compilers, from no tree at all, one level deeper; its tree
is the operand that the level around it combines next. -/
theorem group (sim : Simulation c₁ c₂ R) {n depth pos : Nat} {rest : List Char}
    {cur₁ cur₂ : Option Expr} {pend : List Operator} (hcur : Option.Rel R cur₁ cur₂)
    (hpend : ∀ op ∈ pend, c₁.grammar.Reads op)
    (ih : ∀ (depth : Nat) (cs : List Char) (pos : Nat) (a₁ a₂ : Option Expr) (pend : List Operator),
      Option.Rel R a₁ a₂ → (∀ op ∈ pend, c₁.grammar.Reads op) →
        Answers R (c₁.level n depth cs pos a₁ pend) (c₂.level n depth cs pos a₂ pend)) :
    Answers R
      (match c₁.level n (depth + 1) rest (pos + 1) none [] with
        | .error e => .error e
        | .ok (none, _, _) => .error .emptyExpression
        | .ok (some group, after, pos') =>
          match after with
          | _ :: more =>
            match Except.ok group >>= Compiler.combine cur₁ pend with
            | .error e => .error e
            | .ok cur' => c₁.level n depth more (pos' + 1) cur' []
          | [] =>
            match Except.ok group >>= Compiler.combine cur₁ pend with
            | .error e => .error e
            | .ok cur' => c₁.level n depth [] pos' cur' [])
      (match c₂.level n (depth + 1) rest (pos + 1) none [] with
        | .error e => .error e
        | .ok (none, _, _) => .error .emptyExpression
        | .ok (some group, after, pos') =>
          match after with
          | _ :: more =>
            match Except.ok group >>= Compiler.combine cur₂ pend with
            | .error e => .error e
            | .ok cur' => c₂.level n depth more (pos' + 1) cur' []
          | [] =>
            match Except.ok group >>= Compiler.combine cur₂ pend with
            | .error e => .error e
            | .ok cur' => c₂.level n depth [] pos' cur' []) := by
  have hinner := ih (depth + 1) rest (pos + 1) none none [] Option.Rel.none (by simp)
  intro x₁ rest' h
  cases h₁ : c₁.level n (depth + 1) rest (pos + 1) none [] with
  | error e => rw [h₁] at h; cases h
  | ok r₁ =>
    obtain ⟨g₁, after, pos'⟩ := r₁
    obtain ⟨g₂, h₂, hg⟩ := hinner g₁ (after, pos') h₁
    rw [h₁] at h
    rw [h₂]
    cases hg with
    | none => cases h
    | @some a b hg =>
      have ho : ∀ e₁, (Except.ok a : Except CompileError Expr) = .ok e₁ →
          ∃ e₂, (Except.ok b : Except CompileError Expr) = .ok e₂ ∧ R e₁ e₂ :=
        fun e₁ he => by cases he; exact ⟨b, rfl, hg⟩
      cases after with
      | nil =>
        exact sim.next hcur hpend ho (fun a₁ a₂ ha => ih depth [] pos' a₁ a₂ [] ha (by simp)) x₁
          rest' h
      | cons d more =>
        exact sim.next hcur hpend ho
          (fun a₁ a₂ ha => ih depth more (pos' + 1) a₁ a₂ [] ha (by simp)) x₁ rest' h

/-- Both compilers take the same steps through any text, with related trees throughout. -/
theorem level_answers (sim : Simulation c₁ c₂ R) (fuel : Nat) :
    ∀ (depth : Nat) (cs : List Char) (pos : Nat) (cur₁ cur₂ : Option Expr) (pend : List Operator),
      Option.Rel R cur₁ cur₂ → (∀ op ∈ pend, c₁.grammar.Reads op) →
        Answers R (c₁.level fuel depth cs pos cur₁ pend) (c₂.level fuel depth cs pos cur₂ pend) := by
  -- on the fuel, one case per character class in the order the scan tests them
  induction fuel with
  | zero =>
    intro depth cs pos cur₁ cur₂ pend hcur _ x₁ rest h
    rw [Compiler.level] at h ⊢
    cases h
    exact ⟨cur₂, rfl, hcur⟩
  | succ n ih =>
    intro depth cs pos cur₁ cur₂ pend hcur hpend
    cases cs with
    | nil =>
      intro x₁ rest h
      rw [Compiler.level] at h ⊢
      cases h
      exact ⟨cur₂, rfl, hcur⟩
    | cons ch rest =>
      rw [Compiler.level, Compiler.level]
      by_cases hblank : Text.isAsciiBlank ch
      · rw [if_pos hblank, if_pos hblank]
        exact ih depth rest (pos + 1) cur₁ cur₂ pend hcur hpend
      rw [if_neg hblank, if_neg hblank]
      by_cases hop : isOperatorSymbol ch
      · rw [if_pos hop, if_pos hop]
        generalize Scanner.operatorRun (ch :: rest) = run
        obtain ⟨run, after⟩ := run
        dsimp only
        rw [← sim.grammar_eq]
        cases hread : c₁.grammar.operator? (String.ofList run) with
        | none => intro x₁ rest' h; cases h
        | some op =>
          refine ih depth after _ cur₁ cur₂ (op :: pend) hcur fun op' hop' => ?_
          rcases List.mem_cons.mp hop' with rfl | hop'
          · exact Grammar.reads_of_operator? hread
          · exact hpend op' hop'
      rw [if_neg hop, if_neg hop]
      by_cases hopen : ch = '('
      · subst hopen
        rw [if_pos rfl, if_pos rfl]
        split_ifs with hdeep
        · intro x₁ rest' h; cases h
        exact sim.group hcur hpend ih
      rw [if_neg hopen, if_neg hopen]
      by_cases hclose : ch = ')'
      · subst hclose
        rw [if_pos rfl, if_pos rfl]
        intro x₁ rest' h
        cases h
        exact ⟨cur₂, rfl, hcur⟩
      rw [if_neg hclose, if_neg hclose]
      by_cases hfield : ch = '['
      · subst hfield
        rw [if_pos rfl, if_pos rfl]
        exact sim.next hcur hpend (sim.field _) fun a₁ a₂ ha => ih depth _ _ a₁ a₂ [] ha (by simp)
      rw [if_neg hfield, if_neg hfield]
      by_cases hstring : ch = '\''
      · subst hstring
        rw [if_pos rfl, if_pos rfl]
        exact sim.next hcur hpend
          (sim.literal_operand fun e he => ⟨_, (Except.ok.inj he).symm, Compiler.stringLiteral_isLiteral rest⟩)
          fun a₁ a₂ ha => ih depth _ _ a₁ a₂ [] ha (by simp)
      rw [if_neg hstring, if_neg hstring]
      by_cases hdate : ch = '#'
      · subst hdate
        rw [if_pos rfl, if_pos rfl]
        -- the date read is named, or unifying with `next` would try to evaluate it
        obtain ⟨body, after⟩ := Scanner.delimited '#' rest
        dsimp only
        generalize hdate : Compiler.dateLiteral body pos = o
        exact sim.next hcur hpend
          (sim.literal_operand fun _ he => Compiler.dateLiteral_isLiteral (hdate.trans he))
          fun a₁ a₂ ha => ih depth _ _ a₁ a₂ [] ha (by simp)
      rw [if_neg hdate, if_neg hdate]
      by_cases hdigit : ch.isDigit
      · rw [if_pos hdigit, if_pos hdigit]
        exact sim.next hcur hpend (sim.literal_operand fun _ => Compiler.numberLiteral_isLiteral)
          fun a₁ a₂ ha => ih depth _ _ a₁ a₂ [] ha (by simp)
      rw [if_neg hdigit, if_neg hdigit]
      exact ih depth rest _ cur₁ cur₂ pend hcur hpend

/-- Whenever the first compiler compiles a text, the second compiles it to a related tree. -/
theorem compile (sim : Simulation c₁ c₂ R) {text : String} {x₁ : Option Expr}
    (h : c₁.compile text = .ok x₁) : ∃ x₂, c₂.compile text = .ok x₂ ∧ Option.Rel R x₁ x₂ := by
  unfold Compiler.compile at h ⊢
  dsimp only at h ⊢
  cases h₁ : c₁.level (text.toList.length + 1) 0 text.toList 0 none [] with
  | error e => rw [h₁] at h; cases h
  | ok r₁ =>
    obtain ⟨y₁, rest⟩ := r₁
    rw [h₁] at h
    cases h
    obtain ⟨x₂, h₂, hx⟩ := sim.level_answers _ 0 text.toList 0 none none [] Option.Rel.none (by simp) y₁
      rest h₁
    rw [h₂]
    exact ⟨x₂, rfl, hx⟩

end Simulation

end Filter

end Strainer
