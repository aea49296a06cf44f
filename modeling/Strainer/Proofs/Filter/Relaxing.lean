import Strainer.Proofs.Filter.Simulation
import Strainer.Proofs.Filter.Spelling

/-!
# The compatible table is the strict one, relaxed

The two operator tables read every operator run alike except the bare `<`: the strict table reads
a strict less-than, the compatible table less-or-equal. Relaxing (`relax`) replaces every strict
less-than by less-or-equal, in the nodes of a tree and in the operator an error names.

The main statement, `compile_compatible_eq_relax`, is that compiling with the compatible table
is compiling with the strict one and relaxing the outcome: a tree is relaxed, so is an error, and
nothing else changes; the same holds of `compileWith`, which also asks for a boolean filter.

The proof runs through the token fold of `Tokens`. The tokens of a text do not depend on the
table, the operands they stand for hold no operator, and each step of the fold commutes with
relaxing: looking an operator up, building a node (`binary_relax`, `unary_relax`), folding an
operand into a level (`combine_relax`), and opening and closing groups (`step_relax`).
-/

namespace Strainer.Filter

/-- The operator the compatible table reads where the strict table reads `op`. -/
def Operator.relax : Operator → Operator
  | .lessThan => .lessOrEqual
  | op => op

/-- A table reads an operator run as the strict table does, relaxed when it is compatible. -/
theorem Grammar.operator?_compatible (symbol : String) :
    Grammar.compatible.operator? symbol = (Grammar.strict.operator? symbol).map Operator.relax := by
  unfold Grammar.operator?
  split <;> rfl

/-- The tree with every strict less-than relaxed to less-or-equal. -/
def Expr.relax : Expr → Expr
  | .literal v => .literal v
  | .field f => .field f
  | .convert e t => .convert e.relax t
  | .binary op l r => .binary op.relax l.relax r.relax
  | .unary op e => .unary op.relax e.relax

/-- Relaxing keeps the kind of every node. -/
@[simp] theorem Expr.kind_relax (e : Expr) : e.relax.kind = e.kind := by
  cases e <;> rfl

/-- The error with the operator it names relaxed. -/
def CompileError.relax : CompileError → CompileError
  | .typeMismatch s t op => .typeMismatch s t op.relax
  | .misplacedOperator op => .misplacedOperator op.relax
  | e => e

/-- An outcome of compiling with its value mapped by `f` and its error relaxed. -/
def relaxed {α : Type} (f : α → α) (r : Except CompileError α) : Except CompileError α :=
  (r.map f).mapError CompileError.relax

@[simp] theorem relaxed_ok {α : Type} (f : α → α) (a : α) : relaxed f (.ok a) = .ok (f a) := rfl

@[simp] theorem relaxed_error {α : Type} (f : α → α) (e : CompileError) :
    relaxed f (.error e : Except CompileError α) = .error e.relax := rfl

theorem ok_bind {α β : Type} (a : α) (f : α → Except CompileError β) :
    (Except.ok a >>= f) = f a := rfl

/-! ## Building one node -/

namespace Compiler

theorem requireBoolean_relax (op : Operator) (e : Expr) :
    requireBoolean op.relax e.relax = relaxed id (requireBoolean op e) := by
  unfold requireBoolean
  rw [Expr.kind_relax]
  cases e.kind with
  | none => rfl
  | some k => by_cases hk : k = .bool <;> simp [hk, CompileError.relax]

theorem coerce_relax (op : Operator) (left : Expr) (target : Option Kind) :
    coerce op.relax left.relax target = relaxed Expr.relax (coerce op left target) := by
  unfold coerce
  rw [Expr.kind_relax]
  cases target with
  | none => rfl
  | some t =>
    cases left.kind with
    | none => rfl
    | some k =>
      by_cases hkt : k = t
      · simp [hkt]
      · by_cases hconv : k.canConvertTo t <;> simp [hkt, hconv, CompileError.relax, Expr.relax]

/-- A connective checks both operands, and relaxing changes neither check. -/
theorem connective_relax (op : Operator) (l r : Expr) :
    (requireBoolean op.relax l.relax >>= fun _ => requireBoolean op.relax r.relax >>= fun _ =>
        pure (Expr.binary op.relax l.relax r.relax)) =
      relaxed Expr.relax (requireBoolean op l >>= fun _ => requireBoolean op r >>= fun _ =>
        pure (Expr.binary op l r)) := by
  rw [requireBoolean_relax, requireBoolean_relax]
  cases requireBoolean op l <;> cases requireBoolean op r <;> rfl

/-- A comparison converts its left operand, and relaxing commutes with the conversion. -/
theorem comparison_relax (op : Operator) (l r : Expr) :
    (coerce op.relax l.relax r.relax.kind >>= fun left => pure (Expr.binary op.relax left r.relax)) =
      relaxed Expr.relax (coerce op l r.kind >>= fun left => pure (Expr.binary op left r)) := by
  rw [Expr.kind_relax, coerce_relax]
  cases coerce op l r.kind <;> rfl

theorem binary_relax (op : Operator) (l r : Expr) :
    binary op.relax l.relax r.relax = relaxed Expr.relax (binary op l r) := by
  cases op with
  | not => rfl
  | and => exact connective_relax .and l r
  | or => exact connective_relax .or l r
  | notEqual => exact comparison_relax .notEqual l r
  | equal => exact comparison_relax .equal l r
  | greaterThan => exact comparison_relax .greaterThan l r
  | greaterOrEqual => exact comparison_relax .greaterOrEqual l r
  | lessThan => exact comparison_relax .lessThan l r
  | lessOrEqual => exact comparison_relax .lessOrEqual l r

theorem unary_relax (op : Operator) (e : Expr) :
    unary op.relax e.relax = relaxed Expr.relax (unary op e) := by
  cases op
  case not =>
    show (requireBoolean Operator.not.relax e.relax >>= fun _ => pure (Expr.unary .not e.relax)) =
      relaxed Expr.relax (requireBoolean .not e >>= fun _ => pure (Expr.unary .not e))
    rw [requireBoolean_relax]
    cases requireBoolean .not e <;> rfl
  all_goals rfl

/-- Folding an operand into a level commutes with relaxing: every waiting operator builds the
relaxed node of the one it built before. -/
theorem combine_relax (o : Expr) :
    ∀ (cur : Option Expr) (pend : List Operator),
      combine (cur.map Expr.relax) (pend.map Operator.relax) o.relax =
        relaxed (Option.map Expr.relax) (combine cur pend o) := by
  intro cur pend
  -- on the waiting operators, the most recent first
  induction pend generalizing cur with
  | nil => cases cur <;> rfl
  | cons op ops ih =>
    cases cur with
    | none =>
      rw [List.map_cons, Option.map_none, combine_none_cons, combine_none_cons, unary_relax]
      cases unary op o with
      | error e => rfl
      | ok node => exact ih (some node)
    | some left =>
      rw [List.map_cons, Option.map_some, combine_some_cons, combine_some_cons, binary_relax]
      cases binary op left o with
      | error e => rfl
      | ok node => exact ih (some node)

end Compiler

/-! ## The token fold -/

/-- A level with its tree and waiting operators relaxed. -/
def Frame.relax (f : Frame) : Frame := ⟨f.current.map Expr.relax, f.pending.map Operator.relax⟩

/-- The fold with every level relaxed. -/
def Fold.relax : Fold → Fold
  | .reading top outer => .reading top.relax (outer.map Frame.relax)
  | .stopped r => .stopped (r.map Expr.relax)

namespace Frame

theorem feed_relax (f : Frame) (o : Expr) : f.relax.feed o.relax = relaxed Frame.relax (f.feed o) := by
  unfold feed Frame.relax
  rw [Compiler.combine_relax]
  cases Compiler.combine f.current f.pending o <;> rfl

theorem close_relax (f g : Frame) : f.relax.close g.relax = relaxed Frame.relax (f.close g) := by
  obtain ⟨cur, pend⟩ := f
  cases cur with
  | none => rfl
  | some group => exact feed_relax g group

theorem closeAll_relax (f : Frame) (outer : List Frame) :
    f.relax.closeAll (outer.map Frame.relax) = relaxed (Option.map Expr.relax) (f.closeAll outer) := by
  -- on the groups still open, innermost first
  induction outer generalizing f with
  | nil => rfl
  | cons g outer ih =>
    rw [List.map_cons, closeAll, closeAll, close_relax]
    cases f.close g with
    | error e => rfl
    | ok g' => exact ih g'

end Frame

theorem Fold.finish_relax (s : Fold) : s.relax.finish = relaxed (Option.map Expr.relax) s.finish := by
  cases s with
  | reading top outer => exact Frame.closeAll_relax top outer
  | stopped r => rfl

namespace Compiler

variable (shape : Shape)

/-- The operands tokens stand for hold no operator, so relaxing changes neither them nor their
errors. -/
theorem atom_relax (c : Compiler) (a : Atom) (pos : Nat) :
    relaxed Expr.relax (c.atom a pos) = c.atom a pos := by
  cases a with
  | field name =>
    show relaxed Expr.relax (c.bindField (String.ofList name)) = c.bindField (String.ofList name)
    unfold bindField
    split
    · split
      · split <;> rfl
      · rfl
    · rfl
  | string body => rfl
  | date body =>
    show relaxed Expr.relax (dateLiteral body pos) = dateLiteral body pos
    unfold dateLiteral
    generalize DateTime.read (String.ofList body) = r
    cases r <;> rfl
  | number digits =>
    show relaxed Expr.relax (numberLiteral digits pos) = numberLiteral digits pos
    unfold numberLiteral
    dsimp only
    split <;> rfl

/-- One token of the fold, read with the compatible table from a relaxed fold, gives the relaxed
outcome of reading it with the strict table. -/
theorem step_relax (s : Fold) (t : Lexeme) :
    (Compiler.mk shape .compatible).step s.relax t = relaxed Fold.relax ((Compiler.mk shape .strict).step s t) := by
  obtain ⟨token, pos⟩ := t
  cases s with
  | stopped r => rfl
  | reading f outer =>
    cases token with
    | operator run =>
      simp only [Fold.relax, step, Grammar.operator?_compatible]
      cases Grammar.strict.operator? (String.ofList run) <;> rfl
    | openGroup =>
      simp only [Fold.relax, step, List.length_map]
      split <;> rfl
    | closeGroup =>
      cases outer with
      | nil => rfl
      | cons g outer =>
        simp only [Fold.relax, List.map_cons, step, Frame.close_relax]
        cases f.close g <;> rfl
    | atom a =>
      simp only [Fold.relax, step]
      -- the atom is read alike by both tables, and relaxing leaves it as it is
      have hatom := atom_relax (Compiler.mk shape .strict) a pos
      have hsame : (Compiler.mk shape .compatible).atom a pos = (Compiler.mk shape .strict).atom a pos :=
        rfl
      rw [hsame]
      cases hread : (Compiler.mk shape .strict).atom a pos with
      | error e =>
        rw [hread, relaxed_error] at hatom
        exact congrArg Except.error (Except.error.inj hatom).symm
      | ok o =>
        rw [hread, relaxed_ok] at hatom
        have ho : o.relax = o := Except.ok.inj hatom
        show (f.relax.feed o).map _ = relaxed Fold.relax ((f.feed o).map _)
        rw [← ho, Frame.feed_relax, ho]
        cases f.feed o <;> rfl

/-- The fold over any tokens commutes with relaxing. -/
theorem resume_relax (ts : List Lexeme) (s : Fold) :
    (Compiler.mk shape .compatible).resume ts s.relax =
      relaxed (Option.map Expr.relax) ((Compiler.mk shape .strict).resume ts s) := by
  -- on the tokens, one step at a time
  induction ts generalizing s with
  | nil => exact Fold.finish_relax s
  | cons t ts ih =>
    rw [resume_cons, resume_cons, step_relax]
    cases (Compiler.mk shape .strict).step s t with
    | error e => rfl
    | ok s' => exact ih s'

theorem compile_relax (text : String) :
    (Compiler.mk shape .compatible).compile text =
      relaxed (Option.map Expr.relax) ((Compiler.mk shape .strict).compile text) := by
  unfold compile
  rw [level_eq_compileTokens (Nat.lt_succ_self _), level_eq_compileTokens (Nat.lt_succ_self _)]
  exact resume_relax shape _ (.reading ⟨none, []⟩ [])

end Compiler

theorem compileWith_relax (text : String) (shape : Shape) :
    compileWith text shape .compatible = relaxed Expr.relax (compileWith text shape .strict) := by
  unfold compileWith
  rw [Compiler.compile_relax]
  cases (Compiler.mk shape .strict).compile text with
  | error e => rfl
  | ok x =>
    cases x with
    | none => rfl
    | some e =>
      simp only [relaxed_ok, Option.map_some, ok_bind, Expr.kind_relax]
      cases e.kind with
      | none => rfl
      | some k => by_cases hk : k = .bool <;> simp [hk, CompileError.relax]

/-- Compiling with the compatible table is compiling with the strict table and relaxing every
strict less-than to less-or-equal: in the nodes of the tree, or in the operator of a type mismatch
or a misplaced operator. Nothing else changes, whether the text compiles or not, and the same
holds of `compileWith`. -/
theorem compile_compatible_eq_relax (shape : Shape) (text : String) :
    (Compiler.mk shape .compatible).compile text =
        (((Compiler.mk shape .strict).compile text).map (Option.map Expr.relax)).mapError
          CompileError.relax ∧
      compileWith text shape .compatible =
        ((compileWith text shape .strict).map Expr.relax).mapError CompileError.relax :=
  ⟨Compiler.compile_relax shape text, compileWith_relax text shape⟩

end Strainer.Filter
