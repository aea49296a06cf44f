import Strainer.Proofs.Filter.Spelling
import Strainer.Proofs.Filter.Soundness
import Strainer.Proofs.Time.Range

/-!
# Where a time past the year range stops compiling

A date-time holds years up to 9999, and an RFC 3339 stamp can name an instant after that
(`DateTime.read_eq_beyondRange_iff`). Compiling fails out of range (`isDateOutOfRange`) only on
a date token of the text whose body reads so (`compile_dateOutOfRange`): every other step of the
token fold, and every check that builds a node, fails in other ways. The one-pass scan agrees
with the token fold (`level_eq_compileTokens`), so this holds of `compile` and `compileWith`.

The scan itself stops only at the end of its text or at a `)` (`level_stops`), and the token fold
keeps at most `maxDepth` groups open around the level it reads (`foldlM_openGroups`), so the scan
nests at most `maxDepth + 1` levels deep.
-/

namespace Strainer.Filter

/-- The groups open around the level the fold reads: how deep below the top level it is. -/
def Fold.openGroups : Fold → Nat
  | .reading _ outer => outer.length
  | .stopped _ => 0

/-- A date token whose body reads as an instant past the year range. -/
def Token.BeyondRange : Token → Prop
  | .atom (.date body) => DateTime.read (String.ofList body) = .beyondRange
  | _ => False

/-! ## Failures out of range -/

namespace Compiler

variable {c : Compiler}

theorem requireBoolean_inRange (op : Operator) (e : Expr) :
    Except.Meets (fun err => err.isDateOutOfRange = false) (fun _ => True) (requireBoolean op e) := by
  unfold requireBoolean
  split
  · split_ifs <;> trivial
  · trivial

theorem coerce_inRange (op : Operator) (left : Expr) (target : Option Kind) :
    Except.Meets (fun err => err.isDateOutOfRange = false) (fun _ => True) (coerce op left target) := by
  unfold coerce
  split
  · trivial
  · split
    · split_ifs <;> trivial
    · trivial

theorem binary_inRange (op : Operator) (left right : Expr) :
    Except.Meets (fun err => err.isDateOutOfRange = false) (fun _ => True) (binary op left right) := by
  unfold binary
  split
  · rfl
  all_goals first
    | exact (requireBoolean_inRange _ left).bind fun _ _ =>
        (requireBoolean_inRange _ right).bind fun _ _ => by trivial
    | exact (coerce_inRange _ left right.kind).bind fun _ _ => by trivial

theorem unary_inRange (op : Operator) (operand : Expr) :
    Except.Meets (fun err => err.isDateOutOfRange = false) (fun _ => True) (unary op operand) := by
  unfold unary
  split_ifs
  · exact (requireBoolean_inRange op operand).bind fun _ _ => by trivial
  · rfl

/-- Folding an operand into a level builds nodes only, and no node fails out of range. -/
theorem combine_inRange (pend : List Operator) (o : Expr) :
    ∀ cur, Except.Meets (fun err => err.isDateOutOfRange = false) (fun _ => True)
      (combine cur pend o) := by
  induction pend with
  | nil =>
    intro cur
    cases cur <;> trivial
  | cons op ops ih =>
    intro cur
    cases cur with
    | none =>
      rw [combine_none_cons]
      exact (unary_inRange op o).bind fun node _ => ih (some node)
    | some a =>
      rw [combine_some_cons]
      exact (binary_inRange op a o).bind fun node _ => ih (some node)

theorem bindField_inRange (name : String) :
    Except.Meets (fun err => err.isDateOutOfRange = false) (fun _ => True) (c.bindField name) := by
  unfold bindField
  split
  · split
    · split <;> trivial
    · trivial
  · trivial

theorem feed_inRange (f : Frame) (o : Expr) :
    Except.Meets (fun err => err.isDateOutOfRange = false) (fun _ => True) (f.feed o) :=
  (combine_inRange f.pending o f.current).map fun _ _ => trivial

theorem close_inRange (f g : Frame) :
    Except.Meets (fun err => err.isDateOutOfRange = false) (fun _ => True) (f.close g) := by
  unfold Frame.close
  split
  · rfl
  · exact feed_inRange g _

theorem closeAll_inRange : ∀ (f : Frame) (outer : List Frame),
    Except.Meets (fun err => err.isDateOutOfRange = false) (fun _ => True) (f.closeAll outer)
  | _, [] => trivial
  | f, g :: outer => (close_inRange f g).bind fun g' _ => closeAll_inRange g' outer

theorem finish_inRange (s : Fold) :
    Except.Meets (fun err => err.isDateOutOfRange = false) (fun _ => True) s.finish := by
  cases s with
  | stopped r => trivial
  | reading f outer => exact closeAll_inRange f outer

theorem meets_of_inRange {α : Type} {x : Except CompileError α} {Q : Prop}
    (hx : Except.Meets (fun err => err.isDateOutOfRange = false) (fun _ => True) x) :
    Except.Meets (fun err => err.isDateOutOfRange = true → Q) (fun _ => True) x :=
  hx.mono (fun err h hdate => by rw [h] at hdate; cases hdate) (fun _ _ => trivial)

theorem atom_beyondRange (a : Atom) (pos : Nat) :
    Except.Meets (fun err => err.isDateOutOfRange = true → (Token.atom a).BeyondRange)
      (fun _ => True) (c.atom a pos) := by
  cases a with
  | field name => exact meets_of_inRange (bindField_inRange _)
  | string body => trivial
  | date body =>
    simp only [atom, dateLiteral]
    split
    · trivial
    · intro h
      cases h
    · rename_i hread
      exact fun _ => hread
  | number digits =>
    simp only [atom, numberLiteral]
    split
    · trivial
    · intro h
      cases h

/-- One step of the token fold fails out of range only on a date token whose body reads past
the range. -/
theorem step_beyondRange (s : Fold) (l : Lexeme) :
    Except.Meets (fun err => err.isDateOutOfRange = true → l.token.BeyondRange) (fun _ => True)
      (c.step s l) := by
  obtain ⟨t, pos⟩ := l
  cases s with
  | stopped r => trivial
  | reading f outer =>
    cases t with
    | operator run =>
      simp only [step]
      split
      · trivial
      · exact fun h => by cases h
    | openGroup =>
      simp only [step]
      split_ifs
      · exact fun h => by cases h
      · trivial
    | closeGroup =>
      cases outer with
      | nil => trivial
      | cons g outer =>
        exact meets_of_inRange ((close_inRange f g).map fun _ _ => trivial)
    | atom a =>
      have hatom := (atom_beyondRange (c := c) a pos).bind fun o _ =>
        meets_of_inRange (feed_inRange f o)
      exact hatom.map fun _ _ => trivial

theorem foldlM_beyondRange (ls : List Lexeme) :
    ∀ s : Fold, Except.Meets
      (fun err => err.isDateOutOfRange = true → ∃ l ∈ ls, l.token.BeyondRange) (fun _ => True)
      (ls.foldlM c.step s) := by
  induction ls with
  | nil => intro s; trivial
  | cons l ls ih =>
    intro s
    rw [List.foldlM_cons]
    refine ((step_beyondRange s l).mono ?_ (fun _ _ => trivial)).bind fun s' _ =>
      (ih s').mono ?_ (fun _ _ => trivial)
    · intro err h hdate
      exact ⟨l, List.mem_cons_self, h hdate⟩
    · intro err h hdate
      obtain ⟨l', hl', hbeyond⟩ := h hdate
      exact ⟨l', List.mem_cons_of_mem l hl', hbeyond⟩

theorem compileTokens_beyondRange (ls : List Lexeme) :
    Except.Meets (fun err => err.isDateOutOfRange = true → ∃ l ∈ ls, l.token.BeyondRange)
      (fun _ => True) (c.compileTokens ls) :=
  (foldlM_beyondRange ls _).bind fun s _ => meets_of_inRange (finish_inRange s)

/-- Compiling fails out of range only on a date token of the text, `#body#`, whose body reads as
an instant past the year range. -/
theorem compile_dateOutOfRange {text : String} {err : CompileError}
    (h : c.compile text = .error err) (hdate : err.isDateOutOfRange = true) :
    ∃ body pos, ⟨.atom (.date body), pos⟩ ∈ tokenize 0 text.toList ∧
      DateTime.read (String.ofList body) = .beyondRange := by
  have htokens : c.compileTokens (tokenize 0 text.toList) = .error err := by
    rw [← level_eq_compileTokens (Nat.lt_succ_self _)]
    exact h
  have hmeets := compileTokens_beyondRange (c := c) (tokenize 0 text.toList)
  rw [htokens] at hmeets
  obtain ⟨⟨t, pos⟩, hl, hbeyond⟩ := hmeets hdate
  -- only a date atom reads past the range
  cases t with
  | atom a =>
    cases a with
    | date body => exact ⟨body, pos, hl, hbeyond⟩
    | _ => exact hbeyond.elim
  | _ => exact hbeyond.elim

/-! ## How far and how deep the scan goes -/

/-- With enough steps, the scan of the top level stops inside the text, at its end or at a `)`:
its steps are never the limit. -/
theorem level_stops (c : Compiler) (text : String) {x : Option Expr} {rest : List Char} {pos : Nat}
    (h : c.level (text.toList.length + 1) 0 text.toList 0 none [] = .ok (x, rest, pos)) :
    rest <:+ text.toList ∧ (rest = [] ∨ rest.head? = some ')') := by
  have hlevel := fuelAgrees (c := c) (text.toList.length + 1) 0 text.toList 0 none [] []
    (Nat.lt_succ_self _) rfl
  rw [h] at hlevel
  exact ⟨hlevel.1, hlevel.2.1⟩

/-- One step of the fold opens a group only below `maxDepth` open groups. -/
theorem step_openGroups {s s' : Fold} {l : Lexeme} (hs : s.openGroups ≤ maxDepth)
    (h : c.step s l = .ok s') : s'.openGroups ≤ maxDepth := by
  obtain ⟨t, pos⟩ := l
  cases s with
  | stopped r =>
    cases h
    exact hs
  | reading f outer =>
    simp only [Fold.openGroups] at hs
    cases t with
    | operator run =>
      simp only [step] at h
      split at h
      · cases h
        exact hs
      · cases h
    | openGroup =>
      simp only [step] at h
      split_ifs at h with hdepth
      cases h
      simp only [Fold.openGroups, List.length_cons]
      omega
    | closeGroup =>
      cases outer with
      | nil =>
        cases h
        exact Nat.zero_le _
      | cons g outer =>
        simp only [step] at h
        cases hc : f.close g with
        | error e => rw [hc] at h; cases h
        | ok g' =>
          rw [hc] at h
          cases h
          simp only [Fold.openGroups, List.length_cons] at hs ⊢
          omega
    | atom a =>
      simp only [step] at h
      cases hx : c.atom a pos >>= f.feed with
      | error e => rw [hx] at h; cases h
      | ok f' =>
        rw [hx] at h
        cases h
        exact hs

theorem foldlM_openGroups (ls : List Lexeme) :
    ∀ {s s' : Fold}, s.openGroups ≤ maxDepth → ls.foldlM c.step s = .ok s' →
      s'.openGroups ≤ maxDepth :=
  Except.foldlM_preserves fun _ _ _ _ hs h => step_openGroups hs h

end Compiler

theorem compileWith_dateOutOfRange {text : String} {sh : Shape} {g : Grammar} {err : CompileError}
    (h : compileWith text sh g = .error err) (hdate : err.isDateOutOfRange = true) :
    ∃ body pos, ⟨.atom (.date body), pos⟩ ∈ tokenize 0 text.toList ∧
      DateTime.read (String.ofList body) = .beyondRange := by
  unfold compileWith at h
  cases hc : (Compiler.mk sh g).compile text with
  | error e =>
    rw [hc] at h
    cases h
    exact Compiler.compile_dateOutOfRange hc hdate
  | ok x =>
    -- what is checked after the compiler is the root: an operand, and boolean when known
    rw [hc] at h
    simp only [bind, Except.bind] at h
    split at h
    · cases h
      cases hdate
    · split at h
      · split_ifs at h
        cases h
        cases hdate
      · cases h

end Strainer.Filter
