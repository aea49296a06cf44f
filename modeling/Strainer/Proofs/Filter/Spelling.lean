import Strainer.Proofs.Filter.Reading
import Strainer.Proofs.Filter.WellFormed
import Strainer.Proofs.Time.Reading

/-!
# What compiled trees can spell

Every leaf of a compiled tree was read from text, so it can be written as text again: a field
name holds no `]`, since a field token ends at the first one, and a date is a real date-time,
since the date reader only returns those (`DateTime.read_isValid`). `Expr.Spellable` states
this. It is carried along the token fold: tokens are clean (`tokenize_clean`), each step keeps
every tree of the fold spellable (`step_spellable`), and so does the fold as a whole. The
one-pass compiler computes the token fold when it has more steps than characters
(`level_eq_compileTokens`), so its trees are spellable too (`compile_spellable`).
-/

namespace Strainer.Filter

/-- A token of text: a field name runs to the first `]`, so it holds none. -/
def Token.Clean : Token → Prop
  | .atom (.field name) => ']' ∉ name
  | _ => True

/-- What a tree needs of its leaves to be written as text and read back: field names without a
`]` and dates that are real date-times. -/
def Expr.Spellable : Expr → Prop
  | .literal (.dateTime t) => t.isValid = true
  | .literal _ => True
  | .field f => ']' ∉ f.name.toList
  | .convert e _ => e.Spellable
  | .binary _ l r => l.Spellable ∧ r.Spellable
  | .unary _ e => e.Spellable

/-! ## Clean tokens -/

theorem Token.read_clean (c : Char) (rest : List Char) : ∀ t ∈ (Token.read c rest).1, t.Clean := by
  intro t ht
  unfold Token.read at ht
  split_ifs at ht with hop hdigit hopen hclose hfield
  all_goals simp only [Option.mem_def, Option.some.injEq, reduceCtorEq] at ht
  all_goals first | (subst ht; trivial) | skip
  -- only the field token has something to check
  subst ht
  intro hmem
  simpa using List.mem_takeWhile_imp hmem

theorem tokenize_clean (pos : Nat) (cs : List Char) : ∀ l ∈ tokenize pos cs, l.token.Clean := by
  fun_induction tokenize pos cs with
  | case1 => simp
  | case2 pos c rest after next t ht ih =>
    intro l hl
    rcases List.mem_cons.mp hl with rfl | hl
    · exact Token.read_clean c rest t ht
    · exact ih l hl
  | case3 => assumption

/-! ## Spellable trees along the fold -/

/-- The tree of a frame, if any, is spellable. -/
def Frame.Spellable (f : Frame) : Prop :=
  ∀ e ∈ f.current, e.Spellable

/-- Every tree the fold holds is spellable. -/
def Fold.Spellable : Fold → Prop
  | .reading top outer => top.Spellable ∧ ∀ f ∈ outer, f.Spellable
  | .stopped r => ∀ e ∈ r, e.Spellable

/-- A property that each step of a fold keeps, for the items of the list, holds after the fold. -/
theorem Except.foldlM_preserves {ε α β : Type} {f : β → α → Except ε β} {I : β → Prop}
    {ls : List α} (hstep : ∀ b a b', a ∈ ls → I b → f b a = .ok b' → I b') :
    ∀ {b b' : β}, I b → ls.foldlM f b = .ok b' → I b' := by
  induction ls with
  | nil =>
    intro b b' hb h
    cases h
    exact hb
  | cons a ls ih =>
    intro b b' hb h
    rw [List.foldlM_cons] at h
    cases ha : f b a with
    | error e => rw [ha] at h; cases h
    | ok b₁ =>
      rw [ha] at h
      exact ih (fun b a' b'' ha' => hstep b a' b'' (List.mem_cons_of_mem a ha'))
        (hstep b a b₁ List.mem_cons_self hb ha) h

namespace Compiler

/-- Each node `combine` builds is spellable when its parts are: a conversion adds no leaf. -/
theorem combine_spellable {cur : Option Expr} {pend : List Operator} {o : Expr}
    {x : Option Expr} (hcur : ∀ e ∈ cur, e.Spellable) (ho : o.Spellable)
    (h : combine cur pend o = .ok x) : ∀ e ∈ x, e.Spellable := by
  have hrel : Option.Rel (fun a b => a = b ∧ a.Spellable) cur cur := by
    cases cur with
    | none => exact .none
    | some a => exact .some ⟨rfl, hcur a rfl⟩
  obtain ⟨_, -, hx⟩ := combine_rel (P := fun _ => True)
    (fun op o₁ o₂ n ⟨heq, hs⟩ hn => by
      subst heq
      obtain ⟨-, -, rfl⟩ := unary_cases hn
      exact ⟨_, hn, rfl, hs⟩)
    (fun op l₁ l₂ o₁ o₂ n _ ⟨hleq, hl⟩ ⟨hoeq, hs⟩ hn => by
      subst hleq hoeq
      refine ⟨n, hn, rfl, ?_⟩
      rcases binary_cases hn with ⟨-, -, -, rfl⟩ | ⟨-, l', hcoerce, rfl⟩
      · exact ⟨hl, hs⟩
      · rcases coerce_cases hcoerce with ⟨rfl, -⟩ | ⟨t, -, rfl, -⟩
        · exact ⟨hl, hs⟩
        · exact ⟨hl, hs⟩)
    ⟨rfl, ho⟩ hrel (fun _ _ => trivial) h
  intro e he
  cases hx with
  | none => cases he
  | some hab => cases he; exact hab.2

variable {c : Compiler}

/-- A clean atom is read as a spellable operand. -/
theorem atom_spellable {a : Atom} {pos : Nat} {e : Expr} (ha : (Token.atom a).Clean)
    (h : c.atom a pos = .ok e) : e.Spellable := by
  cases a with
  | field name =>
    obtain ⟨f, rfl, hname, -⟩ := bindField_cases h
    show ']' ∉ f.name.toList
    rw [hname, String.toList_ofList]
    exact ha
  | string body =>
    cases h
    trivial
  | date body =>
    simp only [atom, dateLiteral] at h
    split at h
    · rename_i t hread
      cases h
      exact DateTime.read_isValid hread
    all_goals cases h
  | number digits =>
    simp only [atom, numberLiteral] at h
    split at h
    · cases h
      trivial
    · cases h

theorem feed_spellable {f f' : Frame} {o : Expr} (hf : f.Spellable) (ho : o.Spellable)
    (h : f.feed o = .ok f') : f'.Spellable := by
  unfold Frame.feed at h
  cases hc : combine f.current f.pending o with
  | error e => rw [hc] at h; cases h
  | ok x =>
    rw [hc] at h
    cases h
    exact combine_spellable hf ho hc

theorem close_spellable {f g g' : Frame} (hf : f.Spellable) (hg : g.Spellable)
    (h : f.close g = .ok g') : g'.Spellable := by
  unfold Frame.close at h
  split at h
  · cases h
  · rename_i group hgroup
    exact feed_spellable hg (hf group hgroup) h

/-- One step of the fold over a clean token keeps every tree spellable. -/
theorem step_spellable {s s' : Fold} {l : Lexeme} (hs : s.Spellable) (hl : l.token.Clean)
    (h : c.step s l = .ok s') : s'.Spellable := by
  obtain ⟨t, pos⟩ := l
  cases s with
  | stopped r =>
    cases h
    exact hs
  | reading f outer =>
    obtain ⟨hf, houter⟩ := hs
    cases t with
    | operator run =>
      simp only [step] at h
      split at h
      · cases h
        exact ⟨hf, houter⟩
      · cases h
    | openGroup =>
      simp only [step] at h
      split_ifs at h
      cases h
      refine ⟨(fun _ he => by cases he), ?_⟩
      intro g hg
      rcases List.mem_cons.mp hg with rfl | hg
      · exact hf
      · exact houter g hg
    | closeGroup =>
      cases outer with
      | nil =>
        cases h
        exact hf
      | cons g outer =>
        simp only [step] at h
        cases hc : f.close g with
        | error e => rw [hc] at h; cases h
        | ok g' =>
          rw [hc] at h
          cases h
          exact ⟨close_spellable hf (houter g List.mem_cons_self) hc,
            fun g'' hg'' => houter g'' (List.mem_cons_of_mem g hg'')⟩
    | atom a =>
      simp only [step] at h
      cases ha : c.atom a pos with
      | error e => rw [ha] at h; cases h
      | ok o =>
        simp only [ha, bind, Except.bind] at h
        cases hfeed : f.feed o with
        | error e => rw [hfeed] at h; cases h
        | ok f' =>
          rw [hfeed] at h
          cases h
          exact ⟨feed_spellable hf (atom_spellable hl ha) hfeed, houter⟩

/-- The fold over clean tokens keeps every tree spellable. -/
theorem foldlM_spellable {ls : List Lexeme} (hls : ∀ l ∈ ls, l.token.Clean) :
    ∀ {s s' : Fold}, s.Spellable → ls.foldlM c.step s = .ok s' → s'.Spellable :=
  Except.foldlM_preserves fun _ l _ hl hs h => step_spellable hs (hls l hl) h

theorem closeAll_spellable : ∀ {f : Frame} {outer : List Frame} {x : Option Expr},
    f.Spellable → (∀ g ∈ outer, g.Spellable) → f.closeAll outer = .ok x → ∀ e ∈ x, e.Spellable
  | f, [], x, hf, _, h => by
    cases h
    exact hf
  | f, g :: outer, x, hf, houter, h => by
    simp only [Frame.closeAll] at h
    cases hc : f.close g with
    | error e => rw [hc] at h; cases h
    | ok g' =>
      simp only [hc, bind, Except.bind] at h
      exact closeAll_spellable (close_spellable hf (houter g List.mem_cons_self) hc)
        (fun g'' hg'' => houter g'' (List.mem_cons_of_mem g hg'')) h

theorem finish_spellable {s : Fold} {x : Option Expr} (hs : s.Spellable) (h : s.finish = .ok x) :
    ∀ e ∈ x, e.Spellable := by
  cases s with
  | stopped r =>
    cases h
    exact hs
  | reading f outer => exact closeAll_spellable hs.1 hs.2 h

/-- Every tree the token fold of a text returns is spellable. -/
theorem compileTokens_spellable {cs : List Char} {x : Option Expr}
    (h : c.compileTokens (tokenize 0 cs) = .ok x) : ∀ e ∈ x, e.Spellable := by
  unfold compileTokens resume at h
  cases hfold : (tokenize 0 cs).foldlM c.step (.reading ⟨none, []⟩ []) with
  | error e => rw [hfold] at h; cases h
  | ok s =>
    rw [hfold] at h
    have hstart : (Fold.reading ⟨none, []⟩ []).Spellable :=
      ⟨(fun _ he => by cases he), (fun _ hg => by cases hg)⟩
    exact finish_spellable (foldlM_spellable (tokenize_clean 0 cs) hstart hfold) h

/-- With more steps than characters, the scan of the top level computes what the token fold
computes. -/
theorem level_eq_compileTokens {fuel : Nat} {cs : List Char} (hfuel : cs.length < fuel) :
    (c.level fuel 0 cs 0 none []).map (·.1) = c.compileTokens (tokenize 0 cs) := by
  have hlevel := fuelAgrees (c := c) fuel 0 cs 0 none [] [] hfuel rfl
  unfold compileTokens
  revert hlevel
  cases c.level fuel 0 cs 0 none [] with
  | error e => intro hlevel; rw [hlevel]; rfl
  | ok r =>
    obtain ⟨cur, rest, pos⟩ := r
    rintro ⟨-, hstop, pending, hfold⟩
    rw [hfold]
    -- the top level stops at the end of the text, or at a `)` after which nothing is read
    rcases hstop with rfl | hclose
    · rw [tokenize_nil]; rfl
    · obtain ⟨more, rfl⟩ := List.head?_eq_some_iff.mp hclose
      rw [tokenize_cons_of_read (Token.read_closeGroup more), resume_cons]
      simp only [step, bind, Except.bind, resume_stopped]
      rfl

/-- Every tree the compiler returns can be spelled: its field names hold no `]` and its dates
are real date-times. -/
theorem compile_spellable {text : String} {e : Expr} (h : c.compile text = .ok (some e)) :
    e.Spellable := by
  have htokens : c.compileTokens (tokenize 0 text.toList) = .ok (some e) := by
    rw [← level_eq_compileTokens (Nat.lt_succ_self _)]
    exact h
  exact compileTokens_spellable htokens e rfl

end Compiler

end Strainer.Filter
