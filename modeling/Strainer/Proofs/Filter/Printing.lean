import Strainer.Proofs.Filter.Spelling
import Strainer.Proofs.Filter.Binding

/-!
# Printed trees compile back

The text of a tree (`Expr.render`) shows every group, and the compiler inserts the conversions
of a comparison by itself, so the text of a compiled tree with its conversions left out
(`Expr.erase`) compiles to the tree again (`compile_render_erase`). Three things limit this. A
`!` is read only as the first operand of its level, so no `!` may stand directly over another or
as the right side of an operator. The text of a date leaves out its fraction of a second. And the
text opens one group per operator node, while groups may nest only `maxDepth` deep. The eager
fold builds deeper trees than that from flat text: `[A] && [A] && …` with 257 operands compiles,
and its printed text, 257 groups deep, does not (`render_conjunctions_too_deep`).

The proof follows the two passes of `Strainer.Proofs.Filter.Tokens`. The text of a tree is cut
into the tree's tokens (`tokenize_render`), and the fold over these tokens combines the tree into
the level where it stands (`foldlM_tokens`).
-/

namespace Strainer.Filter

namespace Expr

/-- The tree with every conversion replaced by its operand. -/
def erase : Expr → Expr
  | convert e _ => e.erase
  | binary op l r => binary op l.erase r.erase
  | unary op e => unary op e.erase
  | e => e

/-- How deep the groups of the tree's text nest. -/
def groupDepth : Expr → Nat
  | literal _ | field _ => 0
  | convert e _ => e.groupDepth + 1
  | binary _ l r => max l.groupDepth r.groupDepth + 1
  | unary _ e => e.groupDepth

def isUnary : Expr → Bool
  | unary _ _ => true
  | _ => false

/-- The trees whose text reads back where it stands: no `!` directly over another `!` or as the
right side of an operator, and no date with a fraction of a second, which the text leaves out. -/
def reprintable : Expr → Bool
  | literal (.dateTime t) => t.nanosecond == 0
  | literal _ | field _ => true
  | convert e _ => e.reprintable
  | binary _ l r => l.reprintable && r.reprintable && !r.isUnary
  | unary _ e => e.reprintable && !e.isUnary

/-- The tokens of the tree's text. A conversion is left out: it is no part of the text of the
trees that are read back. -/
def tokens : Expr → List Token
  | literal (.string s) => [.atom (.string s.toList)]
  | literal (.dateTime t) => [.atom (.date t.render.toList)]
  | literal v => [.atom (.number v.display.toList)]
  | field f => [.atom (.field f.name.toList)]
  | convert e _ => e.tokens
  | binary op l r => .openGroup :: l.tokens ++ .operator op.symbol.toList :: r.tokens ++ [.closeGroup]
  | unary op e => .operator op.symbol.toList :: e.tokens

/-- The trees whose text the scanner cuts into the tree's tokens: literals that text can spell,
field names without a `]`, no conversion, and no `!` directly over another. -/
def Lexable : Expr → Prop
  | literal v => v.IsLiteral
  | field f => ']' ∉ f.name.toList
  | convert _ _ => False
  | binary _ l r => l.Lexable ∧ r.Lexable
  | unary _ e => e.Lexable ∧ e.isUnary = false

end Expr

open Strainer.Filter.Expr

theorem Operator.symbol_spec (op : Operator) :
    op.symbol.toList ≠ [] ∧ ∀ c ∈ op.symbol.toList, isOperatorSymbol c := by
  cases op <;> simp [Operator.symbol, isOperatorSymbol]

/-- Each operator's symbol reads back as the operator in every table that reads it. -/
theorem Grammar.operator?_symbol {g : Grammar} {op : Operator} (hg : g.Reads op) :
    g.operator? op.symbol = some op := by
  cases op <;> cases g <;> first | rfl | exact absurd (hg rfl) (by decide)

theorem isOperatorSymbol_of_isDigit {c : Char} (h : c.isDigit) : isOperatorSymbol c = false := by
  obtain ⟨h0, h9⟩ := Char.isDigit_iff_toNat.mp h
  simp only [isOperatorSymbol, decide_eq_false_iff_not]
  rintro (rfl | rfl | rfl | rfl | rfl | rfl) <;> simp_all

theorem Value.display_int32 {n : Int32} (h : 0 ≤ n.toInt) :
    (Value.int32 n).display.toList = Nat.toDigits 10 n.toInt.natAbs := by
  simp [Value.display, Value.render?, Exact.intText, Exact.decimalDigits, not_lt.mpr h]

/-! ## Cutting printed text into tokens -/

section Lexing

variable {p : Char → Bool} {run rest : List Char}

theorem render_toList_string (s : String) :
    (literal (.string s)).render.toList = '\'' :: (s.toList ++ ['\'']) := by
  simp [render, String.toList_append]

theorem render_toList_dateTime (t : DateTime) :
    (literal (.dateTime t)).render.toList = '#' :: (t.render.toList ++ ['#']) := by
  simp [render, String.toList_append]

theorem render_toList_field (f : FieldRef) :
    (field f).render.toList = '[' :: (f.name.toList ++ [']']) := by
  simp [render, String.toList_append]

theorem render_toList_binary (op : Operator) (l r : Expr) :
    (binary op l r).render.toList =
      '(' :: (l.render.toList ++ ' ' :: (op.symbol.toList ++ ' ' :: (r.render.toList ++ [')']))) := by
  simp [render, String.toList_append]

theorem render_toList_unary (op : Operator) (o : Expr) :
    (unary op o).render.toList = op.symbol.toList ++ o.render.toList := by
  simp [render, String.toList_append]

theorem takeWhile_append_stop (hrun : ∀ c ∈ run, p c = true) (hrest : ∀ c ∈ rest.head?, p c = false) :
    (run ++ rest).takeWhile p = run := by
  rw [List.takeWhile_append_of_pos hrun]
  cases rest with
  | nil => simp
  | cons c rest => simp [hrest c rfl]

theorem dropWhile_append_stop (hrun : ∀ c ∈ run, p c = true) (hrest : ∀ c ∈ rest.head?, p c = false) :
    (run ++ rest).dropWhile p = rest := by
  rw [List.dropWhile_append_of_pos hrun]
  cases rest with
  | nil => simp
  | cons c rest => simp [hrest c rfl]

/-- A delimited token whose body holds no closing character ends at the one after the body. -/
theorem Scanner.delimited_append {close : Char} {body : List Char} (h : close ∉ body) :
    Scanner.delimited close (body ++ close :: rest) = (body, rest) := by
  have hbody : ∀ c ∈ body, decide (c ≠ close) = true :=
    fun c hc => decide_eq_true fun heq => h (heq ▸ hc)
  have hclose : ∀ c ∈ (close :: rest).head?, decide (c ≠ close) = false := by simp
  simp only [Scanner.delimited, takeWhile_append_stop hbody hclose, dropWhile_append_stop hbody hclose,
    List.drop_one, List.tail_cons]

theorem tokenize_of_read {c : Char} {cs : List Char} {t : Token} (h : Token.read c cs = (some t, rest))
    (pos : Nat) : ∃ ls pos', ls.map Lexeme.token = [t] ∧ tokenize pos (c :: cs) = ls ++ tokenize pos' rest :=
  ⟨[⟨t, pos⟩], _, rfl, tokenize_cons_of_read h pos⟩

theorem tokenize_blank (pos : Nat) (rest : List Char) : tokenize pos (' ' :: rest) = tokenize (pos + 1) rest :=
  tokenize_cons_skip (Token.read_of_isAsciiBlank (by decide) rest) pos

/-- An operator's symbol followed by a character of no operator is one token. -/
theorem tokenize_symbol (op : Operator) (pos : Nat) (rest : List Char) (hrest : ∀ c ∈ rest.head?, isOperatorSymbol c = false) :
    ∃ pos', tokenize pos (op.symbol.toList ++ rest) =
      ⟨.operator op.symbol.toList, pos⟩ :: tokenize pos' rest := by
  obtain ⟨hne, hsym⟩ := op.symbol_spec
  generalize op.symbol.toList = sym at hne hsym ⊢
  obtain ⟨c, cs, rfl⟩ := List.exists_cons_of_ne_nil hne
  have hrun : Scanner.operatorRun (c :: (cs ++ rest)) = (c :: cs, rest) := by
    rw [← List.cons_append]
    exact Prod.ext (takeWhile_append_stop hsym hrest) (dropWhile_append_stop hsym hrest)
  have hread := Token.read_of_isOperatorSymbol (hsym c List.mem_cons_self) (cs ++ rest)
  rw [hrun] at hread
  exact ⟨_, tokenize_cons_of_read hread pos⟩

/-- The text of a tree that is not `!` starts with a character of no operator. -/
theorem head_render {e : Expr} (he : e.Lexable) (hu : e.isUnary = false) :
    ∃ c cs, e.render.toList = c :: cs ∧ isOperatorSymbol c = false := by
  cases e with
  | literal v =>
    cases v
    case string s => exact ⟨_, _, render_toList_string s, by decide⟩
    case dateTime t => exact ⟨_, _, render_toList_dateTime t, by decide⟩
    case int32 n =>
      have hds := Value.display_int32 he
      obtain ⟨d, ds, hd⟩ := List.exists_cons_of_ne_nil (Nat.toDigits_ne_nil (n := n.toInt.natAbs) (b := 10))
      have hmem : d ∈ Nat.toDigits 10 n.toInt.natAbs := by rw [hd]; exact List.mem_cons_self
      refine ⟨d, ds, by rw [← hd, ← hds]; rfl, isOperatorSymbol_of_isDigit ?_⟩
      exact Nat.isDigit_of_mem_toDigits (by decide) (by decide) hmem
    all_goals exact he.elim
  | field f => exact ⟨_, _, render_toList_field f, by decide⟩
  | convert => exact he.elim
  | binary op l r => exact ⟨_, _, render_toList_binary op l r, by decide⟩
  | unary => cases hu

theorem tokenize_render_string {s : String} (he : (literal (.string s)).Lexable) (pos : Nat)
    (rest : List Char) :
    ∃ ls pos', ls.map Lexeme.token = (literal (.string s)).tokens ∧
      tokenize pos ((literal (.string s)).render.toList ++ rest) = ls ++ tokenize pos' rest := by
  have hread : Token.read '\'' (s.toList ++ '\'' :: rest) = (some (.atom (.string s.toList)), rest) := by
    rw [Token.read_string, Scanner.delimited_append he]
  have htext : (literal (.string s)).render.toList ++ rest = '\'' :: (s.toList ++ '\'' :: rest) := by
    simp [render_toList_string]
  rw [htext]
  exact tokenize_of_read hread pos

theorem tokenize_render_dateTime (t : DateTime) (pos : Nat) (rest : List Char) :
    ∃ ls pos', ls.map Lexeme.token = (literal (.dateTime t)).tokens ∧
      tokenize pos ((literal (.dateTime t)).render.toList ++ rest) = ls ++ tokenize pos' rest := by
  -- the printed date holds no `#`, so the token runs to the closing one
  have hbody : '#' ∉ t.render.toList := by
    simp only [DateTime.render, String.toList_ofList, List.mem_append, List.mem_cons, not_or]
    refine ⟨fun h => ?_, by decide, fun h => ?_⟩
    · rcases DateTime.mem_dateText h with h | h <;> revert h <;> decide
    · rcases DateTime.mem_clockText h with h | h <;> revert h <;> decide
  have hread : Token.read '#' (t.render.toList ++ '#' :: rest) =
      (some (.atom (.date t.render.toList)), rest) := by
    rw [Token.read_date, Scanner.delimited_append hbody]
  have htext : (literal (.dateTime t)).render.toList ++ rest = '#' :: (t.render.toList ++ '#' :: rest) := by
    simp [render_toList_dateTime]
  rw [htext]
  exact tokenize_of_read hread pos

theorem tokenize_render_int32 {n : Int32} (he : (literal (.int32 n)).Lexable) (pos : Nat)
    (rest : List Char) (hrest : ∀ c ∈ rest.head?, c.isDigit = false) :
    ∃ ls pos', ls.map Lexeme.token = (literal (.int32 n)).tokens ∧
      tokenize pos ((literal (.int32 n)).render.toList ++ rest) = ls ++ tokenize pos' rest := by
  -- a digit run, which the text after it does not go on
  have hdigits : ∀ c ∈ (Value.int32 n).display.toList, c.isDigit = true := by
    rw [Value.display_int32 he]
    exact fun c hc => Nat.isDigit_of_mem_toDigits (by decide) (by decide) hc
  obtain ⟨d, ds, hd⟩ := List.exists_cons_of_ne_nil
    (by rw [Value.display_int32 he]; exact Nat.toDigits_ne_nil :
      (Value.int32 n).display.toList ≠ [])
  have hdigit : d.isDigit := hdigits d (by rw [hd]; exact List.mem_cons_self)
  have hrun : Scanner.digitRun (d :: (ds ++ rest)) = ((Value.int32 n).display.toList, rest) := by
    rw [← List.cons_append, ← hd]
    exact Prod.ext (takeWhile_append_stop hdigits hrest) (dropWhile_append_stop hdigits hrest)
  have hread := Token.read_of_isDigit (by simp [isOperatorSymbol_of_isDigit hdigit]) hdigit (ds ++ rest)
  rw [hrun] at hread
  have htext : (literal (.int32 n)).render.toList ++ rest = d :: (ds ++ rest) := by
    rw [← List.cons_append, ← hd]; rfl
  rw [htext]
  exact tokenize_of_read hread pos

theorem tokenize_render_field {f : FieldRef} (he : (field f).Lexable) (pos : Nat) (rest : List Char) :
    ∃ ls pos', ls.map Lexeme.token = (field f).tokens ∧
      tokenize pos ((field f).render.toList ++ rest) = ls ++ tokenize pos' rest := by
  have hread : Token.read '[' (f.name.toList ++ ']' :: rest) = (some (.atom (.field f.name.toList)), rest) := by
    rw [Token.read_field, Scanner.delimited_append he]
  have htext : (field f).render.toList ++ rest = '[' :: (f.name.toList ++ ']' :: rest) := by
    simp [render_toList_field]
  rw [htext]
  exact tokenize_of_read hread pos

/-- The text of a tree, followed by text that does not go on with a digit, is cut into the tree's
tokens and then the tokens of what follows. -/
theorem tokenize_render {e : Expr} (he : e.Lexable) (pos : Nat) (rest : List Char)
    (hrest : ∀ c ∈ rest.head?, c.isDigit = false) :
    ∃ ls pos', ls.map Lexeme.token = e.tokens ∧
      tokenize pos (e.render.toList ++ rest) = ls ++ tokenize pos' rest := by
  induction e generalizing pos rest with
  | literal v =>
    cases v
    case string s => exact tokenize_render_string he pos rest
    case dateTime t => exact tokenize_render_dateTime t pos rest
    case int32 n => exact tokenize_render_int32 he pos rest hrest
    all_goals exact he.elim
  | field f => exact tokenize_render_field he pos rest
  | convert => exact he.elim
  | binary op l r ihl ihr =>
    have htext : (binary op l r).render.toList ++ rest =
        '(' :: (l.render.toList ++ ' ' :: (op.symbol.toList ++ ' ' :: (r.render.toList ++ ')' :: rest))) := by
      simp [render_toList_binary]
    rw [htext, tokenize_cons_of_read (Token.read_openGroup _)]
    -- the left side, a blank, the operator, a blank, the right side and the `)`
    obtain ⟨lsl, p₁, hl, htl⟩ := ihl he.1 _ (' ' :: _) (by simp)
    obtain ⟨p₂, hop⟩ := tokenize_symbol op (p₁ + 1) (' ' :: _) (by simp; decide)
    obtain ⟨lsr, p₃, hr, htr⟩ := ihr he.2 (p₂ + 1) (')' :: rest) (by simp)
    refine ⟨⟨.openGroup, pos⟩ :: lsl ++ ⟨.operator op.symbol.toList, p₁ + 1⟩ :: lsr ++ [⟨.closeGroup, p₃⟩],
      p₃ + (Text.byteCount (')' :: rest) - Text.byteCount rest), by simp [tokens, hl, hr], ?_⟩
    rw [htl, tokenize_blank, hop, tokenize_blank, htr, tokenize_cons_of_read (Token.read_closeGroup rest)]
    simp
  | unary op o ih =>
    obtain ⟨d, ds, hds, hd⟩ := head_render he.1 he.2
    have hhead : ∀ c ∈ (o.render.toList ++ rest).head?, isOperatorSymbol c = false := by
      simpa [hds] using hd
    obtain ⟨p₁, hop⟩ := tokenize_symbol op pos _ hhead
    obtain ⟨lso, p₂, ho, hto⟩ := ih he.1 p₁ rest hrest
    refine ⟨⟨.operator op.symbol.toList, pos⟩ :: lso, p₂, by simp [tokens, ho], ?_⟩
    have htext : (unary op o).render.toList ++ rest = op.symbol.toList ++ (o.render.toList ++ rest) := by
      simp [render_toList_unary]
    rw [htext, hop, hto]
    rfl

end Lexing

/-! ## Folding the tokens of a tree -/

namespace Compiler

variable {c : Compiler}

/-- A field is bound to itself when the shape binds it. -/
theorem bindField_of_binds {f : FieldRef} (hf : c.shape.Binds f) : c.bindField f.name = .ok (.field f) := by
  obtain ⟨shape, g⟩ := c
  cases shape with
  | static fields =>
    cases f with
    | bound name i k =>
      simp only [bindField, FieldRef.name, findIdx?_of_binds hf, hf.1]
    | byName => exact hf.elim
  | dynamic =>
    cases f with
    | bound => exact hf.elim
    | byName => rfl

theorem atom_string (s : String) (pos : Nat) : c.atom (.string s.toList) pos = .ok (.literal (.string s)) := by
  simp [atom]

theorem atom_date {t : DateTime} (hv : t.isValid) (hn : t.nanosecond = 0) (pos : Nat) :
    c.atom (.date t.render.toList) pos = .ok (.literal (.dateTime t)) := by
  simp only [atom, dateLiteral, String.ofList_toList, DateTime.read_render hv hn]

theorem atom_int32 {n : Int32} (h : 0 ≤ n.toInt) (pos : Nat) :
    c.atom (.number (Value.int32 n).display.toList) pos = .ok (.literal (.int32 n)) := by
  have hvalue : Scanner.digitsValue (Nat.toDigits 10 n.toInt.natAbs) = n.toInt.natAbs :=
    (Nat.ofDigitChars_eq_foldl (b := 10)).symm.trans Nat.ofDigitChars_ten_toDigits
  have hle : n.toInt.natAbs ≤ 2147483647 := by
    have := Int32.toInt_le n
    simp only [Int32.toInt_maxValue] at this
    omega
  have hn : Int32.ofNat n.toInt.natAbs = n := by
    rw [← Int32.ofInt_eq_ofNat, Int.natAbs_of_nonneg h, Int32.ofInt_toInt]
  simp only [atom, numberLiteral, Value.display_int32 h, hvalue, if_pos hle, hn]

theorem atom_field {f : FieldRef} (hf : c.shape.Binds f) (pos : Nat) :
    c.atom (.field f.name.toList) pos = .ok (.field f) := by
  simp only [atom, String.ofList_toList, bindField_of_binds hf]

theorem foldlM_atom {a : Atom} {pos : Nat} {o : Expr} (h : c.atom a pos = .ok o) (cur : Option Expr)
    (pend : List Operator) (outer : List Frame) :
    [⟨.atom a, pos⟩].foldlM c.step (.reading ⟨cur, pend⟩ outer) =
      (combine cur pend o).map (fun x => .reading ⟨x, []⟩ outer) := by
  simp only [List.foldlM_cons, List.foldlM_nil, step, h, bind, Except.bind, Frame.feed]
  cases combine cur pend o <;> rfl

theorem step_operator {op : Operator} (hg : c.grammar.Reads op) (f : Frame) (outer : List Frame)
    (pos : Nat) :
    c.step (.reading f outer) ⟨.operator op.symbol.toList, pos⟩ =
      .ok (.reading ⟨f.current, op :: f.pending⟩ outer) := by
  simp only [step, String.ofList_toList, Grammar.operator?_symbol hg]

theorem step_openGroup {outer : List Frame} (h : outer.length < maxDepth) (f : Frame) (pos : Nat) :
    c.step (.reading f outer) ⟨.openGroup, pos⟩ = .ok (.reading ⟨none, []⟩ (f :: outer)) := by
  simp only [step, if_neg (Nat.not_le.mpr h)]

theorem combine_operand {op : Operator} {l r node : Expr} (h : binary op l r = .ok node) :
    combine (some l) [op] r = .ok (some node) := by
  rw [combine_some_cons, h]
  rfl

theorem map_token_eq_singleton {ls : List Lexeme} {t : Token} (h : ls.map Lexeme.token = [t]) :
    ∃ pos, ls = [⟨t, pos⟩] := by
  obtain ⟨⟨t', pos⟩, rest, rfl, ht, hrest⟩ := List.map_eq_cons_iff.mp h
  rw [List.map_eq_nil_iff] at hrest
  subst ht hrest
  exact ⟨pos, rfl⟩

section Operation

variable {op : Operator} {l r node : Expr} {Lt Rt : List Token}

/-- A left operand, an operator and a right operand, folded into a level that holds nothing yet:
the level then holds their node. -/
theorem foldlM_operation {outer : List Frame} (hg : c.grammar.Reads op)
    (hnode : binary op l r = .ok node)
    (hleft : ∀ ls : List Lexeme, ls.map Lexeme.token = Lt →
      ls.foldlM c.step (.reading ⟨none, []⟩ outer) =
        (combine none [] l).map (fun x => .reading ⟨x, []⟩ outer))
    (hright : ∀ ls : List Lexeme, ls.map Lexeme.token = Rt →
      ls.foldlM c.step (.reading ⟨some l, [op]⟩ outer) =
        (combine (some l) [op] r).map (fun x => .reading ⟨x, []⟩ outer))
    {ls : List Lexeme} (hls : ls.map Lexeme.token = Lt ++ .operator op.symbol.toList :: Rt) :
    ls.foldlM c.step (.reading ⟨none, []⟩ outer) = .ok (.reading ⟨some node, []⟩ outer) := by
  obtain ⟨lsl, ls₁, rfl, hl, h₁⟩ := List.map_eq_append_iff.mp hls
  obtain ⟨⟨t, pos⟩, lsr, rfl, ht, hr⟩ := List.map_eq_cons_iff.mp h₁
  subst ht
  rw [List.foldlM_append, hleft lsl hl, combine_none_nil]
  show (_ :: lsr).foldlM c.step (.reading ⟨some l, []⟩ outer) = _
  rw [List.foldlM_cons, step_operator hg]
  show lsr.foldlM c.step (.reading ⟨some l, [op]⟩ outer) = _
  rw [hright lsr hr, combine_operand hnode]
  rfl

/-- A group holding a left operand, an operator and a right operand, folded into any level: the
level combines their node. -/
theorem foldlM_group {cur : Option Expr} {pend : List Operator} {outer : List Frame}
    (hdepth : outer.length < maxDepth) (hg : c.grammar.Reads op) (hnode : binary op l r = .ok node)
    (hleft : ∀ ls : List Lexeme, ls.map Lexeme.token = Lt →
      ls.foldlM c.step (.reading ⟨none, []⟩ (⟨cur, pend⟩ :: outer)) =
        (combine none [] l).map (fun x => .reading ⟨x, []⟩ (⟨cur, pend⟩ :: outer)))
    (hright : ∀ ls : List Lexeme, ls.map Lexeme.token = Rt →
      ls.foldlM c.step (.reading ⟨some l, [op]⟩ (⟨cur, pend⟩ :: outer)) =
        (combine (some l) [op] r).map (fun x => .reading ⟨x, []⟩ (⟨cur, pend⟩ :: outer)))
    {ls : List Lexeme}
    (hls : ls.map Lexeme.token = .openGroup :: (Lt ++ .operator op.symbol.toList :: Rt) ++ [.closeGroup]) :
    ls.foldlM c.step (.reading ⟨cur, pend⟩ outer) =
      (combine cur pend node).map (fun x => .reading ⟨x, []⟩ outer) := by
  obtain ⟨lsx, lsc, rfl, hx, hc⟩ := List.map_eq_append_iff.mp hls
  obtain ⟨⟨t, pos⟩, lsi, rfl, ht, hi⟩ := List.map_eq_cons_iff.mp hx
  subst ht
  obtain ⟨pos', rfl⟩ := map_token_eq_singleton hc
  rw [List.cons_append, List.foldlM_cons, step_openGroup hdepth]
  show (lsi ++ _).foldlM c.step _ = _
  rw [List.foldlM_append, foldlM_operation hg hnode hleft hright hi]
  show c.step _ _ >>= (fun s => [].foldlM c.step s) = _
  simp only [step, Frame.close, Frame.feed, List.foldlM_nil]
  cases combine cur pend node <;> rfl

end Operation

/-- The tokens of a well-formed tree, folded into a level, combine the tree into it: the groups
of its text nest no deeper than the fold allows, and a `!` stands first in its level. -/
theorem foldlM_tokens {e : Expr} (wf : WellFormed c.shape c.grammar e) (hs : e.Spellable)
    (hr : e.reprintable = true) {ls : List Lexeme} (hls : ls.map Lexeme.token = e.erase.tokens)
    {cur : Option Expr} {pend : List Operator} {outer : List Frame}
    (hctx : e.isUnary = true → cur = none ∧ pend = [])
    (hdepth : outer.length + e.erase.groupDepth ≤ maxDepth) :
    ls.foldlM c.step (.reading ⟨cur, pend⟩ outer) =
      (combine cur pend e).map (fun x => .reading ⟨x, []⟩ outer) := by
  -- on the derivation: each node's text is its operands' texts in a group of its own
  induction wf generalizing ls cur pend outer with
  | @literal v hv =>
    cases v
    case string s =>
      obtain ⟨pos, rfl⟩ := map_token_eq_singleton hls
      exact foldlM_atom (atom_string s pos) cur pend outer
    case dateTime t =>
      obtain ⟨pos, rfl⟩ := map_token_eq_singleton hls
      have hn : t.nanosecond = 0 := by simpa [reprintable] using hr
      exact foldlM_atom (atom_date hs hn pos) cur pend outer
    case int32 n =>
      obtain ⟨pos, rfl⟩ := map_token_eq_singleton hls
      exact foldlM_atom (atom_int32 hv pos) cur pend outer
    all_goals exact hv.elim
  | @field f hf =>
    obtain ⟨pos, rfl⟩ := map_token_eq_singleton hls
    exact foldlM_atom (atom_field hf pos) cur pend outer
  | @not o he wfo ih =>
    obtain ⟨rfl, rfl⟩ := hctx rfl
    have hro : o.reprintable = true ∧ o.isUnary = false := by simpa [reprintable] using hr
    obtain ⟨⟨t, pos⟩, lso, rfl, ht, ho⟩ := List.map_eq_cons_iff.mp hls
    subst ht
    rw [List.foldlM_cons, step_operator (fun h => by cases h)]
    show lso.foldlM c.step (.reading ⟨none, [.not]⟩ outer) = _
    rw [ih hs hro.1 ho (fun h => absurd h (by simp [hro.2])) hdepth, combine_none_cons,
      unary_not he]
    rfl
  | @connective op l r hop hl hr' wfl wfr ihl ihr =>
    have hrs : (l.reprintable = true ∧ r.reprintable = true) ∧ r.isUnary = false := by
      simpa [reprintable] using hr
    simp only [erase, groupDepth] at hdepth
    exact foldlM_group (by omega) (fun h => by subst h; cases hop) (binary_connective hop hl hr')
      (fun ls h => ihl hs.1 hrs.1.1 h (fun _ => ⟨rfl, rfl⟩) (by simp only [List.length_cons]; omega))
      (fun ls h => ihr hs.2 hrs.1.2 h (fun h => absurd h (by simp [hrs.2]))
        (by simp only [List.length_cons]; omega)) hls
  | @compare op l r hop hg hkind wfl wfr ihl ihr =>
    have hrs : (l.reprintable = true ∧ r.reprintable = true) ∧ r.isUnary = false := by
      simpa [reprintable] using hr
    -- the sides have one kind, or the right one has none: no conversion comes in
    have hnode : binary op l r = .ok (.binary op l r) := by
      rw [binary_comparison hop]
      rcases hkind with hk | hk
      · rw [hk]; rfl
      · cases ht : r.kind with
        | none => rfl
        | some t => rw [coerce_of_kind_eq (hk.trans ht)]; rfl
    simp only [erase, groupDepth] at hdepth
    exact foldlM_group (by omega) hg hnode
      (fun ls h => ihl hs.1 hrs.1.1 h (fun _ => ⟨rfl, rfl⟩) (by simp only [List.length_cons]; omega))
      (fun ls h => ihr hs.2 hrs.1.2 h (fun h => absurd h (by simp [hrs.2]))
        (by simp only [List.length_cons]; omega)) hls
  | @compareConverted op e₀ r t hop hg hrk hconv wfe wfr ihe ihr =>
    have hrs : (e₀.reprintable = true ∧ r.reprintable = true) ∧ r.isUnary = false := by
      simpa [reprintable] using hr
    -- the text leaves the conversion out, and reading it puts the conversion back
    have hnode : binary op e₀ r = .ok (.binary op (.convert e₀ t) r) := by
      rw [binary_comparison hop, hrk]
      rcases hconv with hk | ⟨k, hk, hkt, hc⟩
      · rw [coerce_of_kind_none hk]; rfl
      · rw [coerce_of_canConvertTo hk hkt hc]; rfl
    simp only [erase, groupDepth] at hdepth
    exact foldlM_group (by omega) hg hnode
      (fun ls h => ihe hs.1 hrs.1.1 h (fun _ => ⟨rfl, rfl⟩) (by simp only [List.length_cons]; omega))
      (fun ls h => ihr hs.2 hrs.1.2 h (fun h => absurd h (by simp [hrs.2]))
        (by simp only [List.length_cons]; omega)) hls

end Compiler

/-! ## Reading printed trees back -/

section

variable {sh : Shape} {g : Grammar}

theorem WellFormed.isUnary_erase {e : Expr} (wf : WellFormed sh g e) : e.erase.isUnary = e.isUnary := by
  cases wf <;> rfl

/-- A well-formed tree that can be spelled and is read back where it stands is, with its
conversions left out, cut into its own tokens. -/
theorem WellFormed.lexable_erase {e : Expr} (wf : WellFormed sh g e) (hs : e.Spellable)
    (hr : e.reprintable = true) : e.erase.Lexable := by
  induction wf with
  | literal hv => exact hv
  | field => exact hs
  | @not o _ wfo ih =>
    have hro : o.reprintable = true ∧ o.isUnary = false := by simpa [reprintable] using hr
    exact ⟨ih hs hro.1, wfo.isUnary_erase.trans hro.2⟩
  | connective _ _ _ _ _ ihl ihr | compare _ _ _ _ _ ihl ihr | compareConverted _ _ _ _ _ _ ihl ihr =>
    have hrs := (by simpa [reprintable] using hr : _ ∧ _)
    exact ⟨ihl hs.1 hrs.1.1, ihr hs.2 hrs.1.2⟩

end

namespace Compiler

variable {c : Compiler}

/-- A well-formed tree that can be spelled, whose `!`s stand first in their levels and whose
groups nest no deeper than `maxDepth`, compiles back from its text with the conversions left
out. -/
theorem compile_render_of {e : Expr} (wf : WellFormed c.shape c.grammar e) (hs : e.Spellable)
    (hr : e.reprintable = true) (hdepth : e.erase.groupDepth ≤ maxDepth) :
    c.compile e.erase.render = .ok (some e) := by
  obtain ⟨ls, pos, hls, htok⟩ := tokenize_render (wf.lexable_erase hs hr) 0 [] (by simp)
  rw [List.append_nil, tokenize_nil, List.append_nil] at htok
  have hfold : ls.foldlM c.step (.reading ⟨none, []⟩ []) =
      (combine none [] e).map (fun x => .reading ⟨x, []⟩ []) :=
    foldlM_tokens wf hs hr hls (fun _ => ⟨rfl, rfl⟩) (by simpa using hdepth)
  show (c.level _ 0 _ 0 none []).map (·.1) = _
  rw [level_eq_compileTokens (Nat.lt_succ_self _), compileTokens, resume, htok, hfold,
    combine_none_nil]
  rfl

end Compiler

/-- Printing a compiled tree without its conversions and compiling the text again gives the tree
back, conversions included, as long as its `!`s stand first in their levels, its dates have no
fraction of a second, and the groups of the text nest at most `maxDepth` deep. -/
theorem compile_render_erase (c : Compiler) (text : String) (e : Expr)
    (h : c.compile text = .ok (some e)) (hprint : e.reprintable = true)
    (hdepth : e.erase.groupDepth ≤ maxDepth) : c.compile e.erase.render = .ok (some e) := by
  obtain ⟨_, -, hrel⟩ := (wellFormed_simulation c).compile h
  obtain ⟨-, wf⟩ := rel_wellFormed_iff.mp hrel
  exact Compiler.compile_render_of (wf e rfl) (Compiler.compile_spellable h) hprint hdepth

/-- `[A] == 1` over a 64-bit field: the text `([A] == 1)` of the tree leaves the conversion to a
32-bit integer out, and compiling it puts the conversion back. -/
theorem compile_render_erase_converted :
    (⟨.static [⟨"A", .int64⟩], .compatible⟩ : Compiler).compile "[A] == 1" =
        .ok (some (.binary .equal (.convert (.field (.bound "A" 0 .int64)) .int32)
          (.literal (.int32 1)))) ∧
      (Expr.binary .equal (.convert (.field (.bound "A" 0 .int64)) .int32)
        (.literal (.int32 1))).reprintable = true ∧
      (Expr.binary .equal (.convert (.field (.bound "A" 0 .int64)) .int32)
        (.literal (.int32 1))).erase.groupDepth ≤ maxDepth ∧
      (⟨.static [⟨"A", .int64⟩], .compatible⟩ : Compiler).compile
          (Expr.binary .equal (.convert (.field (.bound "A" 0 .int64)) .int32)
            (.literal (.int32 1))).erase.render =
        .ok (some (.binary .equal (.convert (.field (.bound "A" 0 .int64)) .int32)
          (.literal (.int32 1)))) := by
  have hcompile : (⟨.static [⟨"A", .int64⟩], .compatible⟩ : Compiler).compile "[A] == 1" =
      .ok (some (.binary .equal (.convert (.field (.bound "A" 0 .int64)) .int32)
        (.literal (.int32 1)))) := by
    decide
  exact ⟨hcompile, rfl, by decide, compile_render_erase _ _ _ hcompile rfl (by decide)⟩

/-! ## Flat text builds trees deeper than their text may nest -/

/-- `[A] && [A] && …`: the field `A`, bound by name, and `n` conjunctions with it, folded to the
left as the compiler folds flat text. -/
def conjunctions : Nat → Expr
  | 0 => .field (.byName "A")
  | n + 1 => .binary .and (conjunctions n) (.field (.byName "A"))

section Conjunctions

variable {g : Grammar}

theorem conjunctions_maybeBool (n : Nat) : (conjunctions n).MaybeBool := by
  cases n with
  | zero => exact .inl rfl
  | succ n => exact .inr rfl

theorem conjunctions_wellFormed (n : Nat) : WellFormed .dynamic g (conjunctions n) := by
  induction n with
  | zero => exact .field trivial
  | succ n ih => exact .connective rfl (conjunctions_maybeBool n) (.inl rfl) ih (.field trivial)

theorem conjunctions_spellable (n : Nat) : (conjunctions n).Spellable := by
  have hA : (Expr.field (.byName "A")).Spellable := by
    show ']' ∉ "A".toList
    decide
  induction n with
  | zero => exact hA
  | succ n ih => exact ⟨ih, hA⟩

theorem conjunctions_reprintable (n : Nat) : (conjunctions n).reprintable = true := by
  induction n with
  | zero => rfl
  | succ n ih => simp [conjunctions, reprintable, ih, isUnary]

theorem erase_conjunctions (n : Nat) : (conjunctions n).erase = conjunctions n := by
  induction n with
  | zero => rfl
  | succ n ih => simp [conjunctions, erase, ih]

theorem groupDepth_conjunctions (n : Nat) : (conjunctions n).groupDepth = n := by
  induction n with
  | zero => rfl
  | succ n ih => simp [conjunctions, groupDepth, ih]

theorem conjunctions_lexable (n : Nat) : (conjunctions n).Lexable := by
  have h := (conjunctions_wellFormed (g := .compatible) n).lexable_erase (conjunctions_spellable n)
    (conjunctions_reprintable n)
  rwa [erase_conjunctions] at h

/-- The text of `n` conjunctions opens `n` groups before anything else. -/
theorem tokens_conjunctions (n : Nat) :
    ∃ more, (conjunctions n).tokens = List.replicate n .openGroup ++ more := by
  induction n with
  | zero => exact ⟨_, rfl⟩
  | succ n ih =>
    obtain ⟨more, h⟩ := ih
    refine ⟨more ++ .operator Operator.and.symbol.toList :: (Expr.field (.byName "A")).tokens ++
      [.closeGroup], ?_⟩
    simp [conjunctions, tokens, h, List.replicate_succ]

namespace Compiler

variable {c : Compiler}

/-- Groups opened one after another fail once they would nest deeper than `maxDepth`. -/
theorem foldlM_nested_too_deep (k : Nat) :
    ∀ {ls : List Lexeme} {more : List Token} {f : Frame} {outer : List Frame},
      ls.map Lexeme.token = List.replicate k .openGroup ++ more → outer.length ≤ maxDepth →
        maxDepth < outer.length + k →
          ls.foldlM c.step (.reading f outer) = .error (.nestingTooDeep maxDepth) := by
  -- on the groups: each one opens a frame, until the frames are `maxDepth` deep
  induction k with
  | zero => intro ls more f outer _ hle hlt; omega
  | succ k ih =>
    intro ls more f outer hls hle hlt
    rw [List.replicate_succ, List.cons_append] at hls
    obtain ⟨⟨t, pos⟩, ls', rfl, ht, hls'⟩ := List.map_eq_cons_iff.mp hls
    subst ht
    rw [List.foldlM_cons]
    by_cases hfull : maxDepth ≤ outer.length
    · simp only [step, if_pos hfull]
      rfl
    · rw [step_openGroup (Nat.lt_of_not_le hfull)]
      exact ih hls' (by simp only [List.length_cons]; omega) (by simp only [List.length_cons]; omega)

end Compiler

open Compiler

/-- The text of more than `maxDepth` conjunctions nests its groups too deep to compile. -/
theorem compile_render_conjunctions (n : Nat) (hn : maxDepth < n) :
    (⟨.dynamic, g⟩ : Compiler).compile (conjunctions n).render = .error (.nestingTooDeep maxDepth) := by
  obtain ⟨ls, pos, hls, htok⟩ := tokenize_render (conjunctions_lexable n) 0 [] (by simp)
  rw [List.append_nil, tokenize_nil, List.append_nil] at htok
  obtain ⟨more, hmore⟩ := tokens_conjunctions n
  show (Compiler.level _ _ 0 _ 0 none []).map (·.1) = _
  rw [level_eq_compileTokens (Nat.lt_succ_self _), compileTokens, resume, htok,
    foldlM_nested_too_deep n (hls.trans hmore) (Nat.zero_le _) (by simpa using hn)]
  rfl

/-- One more conjunction after the text of `n` conjunctions, outside any group, folds into
`n + 1` conjunctions. -/
theorem compile_render_and_field (n : Nat) (hn : n ≤ maxDepth) :
    (⟨.dynamic, g⟩ : Compiler).compile ((conjunctions n).render ++ " && [A]") =
      .ok (some (conjunctions (n + 1))) := by
  have hA : WellFormed .dynamic g (.field (.byName "A")) := .field trivial
  have htext : ((conjunctions n).render ++ " && [A]").toList = (conjunctions n).render.toList ++
      ' ' :: (Operator.and.symbol.toList ++ ' ' :: ((Expr.field (.byName "A")).render.toList ++ [])) := by
    simp [String.toList_append, render_toList_field]
    rfl
  -- the tokens: those of the conjunctions, `&&`, and the field
  have hspell : (Expr.field (.byName "A")).Spellable := by
    show ']' ∉ "A".toList
    decide
  obtain ⟨ls, p₁, hls, htok⟩ := tokenize_render (conjunctions_lexable n) 0
    (' ' :: (Operator.and.symbol.toList ++ ' ' :: ((Expr.field (.byName "A")).render.toList ++ [])))
    (by simp)
  obtain ⟨p₂, hop⟩ := tokenize_symbol .and (p₁ + 1)
    (' ' :: ((Expr.field (.byName "A")).render.toList ++ [])) (by simp; decide)
  obtain ⟨lsA, p₃, hlsA, htokA⟩ := tokenize_render (e := .field (.byName "A")) hspell (p₂ + 1) []
    (by simp)
  have hall : tokenize 0 ((conjunctions n).render ++ " && [A]").toList =
      ls ++ ⟨.operator Operator.and.symbol.toList, p₁ + 1⟩ :: lsA := by
    rw [htext, htok, tokenize_blank, hop, tokenize_blank, htokA, tokenize_nil, List.append_nil]
  have hfold : (ls ++ ⟨.operator Operator.and.symbol.toList, p₁ + 1⟩ :: lsA).foldlM
      (Compiler.step ⟨.dynamic, g⟩) (.reading ⟨none, []⟩ []) =
        .ok (.reading ⟨some (conjunctions (n + 1)), []⟩ []) :=
    foldlM_operation (fun h => by cases h)
      (binary_connective rfl (conjunctions_maybeBool n) (.inl rfl))
      (fun ls' h => foldlM_tokens (conjunctions_wellFormed n) (conjunctions_spellable n)
        (conjunctions_reprintable n) (by rw [erase_conjunctions]; exact h)
        (fun _ => ⟨rfl, rfl⟩) (by simpa [erase_conjunctions, groupDepth_conjunctions] using hn))
      (fun ls' h => foldlM_tokens hA hspell rfl h (fun h => by cases h) (by decide))
      (by rw [List.map_append, List.map_cons, hls, hlsA]; rfl)
  show (Compiler.level _ _ 0 _ 0 none []).map (·.1) = _
  rw [level_eq_compileTokens (Nat.lt_succ_self _), compileTokens, resume, hall, hfold]
  rfl

end Conjunctions

/-- Printed text past the nesting limit does not read back: flat text compiles to the
conjunctions of 257 operands, which are reprintable, yet their printed text, 257 groups deep, is
refused. -/
theorem render_conjunctions_too_deep :
    (⟨.dynamic, .compatible⟩ : Compiler).compile ((conjunctions 256).render ++ " && [A]") =
        .ok (some (conjunctions 257)) ∧
      (conjunctions 257).reprintable = true ∧
      (⟨.dynamic, .compatible⟩ : Compiler).compile (conjunctions 257).erase.render =
        .error (.nestingTooDeep maxDepth) := by
  refine ⟨compile_render_and_field 256 (by decide), conjunctions_reprintable 257, ?_⟩
  rw [erase_conjunctions]
  exact compile_render_conjunctions 257 (by decide)

end Strainer.Filter
