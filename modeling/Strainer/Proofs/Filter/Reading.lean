import Mathlib.Data.List.TakeWhile
import Strainer.Proofs.Filter.Tokens

/-!
# The one-pass compiler folds tokens

`Compiler.compile` scans filter text once: it reads each token where it starts, folds it in at
once, and calls itself for each group. This module proves that it computes exactly what the
two-pass reading of `Strainer.Proofs.Filter.Tokens` computes, which first cuts the text into
tokens and then folds them with one frame per open group. Errors agree too, with their
positions.

The bridge is `LevelAgrees`, proved for every fuel by `fuelAgrees`: one level of the scan,
started on any stack of frames, leaves the token fold where the level stops, in front of the `)`
that ends it or at the end of the text.
-/

namespace Strainer

namespace Text

theorem byteCount_cons (c : Char) (cs : List Char) : byteCount (c :: cs) = c.utf8Size + byteCount cs :=
  rfl

theorem byteCount_append (as bs : List Char) : byteCount (as ++ bs) = byteCount as + byteCount bs := by
  induction as with
  | nil => simp [byteCount]
  | cons c as ih => rw [List.cons_append, byteCount_cons, byteCount_cons, ih, Nat.add_assoc]

/-- Text of one-byte characters has as many bytes as characters. -/
theorem byteCount_eq_length {cs : List Char} (h : ∀ c ∈ cs, c.utf8Size = 1) :
    byteCount cs = cs.length := by
  induction cs with
  | nil => rfl
  | cons c cs ih =>
    rw [byteCount_cons, h c (List.mem_cons_self ..), ih fun x hx => h x (List.mem_cons_of_mem c hx),
      List.length_cons, Nat.add_comm]

end Text

namespace Filter

theorem utf8Size_of_isOperatorSymbol {c : Char} (h : isOperatorSymbol c) : c.utf8Size = 1 := by
  simp only [isOperatorSymbol, decide_eq_true_eq] at h
  rcases h with h | h | h | h | h | h <;> subst h <;> rfl

theorem utf8Size_of_isDigit {c : Char} (h : c.isDigit) : c.utf8Size = 1 := by
  simp only [Char.isDigit, Bool.and_eq_true, decide_eq_true_eq] at h
  apply Char.utf8Size_eq_one_iff.mpr
  have hle : c.val ≤ '9'.val := h.2
  exact Nat.le_trans (UInt32.le_iff_toNat_le.mp hle) (by decide)

/-- A run of characters that are each one byte long, taken off the front of the text, is as
many bytes as characters. -/
theorem byteCount_sub_dropWhile {p : Char → Bool} (hp : ∀ c, p c → c.utf8Size = 1)
    (cs : List Char) :
    Text.byteCount cs - Text.byteCount (cs.dropWhile p) = (cs.takeWhile p).length := by
  have hrun : Text.byteCount (cs.takeWhile p) = (cs.takeWhile p).length :=
    Text.byteCount_eq_length fun c hc => hp c (List.mem_takeWhile_imp hc)
  have hsplit : Text.byteCount cs =
      Text.byteCount (cs.takeWhile p) + Text.byteCount (cs.dropWhile p) := by
    rw [← Text.byteCount_append, List.takeWhile_append_dropWhile]
  rw [hsplit, hrun, Nat.add_sub_cancel]

/-! ## The token at a character -/

namespace Token

theorem read_of_isAsciiBlank {c : Char} (h : Text.isAsciiBlank c) (rest : List Char) :
    read c rest = (none, rest) := by
  simp only [Text.isAsciiBlank, decide_eq_true_eq] at h
  rcases h with h | h | h | h | h <;> subst h <;> rfl

theorem read_of_isOperatorSymbol {c : Char} (h : isOperatorSymbol c) (rest : List Char) :
    read c rest =
      (some (operator (Scanner.operatorRun (c :: rest)).1), (Scanner.operatorRun (c :: rest)).2) := by
  simp only [read, h, if_true, Scanner.operatorRun]

theorem read_of_isDigit {c : Char} (hop : ¬isOperatorSymbol c) (h : c.isDigit) (rest : List Char) :
    read c rest =
      (some (atom (.number (Scanner.digitRun (c :: rest)).1)), (Scanner.digitRun (c :: rest)).2) := by
  simp only [read, hop, h, if_true, if_false, Scanner.digitRun, Bool.false_eq_true]

theorem read_openGroup (rest : List Char) : read '(' rest = (some openGroup, rest) := rfl

theorem read_closeGroup (rest : List Char) : read ')' rest = (some closeGroup, rest) := rfl

theorem read_field (rest : List Char) :
    read '[' rest =
      (some (atom (.field (Scanner.delimited ']' rest).1)), (Scanner.delimited ']' rest).2) := rfl

theorem read_string (rest : List Char) :
    read '\'' rest =
      (some (atom (.string (Scanner.delimited '\'' rest).1)), (Scanner.delimited '\'' rest).2) := rfl

theorem read_date (rest : List Char) :
    read '#' rest =
      (some (atom (.date (Scanner.delimited '#' rest).1)), (Scanner.delimited '#' rest).2) := rfl

end Token

/-! ## Tokenizing one token -/

theorem tokenize_cons_of_read {c : Char} {rest after : List Char} {t : Token}
    (h : Token.read c rest = (some t, after)) (pos : Nat) :
    tokenize pos (c :: rest) =
      ⟨t, pos⟩ :: tokenize (pos + (Text.byteCount (c :: rest) - Text.byteCount after)) after := by
  rw [tokenize, h]

theorem tokenize_cons_skip {c : Char} {rest : List Char} (h : Token.read c rest = (none, rest))
    (pos : Nat) : tokenize pos (c :: rest) = tokenize (pos + c.utf8Size) rest := by
  rw [tokenize, h]
  simp only [Text.byteCount_cons, Nat.add_sub_cancel]

/-- After a delimited token the text goes on past its two one-byte delimiters and its body, or
it has ended because the token was never closed. Either way the tokens after it are those the
scan reads from the position it computes. -/
theorem tokenize_after_delimited {o close : Char} (ho : o.utf8Size = 1)
    (hc : close.utf8Size = 1) (rest : List Char) (pos : Nat) :
    tokenize (pos + (Text.byteCount (o :: rest) - Text.byteCount (Scanner.delimited close rest).2))
        (Scanner.delimited close rest).2 =
      tokenize (pos + 2 + Text.byteCount (Scanner.delimited close rest).1)
        (Scanner.delimited close rest).2 := by
  simp only [Scanner.delimited]
  cases hd : rest.dropWhile (· ≠ close) with
  | nil => simp
  | cons d tl =>
    have hdc : d = close := by
      have hne := List.head_dropWhile_not (fun x => decide (x ≠ close)) (l := rest)
        (by rw [hd]; exact List.cons_ne_nil d tl)
      have hhead : (rest.dropWhile fun x => decide (x ≠ close)).head
          (by rw [hd]; exact List.cons_ne_nil d tl) = d := by
        simp only [hd, List.head_cons]
      rw [hhead] at hne
      simpa using hne
    have hbytes : Text.byteCount rest =
        Text.byteCount (rest.takeWhile (· ≠ close)) + 1 + Text.byteCount tl := by
      have hsplit := congrArg Text.byteCount
        (List.takeWhile_append_dropWhile (p := fun x => decide (x ≠ close)) (l := rest))
      rw [hd, Text.byteCount_append, Text.byteCount_cons, hdc, hc] at hsplit
      omega
    simp only [List.drop_one, List.tail_cons, Text.byteCount_cons, ho]
    congr 1
    omega

/-! ## One level of the scan against the token fold -/

namespace Compiler

variable (c : Compiler)

/-- What the outcome of one level of `Compiler.level` on the text `cs` says of `folded`, the
token fold started with that level's frame on top of `outer`: the same error; or, for a level
that stopped at the end of the text or in front of a `)`, the fold resumed from the rest of the
text with the level's tree on top. -/
def LevelAgrees (outer : List Frame) (cs : List Char) (folded : Except CompileError (Option Expr)) :
    Except CompileError (Option Expr × List Char × Nat) → Prop
  | .error e => folded = .error e
  | .ok (cur, rest, pos) => rest <:+ cs ∧ (rest = [] ∨ rest.head? = some ')') ∧
      ∃ pending, folded = c.resume (tokenize pos rest) (.reading ⟨cur, pending⟩ outer)

/-- `level fuel` agrees with the token fold on every text shorter than `fuel`. -/
def FuelAgrees (fuel : Nat) : Prop :=
  ∀ (depth : Nat) (cs : List Char) (pos : Nat) (cur : Option Expr) (pend : List Operator)
    (outer : List Frame), cs.length < fuel → outer.length = depth →
    c.LevelAgrees outer cs (c.resume (tokenize pos cs) (.reading ⟨cur, pend⟩ outer))
      (c.level fuel depth cs pos cur pend)

variable {c}

theorem LevelAgrees.of_suffix {outer : List Frame} {cs cs' : List Char}
    {folded : Except CompileError (Option Expr)} {r : Except CompileError (Option Expr × List Char × Nat)}
    (h : c.LevelAgrees outer cs folded r) (hcs : cs <:+ cs') : c.LevelAgrees outer cs' folded r := by
  match r, h with
  | .error _, h => exact h
  | .ok _, ⟨hrest, hstop, hfold⟩ => exact ⟨hrest.trans hcs, hstop, hfold⟩

theorem map_reading_bind (x : Except CompileError Frame) (outer : List Frame) (ts : List Lexeme) :
    x.map (Fold.reading · outer) >>= c.resume ts = x >>= fun f => c.resume ts (.reading f outer) := by
  cases x <;> rfl

/-- An operand folded into the level, then the rest of the level. -/
theorem levelAgrees_feed {outer : List Frame} {cs after : List Char} {ts : List Lexeme}
    {n depth pos : Nat} (hafter : after <:+ cs) (cur : Option Expr) (pend : List Operator)
    (o : Except CompileError Expr)
    (hnext : ∀ cur', c.LevelAgrees outer after (c.resume ts (.reading ⟨cur', []⟩ outer))
      (c.level n depth after pos cur' [])) :
    c.LevelAgrees outer cs ((o >>= Frame.feed ⟨cur, pend⟩) >>= fun f => c.resume ts (.reading f outer))
      (match o >>= combine cur pend with
        | .error e => .error e
        | .ok cur' => c.level n depth after pos cur' []) := by
  cases o with
  | error e => exact rfl
  | ok operand =>
    cases h : combine cur pend operand with
    | error e => simp only [bind, Except.bind, Frame.feed, h, Except.map]; exact rfl
    | ok cur' =>
      simpa only [bind, Except.bind, Frame.feed, h, Except.map] using (hnext cur').of_suffix hafter

/-- The text after a group: its `)` closes the group into the frame around it, and so does the
end of the text. -/
theorem resume_after_group {after : List Char} (hafter : after = [] ∨ after.head? = some ')')
    (pos : Nat) (top f : Frame) (outer : List Frame) :
    c.resume (tokenize pos after) (.reading top (f :: outer)) =
      top.close f >>= fun g => c.resume (tokenize (pos + 1) after.tail) (.reading g outer) := by
  rcases hafter with rfl | hclose
  · simp only [tokenize_nil, resume_nil, Fold.finish, Frame.closeAll, List.tail_nil]
  · obtain ⟨more, rfl⟩ := List.head?_eq_some_iff.mp hclose
    rw [tokenize_cons_of_read (Token.read_closeGroup more), resume_cons]
    simp only [Text.byteCount_cons, Nat.add_sub_cancel, step, map_reading_bind, List.tail_cons]
    rfl

/-- An atom read by the scan: the token fold reads the same atom and goes on where the scan
goes on. -/
theorem levelAgrees_atom {n depth : Nat} (ih : c.FuelAgrees n) {outer : List Frame}
    (hdepth : outer.length = depth) {ch : Char} {rest after : List Char} (a : Atom)
    (hread : Token.read ch rest = (some (.atom a), after)) (hrest : rest.length < n)
    {pos pos' : Nat}
    (hpos : tokenize (pos + (Text.byteCount (ch :: rest) - Text.byteCount after)) after =
      tokenize pos' after) (cur : Option Expr) (pend : List Operator)
    {o : Except CompileError Expr} (ho : c.atom a pos = o) :
    c.LevelAgrees outer (ch :: rest)
      (c.resume (tokenize pos (ch :: rest)) (.reading ⟨cur, pend⟩ outer))
      (match o >>= combine cur pend with
        | .error e => .error e
        | .ok cur' => c.level n depth after pos' cur' []) := by
  have hsuf : after <:+ rest := by
    have h := Token.read_suffix ch rest
    rwa [hread] at h
  rw [tokenize_cons_of_read hread, hpos, resume_cons]
  simp only [step, map_reading_bind, ho]
  exact levelAgrees_feed (hsuf.trans (List.suffix_cons ch rest)) cur pend _ fun cur' =>
    ih depth after pos' cur' [] outer (Nat.lt_of_le_of_lt hsuf.length_le hrest) hdepth

/-- An operator run read by the scan: the token fold looks the same run up and pushes the same
operator on the level. -/
theorem levelAgrees_operator {n depth : Nat} (ih : c.FuelAgrees n) {outer : List Frame}
    (hdepth : outer.length = depth) {ch : Char} {rest : List Char} (hop : isOperatorSymbol ch)
    (hrest : rest.length < n) (pos : Nat) (cur : Option Expr) (pend : List Operator) :
    c.LevelAgrees outer (ch :: rest)
      (c.resume (tokenize pos (ch :: rest)) (.reading ⟨cur, pend⟩ outer))
      (match Scanner.operatorRun (ch :: rest) with
        | (run, after) =>
          match c.grammar.operator? (String.ofList run) with
          | some op => c.level n depth after (pos + run.length) cur (op :: pend)
          | none => .error (.unrecognizedOperator (String.ofList run) pos)) := by
  have hread := Token.read_of_isOperatorSymbol hop rest
  have hsuf := Token.read_suffix ch rest
  have hpos : Text.byteCount (ch :: rest) - Text.byteCount (Scanner.operatorRun (ch :: rest)).2 =
      (Scanner.operatorRun (ch :: rest)).1.length :=
    byteCount_sub_dropWhile (fun _ => utf8Size_of_isOperatorSymbol) (ch :: rest)
  rw [hread] at hsuf
  rw [tokenize_cons_of_read hread, hpos, resume_cons]
  generalize Scanner.operatorRun (ch :: rest) = run at hsuf ⊢
  obtain ⟨run, after⟩ := run
  simp only [step]
  cases c.grammar.operator? (String.ofList run) with
  | none => exact rfl
  | some op =>
    exact (ih depth after (pos + run.length) cur (op :: pend) outer
      (Nat.lt_of_le_of_lt hsuf.length_le hrest) hdepth).of_suffix
      (hsuf.trans (List.suffix_cons ch rest))

/-- A group read by the scan: the token fold reads it in a frame of its own, one level deeper,
and its tree is the operand that the level around it combines next. -/
theorem levelAgrees_group {n depth : Nat} (ih : c.FuelAgrees n) {outer : List Frame}
    (hdepth : outer.length = depth) {rest : List Char} (hrest : rest.length < n) (pos : Nat)
    (cur : Option Expr) (pend : List Operator) :
    c.LevelAgrees outer ('(' :: rest)
      (c.resume (tokenize pos ('(' :: rest)) (.reading ⟨cur, pend⟩ outer))
      (if depth ≥ maxDepth then .error (.nestingTooDeep maxDepth)
      else
        match c.level n (depth + 1) rest (pos + 1) none [] with
        | .error e => .error e
        | .ok (none, _, _) => .error .emptyExpression
        | .ok (some group, after, pos') =>
          match after with
          | _ :: more =>
            match Except.ok group >>= combine cur pend with
            | .error e => .error e
            | .ok cur' => c.level n depth more (pos' + 1) cur' []
          | [] =>
            match Except.ok group >>= combine cur pend with
            | .error e => .error e
            | .ok cur' => c.level n depth [] pos' cur' []) := by
  have hone : '('.utf8Size = 1 := rfl
  rw [tokenize_cons_of_read (Token.read_openGroup rest), resume_cons]
  simp only [Text.byteCount_cons, hone, Nat.add_sub_cancel, step, hdepth]
  split_ifs with hdeep
  · exact rfl
  -- the group is a level of its own, one deeper, on top of the current frame
  have hinner := ih (depth + 1) rest (pos + 1) none [] (⟨cur, pend⟩ :: outer) hrest
    (by simp [hdepth])
  revert hinner
  cases c.level n (depth + 1) rest (pos + 1) none [] with
  | error e => intro hinner; exact hinner
  | ok r =>
    obtain ⟨group, after, pos'⟩ := r
    rintro ⟨hsuf, hafter, pending, hfold⟩
    show c.LevelAgrees outer _ (c.resume _ _) _
    rw [hfold, resume_after_group hafter]
    cases group with
    | none => exact rfl
    | some g =>
      cases after with
      | nil =>
        have hgroup := levelAgrees_feed (List.nil_suffix (l := '(' :: rest)) cur pend (.ok g)
          fun cur' => ih depth [] pos' cur' [] outer (Nat.zero_lt_of_lt hrest) hdepth
        simp only [tokenize_nil, List.tail_nil] at hgroup ⊢
        exact hgroup
      | cons d more =>
        have hmore : more <:+ rest := (List.suffix_cons d more).trans hsuf
        exact levelAgrees_feed (hmore.trans (List.suffix_cons '(' rest)) cur pend (.ok g)
          fun cur' => ih depth more (pos' + 1) cur' [] outer
            (Nat.lt_of_le_of_lt hmore.length_le hrest) hdepth

theorem fuelAgrees (fuel : Nat) : c.FuelAgrees fuel := by
  -- on the fuel: each character's step reads a shorter text, with one fuel less
  induction fuel with
  | zero => intro _ _ _ _ _ _ hfuel; exact absurd hfuel (Nat.not_lt_zero _)
  | succ n ih =>
    intro depth cs pos cur pend outer hfuel hdepth
    cases cs with
    | nil => exact ⟨List.suffix_refl [], Or.inl rfl, pend, rfl⟩
    | cons ch rest =>
      have hrest : rest.length < n := by simpa using hfuel
      rw [level]
      -- one case per character class, in the order the scan tests them
      by_cases hblank : Text.isAsciiBlank ch
      · have hone : ch.utf8Size = 1 := by
          simp only [Text.isAsciiBlank, decide_eq_true_eq] at hblank
          rcases hblank with h | h | h | h | h <;> subst h <;> rfl
        rw [if_pos hblank, tokenize_cons_skip (Token.read_of_isAsciiBlank hblank rest), hone]
        exact (ih depth rest (pos + 1) cur pend outer hrest hdepth).of_suffix
          (List.suffix_cons ch rest)
      rw [if_neg hblank]
      by_cases hop : isOperatorSymbol ch
      · rw [if_pos hop]
        exact levelAgrees_operator ih hdepth hop hrest pos cur pend
      rw [if_neg hop]
      by_cases hopen : ch = '('
      · subst hopen
        rw [if_pos rfl]
        exact levelAgrees_group ih hdepth hrest pos cur pend
      rw [if_neg hopen]
      by_cases hclose : ch = ')'
      · subst hclose
        exact ⟨List.suffix_refl _, Or.inr rfl, pend, rfl⟩
      rw [if_neg hclose]
      by_cases hfield : ch = '['
      · subst hfield
        rw [if_pos rfl]
        exact levelAgrees_atom ih hdepth _ (Token.read_field rest) hrest
          (tokenize_after_delimited rfl rfl rest pos) cur pend rfl
      rw [if_neg hfield]
      by_cases hstring : ch = '\''
      · subst hstring
        rw [if_pos rfl]
        exact levelAgrees_atom ih hdepth _ (Token.read_string rest) hrest
          (tokenize_after_delimited rfl rfl rest pos) cur pend rfl
      rw [if_neg hstring]
      by_cases hdate : ch = '#'
      · subst hdate
        rw [if_pos rfl]
        -- the date read is named, or unifying with the lemma would try to evaluate it
        have hread := Token.read_date rest
        have hpos := @tokenize_after_delimited '#' '#' rfl rfl rest pos
        generalize Scanner.delimited '#' rest = split at hread hpos ⊢
        obtain ⟨body, after⟩ := split
        dsimp only at hread hpos ⊢
        generalize hdate : dateLiteral body pos = o
        exact levelAgrees_atom ih hdepth _ hread hrest hpos cur pend hdate
      rw [if_neg hdate]
      by_cases hdigit : ch.isDigit
      · have hpos : Text.byteCount (ch :: rest) - Text.byteCount (Scanner.digitRun (ch :: rest)).2 =
            (Scanner.digitRun (ch :: rest)).1.length :=
          byteCount_sub_dropWhile (fun _ => utf8Size_of_isDigit) (ch :: rest)
        rw [if_pos hdigit]
        exact levelAgrees_atom ih hdepth _ (Token.read_of_isDigit hop hdigit rest) hrest
          (by rw [hpos]; rfl) cur pend rfl
      -- any other character starts no token and is stepped over
      rw [if_neg hdigit]
      have hread : Token.read ch rest = (none, rest) := by
        simp [Token.read, hop, hdigit, hopen, hclose, hfield, hstring, hdate]
      rw [tokenize_cons_skip hread]
      exact (ih depth rest (pos + ch.utf8Size) cur pend outer hrest hdepth).of_suffix
        (List.suffix_cons ch rest)

/-- The one-pass compiler computes what the token fold computes from the text's tokens: the same
filter, or the same error at the same position. -/
theorem compile_eq_compileTokens (c : Compiler) (text : String) :
    c.compile text = c.compileTokens (tokenize 0 text.toList) := by
  have hlevel := fuelAgrees (c := c) (text.toList.length + 1) 0 text.toList 0 none [] []
    (Nat.lt_succ_self _) rfl
  unfold compile compileTokens
  dsimp only
  revert hlevel
  cases c.level (text.toList.length + 1) 0 text.toList 0 none [] with
  | error e => intro hlevel; rw [hlevel]; rfl
  | ok r =>
    obtain ⟨cur, rest, pos⟩ := r
    rintro ⟨-, hstop, pending, hfold⟩
    rw [hfold]
    -- the top level ends at the end of the text, or at a `)` that ends the filter
    rcases hstop with rfl | hclose
    · rw [tokenize_nil]; rfl
    · obtain ⟨more, rfl⟩ := List.head?_eq_some_iff.mp hclose
      rw [tokenize_cons_of_read (Token.read_closeGroup more), resume_cons]
      simp only [step, bind, Except.bind, resume_stopped]
      rfl

end Compiler

end Filter

end Strainer
