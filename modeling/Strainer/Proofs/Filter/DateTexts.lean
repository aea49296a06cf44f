import Strainer.Proofs.Filter.DateRange
import Strainer.Filter.Compiled
import Strainer.Rows.Record

/-!
# Which texts a running filter reads as dates

Running a filter fails out of range (`isDateOutOfRange`) only when it converts text to a
date-time and the text reads as an instant past the year range. Only text converts that way
(`Value.convert_dateOutOfRange`), so the proof follows the text values along the evaluation:
`Value.Traced T` says that a text value past the range is one of the texts `T`, and
`EvalError.Traced T` that a failure out of range names one.

Every text a filter's values can hold is the text of one of its literals or of a value the record
holds: nodes pass text on unchanged, a conversion to text prints the value converted
(`Value.convert_string`), and an operator's value is a boolean, which prints as no time stamp. A
record's part is the contract `ReadsTraced`, which each kind of record meets for the texts of
its own values (`staticRecord_readsTraced`, `memberMap_readsTraced`, `jsonObject_readsTraced`,
`rowRecord_readsTraced`). A compiled filter then fails out of range only on such a text
(`test_dateOutOfRange`).
-/

namespace Strainer

/-! ## Conversions that read dates -/

theorem Number.convertTo_ne_dateOutOfRange (n : Number) (t : Kind) :
    n.convertTo t ≠ .error .dateOutOfRange := by
  unfold Number.convertTo
  dsimp only
  intro h
  -- each failure is a result out of the target's range
  split at h
  · cases h
  · cases h
  · cases h
  · split at h
    · split_ifs at h
      cases h
    · split at h <;> cases h
    · cases h
  · split at h
    · rename_i e he
      cases h
      split at he
      · cases he
      · split at he <;> cases he
      · split_ifs at he
        cases he
    · split at h <;> cases h

namespace Value

theorem parseAs_dateOutOfRange {s : String} {t : Kind} (h : parseAs s t = .error .dateOutOfRange) :
    t = .dateTime ∧ DateTime.read s = .beyondRange := by
  cases t
  all_goals unfold Value.parseAs at h; dsimp only at h
  case dateTime =>
    -- the text is read trimmed, and reading trims it again to the same text
    refine ⟨rfl, ?_⟩
    revert h
    rw [← DateTime.read_trimString s]
    cases DateTime.read (Text.trimString s) with
    | ok d => exact fun h => by cases h
    | invalid => exact fun h => by cases h
    | beyondRange => exact fun _ => rfl
  case bool =>
    generalize Text.eqIgnoreAsciiCase (Text.trimString s) "true" = isTrue at h
    generalize Text.eqIgnoreAsciiCase (Text.trimString s) "false" = isFalse at h
    cases isTrue <;> cases isFalse <;> cases h
  case uint8 | int16 | int32 | int64 =>
    simp only [Number.range] at h
    split at h
    · split at h <;> cases h
    · cases h
    · cases h
  case float32 | float64 | decimal | guid | char =>
    split at h <;> cases h
  case string | bytes | chars => cases h

/-- Only text converts to a date-time past the range: no other conversion fails that way. -/
theorem convert_dateOutOfRange {v : Value} {t : Kind} (h : v.convert t = .error .dateOutOfRange) :
    ∃ s, v = .string s ∧ DateTime.read s = .beyondRange := by
  unfold convert at h
  split at h
  · cases h
  · rename_i k hk
    by_cases hkt : k = t
    · rw [if_pos hkt] at h
      cases h
    rw [if_neg hkt] at h
    by_cases hcan : (!k.canConvertTo t) = true
    · rw [if_pos hcan] at h
      cases h
    rw [if_neg hcan] at h
    split at h
    · exact ⟨_, rfl, (parseAs_dateOutOfRange h).2⟩
    · by_cases ht : t = .string
      · rw [if_pos ht] at h
        split at h <;> cases h
      · rw [if_neg ht] at h
        split at h
        · exact absurd h (Number.convertTo_ne_dateOutOfRange _ _)
        · cases h

theorem parseAs_string {s w : String} {t : Kind} (h : parseAs s t = .ok (.string w)) : w = s := by
  have hkind := parseAs_convertsTo s t
  rw [h] at hkind
  cases hkind
  unfold parseAs at h
  cases h
  rfl

/-- Text that a conversion gives is the text of the value converted. -/
theorem convert_string {v : Value} {t : Kind} {w : String} (h : v.convert t = .ok (.string w)) :
    v.render? = some w := by
  unfold convert at h
  split at h
  · cases h
  · rename_i k hk
    by_cases hkt : k = t
    · rw [if_pos hkt] at h
      cases h
      rfl
    rw [if_neg hkt] at h
    by_cases hcan : (!k.canConvertTo t) = true
    · rw [if_pos hcan] at h
      cases h
    rw [if_neg hcan] at h
    split at h
    · rw [parseAs_string h]
      rfl
    · by_cases ht : t = .string
      · rw [if_pos ht] at h
        split at h
        · cases h
          assumption
        · cases h
      · -- a number converted to a kind other than text
        rw [if_neg ht] at h
        split at h
        · have hkind := Number.convertTo_convertsTo ‹_› t
          rw [h] at hkind
          cases hkind
          exact absurd rfl ht
        · cases h

/-! ## Texts traced to where they come from -/

/-- Text held as a value reads past the year range only if it is one of `T`. -/
def Traced (T : String → Prop) (v : Value) : Prop :=
  ∀ s, v = .string s → DateTime.read s = .beyondRange → T s

/-- Every text of the value that reads past the year range is one of `T`. -/
def RenderTraced (T : String → Prop) (v : Value) : Prop :=
  ∀ s, v.render? = some s → DateTime.read s = .beyondRange → T s

theorem RenderTraced.traced {T : String → Prop} {v : Value} (hv : v.RenderTraced T) : v.Traced T := by
  rintro s rfl hread
  exact hv s rfl hread

theorem traced_bool (T : String → Prop) (b : Bool) : (Value.bool b).Traced T := by
  intro s hs
  cases hs

/-- No boolean prints as a time stamp. -/
theorem renderTraced_bool (T : String → Prop) (b : Bool) : (Value.bool b).RenderTraced T := by
  have hinvalid : ∀ b : Bool, DateTime.read (if b then "true" else "false") = .invalid := by
    decide
  intro s hs hread
  simp only [render?, Option.some.injEq] at hs
  subst hs
  rw [hinvalid b] at hread
  cases hread

end Value

theorem Kind.defaultValue_traced (T : String → Prop) (k : Kind) : k.defaultValue.Traced T := by
  intro s hs
  cases k <;> cases hs

namespace Filter

/-! ## Evaluation -/

/-- An evaluation failure out of range names a text of `T` that reads past the year range. -/
def EvalError.Traced (T : String → Prop) (err : EvalError) : Prop :=
  err.isDateOutOfRange = true → ∃ s, T s ∧ DateTime.read s = .beyondRange

theorem convertValue_errors_traced {T : String → Prop} {v : Value} (hv : v.Traced T) (t : Kind) :
    Except.Meets (EvalError.Traced T) (fun _ => True) (convertValue v t) := by
  unfold convertValue
  cases hc : v.convert t with
  | ok w => trivial
  | error e =>
    intro hdate
    have he : e = .dateOutOfRange := by
      cases e <;> first | rfl | cases hdate
    subst he
    obtain ⟨s, rfl, hread⟩ := Value.convert_dateOutOfRange hc
    exact ⟨s, hv s rfl hread, hread⟩

theorem convertValue_traced {T : String → Prop} {v : Value} (hv : v.RenderTraced T) (t : Kind) :
    Except.Meets (EvalError.Traced T) (Value.Traced T) (convertValue v t) := by
  have herr := convertValue_errors_traced hv.traced t
  unfold convertValue at herr ⊢
  cases hc : v.convert t with
  | ok w =>
    rintro s rfl hread
    exact hv s (Value.convert_string hc) hread
  | error e =>
    rw [hc] at herr
    exact herr

theorem truth_traced (T : String → Prop) (v : Value) :
    Except.Meets (EvalError.Traced T) (fun _ => True) (truth v) := by
  unfold truth
  split
  · trivial
  · intro h
    cases h

/-- A comparison converts its left side, which fails out of range only on text. -/
theorem compareValues_traced {T : String → Prop} {a : Value} (ha : a.Traced T) (op : Operator)
    (b : Value) : Except.Meets (EvalError.Traced T) (fun _ => True) (compareValues op a b) := by
  unfold compareValues
  split_ifs
  · trivial
  · dsimp only
    split
    · split_ifs
      · trivial
      · exact (convertValue_errors_traced ha _).bind fun _ _ => by trivial
    · trivial

namespace Expr

/-- The literal values of a tree. -/
def literals : Expr → List Value
  | literal v => [v]
  | field _ => []
  | convert e _ => e.literals
  | binary _ l r => l.literals ++ r.literals
  | unary _ e => e.literals

end Expr

/-- A record whose reads fail out of range, or give text past the range, only through its texts
`T`. -/
def ReadsTraced {α : Type} [Target α] (r : α) (T : String → Prop) : Prop :=
  ∀ f k, Except.Meets (EvalError.Traced T) (Value.Traced T) (Target.read r f k)

section

variable {α : Type} [Target α] {r : α}

theorem eval_convert_operand {e : Expr} (t : Kind) (he : ∀ f, e ≠ .field f) :
    (Expr.convert e t).eval r = e.eval r >>= fun v => convertValue v t := by
  cases e with
  | field f => exact absurd rfl (he f)
  | _ => rfl

theorem eval_unary_bool (op : Operator) (e : Expr) :
    Except.Meets (fun _ => True) (fun v => ∃ b, v = .bool b) ((Expr.unary op e).eval r) := by
  rw [Expr.eval_unary]
  exact (Except.Meets.any _).bind fun _ _ => (Except.Meets.any _).bind fun b _ => ⟨!b, rfl⟩

theorem eval_connective_bool {op : Operator} (hop : op.isConnective = true) (l rhs : Expr) :
    Except.Meets (fun _ => True) (fun v => ∃ b, v = .bool b) ((Expr.binary op l rhs).eval r) := by
  cases op
  case and =>
    rw [Expr.eval_and]
    refine (Except.Meets.any _).bind fun a _ => ?_
    split
    · exact ⟨false, rfl⟩
    · exact (Except.Meets.any _).bind fun b _ => ⟨b, rfl⟩
  case or =>
    rw [Expr.eval_or]
    refine (Except.Meets.any _).bind fun a _ => ?_
    split
    · exact ⟨true, rfl⟩
    · exact (Except.Meets.any _).bind fun b _ => ⟨b, rfl⟩
  all_goals cases hop

theorem eval_comparison_bool {op : Operator} (hop : op.isComparison = true) (l rhs : Expr) :
    Except.Meets (fun _ => True) (fun v => ∃ b, v = .bool b) ((Expr.binary op l rhs).eval r) := by
  rw [Expr.eval_comparison hop]
  exact (Except.Meets.any _).bind fun _ _ => (Except.Meets.any _).bind fun _ _ =>
    (Except.Meets.any _).bind fun c _ => ⟨c, rfl⟩

variable {T : String → Prop}

/-- A conversion in a well-formed tree converts a field, a literal, or the boolean an operator
gives; each converts out of range, or to text past the range, only from a text of `T`. -/
theorem eval_convert_traced (hrec : ReadsTraced r T) {sh : Shape} {g : Grammar} {e : Expr}
    (wf : WellFormed sh g e) (ih : Except.Meets (EvalError.Traced T) (Value.Traced T) (e.eval r))
    (hlit : ∀ v ∈ e.literals, v.RenderTraced T) (t : Kind) :
    Except.Meets (EvalError.Traced T) (Value.Traced T) ((Expr.convert e t).eval r) := by
  have hoperator : (∀ f, e ≠ .field f) →
      Except.Meets (fun _ => True) (fun v => ∃ b, v = .bool b) (e.eval r) →
      Except.Meets (EvalError.Traced T) (Value.Traced T) ((Expr.convert e t).eval r) := by
    intro he hb
    rw [eval_convert_operand t he]
    refine (ih.and hb).bind fun v ⟨_, b, hv⟩ => ?_
    subst hv
    exact convertValue_traced (Value.renderTraced_bool T b) t
  -- the operand is a literal, a field, or an operator node, whose value is a boolean
  cases wf with
  | @literal v _ => exact convertValue_traced (hlit v (List.mem_singleton_self v)) t
  | @field f _ => exact hrec f (some t)
  | not => exact hoperator (fun f h => by cases h) (eval_unary_bool _ _)
  | connective hop => exact hoperator (fun f h => by cases h) (eval_connective_bool hop _ _)
  | compare hop => exact hoperator (fun f h => by cases h) (eval_comparison_bool hop _ _)
  | compareConverted hop => exact hoperator (fun f h => by cases h) (eval_comparison_bool hop _ _)

/-- Evaluation fails out of range, or gives text past the range, only through a text of `T`:
the record's, or a literal's. Induction over the well-formed tree: text is carried unchanged by
the nodes, and converted to a date-time only by a conversion or by a comparison's left side. -/
theorem eval_traced (hrec : ReadsTraced r T) {sh : Shape} {g : Grammar} {e : Expr}
    (wf : WellFormed sh g e) (hlit : ∀ v ∈ e.literals, v.RenderTraced T) :
    Except.Meets (EvalError.Traced T) (Value.Traced T) (e.eval r) := by
  induction wf with
  | @literal v _ => exact (hlit v (List.mem_singleton_self v)).traced
  | @field f _ => exact hrec f none
  | not _ _ ih =>
    rw [Expr.eval_unary]
    refine (ih hlit).bind fun v _ => (truth_traced T v).bind fun b _ => ?_
    exact Value.traced_bool T !b
  | @connective op l rhs hop _ _ _ _ ihl ihr =>
    have hl := ihl fun v hv => hlit v (List.mem_append_left _ hv)
    have hright : Except.Meets (EvalError.Traced T) (Value.Traced T)
        (rhs.eval r >>= truth >>= fun b => pure (.bool b)) := by
      refine ((ihr fun v hv => hlit v (List.mem_append_right _ hv)).bind fun w _ =>
        truth_traced T w).bind fun b _ => ?_
      exact Value.traced_bool T b
    cases op
    case and =>
      rw [Expr.eval_and]
      refine (hl.bind fun v _ => truth_traced T v).bind fun a _ => ?_
      split
      · exact Value.traced_bool T false
      · exact hright
    case or =>
      rw [Expr.eval_or]
      refine (hl.bind fun v _ => truth_traced T v).bind fun a _ => ?_
      split
      · exact Value.traced_bool T true
      · exact hright
    all_goals cases hop
  | @compare op l rhs hop _ _ _ _ ihl ihr =>
    rw [Expr.eval_comparison hop]
    have hl := ihl fun v hv => hlit v (List.mem_append_left _ hv)
    have hright := ihr fun v hv => hlit v (List.mem_append_right _ hv)
    refine hl.bind fun a ha => hright.bind fun b _ => (compareValues_traced ha op b).bind fun c _ => ?_
    exact Value.traced_bool T c
  | @compareConverted op e rhs t hop _ _ _ wfe _ ihe ihr =>
    -- the left side is a conversion of `e`, whose literals are the left side's
    rw [Expr.eval_comparison hop]
    have he : ∀ v ∈ e.literals, v.RenderTraced T := fun v hv => hlit v (List.mem_append_left _ hv)
    have hleft := eval_convert_traced hrec wfe (ihe he) he t
    have hright := ihr fun v hv => hlit v (List.mem_append_right _ hv)
    refine hleft.bind fun a ha => hright.bind fun b _ =>
      (compareValues_traced ha op b).bind fun c _ => ?_
    exact Value.traced_bool T c

theorem ReadsTraced.mono {T' : String → Prop} (hrec : ReadsTraced r T) (hT : ∀ s, T s → T' s) :
    ReadsTraced r T' := fun f k =>
  (hrec f k).mono (fun _ herr hdate => (herr hdate).imp fun s hs => ⟨hT s hs.1, hs.2⟩)
    (fun _ hv s hs hread => hT s (hv s hs hread))

end

theorem CompiledFilter.build_eq_ok {text : String} {sh : Shape} {g : Grammar} {f : CompiledFilter}
    (h : CompiledFilter.build text sh g = .ok f) : compileWith text sh g = .ok f.expr := by
  unfold CompiledFilter.build at h
  cases hc : compileWith text sh g with
  | error e =>
    rw [hc] at h
    cases h
  | ok e =>
    rw [hc] at h
    cases h
    rfl

/-- A compiled filter fails out of range only on a text past the range: the text of one of its
literals, or a text of `T`, which the record's reads are traced to. -/
theorem test_dateOutOfRange {α : Type} [Target α] {r : α} {T : String → Prop}
    (hrec : ReadsTraced r T) {text : String} {sh : Shape} {g : Grammar} {f : CompiledFilter}
    (hf : CompiledFilter.build text sh g = .ok f) {err : EvalError} (h : f.test r = .error err)
    (hdate : err.isDateOutOfRange = true) :
    ∃ s, DateTime.read s = .beyondRange ∧ ((∃ v ∈ f.expr.literals, v.render? = some s) ∨ T s) := by
  obtain ⟨wf, -⟩ := compileWith_wellFormed (CompiledFilter.build_eq_ok hf)
  have hwide : ReadsTraced r fun s => (∃ v ∈ f.expr.literals, v.render? = some s) ∨ T s :=
    hrec.mono fun _ => Or.inr
  have heval := eval_traced hwide wf fun v hv s hs _ => Or.inl ⟨v, hv, hs⟩
  have htest := heval.bind fun v _ => truth_traced _ v
  change Except.Meets _ _ (f.test r) at htest
  rw [h] at htest
  obtain ⟨s, hs, hread⟩ := htest hdate
  exact ⟨s, hread, hs⟩

end Filter

/-! ## What each kind of record reads -/

namespace Record

open Strainer.Filter

/-- A declared record reads its values, converted when asked: text past the range comes only
from the text of a value it holds. -/
theorem staticRecord_readsTraced (r : StaticRecord) :
    ReadsTraced r fun s => ∃ v ∈ r.values, v.render? = some s := by
  have hfield : ∀ i, (r.field i).RenderTraced fun s => ∃ v ∈ r.values, v.render? = some s := by
    intro i s hs _
    unfold StaticRecord.field at hs
    cases hget : r.values[i]? with
    | none =>
      rw [hget] at hs
      cases hs
    | some v =>
      rw [hget] at hs
      exact ⟨v, List.mem_of_getElem? hget, hs⟩
  intro f k
  -- a field bound by name is first looked up among the declared ones; then the value at its
  -- position is read, converted when a kind is asked for
  cases k
  all_goals
    simp only [Target.read]
    split
    · first | exact (hfield _).traced | exact convertValue_traced (hfield _) _
    · split
      · first | exact (hfield _).traced | exact convertValue_traced (hfield _) _
      · intro h
        cases h

section

variable {α : Type} [Members α]

/-- A record's member texts: the text of each value some name resolves to. -/
def memberTexts (r : α) (s : String) : Prop :=
  ∃ name v, Members.resolve r name = some v ∧ v.render? = some s

/-- A record with members reads them by name; asked for a kind, it converts them or applies its
own rules, which are traced to its member texts by `hAs`. -/
theorem members_readsTraced (r : α)
    (hAs : ∀ name k, Except.Meets (EvalError.Traced (memberTexts r))
      (Value.Traced (memberTexts r)) (Members.resolveAs r name k)) :
    ReadsTraced r (memberTexts r) := by
  intro f k
  cases k with
  | some k => exact hAs f.name k
  | none =>
    simp only [Target.read]
    split
    · rename_i v hv
      rintro s rfl _
      exact ⟨f.name, _, hv, rfl⟩
    · intro h
      cases h

theorem resolve_convert_traced (r : α) (name : String) (k : Kind) :
    Except.Meets (EvalError.Traced (memberTexts r)) (Value.Traced (memberTexts r))
      ((Members.resolve r name).elim (.error (.unresolvedMember name)) fun v => convertValue v k) := by
  cases hv : Members.resolve r name with
  | none =>
    intro h
    cases h
  | some v => exact convertValue_traced (fun s hs _ => ⟨name, v, hv, hs⟩) k

/-- Records without rules of their own convert the member a name resolves to. -/
theorem members_default_readsTraced (r : α)
    (hdefault : ∀ name k, Members.resolveAs r name k =
      (Members.resolve r name).elim (.error (.unresolvedMember name)) fun v => convertValue v k) :
    ReadsTraced r (memberTexts r) :=
  members_readsTraced r fun name k => by
    rw [hdefault]
    exact resolve_convert_traced r name k

end

theorem memberMap_resolveAs (m : MemberMap) (name : String) (k : Kind) :
    Members.resolveAs m name k =
      (Members.resolve m name).elim (.error (.unresolvedMember name)) fun v => convertValue v k := by
  simp only [Members.resolveAs, Members.resolve]
  cases List.find? (fun x => x.fst == name) m.entries <;> rfl

theorem jsonObject_resolveAs (o : JsonObject) (name : String) (k : Kind) :
    Members.resolveAs o name k =
      (Members.resolve o name).elim (.error (.unresolvedMember name)) fun v => convertValue v k := by
  simp only [Members.resolveAs, Members.resolve]
  cases List.find? (fun x => x.fst == name) o.members <;> rfl

theorem memberMap_readsTraced (m : MemberMap) : ReadsTraced m (memberTexts m) :=
  members_default_readsTraced m (memberMap_resolveAs m)

theorem jsonObject_readsTraced (o : JsonObject) : ReadsTraced o (memberTexts o) :=
  members_default_readsTraced o (jsonObject_resolveAs o)

end Record

namespace Rows

open Strainer.Filter Record

/-- A row reads a null member as the default of the kind asked for and converts other values of
another kind; both are traced to its member texts. -/
theorem rowRecord_readsTraced (r : RowRecord) : ReadsTraced r (memberTexts r) := by
  refine members_readsTraced r fun name k => ?_
  show Except.Meets _ _ (RowRecord.resolveAs r name k)
  unfold RowRecord.resolveAs
  split
  · intro h
    cases h
  · rename_i v hv
    split
    · exact Kind.defaultValue_traced _ k
    · split_ifs
      · rintro s rfl _
        exact ⟨name, _, hv, rfl⟩
      · exact convertValue_traced (fun s hs _ => ⟨name, v, hv, hs⟩) k

end Rows

/-! ## Compiling and running a filter -/

namespace Filter

open Record Rows

/-- Compiling and running a filter end out of range only on an RFC 3339 stamp whose instant, in
UTC, lies after year 9999. Compiling: the stamp is the body of a date token `#…#` of the text.
Running a compiled filter on a declared record, a map, a JSON object or a row: the stamp is the
text of one of the filter's literals or of a value the record holds. The scan behind both stays
inside its text, stops at its end or at a `)`, and keeps at most `maxDepth` groups open. -/
theorem dateOutOfRange_only_from_stamps_past_range :
    (∀ (c : Compiler) (text : String), c.compile text = .error .dateOutOfRange →
      ∃ body pos, ⟨.atom (.date body), pos⟩ ∈ tokenize 0 text.toList ∧
        DateTime.read (String.ofList body) = .beyondRange) ∧
    (∀ (text : String) (sh : Shape) (g : Grammar), compileWith text sh g = .error .dateOutOfRange →
      ∃ body pos, ⟨.atom (.date body), pos⟩ ∈ tokenize 0 text.toList ∧
        DateTime.read (String.ofList body) = .beyondRange) ∧
    (∀ s : String, DateTime.read s = .beyondRange ↔
      ∃ wall off, (DateText.stamp (Text.trim s.toList)).isSome ∧
        DateText.stampFields (Text.trim s.toList) = some (wall, off) ∧
        DateTime.maxYear < DateText.utcYear wall off) ∧
    (∀ (c : Compiler) (text : String) (x : Option Expr) (rest : List Char) (pos : Nat),
      c.level (text.toList.length + 1) 0 text.toList 0 none [] = .ok (x, rest, pos) →
        rest <:+ text.toList ∧ (rest = [] ∨ rest.head? = some ')')) ∧
    (∀ (c : Compiler) (ls : List Lexeme) (s : Fold),
      ls.foldlM c.step (.reading ⟨none, []⟩ []) = .ok s → s.openGroups ≤ maxDepth) ∧
    (∀ (text : String) (sh : Shape) (g : Grammar) (f : CompiledFilter) (r : StaticRecord),
      CompiledFilter.build text sh g = .ok f → f.test r = .error (.conversion .dateOutOfRange) →
        ∃ s, DateTime.read s = .beyondRange ∧
          ((∃ v ∈ f.expr.literals, v.render? = some s) ∨ ∃ v ∈ r.values, v.render? = some s)) ∧
    (∀ (text : String) (sh : Shape) (g : Grammar) (f : CompiledFilter) (r : MemberMap),
      CompiledFilter.build text sh g = .ok f → f.test r = .error (.conversion .dateOutOfRange) →
        ∃ s, DateTime.read s = .beyondRange ∧
          ((∃ v ∈ f.expr.literals, v.render? = some s) ∨ memberTexts r s)) ∧
    (∀ (text : String) (sh : Shape) (g : Grammar) (f : CompiledFilter) (r : JsonObject),
      CompiledFilter.build text sh g = .ok f → f.test r = .error (.conversion .dateOutOfRange) →
        ∃ s, DateTime.read s = .beyondRange ∧
          ((∃ v ∈ f.expr.literals, v.render? = some s) ∨ memberTexts r s)) ∧
    (∀ (text : String) (sh : Shape) (g : Grammar) (f : CompiledFilter) (r : RowRecord),
      CompiledFilter.build text sh g = .ok f → f.test r = .error (.conversion .dateOutOfRange) →
        ∃ s, DateTime.read s = .beyondRange ∧
          ((∃ v ∈ f.expr.literals, v.render? = some s) ∨ memberTexts r s)) := by
  refine ⟨fun c text h => Compiler.compile_dateOutOfRange h rfl,
    fun text sh g h => compileWith_dateOutOfRange h rfl, DateTime.read_eq_beyondRange_iff,
    fun c text x rest pos h => Compiler.level_stops c text h,
    fun c ls s h => Compiler.foldlM_openGroups ls (Nat.zero_le _) h, ?_, ?_, ?_, ?_⟩
  · intro text sh g f r hf h
    exact test_dateOutOfRange (staticRecord_readsTraced r) hf h rfl
  · intro text sh g f r hf h
    exact test_dateOutOfRange (memberMap_readsTraced r) hf h rfl
  · intro text sh g f r hf h
    exact test_dateOutOfRange (jsonObject_readsTraced r) hf h rfl
  · intro text sh g f r hf h
    exact test_dateOutOfRange (rowRecord_readsTraced r) hf h rfl

/-- `#9999-12-31T23:59:59-01:00#` names the first second of year 10000 in UTC: compiling it fails
out of range on its one token, and a text field holding the stamp, compared with a date, fails
out of range on the field's value. -/
theorem stamp_past_range_fails :
    ((Compiler.mk .dynamic .compatible).compile "#9999-12-31T23:59:59-01:00#" =
        .error .dateOutOfRange ∧
      ∃ body pos, ⟨.atom (.date body), pos⟩ ∈ tokenize 0 "#9999-12-31T23:59:59-01:00#".toList ∧
        DateTime.read (String.ofList body) = .beyondRange) ∧
    ((CompiledFilter.mk "[S] == #3/13/2024#" (.binary .equal (.convert (.field (.bound "S" 0 .string))
        .dateTime) (.literal (.dateTime ⟨2024, 3, 13, 0, 0, 0, 0⟩)))).test
        (⟨[⟨"S", .string⟩], [.string "9999-12-31T23:59:59-01:00"]⟩ : StaticRecord) =
        .error (.conversion .dateOutOfRange) ∧
      ∃ s, DateTime.read s = .beyondRange ∧
        ((∃ v ∈ [Value.dateTime ⟨2024, 3, 13, 0, 0, 0, 0⟩], v.render? = some s) ∨
          ∃ v ∈ [Value.string "9999-12-31T23:59:59-01:00"], v.render? = some s)) := by
  have hcompile : (Compiler.mk .dynamic .compatible).compile "#9999-12-31T23:59:59-01:00#" =
      .error .dateOutOfRange := by
    decide
  have hbuild : CompiledFilter.build "[S] == #3/13/2024#" (.static [⟨"S", .string⟩]) .compatible =
      .ok ⟨"[S] == #3/13/2024#", .binary .equal (.convert (.field (.bound "S" 0 .string)) .dateTime)
        (.literal (.dateTime ⟨2024, 3, 13, 0, 0, 0, 0⟩))⟩ := by
    decide
  have htest : (CompiledFilter.mk "[S] == #3/13/2024#" (.binary .equal
      (.convert (.field (.bound "S" 0 .string)) .dateTime)
      (.literal (.dateTime ⟨2024, 3, 13, 0, 0, 0, 0⟩)))).test
      (⟨[⟨"S", .string⟩], [.string "9999-12-31T23:59:59-01:00"]⟩ : StaticRecord) =
      .error (.conversion .dateOutOfRange) := by
    decide
  exact ⟨⟨hcompile, dateOutOfRange_only_from_stamps_past_range.1 _ _ hcompile⟩,
    htest, dateOutOfRange_only_from_stamps_past_range.2.2.2.2.2.1 _ _ _ _ _ hbuild htest⟩

end Filter

end Strainer
