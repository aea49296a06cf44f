import Strainer.Proofs.Filter.WellFormed
import Strainer.Record.Static

/-!
# Statically compiled filters fail only on values

A filter compiled against a static shape has every check done up front: each field's kind is
known, each conversion is one that exists and each connective has boolean operands. On a record
whose fields hold null or a value of their declared kind, evaluation can then fail only on the
values themselves: text that does not read as the kind asked for, a number out of the target's
range, a time past the year range, or a null read from a field where a boolean is needed. It is
never refused a conversion, never misses a member and never finds a non-boolean value where a
boolean is needed.

The proof is an induction over `WellFormed` trees with the outcome predicate `Except.Meets`:
each node's value is null or of the node's static kind, and each failure is one of the above.
The conversions carry it because a conversion that `Kind.canConvertTo` allows gives a value of
the target kind or fails on the value (`convert_convertsTo`).
-/

namespace Strainer

/-- An outcome that is a value satisfying `P` or a failure satisfying `E`. -/
def Except.Meets {ε α : Type} (E : ε → Prop) (P : α → Prop) : Except ε α → Prop
  | .ok a => P a
  | .error e => E e

namespace Except.Meets

variable {ε α β : Type} {E : ε → Prop} {P : α → Prop} {Q : β → Prop}

theorem bind {x : Except ε α} {f : α → Except ε β} (hx : Except.Meets E P x)
    (hf : ∀ a, P a → Except.Meets E Q (f a)) : Except.Meets E Q (x >>= f) := by
  cases x with
  | error e => exact hx
  | ok a => exact hf a hx

theorem map {g : α → β} {x : Except ε α} (hx : Except.Meets E P x) (hg : ∀ a, P a → Q (g a)) :
    Except.Meets E Q (x.map g) := by
  cases x with
  | error e => exact hx
  | ok a => exact hg a hx

theorem mono {E' : ε → Prop} {P' : α → Prop} {x : Except ε α} (hx : Except.Meets E P x)
    (hE : ∀ e, E e → E' e) (hP : ∀ a, P a → P' a) : Except.Meets E' P' x := by
  cases x with
  | error e => exact hE e hx
  | ok a => exact hP a hx

/-- Two conditions on one outcome hold together; a failure meets the first's condition. -/
theorem and {E' : ε → Prop} {P' : α → Prop} {x : Except ε α} (hx : Except.Meets E P x)
    (hx' : Except.Meets E' P' x) : Except.Meets E (fun a => P a ∧ P' a) x := by
  cases x with
  | error e => exact hx
  | ok a => exact ⟨hx, hx'⟩

theorem any (x : Except ε α) : Except.Meets (fun _ => True) (fun _ => True) x := by
  cases x <;> trivial

end Except.Meets

/-! ## Conversions that exist -/

/-- The failure is a refused pair of kinds, not a fault of the value converted. -/
def ConvertError.isUnsupported : ConvertError → Bool
  | .unsupported _ _ => true
  | _ => false

/-- A conversion to `t` that gives a value of kind `t`, or fails on the value. -/
def ConvertsTo (t : Kind) : Except ConvertError Value → Prop :=
  Except.Meets (fun e => e.isUnsupported = false) (fun w => w.kind = some t)

theorem Number.narrow_kind {i : Int} {t : Kind} {w : Value} (h : Number.narrow i t = some w) :
    w.kind = some t := by
  unfold Number.narrow at h
  split at h <;> (try split_ifs at h) <;> cases h <;> rfl

/-- A numeric conversion never refuses: its only failure is a result out of range. -/
theorem Number.convertTo_convertsTo (n : Number) (t : Kind) : ConvertsTo t (n.convertTo t) := by
  unfold Number.convertTo
  -- one case per target: `bool`, the floats and `decimal` are built directly
  split
  · rfl
  · rfl
  · rfl
  · split
    · split_ifs <;> rfl
    · split <;> rfl
    · rfl
  · -- the integer kinds and `char`: an integer first, then narrowed to the target
    cases n with
    | int i =>
      dsimp only
      split <;> first | rfl | exact Number.narrow_kind ‹_›
    | float x =>
      dsimp only
      cases x.roundTiesEven? with
      | none => rfl
      | some i => dsimp only; split <;> first | rfl | exact Number.narrow_kind ‹_›
    | decimal d =>
      dsimp only
      split_ifs
      · dsimp only
        split <;> first | rfl | exact Number.narrow_kind ‹_›
      · rfl

/-- Reading text never refuses: it gives a value of the kind, or names the text as invalid, out of
range or past the year range. -/
theorem Value.parseAs_convertsTo (s : String) (t : Kind) : ConvertsTo t (Value.parseAs s t) := by
  cases t
  all_goals unfold Value.parseAs; dsimp only
  case bool =>
    -- the two readings are named first: reducing the goal would try to evaluate them
    generalize Text.eqIgnoreAsciiCase (Text.trimString s) "true" = isTrue
    generalize Text.eqIgnoreAsciiCase (Text.trimString s) "false" = isFalse
    cases isTrue <;> cases isFalse <;> rfl
  case uint8 | int16 | int32 | int64 =>
    -- read within the kind's range, then narrowed: the value has the kind or the text is refused
    simp only [Number.range]
    split
    · split
      · exact Number.narrow_kind ‹_›
      · rfl
    · rfl
    · rfl
  case float32 | float64 | decimal | dateTime | guid | char =>
    split
    all_goals rfl
  case string | bytes | chars => rfl

/-- Apart from text, which reads as anything, and the kind itself, a kind converts only as a
number or a character. -/
theorem Kind.numeric_of_canConvertTo {k t : Kind} (hc : k.canConvertTo t = true) (hkt : k ≠ t)
    (hk : k ≠ .string) (ht : t ≠ .string) : k.isNumeric = true ∨ k = .char := by
  revert hc hkt hk ht
  cases k <;> cases t <;> decide

theorem Value.render?_isSome {v : Value} {k : Kind} (hk : v.kind = some k) (hb : k ≠ .bytes) :
    ∃ s, v.render? = some s := by
  cases v <;> cases hk <;> first | exact absurd rfl hb | exact ⟨_, rfl⟩

theorem Number.ofValue?_isSome {v : Value} {k : Kind} (hk : v.kind = some k)
    (hn : k.isNumeric = true ∨ k = .char) : ∃ n, Number.ofValue? v = some n := by
  cases v <;> cases hk <;> first | exact ⟨_, rfl⟩ | (exfalso; revert hn; decide)

/-- A conversion that `Kind.canConvertTo` allows is never refused: it gives a value of the
target kind or fails on the value. -/
theorem Value.convert_convertsTo {v : Value} {k t : Kind} (hk : v.kind = some k)
    (hc : k.canConvertTo t = true) : ConvertsTo t (v.convert t) := by
  unfold Value.convert
  rw [hk]
  dsimp only
  by_cases hkt : k = t
  · rw [if_pos hkt]
    subst hkt
    exact hk
  rw [if_neg hkt, if_neg (by simp [hc])]
  split
  · exact Value.parseAs_convertsTo _ _
  · rename_i hnotString
    have hks : k ≠ .string := by
      rintro rfl
      cases v <;> cases hk
      exact hnotString _ rfl
    by_cases ht : t = .string
    · -- bytes are the one kind without text, and they convert to nothing else
      have hkb : k ≠ .bytes := by
        rintro rfl
        subst ht
        exact absurd hc (by decide)
      obtain ⟨s, hs⟩ := Value.render?_isSome hk hkb
      rw [if_pos ht, hs]
      subst ht
      rfl
    · rw [if_neg ht]
      obtain ⟨n, hn⟩ := Number.ofValue?_isSome hk (Kind.numeric_of_canConvertTo hc hkt hks ht)
      rw [hn]
      exact Number.convertTo_convertsTo n t

theorem Value.kind_isSome {v : Value} (h : ¬v.isNull = true) : ∃ k, v.kind = some k := by
  cases v <;> first | exact ⟨_, rfl⟩ | exact absurd rfl h

theorem Value.eq_null_of_kind_eq_none {v : Value} (h : v.kind = none) : v = .null := by
  cases v <;> first | rfl | cases h

/-! ## Evaluation on records of the shape -/

namespace Filter

open Record

/-- The record holds, at each declared position, null or a value of the declared kind. -/
def Conforms (fields : List FieldDef) (r : StaticRecord) : Prop :=
  ∀ i (hi : i < fields.length), (r.field i).kind = none ∨ (r.field i).kind = some fields[i].kind

/-- A value of static kind `k` on the record: of kind `k`, or a null read from a null field. -/
def Fits (fields : List FieldDef) (r : StaticRecord) (k : Option Kind) (v : Value) : Prop :=
  v.kind = k ∨ (v = .null ∧ ∃ i < fields.length, r.field i = .null)

/-- The failures a statically compiled filter can meet on a conforming record: a conversion that
fails on its value, and a null read from a field where a boolean is needed. -/
def Excused (fields : List FieldDef) (r : StaticRecord) : EvalError → Prop
  | .conversion e => e.isUnsupported = false
  | .notBoolean none => ∃ i < fields.length, r.field i = .null
  | _ => False

namespace Expr

variable {α : Type} [Target α] {r : α}

theorem eval_unary (op : Operator) (e : Expr) :
    (Expr.unary op e).eval r = e.eval r >>= fun v => truth v >>= fun b => .ok (.bool !b) := rfl

theorem eval_and (l rhs : Expr) :
    (Expr.binary .and l rhs).eval r = l.eval r >>= truth >>= fun a =>
      if !a then pure (.bool false) else rhs.eval r >>= truth >>= fun b => pure (.bool b) := by
  simp only [bind_assoc]
  rfl

theorem eval_or (l rhs : Expr) :
    (Expr.binary .or l rhs).eval r = l.eval r >>= truth >>= fun a =>
      if a then pure (.bool true) else rhs.eval r >>= truth >>= fun b => pure (.bool b) := by
  simp only [bind_assoc]
  rfl

theorem eval_comparison {op : Operator} (hop : op.isComparison = true) (l rhs : Expr) :
    (Expr.binary op l rhs).eval r = l.eval r >>= fun a => rhs.eval r >>= fun b =>
      compareValues op a b >>= fun c => pure (.bool c) := by
  cases op <;> first | rfl | cases hop

end Expr

/-- A record asked for a field in some kind gives what converting the field's value gives. -/
theorem eval_convert_static (r : StaticRecord) (e : Expr) (t : Kind) :
    (Expr.convert e t).eval r = e.eval r >>= fun v => convertValue v t := by
  cases e with
  | field f =>
    cases f with
    | bound name i k => rfl
    | byName name =>
      show Target.read r (.byName name) (some t) = Target.read r (.byName name) none >>= _
      simp only [Target.read]
      cases r.fields.findIdx? (·.name == name) <;> rfl
  | _ => rfl

section

variable {fields : List FieldDef} {r : StaticRecord}

theorem fits_bound (hr : Conforms fields r) {name : String} {i : Nat} {k : Kind}
    (hb : (Shape.static fields).Binds (.bound name i k)) : Fits fields r (some k) (r.field i) := by
  obtain ⟨hget, -⟩ := hb
  obtain ⟨hi, hdef⟩ := List.getElem?_eq_some_iff.mp hget
  rcases hr i hi with hnull | hkind
  · exact .inr ⟨Value.eq_null_of_kind_eq_none hnull, i, hi, Value.eq_null_of_kind_eq_none hnull⟩
  · rw [hdef] at hkind
    exact .inl hkind

theorem truth_meets {v : Value} (hv : Fits fields r (some .bool) v) :
    Except.Meets (Excused fields r) (fun _ => True) (truth v) := by
  rcases hv with hkind | ⟨rfl, hnull⟩
  · cases v <;> cases hkind
    trivial
  · exact hnull

theorem convertValue_meets {v : Value} {k t : Kind} (hv : Fits fields r (some k) v)
    (hc : k.canConvertTo t = true) :
    Except.Meets (Excused fields r) (Fits fields r (some t)) (convertValue v t) := by
  rcases hv with hkind | ⟨rfl, hnull⟩
  · have hconv := Value.convert_convertsTo hkind hc
    unfold convertValue
    revert hconv
    cases v.convert t with
    | ok w => exact fun hw => .inl hw
    | error e => exact id
  · exact .inr ⟨rfl, hnull⟩

/-- Two sides of one static kind are compared without a conversion, so the comparison never
fails. -/
theorem compareValues_meets {op : Operator} {k : Option Kind} {a b : Value}
    (ha : Fits fields r k a) (hb : Fits fields r k b) :
    Except.Meets (Excused fields r) (fun _ => True) (compareValues op a b) := by
  unfold compareValues
  by_cases hnull : a.isNull ∨ b.isNull
  · rw [if_pos hnull]
    trivial
  · rw [if_neg hnull]
    obtain ⟨hna, hnb⟩ := not_or.mp hnull
    have hsame : a.kind = b.kind := by
      rcases ha with ha | ⟨rfl, -⟩
      · rcases hb with hb | ⟨rfl, -⟩
        · rw [ha, hb]
        · exact absurd rfl hnb
      · exact absurd rfl hna
    obtain ⟨k', hk'⟩ := Value.kind_isSome hna
    rw [← hsame, hk']
    dsimp only
    rw [if_pos rfl]
    trivial

theorem WellFormed.kind_isSome {g : Grammar} {e : Expr} (wf : WellFormed (.static fields) g e) :
    ∃ k, e.kind = some k := by
  cases wf with
  | @literal v hv => cases v <;> first | exact ⟨_, rfl⟩ | exact hv.elim
  | @field f hf =>
    cases f with
    | bound name i k => exact ⟨k, rfl⟩
    | byName name => exact hf.elim
  | not => exact ⟨_, rfl⟩
  | connective => exact ⟨_, rfl⟩
  | compare => exact ⟨_, rfl⟩
  | compareConverted => exact ⟨_, rfl⟩

/-- Under a static shape every kind is known, so an operand that may be boolean is boolean. -/
theorem WellFormed.kind_bool {g : Grammar} {e : Expr} (wf : WellFormed (.static fields) g e)
    (he : e.MaybeBool) : e.kind = some .bool := by
  obtain ⟨k, hk⟩ := wf.kind_isSome
  rcases he with hnone | hbool
  · rw [hk] at hnone
    cases hnone
  · exact hbool

/-- Evaluation follows the static kinds: each node of a tree compiled against the record's
fields evaluates to null or a value of its kind, or fails in an excused way. -/
theorem eval_meets (hr : Conforms fields r) {g : Grammar} {e : Expr}
    (wf : WellFormed (.static fields) g e) :
    Except.Meets (Excused fields r) (Fits fields r e.kind) (e.eval r) := by
  induction wf with
  | literal hv => exact .inl rfl
  | @field f hf =>
    cases f with
    | bound name i k => exact fits_bound hr hf
    | byName name => exact hf.elim
  | @not e he wf ih =>
    rw [Expr.eval_unary]
    rw [wf.kind_bool he] at ih
    exact ih.bind fun v hv => (truth_meets hv).bind fun _ _ => .inl rfl
  | @connective op l rhs hop hl hrhs wfl wfr ihl ihr =>
    rw [wfl.kind_bool hl] at ihl
    rw [wfr.kind_bool hrhs] at ihr
    have hright : Except.Meets (Excused fields r) (Fits fields r (some .bool))
        (rhs.eval r >>= truth >>= fun b => pure (.bool b)) :=
      (ihr.bind fun w hw => truth_meets hw).bind fun _ _ => .inl rfl
    cases op
    case and =>
      rw [Expr.eval_and]
      refine (ihl.bind fun v hv => truth_meets hv).bind fun a _ => ?_
      cases a
      · exact .inl rfl
      · exact hright
    case or =>
      rw [Expr.eval_or]
      refine (ihl.bind fun v hv => truth_meets hv).bind fun a _ => ?_
      cases a
      · exact hright
      · exact .inl rfl
    all_goals cases hop
  | @compare op l rhs hop _ hkind wfl wfr ihl ihr =>
    have hsame : l.kind = rhs.kind := by
      refine hkind.resolve_left ?_
      obtain ⟨k, hk⟩ := wfr.kind_isSome
      rw [hk]
      exact Option.some_ne_none k
    rw [Expr.eval_comparison hop]
    rw [hsame] at ihl
    exact ihl.bind fun a ha => ihr.bind fun b hb =>
      (compareValues_meets ha hb).bind fun _ _ => .inl rfl
  | @compareConverted op e rhs t hop _ hrk he wfe wfr ihe ihr =>
    -- the left side is converted to the right side's kind by a conversion that exists
    obtain ⟨k, hk, -, hc⟩ : ∃ k, e.kind = some k ∧ k ≠ t ∧ k.canConvertTo t = true := by
      refine he.resolve_left ?_
      obtain ⟨k, hk⟩ := wfe.kind_isSome
      rw [hk]
      exact Option.some_ne_none k
    rw [Expr.eval_comparison hop, eval_convert_static]
    rw [hk] at ihe
    rw [hrk] at ihr
    have hleft := ihe.bind fun v hv => convertValue_meets hv hc
    exact hleft.bind fun a ha => ihr.bind fun b hb =>
      (compareValues_meets ha hb).bind fun _ _ => .inl rfl

/-- A filter compiled for use evaluates on a conforming record to a boolean or fails in an
excused way. -/
theorem test_meets (hr : Conforms fields r) {text : String} {g : Grammar} {f : Expr}
    (hf : compileWith text (.static fields) g = .ok f) :
    Except.Meets (Excused fields r) (fun _ => True) (f.test r) := by
  obtain ⟨wf, hbool⟩ := compileWith_wellFormed hf
  have hroot := eval_meets hr wf
  rw [wf.kind_bool hbool] at hroot
  exact hroot.bind fun v hv => truth_meets hv

end

/-- Static type soundness. A filter compiled against a static field list, run on a record whose
fields hold null or a value of their declared kind, gives a boolean or fails on a value: text that
does not read as the kind asked for, a number out of range, a time past the year range, or a null
read from a field where a boolean is needed. It is never refused a conversion, never misses a
member and never finds a non-boolean value. -/
theorem test_static_sound (fields : List FieldDef) (text : String) (g : Grammar) (f : Expr)
    (hf : compileWith text (.static fields) g = .ok f) (r : StaticRecord)
    (hr : ∀ i (hi : i < fields.length),
      (r.field i).kind = none ∨ (r.field i).kind = some fields[i].kind) :
    (∃ b, f.test r = .ok b) ∨
      (∃ text t, f.test r = .error (.conversion (.invalid text t))) ∨
      (∃ text t, f.test r = .error (.conversion (.overflow text t))) ∨
      f.test r = .error (.conversion .dateOutOfRange) ∨
      (f.test r = .error (.notBoolean none) ∧ ∃ i < fields.length, r.field i = .null) := by
  have hmeets := test_meets hr hf
  revert hmeets
  cases f.test r with
  | ok b => exact fun _ => .inl ⟨b, rfl⟩
  | error e =>
    intro he
    -- the excused failures, one by one
    cases e with
    | conversion c =>
      cases c with
      | unsupported s t => cases he
      | invalid a t => exact .inr (.inl ⟨a, t, rfl⟩)
      | overflow a t => exact .inr (.inr (.inl ⟨a, t, rfl⟩))
      | dateOutOfRange => exact .inr (.inr (.inr (.inl rfl)))
    | notBoolean k =>
      cases k with
      | none => exact .inr (.inr (.inr (.inr ⟨rfl, he⟩)))
      | some k => exact he.elim
    | unresolvedMember name => exact he.elim

/-- A nullable boolean field read as the whole filter: on a record where it is null, the filter
fails for want of a boolean, and the null field is the cause. -/
theorem test_null_flag_sound :
    compileWith "[Flag]" (.static [⟨"Flag", .bool⟩]) .compatible =
        .ok (.field (.bound "Flag" 0 .bool)) ∧
      ((∃ b, (Expr.field (.bound "Flag" 0 .bool)).test (⟨[⟨"Flag", .bool⟩], [.null]⟩ : StaticRecord) =
          .ok b) ∨
        (∃ text t, (Expr.field (.bound "Flag" 0 .bool)).test
          (⟨[⟨"Flag", .bool⟩], [.null]⟩ : StaticRecord) = .error (.conversion (.invalid text t))) ∨
        (∃ text t, (Expr.field (.bound "Flag" 0 .bool)).test
          (⟨[⟨"Flag", .bool⟩], [.null]⟩ : StaticRecord) = .error (.conversion (.overflow text t))) ∨
        (Expr.field (.bound "Flag" 0 .bool)).test (⟨[⟨"Flag", .bool⟩], [.null]⟩ : StaticRecord) =
          .error (.conversion .dateOutOfRange) ∨
        ((Expr.field (.bound "Flag" 0 .bool)).test (⟨[⟨"Flag", .bool⟩], [.null]⟩ : StaticRecord) =
            .error (.notBoolean none) ∧
          ∃ i < [(⟨"Flag", .bool⟩ : FieldDef)].length,
            (⟨[⟨"Flag", .bool⟩], [.null]⟩ : StaticRecord).field i = .null)) := by
  have hcompile : compileWith "[Flag]" (.static [⟨"Flag", .bool⟩]) .compatible =
      .ok (.field (.bound "Flag" 0 .bool)) := by
    decide
  exact ⟨hcompile, test_static_sound _ _ _ _ hcompile _ (by decide)⟩

/-- A string field holding a time whose instant lies past the year range, compared with a date:
the field is converted to a date, and no date can stand for the time. -/
theorem test_string_past_year_range :
    compileWith "[S] == #3/13/2024#" (.static [⟨"S", .string⟩]) .compatible =
        .ok (.binary .equal (.convert (.field (.bound "S" 0 .string)) .dateTime)
          (.literal (.dateTime ⟨2024, 3, 13, 0, 0, 0, 0⟩))) ∧
      (Expr.binary .equal (.convert (.field (.bound "S" 0 .string)) .dateTime)
          (.literal (.dateTime ⟨2024, 3, 13, 0, 0, 0, 0⟩))).test
          (⟨[⟨"S", .string⟩], [.string "9999-12-31T23:59:59-01:00"]⟩ : StaticRecord) =
        .error (.conversion .dateOutOfRange) := by
  constructor
  · decide
  · decide

end Filter

end Strainer
