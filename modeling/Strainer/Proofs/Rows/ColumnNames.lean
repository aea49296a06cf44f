import Strainer.Rows.Record
import Strainer.Sink.Columnar

/-!
# Finding a column by its name

A row view finds the position of a column by name in one pass over the columns: a column of
exactly that name returns at once, and the first column whose name matches ignoring ASCII case is
kept in case no exact match follows. When every column has a name, the position found is the
first exact match, else the first match ignoring case, else there is none
(`RowView.ordinal_eq_matchColumn`); an exact match wins over a case-folded one before it.

Everything that reads a field by name goes through that position: `valueByName`, the members of
a row record that filters resolve, and the values a columnar sink stores for its columns.
-/

namespace Strainer.Rows

/-- The position a name finds among column names: the first column of exactly that name, else
the first whose name equals it ignoring ASCII case. -/
def matchColumn (names : List String) (wanted : String) : Option Nat :=
  (names.findIdx? (· == wanted)).or (names.findIdx? (Text.eqIgnoreAsciiCase · wanted))

theorem matchColumn_eq_some_iff {names : List String} {wanted : String} {i : Nat} :
    matchColumn names wanted = some i ↔
      (∃ h : i < names.length, names[i] = wanted ∧ ∀ j (hj : j < i), names[j] ≠ wanted) ∨
      (wanted ∉ names ∧ ∃ h : i < names.length, Text.eqIgnoreAsciiCase names[i] wanted ∧
        ∀ j (hj : j < i), Text.eqIgnoreAsciiCase names[j] wanted = false) := by
  unfold matchColumn
  cases hexact : names.findIdx? (· == wanted) with
  | some k =>
    obtain ⟨hk, hkw, hbefore⟩ := List.findIdx?_eq_some_iff_getElem.1 hexact
    simp only [Option.some_or, Option.some.injEq]
    constructor
    · rintro rfl
      exact .inl ⟨hk, by simpa using hkw, fun j hj => by simpa using hbefore j hj⟩
    · rintro (⟨hi, hiw, hmin⟩ | ⟨hnot, -⟩)
      · -- two least exact matches are the same position
        rcases Nat.lt_trichotomy k i with hlt | heq | hgt
        · exact absurd (by simpa using hkw) (hmin k hlt)
        · exact heq
        · exact absurd (by simpa using hiw) (by simpa using hbefore i hgt)
      · exact absurd (List.mem_iff_getElem.2 ⟨k, hk, by simpa using hkw⟩) hnot
  | none =>
    have hnot : wanted ∉ names := fun hmem => by
      simpa using List.findIdx?_eq_none_iff.1 hexact wanted hmem
    simp only [Option.none_or, List.findIdx?_eq_some_iff_getElem]
    constructor
    · rintro ⟨hi, hiw, hmin⟩
      exact .inr ⟨hnot, hi, hiw, fun j hj => by simpa using hmin j hj⟩
    · rintro (⟨hi, hiw, -⟩ | ⟨-, hi, hiw, hmin⟩)
      · exact absurd (List.mem_iff_getElem.2 ⟨i, hi, hiw⟩) hnot
      · exact ⟨hi, hiw, fun j hj => by simpa using hmin j hj⟩

theorem matchColumn_eq_none_iff {names : List String} {wanted : String} :
    matchColumn names wanted = none ↔
      wanted ∉ names ∧ ∀ n ∈ names, Text.eqIgnoreAsciiCase n wanted = false := by
  unfold matchColumn
  rw [Option.or_eq_none_iff, List.findIdx?_eq_none_iff, List.findIdx?_eq_none_iff]
  constructor
  · rintro ⟨hexact, hfolded⟩
    exact ⟨fun hmem => by simpa using hexact wanted hmem, hfolded⟩
  · rintro ⟨hnot, hfolded⟩
    refine ⟨fun n hn => ?_, hfolded⟩
    rw [beq_eq_false_iff_ne]
    rintro rfl
    exact hnot hn

namespace RowView

variable {α : Type} [RowView α] (r : α)

/-- The search over the positions `k, k + 1, …` named `rest`: the first exact match among them,
else the first match ignoring case already kept, else the first among them. -/
theorem ordinalFrom_range' (wanted : String) (rest : List String) (k : Nat)
    (hnames : ∀ j n, rest[j]? = some n → name r (k + j) = .ok n) (folded : Option Nat) :
    ordinalFrom r wanted (List.range' k rest.length) folded =
      (((rest.findIdx? (· == wanted)).map (k + ·)).or
        (folded.or ((rest.findIdx? (Text.eqIgnoreAsciiCase · wanted)).map (k + ·)))).elim
        (.error (.unknownColumn wanted)) .ok := by
  induction rest generalizing k folded with
  | nil => cases folded <;> rfl
  | cons n rest ih =>
    have hfirst : name r k = .ok n := hnames 0 n rfl
    have htail : ∀ j m, rest[j]? = some m → name r (k + 1 + j) = .ok m := fun j m h => by
      rw [Nat.add_assoc, Nat.add_comm 1 j]
      exact hnames (j + 1) m h
    rw [List.length_cons, List.range'_succ, ordinalFrom, hfirst]
    dsimp only [bind, Except.bind]
    by_cases hw : n = wanted
    · subst hw
      simp [List.findIdx?_cons]
      rfl
    · rw [if_neg hw, ih (k + 1) htail]
      -- the positions after `k` are those of `rest`, moved by one
      have hshift : ((fun x => k + x) ∘ fun i => i + 1) = fun x => k + 1 + x := by
        funext x
        simp only [Function.comp_apply]
        omega
      simp only [List.findIdx?_cons, beq_iff_eq, hw, if_false, Option.map_map, hshift]
      -- a case-folded match at `k` is kept only if none was kept before
      by_cases hf : Text.eqIgnoreAsciiCase n wanted
      · simp [hf]
      · simp [hf, hshift]

/-- When every column has a name, `ordinal` finds the position `matchColumn` gives, and fails
only when no name matches even ignoring case. -/
theorem ordinal_eq_matchColumn (names : List String) (hcount : fieldCount r = names.length)
    (hnames : ∀ i n, names[i]? = some n → name r i = .ok n) (wanted : String) :
    ordinal r wanted = (matchColumn names wanted).elim (.error (.unknownColumn wanted)) .ok := by
  have hsearch := ordinalFrom_range' r wanted names 0 (by simpa using hnames) none
  unfold ordinal
  rw [hcount, List.range_eq_range', hsearch]
  simp [matchColumn]

theorem valueByName_eq_matchColumn (names : List String) (hcount : fieldCount r = names.length)
    (hnames : ∀ i n, names[i]? = some n → name r i = .ok n) (wanted : String) :
    valueByName r wanted =
      (matchColumn names wanted).elim (.error (.unknownColumn wanted)) (value r) := by
  unfold valueByName
  rw [ordinal_eq_matchColumn r names hcount hnames]
  cases matchColumn names wanted <;> rfl

end RowView

namespace RowRecord

/-- Every column of a row record has its name. -/
theorem name_eq_of_getElem? (row : RowRecord) :
    ∀ i n, (row.columns.map (·.name))[i]? = some n → RowView.name row i = .ok n := by
  intro i n h
  rw [List.getElem?_map] at h
  obtain ⟨c, hc, rfl⟩ := Option.map_eq_some_iff.1 h
  show (do pure (← row.column i).name) = _
  rw [column, hc]
  rfl

/-- The member a filter resolves by name is the value in the column that name finds. -/
theorem find?_eq_matchColumn (row : RowRecord) (wanted : String) :
    row.find? wanted = (matchColumn (row.columns.map (·.name)) wanted).bind (row.values[·]?) := by
  unfold find?
  rw [RowView.ordinal_eq_matchColumn row _ (List.length_map _).symm (name_eq_of_getElem? row)]
  cases matchColumn (row.columns.map (·.name)) wanted <;> rfl

end RowRecord

/-- The value a columnar sink stores for one of its columns is the record's value in the column
its name finds, or null when it finds none. -/
theorem Sink.ColumnarSink.valueFor_eq_matchColumn (row : RowRecord) (c : Column) :
    Sink.ColumnarSink.valueFor row c =
      ((matchColumn (row.columns.map (·.name)) c.name).bind (row.values[·]?)).getD .null := by
  unfold Sink.ColumnarSink.valueFor
  rw [RowView.valueByName_eq_matchColumn row _ (List.length_map _).symm
    (RowRecord.name_eq_of_getElem? row)]
  cases matchColumn (row.columns.map (·.name)) c.name with
  | none => rfl
  | some i =>
    have hvalue : RowView.value row i = row.valueAt i := rfl
    simp only [Option.elim, Option.bind_some, hvalue, RowRecord.valueAt]
    cases row.values[i]? <;> rfl

/-- Finding a column by name, and every read by name built on it. When every column has a name,
the position found is the first exact match, else the first match ignoring ASCII case, else the
name is unknown; `valueByName`, the members a filter resolves in a row record and the values a
columnar sink stores all read the column at that position. -/
theorem ordinal_first_exact_then_folded {α : Type} [RowView α] (r : α) (names : List String)
    (hcount : RowView.fieldCount r = names.length)
    (hnames : ∀ i n, names[i]? = some n → RowView.name r i = .ok n)
    (wanted : String) (row : RowRecord) (c : Column) :
    RowView.ordinal r wanted =
      (matchColumn names wanted).elim (.error (.unknownColumn wanted)) .ok ∧
    RowView.valueByName r wanted =
      (matchColumn names wanted).elim (.error (.unknownColumn wanted)) (RowView.value r) ∧
    row.find? wanted = (matchColumn (row.columns.map (·.name)) wanted).bind (row.values[·]?) ∧
    Sink.ColumnarSink.valueFor row c =
      ((matchColumn (row.columns.map (·.name)) c.name).bind (row.values[·]?)).getD .null :=
  ⟨RowView.ordinal_eq_matchColumn r names hcount hnames wanted,
    RowView.valueByName_eq_matchColumn r names hcount hnames wanted,
    RowRecord.find?_eq_matchColumn row wanted, Sink.ColumnarSink.valueFor_eq_matchColumn row c⟩

/-- Of the columns `name` and `Name`, `Name` finds the second, exactly, though the first matches
it ignoring case; `NAME` finds the first. -/
theorem ordinal_exact_match_after_folded :
    let row : RowRecord :=
      ⟨[⟨"name", .string, "Utf8"⟩, ⟨"Name", .string, "Utf8"⟩], [.string "a", .string "b"], 0⟩
    RowView.ordinal row "Name" = .ok 1 ∧ RowView.ordinal row "NAME" = .ok 0 := by
  intro row
  have hfound := fun wanted => (ordinal_first_exact_then_folded row ["name", "Name"] rfl
    (RowRecord.name_eq_of_getElem? row) wanted row ⟨"Name", .string, "Utf8"⟩).1
  exact ⟨(hfound "Name").trans rfl, (hfound "NAME").trans rfl⟩

end Strainer.Rows
