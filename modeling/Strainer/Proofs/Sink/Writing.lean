import Strainer.Proofs.Sink.Cells
import Strainer.Proofs.Pipeline.Batches

/-!
# A columnar sink writes every record, in order

A columnar sink whose columns are all writable takes every record it is given and finishes its
file: the file holds one row per record, in the order the records came, each row the cells its
columns store for the record's values, and between two records the sink buffers fewer rows than a
batch. With `Decodes`, this says what reading the file back gives for every record and column.

The proof follows the sink's stages. `Holds` says where a writing sink stands after some rows;
`Holds.add` is one record and `Holds.addAll` a sequence of them, `Holds.finish` the end. A sink
that was just created reaches `Holds` from its first record, or from the columns it is given.
-/

namespace Strainer

open Rows Parquet Sink

namespace Rows.Column

/-- The field of a file a column is stored in. -/
def field (c : Column) : Field := { name := c.name, type := storedType c }

@[simp] theorem field_type (c : Column) : c.field.type = storedType c := rfl

end Rows.Column

namespace Sink

/-- The cells a record is stored as in columns `C`. -/
def rowCells (C : List Column) (r : RowRecord) : List Cell :=
  C.map fun c => c.cell (ColumnarSink.valueFor r c)

/-- A batch of rows of writable columns can be made, if there is a column. -/
theorem batchCheck_fields {C : List Column} (hC : C ≠ []) (hw : ∀ c ∈ C, c.Writable) :
    batchCheck ((C.map Column.field).map (·.type)) = none := by
  unfold batchCheck
  -- no column is a decimal of more than 38 digits
  rw [List.findSome?_eq_none_iff.mpr ?wide]
  · simp only [List.isEmpty_iff, List.map_eq_nil_iff, hC, if_false]
  case wide =>
    intro t ht
    simp only [List.map_map, List.mem_map, Function.comp, Column.field_type] at ht
    obtain ⟨c, hc, rfl⟩ := ht
    cases hst : storedType c with
    | decimal128 p s => exact if_neg (by have := ((hw c hc).decimal hst).2.1; omega)
    | _ => rfl

/-- A writer whose rows make a batch hands all of them to the file. -/
theorem Writer.flush_ok {w : Writer} (hb : batchCheck (w.fields.map (·.type)) = none) :
    w.flush = .ok { w with written := w.written ++ w.buffered, buffered := [] } := by
  unfold Writer.flush
  by_cases he : w.buffered.isEmpty = true
  · obtain ⟨cs, fs, written, buffered⟩ := w
    rw [if_pos he]
    cases List.isEmpty_iff.mp he
    rw [List.append_nil]
  · rw [if_neg he, hb]

namespace ColumnarSink

/-- A writer stores a record as the cells of its columns. -/
theorem rowOf_fst {w : Writer} {C : List Column} (hc : w.columns = C)
    (hf : w.fields = C.map Column.field) (r : RowRecord) : (rowOf w r).1 = rowCells C r := by
  unfold rowOf rowCells
  rw [hc, hf]
  clear hc hf
  -- the columns and their fields are zipped pairwise; one column at a time
  induction C with
  | nil => rfl
  | cons c C ih =>
    simp only [List.map_cons, List.zip_cons_cons, Column.field_type, Column.cell] at ih ⊢
    rw [ih]
    cases cellFor (storedType c) (valueFor r c) <;> rfl

/-- A sink writing columns `C` after the rows `rows`: its writer has the fields of `C` and holds
`rows` in order, those handed to the file and then those buffered, fewer buffered than a batch. -/
def Holds (s : ColumnarSink) (C : List Column) (rows : List (List Cell)) : Prop :=
  ∃ w : Writer, s.stage = .writing w ∧ w.columns = C ∧ w.fields = C.map Column.field ∧
    w.written ++ w.buffered = rows ∧ w.buffered.length < s.batchSize

section Writing

variable {C : List Column} (hb : batchCheck ((C.map Column.field).map (·.type)) = none)
include hb

/-- Adding a record to a sink that holds some rows stores it as the next row. -/
theorem Holds.add {s : ColumnarSink} {rows : List (List Cell)} (h : s.Holds C rows)
    (r : RowRecord) : ∃ s', s.add r = (s', .ok ()) ∧ s'.Holds C (rows ++ [rowCells C r]) ∧
      s'.path = s.path ∧ s'.batchSize = s.batchSize := by
  obtain ⟨w, hst, hc, hf, hrows, hlen⟩ := h
  have hrow := rowOf_fst hc hf r
  unfold ColumnarSink.add ensureSchema
  simp only [hst]
  generalize rowOf w r = p at hrow ⊢
  obtain ⟨row, lost⟩ := p
  subst hrow
  simp only [List.length_append, List.length_singleton]
  by_cases hfull : s.batchSize ≤ w.buffered.length + 1
  · -- a full batch goes to the file, leaving nothing buffered
    rw [if_pos hfull, Writer.flush_ok (by rw [hf]; exact hb)]
    refine ⟨_, rfl, ⟨_, rfl, hc, hf, ?_, ?_⟩, rfl, rfl⟩
    · simp only [List.append_nil, ← List.append_assoc, hrows]
    · simp only [List.length_nil]
      omega
  · rw [if_neg hfull]
    refine ⟨_, rfl, ⟨_, rfl, hc, hf, ?_, ?_⟩, rfl, rfl⟩
    · simp only [← List.append_assoc, hrows]
    · simp only [List.length_append, List.length_singleton]
      omega

/-- Adding records one after another to a sink that holds some rows stores them as the next
rows, in order, and every addition succeeds. -/
theorem Holds.addAll {s : ColumnarSink} {rows : List (List Cell)} (h : s.Holds C rows)
    (rs : List RowRecord) : ∃ s', (Output.columnar s).addAll rs = (.columnar s', rs.map fun _ => .ok ()) ∧
      s'.Holds C (rows ++ rs.map (rowCells C)) ∧ s'.path = s.path ∧ s'.batchSize = s.batchSize := by
  -- induction on the records, from any sink that holds any rows
  induction rs generalizing s rows with
  | nil => exact ⟨s, rfl, by rw [List.map_nil, List.append_nil]; exact h, rfl, rfl⟩
  | cons r rs ih =>
    obtain ⟨s₁, hadd, h₁, hp₁, hb₁⟩ := h.add hb r
    obtain ⟨s₂, hall, h₂, hp₂, hb₂⟩ := ih h₁
    refine ⟨s₂, ?_, ?_, hp₂.trans hp₁, hb₂.trans hb₁⟩
    · simp only [Output.addAll, Output.add, hadd, hall, List.map_cons]
    · rw [List.map_cons, ← List.singleton_append, ← List.append_assoc]
      exact h₂

/-- Finishing a sink that holds some rows completes its file with those rows. -/
theorem Holds.finish {s : ColumnarSink} {rows : List (List Cell)} (h : s.Holds C rows) :
    s.finish = ({ s with stage := .closed ⟨C.map Column.field, if rows = [] then [] else [rows]⟩ },
      .ok ()) := by
  obtain ⟨w, hst, -, hf, hrows, -⟩ := h
  unfold ColumnarSink.finish ensureSchema
  simp only [hst]
  rw [Writer.flush_ok (by rw [hf]; exact hb)]
  simp only [Writer.file, hf, hrows, List.isEmpty_iff]

/-- A sink that holds some rows never refuses a record. -/
theorem Holds.neverFails {s : ColumnarSink} {rows : List (List Cell)} (h : s.Holds C rows) :
    (Output.columnar s).NeverFails := by
  intro rs r
  obtain ⟨s', hall, h', -, -⟩ := h.addAll hb rs
  obtain ⟨s'', hadd, -⟩ := h'.add hb r
  rw [hall]
  simp only [Output.add, hadd]

end Writing

/-- The sink that `create` gives, for every store it creates the file in. -/
theorem create_fresh {store store' : FileStore} {path : String} {b : Nat} {s : ColumnarSink}
    (h : create store path b = .ok (s, store')) : s = { path, batchSize := max b 1 } := by
  unfold create at h
  split at h
  · cases h
    rfl
  · cases h

/-- The sink `s` with its writer opened on columns `C`. -/
def opened (s : ColumnarSink) (C : List Column) : ColumnarSink :=
  { s with stage := .writing { columns := C, fields := C.map Column.field } }

theorem holds_opened (s : ColumnarSink) (C : List Column) (hs : 0 < s.batchSize) :
    (s.opened C).Holds C [] :=
  ⟨_, rfl, rfl, rfl, rfl, hs⟩

section Created

variable {s : ColumnarSink} (hs : s.stage = .created)
include hs

/-- A sink that was just created opens its writer on writable columns. -/
theorem init_created {C : List Column} (hw : ∀ c ∈ C, c.Writable) :
    s.init C = (s.opened C, .ok ()) := by
  have hcheck : (C.map Column.field).findSome? (writerCheck ·.type) = none := by
    rw [List.findSome?_eq_none_iff]
    intro f hf
    obtain ⟨c, hc, rfl⟩ := List.mem_map.mp hf
    exact (hw c hc).writerCheck
  have hfields : (C.map fun c => ({ name := c.name, type := storedType c } : Field)) =
      C.map Column.field := rfl
  unfold init
  simp only [hs]
  rw [hfields, hcheck]
  rfl

theorem withColumns_created {C : List Column} (hw : ∀ c ∈ C, c.Writable) :
    s.withColumns C = .ok (s.opened C) := by
  unfold withColumns
  rw [init_created hs hw]

/-- A sink that was just created takes its first record as the sink opened on that record's
columns does. -/
theorem add_created {r : RowRecord} (hw : ∀ c ∈ r.columns, c.Writable) :
    s.add r = (s.opened r.columns).add r := by
  have hopen : (s.opened r.columns).stage = .writing _ := rfl
  conv_lhs => unfold add ensureSchema
  conv_rhs => unfold add ensureSchema
  simp only [hs, hopen, init_created hs hw]

/-- Records added to a sink that was just created go where they go in the sink opened on the
first record's columns. -/
theorem addAll_created {r : RowRecord} (hw : ∀ c ∈ r.columns, c.Writable) (rs : List RowRecord) :
    (Output.columnar s).addAll (r :: rs) = (Output.columnar (s.opened r.columns)).addAll (r :: rs) := by
  simp only [Output.addAll, Output.add, add_created hs hw]

/-- However a sink that was just created gets its columns `C`, given up front or from the first
record, every run of records from the first one goes as it goes from the sink opened on `C`. -/
theorem addAll_of_opening {C : List Column} {rs xs : List RowRecord} {s₁ : ColumnarSink}
    (hw : ∀ c ∈ C, c.Writable)
    (hopen : s.withColumns C = .ok s₁ ∨ s₁ = s ∧ rs.head?.map (·.columns) = some C)
    (hxs : xs <+: rs) (hne : xs ≠ [] ∨ xs = rs) :
    (Output.columnar s₁).addAll xs = (Output.columnar (s.opened C)).addAll xs := by
  rcases hopen with hgiven | ⟨rfl, hfirst⟩
  · rw [withColumns_created hs hw] at hgiven
    cases hgiven
    rfl
  · -- the records start with the first one, whose columns are `C`
    obtain ⟨r, rest, rfl⟩ := List.exists_cons_of_ne_nil fun h : rs = [] => by simp [h] at hfirst
    have hr : r.columns = C := by simpa using hfirst
    have hxs' : xs ≠ [] := hne.elim id fun h => h ▸ List.cons_ne_nil r rest
    obtain ⟨x, xs', rfl⟩ := List.exists_cons_of_ne_nil hxs'
    obtain rfl : x = r := (List.cons_prefix_cons.mp hxs).1
    subst hr
    exact addAll_created hs hw xs'

end Created

end ColumnarSink

open ColumnarSink in
/-- A sink created for any batch size, with non-empty writable columns `C` given up front or
taken from its first record, takes every record and finishes its file. Between two records it
holds every row so far in order, fewer than a batch of them buffered; the file has a field for
each column and one row per record, in order, the cells its columns store for the record's
values; and each such cell reads back as `Decodes` says. -/
theorem columnar_file_rows {path : String} {b : Nat} {C : List Column} {rs : List RowRecord}
    {s₁ : ColumnarSink} (hC : C ≠ []) (hw : ∀ c ∈ C, c.Writable)
    (hopen : ({ path, batchSize := max b 1 } : ColumnarSink).withColumns C = .ok s₁ ∨
      s₁ = { path, batchSize := max b 1 } ∧ rs.head?.map (·.columns) = some C) :
    ((Output.columnar s₁).addAll rs).2 = rs.map (fun _ => .ok ()) ∧
    (∀ j, 0 < j → j ≤ rs.length → ∃ s, ((Output.columnar s₁).addAll (rs.take j)).1 = .columnar s ∧
      s.Holds C ((rs.take j).map (rowCells C)) ∧ s.batchSize = max b 1) ∧
    ((Output.columnar s₁).addAll rs).1.finish.2 = .ok () ∧
    ((Output.columnar s₁).addAll rs).1.finish.1.file? =
      some (path, .columnar ⟨C.map Column.field, if rs = [] then [] else [rs.map (rowCells C)]⟩) ∧
    ∀ r ∈ rs, ∀ c ∈ C, c.Decodes (valueFor r c) ((c.cell (valueFor r c)).read (storedType c)) := by
  have hb := batchCheck_fields hC hw
  have hopened : (ColumnarSink.opened { path, batchSize := max b 1 } C).Holds C [] :=
    holds_opened _ _ (by show 0 < max b 1; omega)
  obtain ⟨s, hall, hs, hpath, -⟩ := hopened.addAll hb rs
  rw [List.nil_append] at hs
  rw [addAll_of_opening rfl hw hopen List.prefix_rfl (.inr rfl), hall]
  refine ⟨rfl, ?_, ?_, ?_, fun r _ c hc => Column.decodes_cell (hw c hc) _⟩
  · -- between calls: the first `j` records went as from the opened sink
    intro j hj hjn
    have htake : rs.take j ≠ [] := by
      rw [Ne, List.take_eq_nil_iff, not_or]
      exact ⟨by omega, List.ne_nil_of_length_pos (by omega)⟩
    obtain ⟨s', hall', hs', -, hbatch'⟩ := hopened.addAll hb (rs.take j)
    refine ⟨s', ?_, by rwa [List.nil_append] at hs', hbatch'⟩
    rw [addAll_of_opening rfl hw hopen (List.take_prefix j rs) (.inl htake), hall']
  · simp only [Output.finish, hs.finish hb]
  · simp only [Output.finish, hs.finish hb, Output.file?, contents, hpath, List.map_eq_nil_iff]
    rfl

/-- One record of one 64-bit column, the sink taking its columns from the record. -/
theorem columnar_file_rows_first :
    [(⟨"n", .int64, "Int64"⟩ : Column)] ≠ [] ∧ (∀ c ∈ [(⟨"n", .int64, "Int64"⟩ : Column)], c.Writable) ∧
      (({ path := "out", batchSize := max 0 1 } : ColumnarSink) = { path := "out", batchSize := max 0 1 } ∧
        [(⟨[⟨"n", .int64, "Int64"⟩], [.int64 5], 0⟩ : RowRecord)].head?.map (·.columns) =
          some [⟨"n", .int64, "Int64"⟩]) ∧
      ((Output.columnar { path := "out", batchSize := max 0 1 }).addAll
        [⟨[⟨"n", .int64, "Int64"⟩], [.int64 5], 0⟩]).1.finish.2 = .ok () := by
  have hw : ∀ c ∈ [(⟨"n", .int64, "Int64"⟩ : Column)], c.Writable := by
    intro c hc hdec
    rw [List.mem_singleton] at hc
    subst hc
    cases hdec
  exact ⟨List.cons_ne_nil _ _, hw, ⟨rfl, rfl⟩,
    (@columnar_file_rows "out" 0 _ [⟨[⟨"n", .int64, "Int64"⟩], [.int64 5], 0⟩] _ (List.cons_ne_nil _ _) hw
      (.inr ⟨rfl, rfl⟩)).2.2.1⟩

/-- Outside `Writable` and past `Decodes`' conversion to the stored kind: a writer is not set up
for a decimal column of negative scale, and a character column keeps text of two characters,
which does not convert to a character. -/
theorem columnar_negative_scale_char_text :
    ({ path := "out", batchSize := 1 } : ColumnarSink).withColumns
        [⟨"M", .decimal, "Decimal128(5, -2)"⟩] = .error (.of "Parquet error: Invalid DECIMAL scale: -2") ∧
      (∃ e, (Value.string "ab").convert .char = .error e) ∧
      ((⟨"C", .char, "Char"⟩ : Column).cell (.string "ab")).read (storedType ⟨"C", .char, "Char"⟩) =
        .ok (.string "ab") :=
  ⟨rfl, ⟨_, rfl⟩, rfl⟩

end Sink

end Strainer
