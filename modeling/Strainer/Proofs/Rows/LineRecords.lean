import Strainer.Proofs.Rows.Records
import Strainer.Rows.Lines

/-!
# Records of lines of JSON text

A pass over a cursor on lines of JSON text yields one record for each line that is not blank, in
order, up to the first line that fails, whose failure is the last thing it yields. Blank lines
give nothing but are counted, so the cursor is on line `j` of the text while the item of that
line is the latest one.

The record of a line holding the object `ms` has one column per member, in the object's order:
the member's name, the kind of its value (a string for a null) and its JSON type name; its
values are the members' values (`lineRecord`). A line that does not parse fails with its
number, and so does one holding anything but an object.

`next_lines` says what one pull does with the lines still to come; the run lemmas
`pulls_lines` and `pulls_lines_line` follow by induction on the pulls, and
`records_follow_lines` is the run from a fresh cursor on a text.
-/

namespace Strainer.Rows

/-! ## What a line gives -/

/-- The columns of an object's members: the name, the kind of the value (a string for a null)
and the JSON type name. -/
def objectColumns (ms : List (String × Json)) : List Column :=
  ms.map fun m => ⟨m.1, (Value.ofJson m.2).kind.getD .string, jsonTypeName m.2⟩

/-- What the line `l`, numbered `j`, gives a pass: the columns and values of the object it
holds, or why it holds none. -/
def lineRecord (j : Nat) (l : List Char) : Except CursorError (List Column × List Value) :=
  match Json.parse (String.ofList l) with
  | .ok (.object ms) => .ok (objectColumns ms, ms.map fun m => Value.ofJson m.2)
  | .ok _ => .error (.notAnObject j)
  | .error e => .error (.json j e)

/-- The lines of `ls` that are not blank, numbered from `k + 1` on with the blank ones counted,
each with what it gives. -/
def lineOutcomes (ls : List (List Char)) (k : Nat) :
    List (Except CursorError (List Column × List Value) × Nat) :=
  ((ls.zipIdx (k + 1)).filter fun p => !(Text.trim p.1).isEmpty).map fun p => (lineRecord p.2 p.1, p.2)

/-- Outcomes up to the first failure, which is kept as the last. -/
def upToFailure {ε α : Type} (os : List (Except ε α × Nat)) : List (Except ε α × Nat) :=
  os.takeWhile (·.1.isOk) ++ (os.dropWhile (·.1.isOk)).take 1

theorem lineOutcomes_nil (k : Nat) : lineOutcomes [] k = [] := rfl

theorem lineOutcomes_blank {l : List Char} (ls : List (List Char)) (k : Nat)
    (h : (Text.trim l).isEmpty) : lineOutcomes (l :: ls) k = lineOutcomes ls (k + 1) := by
  simp [lineOutcomes, List.zipIdx_cons, h]

theorem lineOutcomes_filled {l : List Char} (ls : List (List Char)) (k : Nat)
    (h : ¬(Text.trim l).isEmpty) :
    lineOutcomes (l :: ls) k = (lineRecord (k + 1) l, k + 1) :: lineOutcomes ls (k + 1) := by
  simp [lineOutcomes, List.zipIdx_cons, h]

theorem upToFailure_ok {ε α : Type} (a : α) (j : Nat) (os : List (Except ε α × Nat)) :
    upToFailure ((.ok a, j) :: os) = (.ok a, j) :: upToFailure os := by
  simp [upToFailure, List.takeWhile_cons_of_pos, List.dropWhile_cons_of_pos, Except.isOk,
    Except.toBool]

theorem upToFailure_error {ε α : Type} (e : ε) (j : Nat) (os : List (Except ε α × Nat)) :
    upToFailure ((.error e, j) :: os) = [(.error e, j)] := by
  simp [upToFailure, List.takeWhile_cons_of_neg, List.dropWhile_cons_of_neg, Except.isOk,
    Except.toBool]

/-! ## Reading the row of a line -/

/-- The row the cursor holds for an object's members. -/
def JsonRow.ofMembers (ms : List (String × Json)) : JsonRow :=
  ⟨ms.map (·.1), ms.map (Value.ofJson ·.2), ms.map (jsonTypeName ·.2)⟩

/-- The cursor reads a line as `lineRecord` describes it. -/
theorem JsonRow.parse_cases (j : Nat) (l : List Char) :
    (∃ ms, JsonRow.parse j l = .ok (JsonRow.ofMembers ms) ∧
        lineRecord j l = .ok (objectColumns ms, ms.map fun m => Value.ofJson m.2)) ∨
      ∃ e, JsonRow.parse j l = .error e ∧ lineRecord j l = .error e := by
  unfold JsonRow.parse lineRecord
  cases Json.parse (String.ofList l) with
  | error e => exact .inr ⟨_, rfl, rfl⟩
  | ok v =>
    cases v
    case object ms => exact .inl ⟨ms, rfl, rfl⟩
    all_goals exact .inr ⟨_, rfl, rfl⟩

/-- A `mapM` over the positions of a list that reads each element at its position gives the
list. -/
theorem mapM_range_eq_ok {ε β : Type} {f : Nat → Except ε β} :
    ∀ {l : List β}, (∀ i x, l[i]? = some x → f i = .ok x) → (List.range l.length).mapM f = .ok l
  | [], _ => rfl
  | x :: xs, h => by
    have hrest : (List.range xs.length).mapM (f ∘ Nat.succ) = .ok xs :=
      mapM_range_eq_ok fun i y hy => h (i + 1) y (by simpa using hy)
    rw [List.length_cons, List.range_succ_eq_map, List.mapM_cons, List.mapM_map, h 0 x rfl, hrest]
    rfl

/-- An `allM` in `Except` whose test never fails does not fail. -/
theorem allM_eq_ok {ε α : Type} {f : α → Except ε Bool} :
    ∀ {l : List α}, (∀ x ∈ l, ∃ b, f x = .ok b) → ∃ b, l.allM f = .ok b
  | [], _ => ⟨true, rfl⟩
  | x :: xs, h => by
    obtain ⟨b, hb⟩ := h x List.mem_cons_self
    rw [List.allM_cons, hb]
    cases b with
    | false => exact ⟨false, rfl⟩
    | true => exact allM_eq_ok fun y hy => h y (List.mem_cons_of_mem x hy)

section Capture

variable {σ : Type} [RowCursor σ] {c : σ}

/-- Comparing a row's columns with a column list does not fail when every column of the row
can be described. -/
theorem sameSchema_eq_ok (cols : List Column)
    (hreads : ∀ i < RowView.fieldCount c, (∃ n, RowView.name c i = .ok n) ∧
      (∃ k, RowView.fieldKind c i = .ok k) ∧ ∃ t, RowView.dataTypeName c i = .ok t) :
    ∃ b, RowRecord.sameSchema c cols = .ok b := by
  unfold RowRecord.sameSchema
  by_cases hcount : RowView.fieldCount c = cols.length
  · simp only [hcount, ne_eq, not_true_eq_false, if_false]
    apply allM_eq_ok
    rintro ⟨i, col⟩ hmem
    have hi : i < RowView.fieldCount c := by
      rw [hcount]
      exact List.mem_range.mp (List.of_mem_zip hmem).1
    obtain ⟨⟨n, hn⟩, ⟨k, hk⟩, ⟨t, ht⟩⟩ := hreads i hi
    -- each check reads the three descriptions of one column
    by_cases hname : n = col.name
    · by_cases hkind : k = col.kind
      · exact ⟨decide (t = col.typeName),
          by simp [hn, hk, ht, hname, hkind, bind, Except.bind, pure, Except.pure]⟩
      · exact ⟨false, by simp [hn, hk, hname, hkind, bind, Except.bind, pure, Except.pure]⟩
    · exact ⟨false, by simp [hn, hname, bind, Except.bind, pure, Except.pure]⟩
  · exact ⟨false, by simp [hcount, pure, Except.pure]⟩

/-- A row whose columns and values can all be read is captured, whatever record came before. -/
theorem capture_eq_ok {cols : List Column} {vals : List Value} (last : Option RowRecord)
    (hcols : RowView.columns c = .ok cols)
    (hvals : (List.range (RowView.fieldCount c)).mapM (RowView.value c) = .ok vals)
    (hsame : ∀ p ∈ last, ∃ b, RowRecord.sameSchema c p.columns = .ok b) :
    ∃ r, RowRecord.capture c last = .ok r := by
  have hlen : cols.length = RowView.fieldCount c := by
    rw [Except.length_mapM hcols, List.length_range]
  unfold RowRecord.capture
  cases last with
  | none =>
    rw [← hlen] at hvals
    exact ⟨⟨cols, vals, 0⟩, by simp [hcols, hvals, bind, Except.bind, pure, Except.pure]⟩
  | some p =>
    obtain ⟨b, hb⟩ := hsame p rfl
    cases b with
    | true =>
      -- the previous column list is kept, and it is the row's own
      have hp : cols = p.columns := by
        have := columns_of_sameSchema hb
        rw [hcols] at this
        exact Except.ok.inj this
      subst hp
      rw [← hlen] at hvals
      exact ⟨⟨p.columns, vals, p.layout⟩, by simp [hb, hvals, bind, Except.bind, pure, Except.pure]⟩
    | false =>
      rw [← hlen] at hvals
      exact ⟨⟨cols, vals, p.layout + 1⟩, by simp [hb, hcols, hvals, bind, Except.bind, pure, Except.pure]⟩

end Capture

namespace JsonLinesCursor

variable {c : JsonLinesCursor} {ms : List (String × Json)}

theorem columns_eq (h : c.row = some (JsonRow.ofMembers ms)) :
    RowView.columns c = .ok (objectColumns ms) := by
  have hcount : RowView.fieldCount c = (objectColumns ms).length := by
    rw [fieldCount_eq h]
    simp [JsonRow.ofMembers, objectColumns]
  unfold RowView.columns
  rw [hcount]
  apply mapM_range_eq_ok
  intro i col hcol
  simp only [objectColumns, List.getElem?_map, Option.map_eq_some_iff] at hcol
  obtain ⟨m, hm, rfl⟩ := hcol
  have hname : RowView.name c i = .ok m.1 :=
    name_eq_ok h (by simp [JsonRow.ofMembers, hm])
  have hkind : RowView.fieldKind c i = .ok ((Value.ofJson m.2).kind.getD .string) :=
    fieldKind_eq_ok h (by simp [JsonRow.ofMembers, hm])
  have htype : RowView.dataTypeName c i = .ok (jsonTypeName m.2) :=
    dataTypeName_eq_ok h (by simp [JsonRow.ofMembers, hm])
  simp [hname, hkind, htype, bind, Except.bind, pure, Except.pure]

theorem values_eq (h : c.row = some (JsonRow.ofMembers ms)) :
    (List.range (RowView.fieldCount c)).mapM (RowView.value c) =
      .ok (ms.map fun m => Value.ofJson m.2) := by
  have hcount : RowView.fieldCount c = (ms.map fun m => Value.ofJson m.2).length := by
    rw [fieldCount_eq h]
    simp [JsonRow.ofMembers]
  rw [hcount]
  apply mapM_range_eq_ok
  intro i v hv
  exact value_eq_ok h (by simpa [JsonRow.ofMembers] using hv)

/-- The row of a line is captured with the columns and values of its object. -/
theorem capture_ofMembers (h : c.row = some (JsonRow.ofMembers ms)) (last : Option RowRecord) :
    ∃ r, RowRecord.capture c last = .ok r ∧ r.columns = objectColumns ms ∧
      r.values = ms.map fun m => Value.ofJson m.2 := by
  have hreads : ∀ i < RowView.fieldCount c, (∃ n, RowView.name c i = .ok n) ∧
      (∃ k, RowView.fieldKind c i = .ok k) ∧ ∃ t, RowView.dataTypeName c i = .ok t := by
    intro i hi
    rw [fieldCount_eq h] at hi
    have hm : ∃ m, ms[i]? = some m := ⟨_, List.getElem?_eq_getElem (by simpa [JsonRow.ofMembers] using hi)⟩
    obtain ⟨m, hm⟩ := hm
    exact ⟨⟨m.1, name_eq_ok h (by simp [JsonRow.ofMembers, hm])⟩,
      ⟨(Value.ofJson m.2).kind.getD .string, fieldKind_eq_ok h (by simp [JsonRow.ofMembers, hm])⟩,
      ⟨jsonTypeName m.2, dataTypeName_eq_ok h (by simp [JsonRow.ofMembers, hm])⟩⟩
  obtain ⟨r, hr⟩ := capture_eq_ok last (columns_eq h) (values_eq h)
    fun p _ => sameSchema_eq_ok p.columns hreads
  have hsnap := capture_snapshot hr
  refine ⟨r, hr, ?_, ?_⟩
  · have := hsnap.columns
    rw [columns_eq h] at this
    exact (Except.ok.inj this).symm
  · have := hsnap.values
    rw [values_eq h] at this
    exact (Except.ok.inj this).symm

/-! ## One move of the cursor -/

theorem advance_end (k : Nat) (row : Option JsonRow) :
    advance ⟨[], k, row, none⟩ = (⟨[], k, none, none⟩, .ok false) := rfl

theorem advance_blank {l : List Char} (ls : List (List Char)) (k : Nat) (row : Option JsonRow)
    (h : (Text.trim l).isEmpty) : advance ⟨l :: ls, k, row, none⟩ = advance ⟨ls, k + 1, row, none⟩ := by
  simp only [advance, nextRow, if_pos h]

theorem advance_filled_ok {l : List Char} {row' : JsonRow} (ls : List (List Char)) (k : Nat)
    (row : Option JsonRow) (h : ¬(Text.trim l).isEmpty) (hp : JsonRow.parse (k + 1) l = .ok row') :
    advance ⟨l :: ls, k, row, none⟩ = (⟨ls, k + 1, some row', none⟩, .ok true) := by
  simp only [advance, nextRow, if_neg h, hp]
  rfl

theorem advance_filled_error {l : List Char} {e : CursorError} (ls : List (List Char)) (k : Nat)
    (row : Option JsonRow) (h : ¬(Text.trim l).isEmpty) (hp : JsonRow.parse (k + 1) l = .error e) :
    advance ⟨l :: ls, k, row, none⟩ = (⟨ls, k + 1, none, none⟩, .error e) := by
  simp only [advance, nextRow, if_neg h, hp]
  rfl

end JsonLinesCursor

/-! ## One pull -/

/-- What one pull of a pass over lines of JSON text does, read off the lines still to come: with
no line left that holds something, the pass ends; the first line that holds an object gives its
record, and the cursor is on that line; the first line that fails gives its failure and ends the
pass, with the cursor on that line. -/
theorem next_lines (ls : List (List Char)) (k : Nat) (row : Option JsonRow) (last : Option RowRecord) :
    (lineOutcomes ls k = [] ∧ ∃ c, Records.next (⟨⟨ls, k, row, none⟩, last, false⟩ : Records JsonLinesCursor) =
        (⟨c, last, true⟩, none)) ∨
      (∃ cols vals j rest row' r, lineOutcomes ls k = (.ok (cols, vals), j) :: lineOutcomes rest j ∧
        Records.next (⟨⟨ls, k, row, none⟩, last, false⟩ : Records JsonLinesCursor) =
          (⟨⟨rest, j, some row', none⟩, some r, false⟩, some (.ok r)) ∧
        r.columns = cols ∧ r.values = vals) ∨
      (∃ e j rest, lineOutcomes ls k = (.error e, j) :: lineOutcomes rest j ∧
        Records.next (⟨⟨ls, k, row, none⟩, last, false⟩ : Records JsonLinesCursor) =
          (⟨⟨rest, j, none, none⟩, last, true⟩, some (.error e))) := by
  -- on the lines to come: blank lines are skipped and counted
  induction ls generalizing k row with
  | nil => exact .inl ⟨lineOutcomes_nil k, _, Records.next_of_exhausted (JsonLinesCursor.advance_end k row)⟩
  | cons l ls ih =>
    by_cases hblank : (Text.trim l).isEmpty
    · have hnext : Records.next (⟨⟨l :: ls, k, row, none⟩, last, false⟩ : Records JsonLinesCursor) =
          Records.next ⟨⟨ls, k + 1, row, none⟩, last, false⟩ := by
        simp only [Records.next, RowCursor.advance, JsonLinesCursor.advance_blank ls k row hblank,
          Bool.false_eq_true, if_false]
      rw [lineOutcomes_blank ls k hblank, hnext]
      exact ih (k + 1) row
    · rw [lineOutcomes_filled ls k hblank]
      rcases JsonRow.parse_cases (k + 1) l with ⟨ms, hp, hrec⟩ | ⟨e, hp, hrec⟩
      · have hadv := JsonLinesCursor.advance_filled_ok ls k row hblank hp
        obtain ⟨r, hr, hcols, hvals⟩ :=
          JsonLinesCursor.capture_ofMembers (c := ⟨ls, k + 1, some (JsonRow.ofMembers ms), none⟩) rfl last
        refine .inr (.inl ⟨_, _, k + 1, ls, _, r, by rw [hrec], Records.next_of_captured hadv hr,
          hcols, hvals⟩)
      · have hadv := JsonLinesCursor.advance_filled_error ls k row hblank hp
        exact .inr (.inr ⟨e, k + 1, ls, by rw [hrec], Records.next_of_moveFailed hadv⟩)

/-! ## Runs -/

/-- The fields a record holds, without the column list it shares. -/
def RowRecord.fields (r : RowRecord) : List Column × List Value := (r.columns, r.values)

/-- `n` pulls from a pass with the lines `ls` to come after line `k` yield the records of those
lines up to the first failure, and nothing after. -/
theorem pulls_lines (n : Nat) :
    ∀ (ls : List (List Char)) (k : Nat) (row : Option JsonRow) (last : Option RowRecord),
      (Records.pulls n (⟨⟨ls, k, row, none⟩, last, false⟩ : Records JsonLinesCursor)).1.map
          (Option.map (Except.map RowRecord.fields)) =
        ((upToFailure (lineOutcomes ls k)).map (some ∘ Prod.fst)).take n ++
          List.replicate (n - (upToFailure (lineOutcomes ls k)).length) none := by
  -- on the pulls, each one read off by `next_lines`
  induction n with
  | zero => intro ls k row last; simp [Records.pulls]
  | succ n ih =>
    intro ls k row last
    rw [Records.pulls_succ]
    rcases next_lines ls k row last with ⟨hout, c, hnext⟩ |
      ⟨cols, vals, j, rest, row', r, hout, hnext, hcols, hvals⟩ | ⟨e, j, rest, hout, hnext⟩
    · -- no line holds anything: the pass ends at once
      rw [hnext, hout, Records.pulls_of_done rfl]
      simp [upToFailure, List.replicate_succ]
    · -- a record, and the pulls after it start from its line
      rw [hnext, hout, upToFailure_ok]
      simp only [List.map_cons, Option.map_some, Except.map, RowRecord.fields, hcols, hvals,
        ih rest j (some row') (some r), List.take_succ_cons, List.length_cons, Nat.add_sub_add_right,
        Function.comp_apply, List.cons_append]
    · -- a failure, and nothing after it
      rw [hnext, hout, upToFailure_error, Records.pulls_of_done rfl]
      simp [Except.map]

/-- After the pull that yields the item of a line, the cursor is on that line. -/
theorem pulls_lines_line :
    ∀ (i : Nat) (ls : List (List Char)) (k : Nat) (row : Option JsonRow) (last : Option RowRecord)
      (hi : i < (upToFailure (lineOutcomes ls k)).length),
      (Records.pulls (i + 1) (⟨⟨ls, k, row, none⟩, last, false⟩ : Records JsonLinesCursor)).2.cursor.line =
        ((upToFailure (lineOutcomes ls k)).get ⟨i, hi⟩).2 := by
  intro i
  -- on the item's place, each earlier pull read off by `next_lines`
  induction i with
  | zero =>
    intro ls k row last hi
    rw [Records.pulls_succ]
    rcases next_lines ls k row last with ⟨hout, c, hnext⟩ | ⟨cols, vals, j, rest, row', r, hout, hnext, -, -⟩ |
      ⟨e, j, rest, hout, hnext⟩
    · simp [hout, upToFailure] at hi
    · simp only [hnext, hout, upToFailure_ok, List.get_eq_getElem, List.getElem_cons_zero]
      rfl
    · simp only [hnext, hout, upToFailure_error, List.get_eq_getElem, List.getElem_cons_zero]
      rfl
  | succ i ih =>
    intro ls k row last hi
    rw [Records.pulls_succ]
    rcases next_lines ls k row last with ⟨hout, c, hnext⟩ | ⟨cols, vals, j, rest, row', r, hout, hnext, -, -⟩ |
      ⟨e, j, rest, hout, hnext⟩
    · simp [hout, upToFailure] at hi
    · have hi' : i < (upToFailure (lineOutcomes rest j)).length := by
        simpa [hout, upToFailure_ok] using hi
      simp only [hnext, hout, upToFailure_ok, List.get_eq_getElem, List.getElem_cons_succ]
      exact ih rest j (some row') (some r) hi'
    · simp [hout, upToFailure_error] at hi

/-- The item a pass over the text's lines yields for each line: the lines of the text that are
not blank, numbered with the blank ones counted, each with what it gives, up to the first that
fails. -/
def lineItems (text : String) : List (Except CursorError (List Column × List Value) × Nat) :=
  upToFailure (lineOutcomes (linesOf text.toList []) 0)

/-- A pass over a cursor on lines of JSON text yields, in order, one item for each line that is
not blank: the record of the object it holds, with one column per member in the object's order
(the member's name, the kind of its value or a string for a null, and its JSON type name) and the
members' values; or, for the first line that does not parse or holds no object, its failure,
after which nothing more is yielded. Lines are numbered with the blank ones counted, and after
the pull that yields a line's item the cursor is on that line. -/
theorem records_follow_lines (text : String) :
    (∀ n, ((Records.start (JsonLinesCursor.ofText text)).pulls n).1.map
        (Option.map (Except.map RowRecord.fields)) =
      ((lineItems text).map (some ∘ Prod.fst)).take n ++
        List.replicate (n - (lineItems text).length) none) ∧
    (List.range (lineItems text).length).map
        (fun i => ((Records.start (JsonLinesCursor.ofText text)).pulls (i + 1)).2.cursor.line) =
      (lineItems text).map Prod.snd := by
  refine ⟨fun n => pulls_lines n _ 0 none none, ?_⟩
  apply List.ext_getElem (by simp)
  intro i hi _
  rw [List.getElem_map, List.getElem_map, List.getElem_range]
  exact pulls_lines_line i _ 0 none none (by simpa [lineItems] using hi)

end Strainer.Rows
