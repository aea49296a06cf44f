import Strainer.Rows.Sequence

/-!
# A pass over a cursor is fused

`Records.next` is a state machine over three things: the cursor, the last record (whose column
list the next record may share) and whether the pass is over. This module describes every run
of it, however many times `next` is called.

A run reaches rows one after another (`Reaches`): each move lands on a row, and the row's
snapshot is the next record. It ends (`Stops`) at the first move that finds no row, fails, or
lands on a row that cannot be read; that failure is yielded once, and every later call yields
nothing and leaves the cursor where it is. So the cursor moves once per row and once more.

A snapshot (`Snapshot`) holds the row's columns and values, one value per column, and shares
the column list of the record before it whenever the columns did not change.

Each of the five things one call can do is an equation of its own (`next_of_done`,
`next_of_exhausted`, `next_of_moveFailed`, `next_of_readFailed`, `next_of_captured`); the run
lemma `pulls_from` is one induction over the calls built from them, and `records_fused` is the
run from a fresh pass.
-/

namespace Strainer.Rows

variable {σ : Type} [RowCursor σ]

/-! ## Reading a row's columns -/

/-- A successful `mapM` in `Except` gives one result per element. -/
theorem Except.length_mapM {ε α β : Type} {f : α → Except ε β} :
    ∀ {l : List α} {l' : List β}, l.mapM f = .ok l' → l'.length = l.length
  | [], l', h => by cases h; rfl
  | a :: as, l', h => by
    rw [List.mapM_cons] at h
    cases ha : f a with
    | error e => rw [ha] at h; cases h
    | ok b =>
      cases hs : as.mapM f with
      | error e => rw [ha, hs] at h; cases h
      | ok bs =>
        rw [ha, hs] at h
        cases h
        exact congrArg (· + 1) (Except.length_mapM hs)

/-- The metadata of one column, read at position `i`. -/
private def columnAt (c : σ) (i : Nat) : Except CursorError Column := do
  pure ⟨← RowView.name c i, ← RowView.fieldKind c i, ← RowView.dataTypeName c i⟩

theorem RowView.columns_eq (c : σ) :
    RowView.columns c = (List.range (RowView.fieldCount c)).mapM (columnAt c) := rfl

/-- The check `sameSchema` makes of one column. -/
private def columnMatches (c : σ) (p : Nat × Column) : Except CursorError Bool := do
  if (← RowView.name c p.1) ≠ p.2.name then return false
  if (← RowView.fieldKind c p.1) ≠ p.2.kind then return false
  return (← RowView.dataTypeName c p.1) = p.2.typeName

/-- A column that passes the check reads back as that column. -/
theorem columnAt_of_columnMatches {c : σ} {i : Nat} {col : Column}
    (h : columnMatches c (i, col) = .ok true) : columnAt c i = .ok col := by
  unfold columnMatches at h
  unfold columnAt
  cases hn : RowView.name c i with
  | error e => simp [hn, bind, Except.bind] at h
  | ok n =>
    cases hk : RowView.fieldKind c i with
    | error e => by_cases hnc : n = col.name <;> simp [hn, hk, hnc, bind, Except.bind, pure, Except.pure] at h
    | ok k =>
      cases ht : RowView.dataTypeName c i with
      | error e =>
        by_cases hnc : n = col.name <;> by_cases hkc : k = col.kind <;>
          simp [hn, hk, ht, hnc, hkc, bind, Except.bind, pure, Except.pure] at h
      | ok t =>
        by_cases hnc : n = col.name <;> by_cases hkc : k = col.kind <;>
          simp [hn, hk, ht, hnc, hkc, bind, Except.bind, pure, Except.pure] at h
        obtain ⟨c₁, c₂, c₃⟩ := col
        simp only at hnc hkc h
        simp [hnc, hkc, h, bind, Except.bind, pure, Except.pure]

/-- Columns that pass the check one by one read back as those columns. -/
theorem mapM_columnAt_of_allM {c : σ} :
    ∀ {is : List Nat} {cols : List Column}, is.length = cols.length →
      (is.zip cols).allM (columnMatches c) = .ok true → is.mapM (columnAt c) = .ok cols
  | [], [], _, _ => rfl
  | i :: is, col :: cols, hlen, h => by
    simp only [List.zip_cons_cons, List.allM_cons] at h
    cases hm : columnMatches c (i, col) with
    | error e => rw [hm] at h; cases h
    | ok b =>
      cases b with
      | false => rw [hm] at h; cases h
      | true =>
        rw [hm] at h
        have hrest := mapM_columnAt_of_allM (by simpa using hlen) h
        rw [List.mapM_cons, columnAt_of_columnMatches hm, hrest]
        rfl

/-- A row whose columns are those of a list reads its columns as that list. -/
theorem columns_of_sameSchema {c : σ} {cols : List Column}
    (h : RowRecord.sameSchema c cols = .ok true) : RowView.columns c = .ok cols := by
  unfold RowRecord.sameSchema at h
  by_cases hcount : RowView.fieldCount c = cols.length
  · simp only [hcount, ne_eq, not_true_eq_false, if_false] at h
    rw [RowView.columns_eq, hcount]
    exact mapM_columnAt_of_allM (List.length_range ..) h
  · simp [hcount, pure, Except.pure] at h

/-! ## Snapshots -/

/-- `r` is a snapshot of the row the cursor `c` is on, taken after the record `last`: its
columns are the row's columns, its values the row's values, and it shares the column list of
`last` whenever the row's columns are still those of `last`. -/
structure Snapshot (c : σ) (last : Option RowRecord) (r : RowRecord) : Prop where
  columns : RowView.columns c = .ok r.columns
  values : (List.range (RowView.fieldCount c)).mapM (RowView.value c) = .ok r.values
  shares : ∀ p ∈ last, RowRecord.sameSchema c p.columns = .ok true →
    r.columns = p.columns ∧ r.layout = p.layout

/-- A snapshot has one value per column. -/
theorem Snapshot.length_values {c : σ} {last : Option RowRecord} {r : RowRecord}
    (h : Snapshot c last r) : r.values.length = r.columns.length := by
  rw [Except.length_mapM h.values, Except.length_mapM h.columns]

/-- What `capture` takes is a snapshot. -/
theorem capture_snapshot {c : σ} {last : Option RowRecord} {r : RowRecord}
    (h : RowRecord.capture c last = .ok r) : Snapshot c last r := by
  unfold RowRecord.capture at h
  cases last with
  | none =>
    cases hcols : RowView.columns c with
    | error e => simp [hcols, bind, Except.bind] at h
    | ok cols =>
      have hlen := Except.length_mapM hcols
      rw [List.length_range] at hlen
      cases hvals : (List.range cols.length).mapM (RowView.value c) with
      | error e => simp [hcols, hvals, bind, Except.bind, pure, Except.pure] at h
      | ok vals =>
        simp only [hcols, hvals, bind, Except.bind, pure, Except.pure, Except.ok.injEq] at h
        subst h
        exact ⟨hcols, by rw [← hlen]; exact hvals, fun p hp => by cases hp⟩
  | some p =>
    cases hsame : RowRecord.sameSchema c p.columns with
    | error e => simp [hsame, bind, Except.bind] at h
    | ok same =>
      cases same with
      | true =>
        -- the previous column list is kept, and it is what the row's columns read as
        have hcols := columns_of_sameSchema hsame
        have hlen := Except.length_mapM hcols
        rw [List.length_range] at hlen
        cases hvals : (List.range p.columns.length).mapM (RowView.value c) with
        | error e => simp [hsame, hvals, bind, Except.bind, pure, Except.pure] at h
        | ok vals =>
          simp only [hsame, hvals, if_true, bind, Except.bind, pure, Except.pure,
            Except.ok.injEq] at h
          subst h
          exact ⟨hcols, by rw [← hlen]; exact hvals, fun q hq _ => by cases hq; exact ⟨rfl, rfl⟩⟩
      | false =>
        cases hcols : RowView.columns c with
        | error e => simp [hsame, hcols, bind, Except.bind] at h
        | ok cols =>
          have hlen := Except.length_mapM hcols
          rw [List.length_range] at hlen
          cases hvals : (List.range cols.length).mapM (RowView.value c) with
          | error e => simp [hsame, hcols, hvals, bind, Except.bind, pure, Except.pure] at h
          | ok vals =>
            simp only [hsame, hcols, hvals, Bool.false_eq_true, if_false, bind, Except.bind,
              pure, Except.pure, Except.ok.injEq] at h
            subst h
            exact ⟨hcols, by rw [← hlen]; exact hvals, fun q hq hq' => by
              cases hq; rw [hsame] at hq'; cases hq'⟩

/-! ## One call of `next` -/

namespace Records

theorem next_of_done {s : Records σ} (h : s.done = true) : s.next = (s, none) := by
  simp [next, h]

theorem next_of_exhausted {c c' : σ} {last : Option RowRecord}
    (h : RowCursor.advance c = (c', .ok false)) :
    (⟨c, last, false⟩ : Records σ).next = (⟨c', last, true⟩, none) := by
  simp [next, h]

theorem next_of_moveFailed {c c' : σ} {last : Option RowRecord} {e : CursorError}
    (h : RowCursor.advance c = (c', .error e)) :
    (⟨c, last, false⟩ : Records σ).next = (⟨c', last, true⟩, some (.error e)) := by
  simp [next, h]

theorem next_of_readFailed {c c' : σ} {last : Option RowRecord} {e : CursorError}
    (h : RowCursor.advance c = (c', .ok true)) (hr : RowRecord.capture c' last = .error e) :
    (⟨c, last, false⟩ : Records σ).next = (⟨c', last, true⟩, some (.error e)) := by
  simp [next, h, hr]

theorem next_of_captured {c c' : σ} {last : Option RowRecord} {r : RowRecord}
    (h : RowCursor.advance c = (c', .ok true)) (hr : RowRecord.capture c' last = .ok r) :
    (⟨c, last, false⟩ : Records σ).next = (⟨c', some r, false⟩, some (.ok r)) := by
  simp [next, h, hr]

/-- The answers of `n` calls of `next`, in order, and the pass after them. -/
def pulls : Nat → Records σ → List (Option (Except CursorError RowRecord)) × Records σ
  | 0, s => ([], s)
  | n + 1, s =>
    let (s, item) := s.next
    let (items, s) := pulls n s
    (item :: items, s)

theorem pulls_succ (n : Nat) (s : Records σ) :
    pulls (n + 1) s = ((s.next).2 :: (pulls n s.next.1).1, (pulls n s.next.1).2) := rfl

/-- Once the pass is over, every call yields nothing and changes nothing. -/
theorem pulls_of_done {s : Records σ} (h : s.done = true) :
    ∀ n, pulls n s = (List.replicate n none, s)
  | 0 => rfl
  | n + 1 => by rw [pulls_succ, next_of_done h, pulls_of_done h n]; rfl

end Records

/-! ## Runs -/

/-- From the cursor `c`, after the record `last`, the pass reaches the rows whose snapshots are
`rows`, one move each, and leaves the cursor at `c'`. -/
inductive Reaches : σ → Option RowRecord → List RowRecord → σ → Prop
  | nil (c : σ) (last : Option RowRecord) : Reaches c last [] c
  | cons {c c₁ c' : σ} {last : Option RowRecord} {r : RowRecord} {rows : List RowRecord} :
      RowCursor.advance c = (c₁, .ok true) → Snapshot c₁ last r →
      Reaches c₁ (some r) rows c' → Reaches c last (r :: rows) c'

/-- How a pass at the cursor `c`, after the record `last`, ends with one more move to `c'`: the
rows are exhausted and nothing is yielded, or the move fails, or the row it lands on cannot be
read, and the failure is yielded. -/
inductive Stops : σ → Option RowRecord → Option CursorError → σ → Prop
  | exhausted {c c' : σ} {last : Option RowRecord} :
      RowCursor.advance c = (c', .ok false) → Stops c last none c'
  | moveFailed {c c' : σ} {last : Option RowRecord} {e : CursorError} :
      RowCursor.advance c = (c', .error e) → Stops c last (some e) c'
  | readFailed {c c' : σ} {last : Option RowRecord} {e : CursorError} :
      RowCursor.advance c = (c', .ok true) → RowRecord.capture c' last = .error e →
      Stops c last (some e) c'

/-- Every record a pass reaches has one value per column. -/
theorem Reaches.length_values {c c' : σ} {last : Option RowRecord} {rows : List RowRecord}
    (h : Reaches c last rows c') : ∀ r ∈ rows, r.values.length = r.columns.length := by
  induction h with
  | nil => intro r hr; cases hr
  | cons _ hsnap _ ih =>
    intro r hr
    rcases List.mem_cons.mp hr with rfl | hr
    · exact hsnap.length_values
    · exact ih r hr

/-- The last record after reaching `r :: rows` is the last after reaching `rows` from `r`. -/
theorem getLast?_cons_or (r : RowRecord) (rows : List RowRecord) (last : Option RowRecord) :
    (r :: rows).getLast?.or last = rows.getLast?.or (some r) := by
  cases h : rows.getLast? <;> simp [List.getLast?_cons, h]

/-- What `n` calls of `next` do on a pass that is not over: they yield the records of the rows
reached, in order, one per call; and if the pass ends within them, the failure that ends it,
once, and nothing after. -/
theorem pulls_from (n : Nat) (c : σ) (last : Option RowRecord) :
    ∃ rows c₁, Reaches c last rows c₁ ∧
      ((rows.length = n ∧ Records.pulls n ⟨c, last, false⟩ =
          (rows.map fun r => some (.ok r), ⟨c₁, rows.getLast?.or last, false⟩)) ∨
        (rows.length < n ∧ ∃ err c₂, Stops c₁ (rows.getLast?.or last) err c₂ ∧
          Records.pulls n ⟨c, last, false⟩ =
            (rows.map (fun r => some (.ok r)) ++ err.toList.map (fun e => some (.error e)) ++
              List.replicate (n - rows.length - err.toList.length) none,
              ⟨c₂, rows.getLast?.or last, true⟩))) := by
  induction n generalizing c last with
  | zero => exact ⟨[], c, .nil c last, .inl ⟨rfl, rfl⟩⟩
  | succ n ih =>
    -- the first call: the four things a live pass can do
    rcases hadv : RowCursor.advance c with ⟨c', moved⟩
    rcases moved with e | moved
    · refine ⟨[], c, .nil c last, .inr ⟨Nat.succ_pos n, some e, c', .moveFailed hadv, ?_⟩⟩
      rw [Records.pulls_succ, Records.next_of_moveFailed hadv, Records.pulls_of_done rfl]
      rfl
    cases moved with
    | false =>
      refine ⟨[], c, .nil c last, .inr ⟨Nat.succ_pos n, none, c', .exhausted hadv, ?_⟩⟩
      rw [Records.pulls_succ, Records.next_of_exhausted hadv, Records.pulls_of_done rfl]
      rfl
    | true =>
      cases hcap : RowRecord.capture c' last with
      | error e =>
        refine ⟨[], c, .nil c last, .inr ⟨Nat.succ_pos n, some e, c', .readFailed hadv hcap, ?_⟩⟩
        rw [Records.pulls_succ, Records.next_of_readFailed hadv hcap, Records.pulls_of_done rfl]
        rfl
      | ok r =>
        -- a record: the rest of the run starts from the row it was taken from
        obtain ⟨rows, c₁, hreach, hrun⟩ := ih c' (some r)
        refine ⟨r :: rows, c₁, .cons hadv (capture_snapshot hcap) hreach, ?_⟩
        rw [Records.pulls_succ, Records.next_of_captured hadv hcap, getLast?_cons_or]
        rcases hrun with ⟨hlen, hpulls⟩ | ⟨hlen, err, c₂, hstop, hpulls⟩
        · exact .inl ⟨by simp [hlen], by rw [hpulls]; rfl⟩
        · refine .inr ⟨by simp [hlen], err, c₂, hstop, ?_⟩
          rw [hpulls, List.length_cons, Nat.add_sub_add_right]
          rfl

/-- A pass over a cursor is a fused sequence of snapshots. However many times `next` is called
on a fresh pass, it yields the records of the rows it reaches, in order, one per call: each is
a snapshot of its row, with one value per column, sharing the column list of the record before
it while the columns stay the same. The first move that finds no row, fails, or lands on a row
that cannot be read ends the pass; its failure, if any, is yielded once, and every later call
yields nothing. The cursor moves once for each row reached, and once more if the pass ended. -/
theorem records_fused (c : σ) (n : Nat) :
    ∃ rows c₁, Reaches c none rows c₁ ∧ (∀ r ∈ rows, r.values.length = r.columns.length) ∧
      ((rows.length = n ∧ (Records.start c).pulls n =
          (rows.map fun r => some (.ok r), ⟨c₁, rows.getLast?, false⟩)) ∨
        (rows.length < n ∧ ∃ err c₂, Stops c₁ rows.getLast? err c₂ ∧
          (Records.start c).pulls n =
            (rows.map (fun r => some (.ok r)) ++ err.toList.map (fun e => some (.error e)) ++
              List.replicate (n - rows.length - err.toList.length) none,
              ⟨c₂, rows.getLast?, true⟩))) := by
  obtain ⟨rows, c₁, hreach, hrun⟩ := pulls_from n c none
  simp only [Option.or_none] at hrun
  exact ⟨rows, c₁, hreach, hreach.length_values, hrun⟩

end Strainer.Rows
