import Strainer.Proofs.Rows.LineRecords
import Strainer.Proofs.Rows.ColumnarBatches
import Strainer.Rows.Source

/-!
# A pass is read to its end

`records` calls `Records.next` on fuel: once for each row the cursor may still have to come
(`RowCursor.remaining`) and once more. That is enough whenever every move onto a row lowers
that bound (`MovesBounded`). A call that yields a record has moved onto a row, and any other
call ends the pass, so the fuel always outlasts the pass. `records` thus returns a whole pass
(`WholePass`): every item up to the first call that yields nothing, and after it a pass that
yields nothing more (`records_whole_pass`).

The cursors over rows in memory, lines of JSON text and columnar files keep the bound, and so
does a cursor whose source drops after some rows (`source_records_whole_pass`).
-/

namespace Strainer.Rows

variable {σ : Type} [RowCursor σ]

/-- Every move of a cursor onto a row lowers its bound on the rows still to come. -/
def MovesBounded (σ : Type) [RowCursor σ] : Prop :=
  ∀ c : σ, (RowCursor.advance c).2 = .ok true →
    RowCursor.remaining (RowCursor.advance c).1 < RowCursor.remaining c

/-- `items` and `s` are a whole pass from `start`: the calls of `next` yield the items and then
nothing, which leaves the pass at `s`, and every later call yields nothing. -/
def WholePass (start : Records σ) (items : List (Except CursorError RowRecord)) (s : Records σ) :
    Prop :=
  Records.pulls (items.length + 1) start = (items.map some ++ [none], s) ∧
    ∀ k, Records.pulls k s = (List.replicate k none, s)

namespace Records

/-- What one call of `next` can do: yield nothing and end the pass, yield a failure and end the
pass, or, on a pass not over, move onto a row and yield its record. -/
theorem next_cases (s : Records σ) :
    (s.next.2 = none ∧ s.next.1.done = true) ∨
    (∃ e, s.next.2 = some (.error e) ∧ s.next.1.done = true) ∨
    (∃ r, s.next.2 = some (.ok r) ∧ s.done = false ∧ (RowCursor.advance s.cursor).2 = .ok true ∧
      s.next.1.cursor = (RowCursor.advance s.cursor).1) := by
  obtain ⟨c, last, done⟩ := s
  cases done with
  | true =>
    rw [next_of_done rfl]
    exact .inl ⟨rfl, rfl⟩
  | false =>
    cases hadv : RowCursor.advance c with
    | mk c' moved =>
      cases moved with
      | error e =>
        rw [next_of_moveFailed hadv]
        exact .inr (.inl ⟨e, rfl, rfl⟩)
      | ok moved =>
        cases moved with
        | false =>
          rw [next_of_exhausted hadv]
          exact .inl ⟨rfl, rfl⟩
        | true =>
          -- the move landed on a row; its capture decides what is yielded
          cases hcap : RowRecord.capture c' last with
          | error e =>
            rw [next_of_readFailed hadv hcap]
            exact .inr (.inl ⟨e, rfl, rfl⟩)
          | ok r =>
            rw [next_of_captured hadv hcap]
            exact .inr (.inr ⟨r, rfl, rfl, rfl, rfl⟩)

theorem drain_zero (s : Records σ) : s.drain 0 = ([], s) := rfl

theorem drain_succ_of_none {s : Records σ} (n : Nat) (h : s.next.2 = none) :
    s.drain (n + 1) = ([], s.next.1) := by
  rw [drain]
  cases hn : s.next with
  | mk s' item =>
    rw [hn] at h
    obtain rfl : item = none := h
    rfl

theorem drain_succ_of_some {s : Records σ} {item : Except CursorError RowRecord} (n : Nat)
    (h : s.next.2 = some item) :
    s.drain (n + 1) = (item :: (s.next.1.drain n).1, (s.next.1.drain n).2) := by
  rw [drain]
  cases hn : s.next with
  | mk s' item' =>
    rw [hn] at h
    obtain rfl : item' = some item := h
    rfl

/-- On a pass that is over, or with fuel above the cursor's bound on the rows to come, `drain`
stops at a call that yields nothing: its calls yield its items and then nothing, and the pass
after them is over. -/
theorem drain_done (hb : MovesBounded σ) :
    ∀ (n : Nat) (s : Records σ), (s.done = true ∨ RowCursor.remaining s.cursor < n) →
      pulls ((s.drain n).1.length + 1) s = ((s.drain n).1.map some ++ [none], (s.drain n).2) ∧
        (s.drain n).2.done = true
  | 0, s, h => by
    have hdone : s.done = true := h.resolve_right (Nat.not_lt_zero _)
    rw [drain_zero]
    exact ⟨by rw [pulls_succ, next_of_done hdone]; rfl, hdone⟩
  | n + 1, s, h => by
    rcases next_cases s with ⟨hnone, hdone⟩ | ⟨e, hfail, hdone⟩ | ⟨r, hrec, hs, hmove, hcursor⟩
    · rw [drain_succ_of_none n hnone]
      exact ⟨by rw [pulls_succ, hnone]; rfl, hdone⟩
    · -- the failure ends the pass, so the rest of the fuel is not needed
      obtain ⟨hrun, hend⟩ := drain_done hb n s.next.1 (.inl hdone)
      rw [drain_succ_of_some n hfail]
      exact ⟨by rw [List.length_cons, pulls_succ, hfail, hrun]; rfl, hend⟩
    · -- a record: the move onto its row lowered the bound below the fuel left
      have hlt : RowCursor.remaining s.next.1.cursor < n := by
        have hbound := hb s.cursor hmove
        have hfuel := h.resolve_left (by rw [hs]; exact Bool.false_ne_true)
        rw [hcursor]
        omega
      obtain ⟨hrun, hend⟩ := drain_done hb n s.next.1 (.inr hlt)
      rw [drain_succ_of_some n hrec]
      exact ⟨by rw [List.length_cons, pulls_succ, hrec, hrun]; rfl, hend⟩

end Records

/-- A cursor whose moves keep its bound is read to its end: `records` returns the whole pass. -/
theorem records_whole_pass (hb : MovesBounded σ) (c : σ) :
    WholePass (Records.start c) (records c).1 (records c).2 := by
  obtain ⟨hrun, hdone⟩ :=
    Records.drain_done hb (RowCursor.remaining c + 1) (Records.start c) (.inr (Nat.lt_succ_self _))
  exact ⟨hrun, Records.pulls_of_done hdone⟩

/-! ## The cursors keep their bound -/

/-- A move onto a row in memory leaves one row fewer after the cursor's. -/
theorem MemoryCursor.movesBounded : MovesBounded MemoryCursor := by
  intro c hmove
  change (MemoryCursor.advance c).2 = .ok true at hmove
  change (MemoryCursor.advance c).1.rows.length - ((MemoryCursor.advance c).1.position.map (· + 1)).getD 0 <
    c.rows.length - (c.position.map (· + 1)).getD 0
  unfold MemoryCursor.advance at hmove ⊢
  cases hpos : c.position with
  | none =>
    simp only [hpos] at hmove ⊢
    by_cases hlt : 0 < c.rows.length
    · rw [if_pos hlt]
      simp only [Option.map_some, Option.getD_some, Option.map_none, Option.getD_none]
      omega
    · rw [if_neg hlt] at hmove
      cases hmove
  | some p =>
    simp only [hpos] at hmove ⊢
    by_cases hlt : p + 1 < c.rows.length
    · rw [if_pos hlt]
      simp only [Option.map_some, Option.getD_some]
      omega
    · rw [if_neg hlt] at hmove
      cases hmove

/-- A move onto a line's row reads that line and the blank lines before it. -/
theorem JsonLinesCursor.movesBounded : MovesBounded JsonLinesCursor := by
  intro c hmove
  change (JsonLinesCursor.advance c).2 = .ok true at hmove
  change (JsonLinesCursor.advance c).1.pending.length < c.pending.length
  obtain ⟨ls, k, row, failure⟩ := c
  cases failure with
  | some e => cases hmove
  | none =>
    induction ls generalizing k row with
    | nil =>
      rw [JsonLinesCursor.advance_end] at hmove
      cases hmove
    | cons l ls ih =>
      by_cases hblank : (Text.trim l).isEmpty
      · rw [JsonLinesCursor.advance_blank ls k row hblank] at hmove ⊢
        exact Nat.lt_succ_of_lt (ih k.succ row hmove)
      · rcases JsonRow.parse_cases (k + 1) l with ⟨ms, hp, -⟩ | ⟨e, hp, -⟩
        · rw [JsonLinesCursor.advance_filled_ok ls k row hblank hp]
          exact Nat.lt_succ_self _
        · rw [JsonLinesCursor.advance_filled_error ls k row hblank hp] at hmove
          cases hmove

/-- A move onto a row of a columnar file takes the first of the rows to come. -/
theorem ParquetCursor.movesBounded : MovesBounded ParquetCursor := by
  intro c hmove
  change (ParquetCursor.advance c).2 = .ok true at hmove
  change (ParquetCursor.advance c).1.pending.length < c.pending.length
  cases hp : c.pending with
  | nil =>
    -- with no row to come, the move answers `false` or the reader's failure
    rw [ParquetCursor.advance_of_pending_nil hp] at hmove
    cases hf : ParquetCursor.failure? c.batches with
    | none =>
      rw [hf] at hmove
      cases hmove
    | some p =>
      rw [hf] at hmove
      cases hmove
  | cons r rest =>
    rw [(ParquetCursor.advance_of_pending_cons hp).2.2.1, List.length_cons]
    exact Nat.lt_succ_self _

theorem SourceCursor.movesBounded : MovesBounded SourceCursor := by
  intro c hmove
  cases c with
  | memory c => exact MemoryCursor.movesBounded c hmove
  | lines c => exact JsonLinesCursor.movesBounded c hmove
  | columnar c => exact ParquetCursor.movesBounded c hmove

/-- A source that drops after some rows moves onto a row only as the source underneath does. -/
theorem Interrupted.movesBounded (hb : MovesBounded σ) : MovesBounded (Interrupted σ) := by
  intro c hmove
  obtain ⟨inner, rowsLeft⟩ := c
  change (Interrupted.advance ⟨inner, rowsLeft⟩).2 = .ok true at hmove
  change RowCursor.remaining (Interrupted.advance ⟨inner, rowsLeft⟩).1.inner < RowCursor.remaining inner
  cases rowsLeft with
  | zero => cases hmove
  | succ n =>
    unfold Interrupted.advance at hmove ⊢
    cases hadv : RowCursor.advance inner with
    | mk inner' moved =>
      simp only [hadv] at hmove ⊢
      -- only a move of the source onto a row moves the cursor onto one
      cases moved with
      | error e => cases hmove
      | ok moved =>
        cases moved with
        | false => cases hmove
        | true =>
          have := hb inner (by rw [hadv])
          rw [hadv] at this
          exact this

/-- A pass over rows in memory, lines of JSON text or a columnar file is read to its end by
`records`, and so is one whose source drops after `n` rows. -/
theorem source_records_whole_pass (c : SourceCursor) (n : Nat) :
    WholePass (Records.start c) (records c).1 (records c).2 ∧
      WholePass (Records.start (⟨c, n⟩ : Interrupted SourceCursor))
        (records (⟨c, n⟩ : Interrupted SourceCursor)).1 (records (⟨c, n⟩ : Interrupted SourceCursor)).2 :=
  ⟨records_whole_pass SourceCursor.movesBounded c,
    records_whole_pass (Interrupted.movesBounded SourceCursor.movesBounded) ⟨c, n⟩⟩

end Strainer.Rows
