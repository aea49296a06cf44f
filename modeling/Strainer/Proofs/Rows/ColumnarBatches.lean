import Mathlib.Logic.Function.Iterate
import Strainer.Rows.Parquet

/-!
# A columnar cursor walks its batches row by row

The cursor over a columnar file reads the rows a batch at a time and keeps the position of its
row in the batch. Every state it reaches keeps its row inside its batch (`RowInBatch`), so a
field is always read from a row that exists.

The rows after the cursor's (`pending`) are the rest of its batch and then the rows the reader
yields before its next failure. What the reader yields next, batches without rows skipped, is
one of three things (`nextBatch_cases`). So each move takes the first row to come
(`advance_of_pending_cons`), and with none left answers the reader's failure, or `false` when it
has none (`advance_of_pending_nil`).

From a cursor just opened over batches `B₁ … Bₘ` that all read, the moves answer `true` once for
each row of each batch, landing on those rows in order, and `false` ever after
(`advance_walks_batches`). Over a reader that fails after them, the move after the last row
fails, once, and the cursor goes on with what the reader yields after the failure
(`advance_walks_to_failure`).
-/

namespace Strainer.Rows

open Parquet

namespace ParquetCursor

/-- The cursor's row lies inside its batch. -/
def RowInBatch (c : ParquetCursor) : Prop :=
  ∀ b, c.batch = some b → c.row < b.length

theorem current_of_rowInBatch {c : ParquetCursor} {b : Batch} (hb : c.batch = some b)
    (h : c.row < b.length) : c.current = .ok (b.get ⟨c.row, h⟩) := by
  simp [current, hb, List.getElem?_eq_getElem h]

/-- The state after `n` moves. -/
def moves (n : Nat) (c : ParquetCursor) : ParquetCursor :=
  (Prod.fst ∘ advance)^[n] c

/-! ## What the reader yields -/

/-- The reader's first failure and what it yields after it; none if it never fails. -/
def failure? : List BatchRead → Option (CursorError × List BatchRead)
  | [] => none
  | .batch _ :: rest => failure? rest
  | .failed e :: rest => some (e, rest)

theorem rowsBeforeFailure_nil : rowsBeforeFailure [] = [] := rfl

theorem rowsBeforeFailure_map_batch_append (bs : List Batch) (rest : List BatchRead) :
    rowsBeforeFailure (bs.map .batch ++ rest) = bs.flatten ++ rowsBeforeFailure rest := by
  induction bs with
  | nil => rfl
  | cons b bs ih =>
    rw [List.map_cons, List.cons_append, rowsBeforeFailure, ih, List.flatten_cons,
      List.append_assoc]

theorem failure?_map_batch_append (bs : List Batch) (rest : List BatchRead) :
    failure? (bs.map .batch ++ rest) = failure? rest := by
  induction bs with
  | nil => rfl
  | cons b bs ih => rw [List.map_cons, List.cons_append, failure?, ih]

/-- What the reader yields next, batches without rows skipped: nothing, when it has no row and no
failure left; a batch with rows, the first of the rows to come; or its first failure, with no
row before it. -/
theorem nextBatch_cases (rs : List BatchRead) :
    (nextBatch rs = none ∧ rowsBeforeFailure rs = [] ∧ failure? rs = none) ∨
    (∃ b rest, b ≠ [] ∧ nextBatch rs = some (.batch b, rest) ∧
      rowsBeforeFailure rs = b ++ rowsBeforeFailure rest ∧ failure? rs = failure? rest) ∨
    (∃ e rest, nextBatch rs = some (.failed e, rest) ∧ rowsBeforeFailure rs = [] ∧
      failure? rs = some (e, rest)) := by
  induction rs with
  | nil => exact .inl ⟨rfl, rfl, rfl⟩
  | cons r rs ih =>
    cases r with
    | batch b =>
      by_cases hb : b.isEmpty
      · -- a batch without rows is skipped and brings no row
        obtain rfl : b = [] := List.isEmpty_iff.mp hb
        rw [nextBatch, if_pos hb, rowsBeforeFailure, failure?, List.nil_append]
        exact ih
      · refine .inr (.inl ⟨b, rs, fun he => hb (List.isEmpty_iff.mpr he), ?_, rfl, rfl⟩)
        rw [nextBatch, if_neg hb]
    | failed e => exact .inr (.inr ⟨e, rs, rfl, rfl, rfl⟩)

/-! ## One move -/

theorem pending_of_last {c : ParquetCursor} (h : ¬c.batch.any (c.row + 1 < ·.length)) :
    c.pending = rowsBeforeFailure c.batches := by
  unfold pending
  cases hb : c.batch with
  | none => rfl
  | some b =>
    rw [hb] at h
    have hlen : b.length ≤ c.row + 1 := by simpa using h
    simp [List.drop_eq_nil_of_le hlen]

/-- With rows still to come, a move lands on the first of them and keeps the row in its batch;
it does not reach the reader's next failure. -/
theorem advance_of_pending_cons {c : ParquetCursor} {r : List Cell} {rest : List (List Cell)}
    (hp : c.pending = r :: rest) :
    (advance c).2 = .ok true ∧ (advance c).1.current = .ok r ∧ (advance c).1.pending = rest ∧
      (advance c).1.RowInBatch ∧ failure? (advance c).1.batches = failure? c.batches := by
  by_cases hnext : c.batch.any (c.row + 1 < ·.length)
  · -- the next row of the same batch
    obtain ⟨b, hb, hlt⟩ := (Option.any_eq_true _ _).mp hnext
    replace hlt : c.row + 1 < b.length := of_decide_eq_true hlt
    have hdrop : b.drop (c.row + 1) = b[c.row + 1] :: b.drop (c.row + 1 + 1) :=
      List.drop_eq_getElem_cons hlt
    have hrow : r = b[c.row + 1] ∧ rest = b.drop (c.row + 1 + 1) ++ rowsBeforeFailure c.batches := by
      rw [pending, hb, Option.map_some, Option.getD_some, hdrop, List.cons_append] at hp
      exact ⟨(List.cons.inj hp).1.symm, (List.cons.inj hp).2.symm⟩
    rw [advance, if_pos hnext]
    refine ⟨rfl, ?_, ?_, ?_, rfl⟩
    · simp [current, hb, List.getElem?_eq_getElem hlt, hrow.1]
    · simp [pending, hb, hrow.2]
    · intro b' hb'
      rw [hb] at hb'
      cases hb'
      exact hlt
  · -- the first row of the next batch that has rows, which comes before any failure
    rw [pending_of_last hnext] at hp
    rcases nextBatch_cases c.batches with ⟨-, hrows, -⟩ | ⟨b, rest', hne, hbatch, hrows, hfail⟩ |
        ⟨e, rest', -, hrows, -⟩
    · rw [hrows] at hp
      cases hp
    · obtain ⟨r', b', rfl⟩ := List.exists_cons_of_ne_nil hne
      rw [hrows, List.cons_append] at hp
      obtain ⟨rfl, rfl⟩ := List.cons.inj hp
      rw [advance, if_neg hnext, hbatch]
      refine ⟨rfl, rfl, ?_, ?_, hfail.symm⟩
      · simp [pending]
      · intro b'' hb''
        cases hb''
        simp
    · rw [hrows] at hp
      cases hp

/-- With no row to come before the reader's next failure, a move answers that failure, or
`false` when the reader has none. It leaves the cursor on no batch, with what the reader yields
after the failure still to come. -/
theorem advance_of_pending_nil {c : ParquetCursor} (hp : c.pending = []) :
    advance c = ({ c with batches := ((failure? c.batches).map (·.2)).getD [], batch := none },
      ((failure? c.batches).map (·.1)).elim (.ok false) .error) := by
  have hnext : ¬c.batch.any (c.row + 1 < ·.length) := by
    intro hany
    obtain ⟨b, hb, hlt⟩ := (Option.any_eq_true _ _).mp hany
    replace hlt : c.row + 1 < b.length := of_decide_eq_true hlt
    -- the batch would still have a row after the cursor's
    have hdrop : (b.drop (c.row + 1)).length = 0 := by
      rw [pending, hb] at hp
      simp only [Option.map_some, Option.getD_some, List.append_eq_nil_iff] at hp
      rw [hp.1, List.length_nil]
    rw [List.length_drop] at hdrop
    omega
  rw [pending_of_last hnext] at hp
  rw [advance, if_neg hnext]
  rcases nextBatch_cases c.batches with ⟨hnone, -, hfail⟩ | ⟨b, rest, hne, -, hrows, -⟩ |
      ⟨e, rest, hfailed, -, hfail⟩
  · rw [hnone, hfail]
    rfl
  · rw [hrows] at hp
    exact absurd (List.append_eq_nil_iff.mp hp).1 hne
  · rw [hfailed, hfail]
    rfl

theorem advance_rowInBatch (c : ParquetCursor) : (advance c).1.RowInBatch := by
  cases hp : c.pending with
  | nil =>
    rw [advance_of_pending_nil hp]
    intro b hb
    cases hb
  | cons r rest => exact (advance_of_pending_cons hp).2.2.2.1

/-! ## Runs -/

theorem moves_succ (n : Nat) (c : ParquetCursor) : moves (n + 1) c = (advance (moves n c)).1 :=
  Function.iterate_succ_apply' _ n c

theorem moves_rowInBatch {c : ParquetCursor} (hin : c.RowInBatch) (n : Nat) :
    (moves n c).RowInBatch := by
  cases n with
  | zero => exact hin
  | succ n => rw [moves_succ]; exact advance_rowInBatch _

/-- The first moves, one for each row to come before the reader's next failure, take those rows
one at a time and do not reach the failure. -/
theorem moves_pending (c : ParquetCursor) {n : Nat} (hn : n ≤ c.pending.length) :
    (moves n c).pending = c.pending.drop n ∧ failure? (moves n c).batches = failure? c.batches := by
  induction n with
  | zero => exact ⟨rfl, rfl⟩
  | succ n ih =>
    obtain ⟨hp, hf⟩ := ih (by omega)
    -- the row the `n + 1`-th move lands on
    have hcons : c.pending.drop n = c.pending[n] :: c.pending.drop (n + 1) :=
      List.drop_eq_getElem_cons (by omega)
    obtain ⟨-, -, hp', -, hf'⟩ := advance_of_pending_cons (hp.trans hcons)
    rw [moves_succ]
    exact ⟨hp', hf'.trans hf⟩

/-- While rows are still to come before the reader's next failure, the `n`-th move answers
`true` and lands on the `n`-th of them. -/
theorem advance_moves_of_getElem? {c : ParquetCursor} {n : Nat} {r : List Cell}
    (hr : c.pending[n]? = some r) :
    (advance (moves n c)).2 = .ok true ∧ (moves (n + 1) c).current = .ok r := by
  obtain ⟨hn, hget⟩ := List.getElem?_eq_some_iff.mp hr
  obtain ⟨hp, -⟩ := moves_pending c (Nat.le_of_lt hn)
  have hcons : c.pending.drop n = r :: c.pending.drop (n + 1) := by
    rw [List.drop_eq_getElem_cons hn, hget]
  obtain ⟨hans, hcur, -⟩ := advance_of_pending_cons (hp.trans hcons)
  rw [moves_succ]
  exact ⟨hans, hcur⟩

/-- After the rows before the reader's next failure, the move answers that failure, or `false`
when the reader has none. -/
theorem advance_moves_pending_length (c : ParquetCursor) :
    advance (moves c.pending.length c) =
      ({ moves c.pending.length c with
          batches := ((failure? c.batches).map (·.2)).getD []
          batch := none },
        ((failure? c.batches).map (·.1)).elim (.ok false) .error) := by
  obtain ⟨hp, hf⟩ := moves_pending c (Nat.le_refl _)
  rw [List.drop_length] at hp
  rw [advance_of_pending_nil hp, hf]

/-- Once no row is to come and the reader cannot fail, no move finds a row or a failure. -/
theorem moves_of_exhausted {c : ParquetCursor} (hp : c.pending = []) (hf : failure? c.batches = none)
    (k : Nat) : (moves k c).pending = [] ∧ failure? (moves k c).batches = none := by
  induction k with
  | zero => exact ⟨hp, hf⟩
  | succ k ih =>
    rw [moves_succ, advance_of_pending_nil ih.1, ih.2]
    exact ⟨rfl, rfl⟩

/-- Over a reader that cannot fail, the `n`-th move answers `true` exactly while rows are left,
and lands on the `n`-th row to come. -/
theorem advance_moves (c : ParquetCursor) (hf : failure? c.batches = none) (n : Nat) :
    (advance (moves n c)).2 = .ok (decide (n < c.pending.length)) ∧
      (moves (n + 1) c).current = (c.pending[n]?).elim (.error .noCurrentRow) .ok := by
  by_cases hn : n < c.pending.length
  · obtain ⟨hans, hcur⟩ := advance_moves_of_getElem? (List.getElem?_eq_getElem hn)
    rw [hans, hcur, List.getElem?_eq_getElem hn]
    simp [hn]
  · -- the rows are used up and no failure comes: the move answers `false`
    have hle : c.pending.length ≤ n := Nat.le_of_not_lt hn
    have hsplit : moves n c = moves (n - c.pending.length) (moves c.pending.length c) := by
      rw [moves, moves, moves, ← Function.iterate_add_apply, Nat.sub_add_cancel hle]
    obtain ⟨hp₀, hf₀⟩ := moves_pending c (Nat.le_refl _)
    rw [List.drop_length] at hp₀
    obtain ⟨hp, hf'⟩ := moves_of_exhausted hp₀ (hf₀.trans hf) (n - c.pending.length)
    rw [← hsplit] at hp hf'
    rw [moves_succ, advance_of_pending_nil hp, hf', List.getElem?_eq_none hle]
    exact ⟨by simp [hn], rfl⟩

end ParquetCursor

/-- A cursor over batches `B₁ … Bₘ` (any row counts, none included) that the reader yields
without failure, just opened, answers its moves `true` exactly `|B₁| + … + |Bₘ|` times (the rows
of the batches joined), landing on the rows of `B₁`, then of `B₂` and so on, batches without rows
skipped, and `false` on every move after that. In every state it reaches, its row lies inside its
batch, and the fields are read from that row. -/
theorem advance_walks_batches (fields : List Field) (columns : List Column) (bs : List Batch)
    (n : Nat) :
    (ParquetCursor.advance (ParquetCursor.moves n ⟨fields, columns, bs.map .batch, none, 0⟩)).2 =
        .ok (decide (n < bs.flatten.length)) ∧
      (ParquetCursor.moves (n + 1) ⟨fields, columns, bs.map .batch, none, 0⟩).current =
        (bs.flatten[n]?).elim (.error .noCurrentRow) .ok ∧
      ∀ b, (ParquetCursor.moves n ⟨fields, columns, bs.map .batch, none, 0⟩).batch = some b →
        ∃ h : (ParquetCursor.moves n ⟨fields, columns, bs.map .batch, none, 0⟩).row < b.length,
          (ParquetCursor.moves n ⟨fields, columns, bs.map .batch, none, 0⟩).current =
            .ok (b.get ⟨(ParquetCursor.moves n ⟨fields, columns, bs.map .batch, none, 0⟩).row, h⟩) := by
  have hin : ParquetCursor.RowInBatch ⟨fields, columns, bs.map .batch, none, 0⟩ := fun b hb => by
    cases hb
  -- the reader yields the rows of the batches and never fails
  have hpending : ParquetCursor.pending ⟨fields, columns, bs.map .batch, none, 0⟩ = bs.flatten := by
    have h := ParquetCursor.rowsBeforeFailure_map_batch_append bs []
    rw [List.append_nil, ParquetCursor.rowsBeforeFailure_nil, List.append_nil] at h
    exact h
  have hfail : ParquetCursor.failure? (bs.map .batch) = none := by
    have h := ParquetCursor.failure?_map_batch_append bs []
    rw [List.append_nil] at h
    exact h
  obtain ⟨hans, hcur⟩ := ParquetCursor.advance_moves ⟨fields, columns, bs.map .batch, none, 0⟩ hfail n
  rw [hpending] at hans hcur
  refine ⟨hans, hcur, fun b hb => ?_⟩
  have hrow := ParquetCursor.moves_rowInBatch hin n b hb
  exact ⟨hrow, ParquetCursor.current_of_rowInBatch hb hrow⟩

/-- A reader that fails after the batches `B₁ … Bₘ`. A cursor just opened on it answers its
moves `true` on the rows of the batches, in order; the move after the last row fails with the
reader's failure, once, and leaves the cursor on no batch, with what the reader yields after the
failure still to come. -/
theorem advance_walks_to_failure (fields : List Field) (columns : List Column) (bs : List Batch)
    (e : CursorError) (post : List BatchRead) :
    let c : ParquetCursor := ⟨fields, columns, bs.map .batch ++ .failed e :: post, none, 0⟩
    (∀ n r, bs.flatten[n]? = some r →
      (ParquetCursor.advance (ParquetCursor.moves n c)).2 = .ok true ∧
        (ParquetCursor.moves (n + 1) c).current = .ok r) ∧
      (ParquetCursor.advance (ParquetCursor.moves bs.flatten.length c)).2 = .error e ∧
      (ParquetCursor.moves (bs.flatten.length + 1) c).batches = post ∧
      (ParquetCursor.moves (bs.flatten.length + 1) c).batch = none := by
  intro c
  -- before its failure the reader yields the rows of the batches
  have hpending : c.pending = bs.flatten := by
    have h := ParquetCursor.rowsBeforeFailure_map_batch_append bs (.failed e :: post)
    have hnil : ParquetCursor.rowsBeforeFailure (.failed e :: post) = [] := rfl
    rw [hnil, List.append_nil] at h
    exact h
  have hfail : ParquetCursor.failure? c.batches = some (e, post) := by
    rw [ParquetCursor.failure?_map_batch_append]
    rfl
  refine ⟨fun n r hr => ParquetCursor.advance_moves_of_getElem? (by rwa [hpending]), ?_⟩
  have hstep := ParquetCursor.advance_moves_pending_length c
  rw [hpending, hfail] at hstep
  rw [ParquetCursor.moves_succ, hstep]
  exact ⟨rfl, rfl, rfl⟩

end Strainer.Rows
