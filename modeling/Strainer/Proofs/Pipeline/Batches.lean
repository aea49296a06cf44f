import Mathlib.Data.Nat.Find
import Mathlib.Tactic.Set
import Strainer.Pipeline.Run

/-!
# Filtering in batches is filtering in order

`filterRows` reads the rows of a run in batches of the plan's size. It tests every row of a
batch, writes the rows that pass while fewer than the limit have been written, counts the rows
whose test fails, and reads the next batch only while the limit has not been reached. This module
proves that what it writes does not depend on the batch size: the sink receives the first rows
that pass, up to the limit, in order, exactly as a filter reading one row at a time would give
them. What it scans and the failures it counts do depend on the batch size: the loop stops at the
end of the batch in which the limit was reached. When a row cannot be read, the run fails with
the batch that holds it, having written the rows that pass in the batches before.

The proof follows the loop: `batch_spec` is one batch, `Scanned` says where the loop stands after
the first `p` rows, `batches_round` is one round of the loop, and `batches_rounds` runs the rounds
before the one where the loop stops.
-/

namespace Strainer

/-! ## Sinks that never refuse a record -/

namespace Sink.Output

open Rows

@[simp] theorem addAll_nil (o : Output) : (o.addAll []).1 = o := rfl

theorem addAll_cons (o : Output) (r : RowRecord) (rs : List RowRecord) :
    (o.addAll (r :: rs)).1 = ((o.add r).1.addAll rs).1 := rfl

theorem addAll_append (o : Output) (xs ys : List RowRecord) :
    (o.addAll (xs ++ ys)).1 = ((o.addAll xs).1.addAll ys).1 := by
  induction xs generalizing o with
  | nil => rfl
  | cons x xs ih => rw [List.cons_append, addAll_cons, addAll_cons, ih]

/-- Adding a record to the sink never fails, whatever records were added to it before. -/
def NeverFails (o : Output) : Prop :=
  ∀ (rs : List RowRecord) (r : RowRecord), ((o.addAll rs).1.add r).2 = .ok ()

theorem NeverFails.add_ok {o : Output} (h : o.NeverFails) (r : RowRecord) : (o.add r).2 = .ok () :=
  h [] r

theorem NeverFails.add {o : Output} (h : o.NeverFails) (r : RowRecord) : (o.add r).1.NeverFails :=
  fun rs r' => h (r :: rs) r'

theorem NeverFails.addAll {o : Output} (h : o.NeverFails) (rs : List RowRecord) :
    (o.addAll rs).1.NeverFails :=
  fun rs' r => by rw [← addAll_append]; exact h (rs ++ rs') r

/-- A sink of JSON lines takes every record. -/
theorem neverFails_lines (s : LinesSink) : (lines s).NeverFails := by
  have hlines : ∀ (rs : List RowRecord) (s : LinesSink), ∃ s', ((lines s).addAll rs).1 = lines s' := by
    intro rs
    induction rs with
    | nil => exact fun s => ⟨s, rfl⟩
    | cons r rs ih => exact fun s => ih (s.add r)
  intro rs r
  obtain ⟨s', hs'⟩ := hlines rs s
  rw [hs']
  rfl

end Sink.Output

namespace Pipeline

open Rows Sink Strainer.Filter

variable (f : CompiledFilter)

/-! ## Rows as the filter sees them -/

/-- Does the row pass the filter? -/
def accepts (r : RowRecord) : Bool :=
  match f.test r with
  | .ok true => true
  | _ => false

/-- Does testing the row fail? -/
def failsOn (r : RowRecord) : Bool :=
  match f.test r with
  | .error _ => true
  | .ok _ => false

/-- The length of the shortest prefix of `rows` that holds `n` rows passing the filter: the
position of the `n`-th such row, counted from one, and zero for `n = 0` (all of `rows` when fewer
pass). -/
def prefixHolding : Nat → List RowRecord → Nat
  | 0, _ => 0
  | _ + 1, [] => 0
  | n + 1, r :: rs => (if accepts f r then prefixHolding n rs else prefixHolding (n + 1) rs) + 1

variable {f}

/-- When `n` rows of the list pass, a prefix holds `n` of them exactly when it is at least as
long as `prefixHolding`. -/
theorem le_countP_take_iff :
    ∀ {n : Nat} {rows : List RowRecord} {q : Nat}, n ≤ rows.countP (accepts f) →
      (n ≤ (rows.take q).countP (accepts f) ↔ prefixHolding f n rows ≤ q)
  | 0, rows, q, _ => by simp [prefixHolding]
  | n + 1, [], q, h => by simp at h
  | n + 1, r :: rs, 0, h => by simp [prefixHolding]
  | n + 1, r :: rs, q + 1, h => by
    rw [List.countP_cons] at h
    rw [List.take_succ_cons, List.countP_cons, prefixHolding]
    by_cases hr : accepts f r
    · rw [if_pos hr] at h ⊢
      rw [if_pos hr, Nat.add_le_add_iff_right, Nat.add_le_add_iff_right]
      exact le_countP_take_iff (by omega)
    · rw [if_neg hr] at h ⊢
      rw [if_neg hr, Nat.add_zero, Nat.add_le_add_iff_right]
      exact le_countP_take_iff (by omega)

/-! ## One batch -/

/-- A batch of rows that were read, tested one after another: the rows that pass go to the sink
while the limit allows, and the failures are counted. -/
theorem batch_spec (limit : Nat) :
    ∀ (ps : List (Nat × RowRecord)) (s : Scan), s.sink.NeverFails → s.stats.matched ≤ limit →
      (Scan.batch f limit s ps).2 = .ok () ∧
      (Scan.batch f limit s ps).1.sink =
        (s.sink.addAll (((ps.map Prod.snd).filter (accepts f)).take (limit - s.stats.matched))).1 ∧
      (Scan.batch f limit s ps).1.stats.scanned = s.stats.scanned ∧
      (Scan.batch f limit s ps).1.stats.matched =
        min limit (s.stats.matched + (ps.map Prod.snd).countP (accepts f)) ∧
      (Scan.batch f limit s ps).1.stats.failed =
        s.stats.failed + (ps.map Prod.snd).countP (failsOn f)
  | [], s, _, hm => by simp [Scan.batch]; omega
  | (o, r) :: rest, s, hs, hm => by
    rcases ht : f.test r with e | passed
    · -- a failed test is counted, and the row is not written
      have ih := batch_spec limit rest { s with
        stats := { s.stats with failed := s.stats.failed + 1 }
        transcript := s.transcript.log .warn pipelineTarget
          ("Row " ++ Exact.intText ((s.stats.scanned + o + 1 : Nat) : Int) ++ ": " ++ e.message) }
        hs hm
      dsimp only at ih
      simp only [Scan.batch, ht]
      refine ⟨ih.1, ?_, ih.2.2.1, ?_, ?_⟩
      · rw [ih.2.1]; simp [accepts, ht]
      · rw [ih.2.2.2.1]; simp [accepts, ht]
      · rw [ih.2.2.2.2]; simp [failsOn, ht]; omega
    cases passed with
    | false =>
      have ih := batch_spec limit rest s hs hm
      simp only [Scan.batch, ht]
      refine ⟨ih.1, ?_, ih.2.2.1, ?_, ?_⟩
      · rw [ih.2.1]; simp [accepts, ht]
      · rw [ih.2.2.2.1]; simp [accepts, ht]
      · rw [ih.2.2.2.2]; simp [failsOn, ht]
    | true =>
      by_cases hlt : s.stats.matched < limit
      · -- the row is written, and the limit has room for one less
        rcases hadd : s.sink.add r with ⟨sink', res⟩
        have hres : res = .ok () := by rw [← hs.add_ok r, hadd]
        subst hres
        have hsink' : sink'.NeverFails := by
          have h := hs.add r
          rwa [hadd] at h
        -- what the sink's notes say is left open: the goal fills it in
        have ih := fun t => batch_spec limit rest { s with
          sink := sink'
          stats := { s.stats with matched := s.stats.matched + 1 }
          transcript := t } hsink' hlt
        dsimp only at ih
        simp only [Scan.batch, ht, if_pos hlt, hadd]
        refine ⟨(ih _).1, ?_, (ih _).2.2.1, ?_, ?_⟩
        · rw [(ih _).2.1]
          have hroom : limit - s.stats.matched = (limit - (s.stats.matched + 1)) + 1 := by omega
          simp only [List.map_cons, List.filter_cons, accepts, ht, if_true, hroom,
            List.take_succ_cons, Output.addAll_cons, hadd]
        · rw [(ih _).2.2.2.1]; simp [accepts, ht]; omega
        · rw [(ih _).2.2.2.2]; simp [failsOn, ht]
      · -- the limit is reached: the row passes but is not written
        have ih := batch_spec limit rest s hs hm
        have heq : s.stats.matched = limit := by omega
        simp only [Scan.batch, ht, if_neg hlt]
        refine ⟨ih.1, ?_, ih.2.2.1, ?_, ?_⟩
        · rw [ih.2.1, heq]; simp
        · rw [ih.2.2.2.1, heq]; simp [accepts, ht]
        · rw [ih.2.2.2.2]; simp [failsOn, ht]

/-! ## Rounds of the loop -/

/-- Reading rows that were all read gives them back. -/
theorem readBatch_map_ok : ∀ rows : List RowRecord, readBatch (rows.map .ok) = .ok rows
  | [] => rfl
  | r :: rows => by rw [List.map_cons, readBatch, readBatch_map_ok rows]; rfl

/-- A batch that holds a row which cannot be read fails with the first such row. -/
theorem readBatch_error (e : CursorError) (rest : List (Except CursorError RowRecord)) :
    ∀ rows : List RowRecord, readBatch (rows.map .ok ++ .error e :: rest) = .error e
  | [] => rfl
  | r :: rows => by rw [List.map_cons, List.cons_append, readBatch, readBatch_error e rest rows]; rfl

/-- The first `limit` elements of a list are those of any list it begins, once it has `limit`
elements. -/
theorem take_of_prefix {α : Type} {l l' : List α} {n : Nat} (h : l <+: l') (hn : n ≤ l.length) :
    l.take n = l'.take n := by
  obtain ⟨t, rfl⟩ := h
  rw [List.take_append, Nat.sub_eq_zero_of_le hn, List.take_zero, List.append_nil]

variable {limit : Nat} {sink₀ : Output} {rows : List RowRecord}

variable (f limit sink₀ rows) in
/-- The loop has read the first `p` rows: the sink holds those of them that pass, up to the
limit, in order, and the counts are theirs. -/
structure Scanned (p : Nat) (s : Scan) : Prop where
  sink : s.sink = (sink₀.addAll (((rows.take p).filter (accepts f)).take limit)).1
  scanned : s.stats.scanned = p
  matched : s.stats.matched = min limit ((rows.take p).countP (accepts f))
  failed : s.stats.failed = (rows.take p).countP (failsOn f)

/-- The rows that pass among the first `p`, when fewer than the limit, are all in the sink. -/
theorem Scanned.sink_of_lt {p : Nat} {s : Scan} (h : Scanned f limit sink₀ rows p s)
    (hlt : (rows.take p).countP (accepts f) < limit) :
    s.sink = (sink₀.addAll ((rows.take p).filter (accepts f))).1 := by
  rw [h.sink, List.take_of_length_le (by rw [← List.countP_eq_length_filter]; omega)]

/-- One round of the loop, over a batch of rows that were all read, while the limit has not been
reached: the loop goes on after the batch, having read it. -/
theorem batches_round {size : Nat} {p : Nat} {s : Scan} {items : List (Except CursorError RowRecord)}
    (total : Option Nat) (fuel : Nat) (hsink : sink₀.NeverFails)
    (h : Scanned f limit sink₀ rows p s) (hp : p < rows.length)
    (hgo : (rows.take p).countP (accepts f) < limit)
    (hchunk : items.take size = ((rows.drop p).take size).map .ok) (hsize : 0 < size) :
    ∃ s', Scan.batches f size limit total s items (fuel + 1) =
        Scan.batches f size limit total s' (items.drop size) fuel ∧
      Scanned f limit sink₀ rows (min rows.length (p + size)) s' := by
  set batch := (rows.drop p).take size with hbatch
  have hlen : batch.length = min size (rows.length - p) := by simp [hbatch]
  have hmatched : s.stats.matched = (rows.take p).countP (accepts f) := by rw [h.matched]; omega
  have hnot : ¬ s.stats.matched ≥ limit := by omega
  have hne : (batch.map (Except.ok (ε := CursorError))).isEmpty = false := by
    rw [List.isEmpty_eq_false_iff, ← List.length_pos_iff, List.length_map, hlen]
    omega
  -- the batch is tested with the counts and the sink of the rows before it
  have hsink₁ : s.sink.NeverFails := by rw [h.sink]; exact hsink.addAll _
  have hpairs : ((List.range batch.length).zip batch).map Prod.snd = batch :=
    List.map_snd_zip (by simp)
  obtain ⟨hres, hsink₂, hscanned₂, hmatched₂, hfailed₂⟩ :=
    batch_spec limit ((List.range batch.length).zip batch)
      { s with transcript := s.transcript.logAll (loadedLine total size s.stats.scanned) }
      hsink₁ (by show s.stats.matched ≤ limit; omega)
  rw [hpairs] at hsink₂ hmatched₂ hfailed₂
  rcases hrun : Scan.batch f limit
    { s with transcript := s.transcript.logAll (loadedLine total size s.stats.scanned) }
    ((List.range batch.length).zip batch) with ⟨s₂, res⟩
  rw [hrun] at hres hsink₂ hscanned₂ hmatched₂ hfailed₂
  dsimp only at hres hsink₂ hscanned₂ hmatched₂ hfailed₂
  subst hres
  refine ⟨{ s₂ with
    stats := { s₂.stats with scanned := s₂.stats.scanned + batch.length }
    progress := s₂.progress.inc batch.length
    transcript := s₂.transcript.write (drawnSince s₂.progress (s₂.progress.inc batch.length)) }, ?_, ?_⟩
  · rw [Scan.batches, if_neg hnot]
    simp only [hchunk, hne, Bool.false_eq_true, if_false, readBatch_map_ok, hrun]
  -- the rows read are now the first `p` and the batch
  have htake : rows.take (min rows.length (p + size)) = rows.take p ++ batch := by
    rw [hbatch, ← List.take_add]
    rcases Nat.le_total (p + size) rows.length with hle | hle
    · rw [Nat.min_eq_right hle]
    · rw [Nat.min_eq_left hle, List.take_of_length_le le_rfl, List.take_of_length_le hle]
  refine ⟨?_, ?_, ?_, ?_⟩
  · show s₂.sink = _
    rw [hsink₂, h.sink_of_lt hgo, ← Output.addAll_append, htake,
      List.filter_append, List.take_append,
      List.take_of_length_le (l := (rows.take p).filter (accepts f)) (by
        rw [← List.countP_eq_length_filter]; omega),
      ← List.countP_eq_length_filter, ← hmatched]
  · show s₂.stats.scanned + batch.length = _
    rw [hscanned₂, h.scanned, hlen]
    omega
  · show s₂.stats.matched = _
    rw [hmatched₂, htake, List.countP_append, hmatched]
  · show s₂.stats.failed = _
    rw [hfailed₂, htake, List.countP_append, h.failed]

/-- The loop stops where it stands once the limit is reached or no rows are left. -/
theorem batches_stop {size : Nat} {p : Nat} {s : Scan} {items : List (Except CursorError RowRecord)}
    (total : Option Nat) (fuel : Nat) (h : Scanned f limit sink₀ rows p s)
    (hstop : limit ≤ (rows.take p).countP (accepts f) ∨ items.take size = []) :
    ∃ s', Scan.batches f size limit total s items (fuel + 1) = (s', .ok ()) ∧
      Scanned f limit sink₀ rows p s' := by
  by_cases hlim : s.stats.matched ≥ limit
  · exact ⟨s, by rw [Scan.batches, if_pos hlim], h⟩
  · have hempty : items.take size = [] := by
      rcases hstop with hstop | hstop
      · rw [h.matched] at hlim; omega
      · exact hstop
    refine ⟨{ s with transcript := s.transcript.logAll (loadedLine total size s.stats.scanned) }, ?_,
      ⟨h.sink, h.scanned, h.matched, h.failed⟩⟩
    rw [Scan.batches, if_neg hlim]
    simp [hempty]

/-- The first `min n m` rows are the first `m`. -/
theorem take_min_length {α : Type} (l : List α) (m : Nat) : l.take (min l.length m) = l.take m := by
  rcases Nat.le_total l.length m with hle | hle
  · rw [Nat.min_eq_left hle, List.take_of_length_le le_rfl, List.take_of_length_le hle]
  · rw [Nat.min_eq_right hle]

/-- The rounds before the one where the loop stops. In each, the batch is a whole batch of rows
that were read (or the last rows, when nothing follows them), and the limit is not yet reached. -/
theorem batches_rounds {size : Nat} {total : Option Nat} {s₀ : Scan}
    (tail : List (Except CursorError RowRecord)) (hsink : sink₀.NeverFails) (hsize : 0 < size)
    (h₀ : Scanned f limit sink₀ rows 0 s₀) :
    ∀ j, (∀ i < j, size * i < rows.length ∧ (rows.take (size * i)).countP (accepts f) < limit ∧
        (tail = [] ∨ size * (i + 1) ≤ rows.length)) →
      ∀ fuel, ∃ s, Scan.batches f size limit total s₀ (rows.map .ok ++ tail) (fuel + j) =
          Scan.batches f size limit total s ((rows.map Except.ok ++ tail).drop (size * j)) fuel ∧
        Scanned f limit sink₀ rows (min rows.length (size * j)) s
  | 0, _, fuel => ⟨s₀, rfl, by simpa using h₀⟩
  | j + 1, hgo, fuel => by
    obtain ⟨s, hrun, hs⟩ :=
      batches_rounds tail hsink hsize h₀ j (fun i hi => hgo i (by omega)) (fuel + 1)
    obtain ⟨hlt, hcount, htail⟩ := hgo j (by omega)
    rw [Nat.min_eq_right (Nat.le_of_lt hlt)] at hs
    -- the batch at the end of round `j` is a whole batch of rows that were read
    have hchunk : ((rows.map Except.ok ++ tail).drop (size * j)).take size =
        ((rows.drop (size * j)).take size).map Except.ok := by
      rw [List.drop_append_of_le_length (by rw [List.length_map]; omega), ← List.map_drop,
        List.take_append, List.map_take]
      rcases htail with rfl | hle
      · rw [List.take_nil, List.append_nil]
      · rw [List.length_map, List.length_drop, Nat.mul_succ] at *
        rw [Nat.sub_eq_zero_of_le (by omega), List.take_zero, List.append_nil]
    obtain ⟨s', hround, hs'⟩ :=
      batches_round total fuel hsink hs hlt hcount hchunk hsize
    refine ⟨s', ?_, ?_⟩
    · rw [show fuel + (j + 1) = fuel + 1 + j by omega, hrun, hround, List.drop_drop, Nat.mul_succ]
    · rwa [Nat.mul_succ]

/-- The loop over rows that were all read ends well, at the first batch end by which the limit
was reached or the rows ran out. -/
theorem batches_rows {size : Nat} {s₀ : Scan} (total : Option Nat) (hsink : sink₀.NeverFails)
    (hsize : 0 < size) (h₀ : Scanned f limit sink₀ rows 0 s₀) :
    ∃ j, (limit ≤ (rows.take (size * j)).countP (accepts f) ∨ rows.length ≤ size * j) ∧
      (∀ i < j, (rows.take (size * i)).countP (accepts f) < limit ∧ size * i < rows.length) ∧
      (Scan.batches f size limit total s₀ (rows.map .ok) (rows.length + 1)).2 = .ok () ∧
      Scanned f limit sink₀ rows (min rows.length (size * j))
        (Scan.batches f size limit total s₀ (rows.map .ok) (rows.length + 1)).1 := by
  have hends : ∃ j, limit ≤ (rows.take (size * j)).countP (accepts f) ∨ rows.length ≤ size * j :=
    ⟨rows.length, .inr (Nat.le_mul_of_pos_left _ hsize)⟩
  -- the loop stops at the first batch end where it may
  refine ⟨Nat.find hends, Nat.find_spec hends, fun i hi => ?_, ?_⟩
  · have hnot := Nat.find_min hends hi
    omega
  have hle : Nat.find hends ≤ rows.length := Nat.find_min' hends (.inr (Nat.le_mul_of_pos_left _ hsize))
  obtain ⟨s, hrun, hs⟩ := batches_rounds [] hsink hsize h₀ (Nat.find hends)
    (fun i hi => by
      have hnot := Nat.find_min hends hi
      exact ⟨by omega, by omega, .inl rfl⟩) (rows.length - Nat.find hends + 1)
  rw [List.append_nil] at hrun
  rw [show rows.length + 1 = rows.length - Nat.find hends + 1 + Nat.find hends by omega, hrun]
  have hstop : limit ≤ (rows.take (min rows.length (size * Nat.find hends))).countP (accepts f) ∨
      ((rows.map (Except.ok (ε := CursorError))).drop (size * Nat.find hends)).take size = [] := by
    rcases Nat.find_spec hends with hlim | hend
    · exact .inl (by rwa [take_min_length])
    · exact .inr (by rw [List.drop_eq_nil_of_le (by rw [List.length_map]; exact hend), List.take_nil])
  obtain ⟨s', hstop', hs'⟩ := batches_stop total (rows.length - Nat.find hends) hs hstop
  rw [hstop']
  exact ⟨rfl, hs'⟩

/-- The loop over rows followed by one that cannot be read, when the whole batches before that
row leave the limit unreached, fails on the batch that holds it, naming the batch's first row. -/
theorem batches_unreadable {size : Nat} {s₀ : Scan} (total : Option Nat) (hsink : sink₀.NeverFails)
    (hsize : 0 < size) (h₀ : Scanned f limit sink₀ rows 0 s₀) (e : CursorError)
    (post : List (Except CursorError RowRecord))
    (hgo : (rows.take (size * (rows.length / size))).countP (accepts f) < limit)
    {fuel : Nat} (hfuel : rows.length / size < fuel) :
    ∃ s, Scan.batches f size limit total s₀ (rows.map .ok ++ .error e :: post) fuel =
        (s, .error ((Failure.ofCursor e).context
          ("Input: Failed reading row " ++ Exact.intText (((size * (rows.length / size) : Nat) : Int) + 1)))) ∧
      Scanned f limit sink₀ rows (size * (rows.length / size)) s := by
  have hwhole : size * (rows.length / size) ≤ rows.length := Nat.mul_div_le ..
  have hpart : rows.length - size * (rows.length / size) < size := by
    have := Nat.div_add_mod rows.length size
    have := Nat.mod_lt rows.length hsize
    omega
  -- the whole batches before the row that cannot be read
  obtain ⟨s, hrun, hs⟩ := batches_rounds (.error e :: post) hsink hsize h₀ (rows.length / size)
    (fun i hi => by
      have hlt : size * i < size * (rows.length / size) := Nat.mul_lt_mul_of_pos_left hi hsize
      have hmono := (List.take_sublist_take_left (l := rows) (Nat.le_of_lt hlt)).countP_le (p := accepts f)
      refine ⟨by omega, by omega, .inr ?_⟩
      exact Nat.le_trans (Nat.mul_le_mul_left size hi) hwhole)
    (fuel - rows.length / size - 1 + 1)
  rw [Nat.min_eq_right hwhole] at hs
  rw [show fuel = fuel - rows.length / size - 1 + 1 + rows.length / size by omega, hrun]
  -- the next batch holds the rest of the rows and then the row that cannot be read
  have hchunk : ((rows.map Except.ok ++ Except.error e :: post).drop (size * (rows.length / size))).take size =
      (rows.drop (size * (rows.length / size))).map Except.ok ++
        Except.error e :: post.take (size - (rows.length - size * (rows.length / size)) - 1) := by
    rw [List.drop_append_of_le_length (by rw [List.length_map]; exact hwhole), ← List.map_drop,
      List.take_append, List.take_of_length_le (by rw [List.length_map, List.length_drop]; omega),
      List.length_map, List.length_drop,
      show size - (rows.length - size * (rows.length / size)) =
        size - (rows.length - size * (rows.length / size)) - 1 + 1 by omega, List.take_succ_cons,
      Nat.add_sub_cancel]
  have hnot : ¬ s.stats.matched ≥ limit := by rw [hs.matched]; omega
  refine ⟨{ s with transcript := s.transcript.logAll (loadedLine total size s.stats.scanned) }, ?_,
    ⟨hs.sink, hs.scanned, hs.matched, hs.failed⟩⟩
  rw [Scan.batches, if_neg hnot]
  have hne : (List.map Except.ok (rows.drop (size * (rows.length / size))) ++
      Except.error e :: post.take (size - (rows.length - size * (rows.length / size)) - 1)).isEmpty = false := by
    simp
  simp only [hchunk, hne, readBatch_error, Bool.false_eq_true, if_false, hs.scanned]

/-! ## Where the loop stops -/

/-- When fewer than `n` rows pass, no prefix short of the whole list holds `n` of them. -/
theorem prefixHolding_of_countP_lt :
    ∀ {n : Nat} {rows : List RowRecord}, rows.countP (accepts f) < n →
      prefixHolding f n rows = rows.length
  | 0, _, h => absurd h (Nat.not_lt_zero _)
  | n + 1, [], _ => rfl
  | n + 1, r :: rs, h => by
    rw [List.countP_cons] at h
    rw [prefixHolding, List.length_cons]
    by_cases hr : accepts f r
    · rw [if_pos hr] at h ⊢
      rw [prefixHolding_of_countP_lt (by omega)]
    · rw [if_neg hr] at h ⊢
      rw [prefixHolding_of_countP_lt (by omega)]

/-- A prefix holding `n` rows that pass is at least `prefixHolding` long. -/
theorem prefixHolding_le_of_le_countP {n q : Nat}
    (h : n ≤ (rows.take q).countP (accepts f)) : prefixHolding f n rows ≤ q :=
  (le_countP_take_iff (Nat.le_trans h ((List.take_sublist q rows).countP_le))).1 h

/-- A prefix of the rows, short of the whole list, holding fewer than `n` rows that pass is
shorter than `prefixHolding`. -/
theorem lt_prefixHolding_of_countP_lt {n q : Nat} (h : (rows.take q).countP (accepts f) < n)
    (hq : q < rows.length) : q < prefixHolding f n rows := by
  by_cases hn : n ≤ rows.countP (accepts f)
  · exact Nat.lt_of_not_le fun hk => Nat.not_le_of_lt h ((le_countP_take_iff hn).2 hk)
  · rwa [prefixHolding_of_countP_lt (by omega)]

/-- `size * ((k + size - 1) / size)`, the least multiple of `size` from `k` on, lies between `k`
and `k + size - 1`. -/
theorem le_mul_ceil_and_le {k size : Nat} (hsize : 0 < size) :
    k ≤ size * ((k + size - 1) / size) ∧ size * ((k + size - 1) / size) ≤ k + size - 1 := by
  have hdiv := Nat.div_add_mod (k + size - 1) size
  have hmod := Nat.mod_lt (k + size - 1) hsize
  omega

/-- The loop stops at the end of the first batch that reaches position `k`, or at the end of
the rows: the first batch end `size * j` with `k ≤ size * j`, short of the rows, is the least
multiple of `size` from `k` on. -/
theorem batchEnd_eq_ceil {n k size j : Nat} (hsize : 0 < size)
    (hbefore : ∀ i < j, size * i < k) (hstop : k ≤ size * j ∨ n ≤ size * j) :
    min n (size * j) = min n (size * ((k + size - 1) / size)) := by
  obtain ⟨hge, hle⟩ := le_mul_ceil_and_le (k := k) hsize
  generalize (k + size - 1) / size = c at hge hle ⊢
  have hjc : j ≤ c := Nat.le_of_not_lt fun hcj => Nat.not_le_of_lt (hbefore c hcj) hge
  rcases hstop with hkj | hnj
  · have hcj : c ≤ j := Nat.le_of_not_lt fun hjc' => by
      have := Nat.mul_le_mul_left size (Nat.succ_le_of_lt hjc')
      rw [Nat.mul_succ] at this
      omega
    rw [Nat.le_antisymm hjc hcj]
  · have := Nat.mul_le_mul_left size hjc
    omega

/-- Once the loop has read past the row that reaches the limit, or has read every row, the sink
holds the first rows that pass, up to the limit, and the count of rows written is theirs. -/
theorem Scanned.finished {p : Nat} {s : Scan} (h : Scanned f limit sink₀ rows p s)
    (hend : limit ≤ (rows.take p).countP (accepts f) ∨ rows.length ≤ p) :
    s.sink = (sink₀.addAll ((rows.filter (accepts f)).take limit)).1 ∧
      s.stats.matched = min limit (rows.countP (accepts f)) := by
  rcases hend with hlim | hall
  · have hle : (rows.take p).countP (accepts f) ≤ rows.countP (accepts f) :=
      (List.take_sublist p rows).countP_le
    refine ⟨?_, by rw [h.matched]; omega⟩
    rw [h.sink, take_of_prefix ((List.take_prefix p rows).filter (accepts f))
      (by rw [← List.countP_eq_length_filter]; exact hlim)]
  · exact ⟨by rw [h.sink, List.take_of_length_le hall], by rw [h.matched, List.take_of_length_le hall]⟩

/-- The loop over rows that were all read writes the first rows that pass, up to the limit, in
order, whatever the batch size. It scans up to the end of the batch that holds the row reaching
the limit, or every row when the limit is not reached, and counts the failures among the rows it
scanned. -/
theorem batches_sequential {size : Nat} {s₀ : Scan} (total : Option Nat) (hsink : sink₀.NeverFails)
    (hsize : 0 < size) (h₀ : Scanned f limit sink₀ rows 0 s₀) :
    let run := Scan.batches f size limit total s₀ (rows.map .ok) (rows.length + 1)
    run.2 = .ok () ∧ run.1.sink = (sink₀.addAll ((rows.filter (accepts f)).take limit)).1 ∧
      run.1.stats.matched = min limit (rows.countP (accepts f)) ∧
      run.1.stats.scanned =
        min rows.length (size * ((prefixHolding f limit rows + size - 1) / size)) ∧
      run.1.stats.failed = (rows.take run.1.stats.scanned).countP (failsOn f) := by
  obtain ⟨j, hstop, hbefore, hres, hs⟩ := batches_rows total hsink hsize h₀
  intro run
  have hend : limit ≤ (rows.take (min rows.length (size * j))).countP (accepts f) ∨
      rows.length ≤ min rows.length (size * j) := by
    rw [take_min_length]
    rcases hstop with hlim | hall
    · exact .inl hlim
    · exact .inr (by omega)
  obtain ⟨hsink', hmatched⟩ := hs.finished hend
  -- the batch end where the loop stops, in closed form
  have hends : min rows.length (size * j) =
      min rows.length (size * ((prefixHolding f limit rows + size - 1) / size)) :=
    batchEnd_eq_ceil hsize
      (fun i hi => lt_prefixHolding_of_countP_lt (hbefore i hi).1 (hbefore i hi).2)
      (hstop.imp_left prefixHolding_le_of_le_countP)
  refine ⟨hres, hsink', hmatched, ?_, ?_⟩
  · rw [hs.scanned, hends]
  · rw [hs.failed, hs.scanned]

/-- Nothing scanned yet. -/
theorem scanned_zero {s₀ : Scan} (hsink : s₀.sink = sink₀) (hstats : s₀.stats = {}) :
    Scanned f limit sink₀ rows 0 s₀ :=
  ⟨by simp [hsink], by simp [hstats], by simp [hstats], by simp [hstats]⟩

/-! ## The run -/

/-- `filterRows` is the loop, started with nothing scanned on the given sink; what it does after
the loop touches only the progress line. -/
theorem filterRows_eq_batches (plan : RunPlan) (verbose : Bool) (sink : Output) (input : Opened)
    (t : Transcript) :
    ∃ s₀ : Scan, s₀.sink = sink ∧ s₀.stats = {} ∧
      let run := Scan.batches f plan.batchSize (plan.limit.getD (Nat.pow 2 64 - 1)) input.rowCount s₀
        input.items (input.items.length + 1)
      (filterRows f plan verbose sink input t).2 = run.2 ∧
      (filterRows f plan verbose sink input t).1.sink = run.1.sink ∧
      (filterRows f plan verbose sink input t).1.stats = run.1.stats := by
  let progress := ProgressCounter.new "Scanning rows" 100000 verbose
  refine ⟨{ sink, progress, transcript := t.write progress.written }, rfl, rfl, ?_⟩
  unfold filterRows
  dsimp only
  split <;> rename_i heq <;> rw [heq] <;> exact ⟨rfl, rfl, rfl⟩

/-- A run over rows that were all read ends well. It writes to the sink the first rows that
pass, up to the limit (none meaning the largest 64-bit count), in order, whatever the batch size.
It scans up to the end of the batch holding the row that reaches the limit, and every row when
fewer pass; the failures it counts are those among the rows it scanned. -/
theorem filterRows_rows (plan : RunPlan) (verbose : Bool) (sink : Output) (input : Opened)
    (t : Transcript) (hsize : 0 < plan.batchSize) (hsink : sink.NeverFails)
    (rows : List RowRecord) (hitems : input.items = rows.map .ok) :
    let limit := plan.limit.getD (Nat.pow 2 64 - 1)
    let size := plan.batchSize
    let run := filterRows f plan verbose sink input t
    run.2 = .ok () ∧ run.1.sink = (sink.addAll ((rows.filter (accepts f)).take limit)).1 ∧
      run.1.stats.matched = min limit (rows.countP (accepts f)) ∧
      run.1.stats.scanned = min rows.length (size * ((prefixHolding f limit rows + size - 1) / size)) ∧
      run.1.stats.failed = (rows.take run.1.stats.scanned).countP (failsOn f) ∧
      (rows.countP (accepts f) < limit →
        run.1.stats.scanned = rows.length ∧ run.1.stats.failed = rows.countP (failsOn f)) := by
  dsimp only
  obtain ⟨s₀, hsink₀, hstats₀, hres, hsink', hstats'⟩ := filterRows_eq_batches (f := f) plan verbose sink input t
  rw [hitems, List.length_map] at hres hsink' hstats'
  have h₀ : Scanned f (plan.limit.getD (Nat.pow 2 64 - 1)) sink rows 0 s₀ := scanned_zero hsink₀ hstats₀
  obtain ⟨hres₁, hsink₁, hmatched, hscanned, hfailed⟩ := batches_sequential input.rowCount hsink hsize h₀
  rw [hres, hsink', hstats', hmatched, hscanned, hfailed, hscanned]
  refine ⟨hres₁, hsink₁, rfl, rfl, rfl, fun hlt => ?_⟩
  -- with fewer rows passing than the limit, the loop reads to the end of the rows
  have hall : min rows.length (plan.batchSize * ((prefixHolding f (plan.limit.getD (Nat.pow 2 64 - 1)) rows +
      plan.batchSize - 1) / plan.batchSize)) = rows.length := by
    rw [prefixHolding_of_countP_lt hlt]
    exact Nat.min_eq_left (le_mul_ceil_and_le hsize).1
  rw [hall, List.take_length]
  exact ⟨rfl, rfl⟩

/-- A run over rows followed by one that cannot be read, when the whole batches before that row
leave the limit unreached, fails naming the first row of the batch that holds it, and has
written to the sink the rows that pass in those whole batches. -/
theorem filterRows_unreadable (plan : RunPlan) (verbose : Bool) (sink : Output) (input : Opened)
    (t : Transcript) (hsize : 0 < plan.batchSize) (hsink : sink.NeverFails)
    (rows : List RowRecord) (e : CursorError) (post : List (Except CursorError RowRecord))
    (hitems : input.items = rows.map .ok ++ .error e :: post)
    (hgo : (rows.take (plan.batchSize * (rows.length / plan.batchSize))).countP (accepts f) <
      plan.limit.getD (Nat.pow 2 64 - 1)) :
    let read := plan.batchSize * (rows.length / plan.batchSize)
    let run := filterRows f plan verbose sink input t
    run.2 = .error ((Failure.ofCursor e).context
        ("Input: Failed reading row " ++ Exact.intText ((read : Int) + 1))) ∧
      run.1.sink = (sink.addAll ((rows.take read).filter (accepts f))).1 := by
  dsimp only
  obtain ⟨s₀, hsink₀, hstats₀, hres, hsink', -⟩ := filterRows_eq_batches (f := f) plan verbose sink input t
  have h₀ : Scanned f (plan.limit.getD (Nat.pow 2 64 - 1)) sink rows 0 s₀ := scanned_zero hsink₀ hstats₀
  have hfuel : rows.length / plan.batchSize < (rows.map Except.ok ++ Except.error e :: post).length + 1 := by
    rw [List.length_append, List.length_map]
    exact Nat.lt_succ_of_le (Nat.le_trans (Nat.div_le_self _ _) (Nat.le_add_right _ _))
  obtain ⟨s, hrun, hs⟩ := batches_unreadable input.rowCount hsink hsize h₀ e post hgo hfuel
  rw [hitems] at hres hsink'
  rw [hres, hsink', hrun]
  exact ⟨rfl, hs.sink_of_lt hgo⟩

/-- Filtering in batches is filtering in order. Over rows that were all read, with a batch size
of at least one and a sink that never refuses a record, the run writes the first rows that pass,
up to the limit, in order, and scans up to the end of the batch in which the limit is reached.
When a row cannot be read and the whole batches before it leave the limit unreached, the run
fails, having written the rows that pass in those batches. -/
theorem filterRows_batched (plan : RunPlan) (verbose : Bool) (sink : Output) (input : Opened)
    (t : Transcript) (hsize : 0 < plan.batchSize) (hsink : sink.NeverFails) :
    let limit := plan.limit.getD (Nat.pow 2 64 - 1)
    let size := plan.batchSize
    let run := filterRows f plan verbose sink input t
    (∀ rows : List RowRecord, input.items = rows.map .ok →
      run.2 = .ok () ∧ run.1.sink = (sink.addAll ((rows.filter (accepts f)).take limit)).1 ∧
        run.1.stats.matched = min limit (rows.countP (accepts f)) ∧
        (rows.countP (accepts f) < limit →
          run.1.stats.scanned = rows.length ∧ run.1.stats.failed = rows.countP (failsOn f)) ∧
        (limit ≤ rows.countP (accepts f) →
          run.1.stats.scanned =
            min rows.length (size * ((prefixHolding f limit rows + size - 1) / size)) ∧
          run.1.stats.failed = (rows.take run.1.stats.scanned).countP (failsOn f))) ∧
    (∀ (rows : List RowRecord) (e : CursorError) (post : List (Except CursorError RowRecord)),
      input.items = rows.map .ok ++ .error e :: post →
      (rows.take (size * (rows.length / size))).countP (accepts f) < limit →
      run.2 = .error ((Failure.ofCursor e).context
          ("Input: Failed reading row " ++ Exact.intText (((size * (rows.length / size) : Nat) : Int) + 1))) ∧
        run.1.sink = (sink.addAll ((rows.take (size * (rows.length / size))).filter (accepts f))).1) := by
  refine ⟨fun rows hitems => ?_, fun rows e post hitems hgo =>
    filterRows_unreadable plan verbose sink input t hsize hsink rows e post hitems hgo⟩
  obtain ⟨hres, hsink', hmatched, hscanned, hfailed, hfew⟩ :=
    filterRows_rows plan verbose sink input t hsize hsink rows hitems
  exact ⟨hres, hsink', hmatched, hfew, fun _ => ⟨hscanned, hfailed⟩⟩

/-- The filter that passes every row, run in batches of two with a limit of one over three rows
to the standard output, scans the first batch only. -/
theorem filterRows_batched_first_batch :
    0 < (⟨"true", .compatible, 2, some 1, .jsonl⟩ : RunPlan).batchSize ∧
      (Output.lines LinesSink.toStdout).NeverFails ∧
      (filterRows ⟨"true", .literal (.bool true)⟩ ⟨"true", .compatible, 2, some 1, .jsonl⟩ false
        (.lines LinesSink.toStdout) ⟨[.ok ⟨[], [], 0⟩, .ok ⟨[], [], 0⟩, .ok ⟨[], [], 0⟩], none, none⟩
        ⟨⟨[]⟩, #[]⟩).1.stats.scanned = 2 := by
  refine ⟨by decide, Output.neverFails_lines _, ?_⟩
  have hrows := (filterRows_batched (f := ⟨"true", .literal (.bool true)⟩) ⟨"true", .compatible, 2, some 1, .jsonl⟩
    false (.lines LinesSink.toStdout) ⟨[.ok ⟨[], [], 0⟩, .ok ⟨[], [], 0⟩, .ok ⟨[], [], 0⟩], none, none⟩
    ⟨⟨[]⟩, #[]⟩ (by decide) (Output.neverFails_lines _)).1 [⟨[], [], 0⟩, ⟨[], [], 0⟩, ⟨[], [], 0⟩] rfl
  rw [(hrows.2.2.2.2 (by decide)).1]
  decide

end Pipeline

end Strainer
