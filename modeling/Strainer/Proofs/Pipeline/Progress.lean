import Strainer.Pipeline.Progress

/-!
# What a progress counter draws

A progress counter takes increments one at a time. After increments `d₁, …, dₘ` its count is the
start plus their sum, and the lines it has drawn are those of the running totals
`Sⱼ = S₀ + d₁ + … + dⱼ` for which `Sⱼ₋₁ / I < Sⱼ / I`, in order, where `I` is the interval: a
total is drawn when the step to it crosses a multiple of the interval, once however many
multiples it crosses (`ProgressCounter.written_foldl_inc`). These totals increase strictly, and
there are at most `Sₘ / I - S₀ / I` of them. Counting is exact: a count is a natural number and
never wraps.

A step of the counter is `inc_eq`; a run of steps is a fold, and each statement about a run is an
induction over the increments from the step lemma.
-/

namespace Strainer.Pipeline

namespace ProgressCounter

/-- The running totals `S₁, …, Sₘ` of increments added one by one to `start`. -/
def totals : Nat → List Nat → List Nat
  | _, [] => []
  | s, d :: ds => (s + d) :: totals (s + d) ds

/-- The running totals reached by a step that crosses a multiple of `interval`: each `Sⱼ` with
`Sⱼ₋₁ / interval < Sⱼ / interval`, where `S₀ = start`. -/
def crossings (interval start : Nat) (ds : List Nat) : List Nat :=
  (((start :: totals start ds).zip (totals start ds)).filter
    fun p => p.1 / interval < p.2 / interval).map (·.2)

@[simp] theorem crossings_nil (interval start : Nat) : crossings interval start [] = [] := rfl

theorem crossings_cons (interval start d : Nat) (ds : List Nat) :
    crossings interval start (d :: ds) =
      (if start / interval < (start + d) / interval then [start + d] else []) ++
        crossings interval (start + d) ds := by
  unfold crossings
  rw [totals, List.zip_cons_cons, List.filter_cons]
  split <;> simp_all

/-! ## One increment -/

variable (c : ProgressCounter)

/-- One increment adds to the count, and draws the new count when it crosses a multiple of the
interval. -/
theorem inc_eq (d : Nat) :
    c.inc d =
      { c with
        count := c.count + d
        written := c.written ++
          (if c.count / c.interval < (c.count + d) / c.interval then c.line (c.count + d)
          else "") } := by
  unfold inc
  by_cases h : c.count / c.interval < (c.count + d) / c.interval
  · rw [if_pos h, if_pos h]
  · rw [if_neg h, if_neg h, String.append_empty]

@[simp] theorem inc_count (d : Nat) : (c.inc d).count = c.count + d := by
  rw [inc_eq]

@[simp] theorem inc_interval (d : Nat) : (c.inc d).interval = c.interval := by
  rw [inc_eq]

/-- An increment changes neither the label nor whether the counter draws, so the line it would
draw for a count stays the same. -/
@[simp] theorem line_inc (d : Nat) : (c.inc d).line = c.line := by
  rw [inc_eq]
  rfl

theorem inc_written (d : Nat) :
    (c.inc d).written =
      c.written ++ String.join ((if c.count / c.interval < (c.count + d) / c.interval then
        [c.count + d] else []).map c.line) := by
  rw [inc_eq]
  split <;> simp

/-! ## A run of increments -/

theorem count_foldl_inc (ds : List Nat) :
    (ds.foldl inc c).count = ds.foldl (· + ·) c.count := by
  induction ds generalizing c with
  | nil => rfl
  | cons d ds ih => rw [List.foldl_cons, List.foldl_cons, ih, inc_count]

/-- The text written by a run of increments: one line for each running total that a step
reaches across a multiple of the interval, in order. -/
theorem written_foldl_inc (ds : List Nat) :
    (ds.foldl inc c).written =
      c.written ++ String.join ((crossings c.interval c.count ds).map c.line) := by
  induction ds generalizing c with
  | nil => simp
  | cons d ds ih =>
    rw [List.foldl_cons, ih, inc_written, line_inc, inc_interval, inc_count, crossings_cons,
      List.map_append, String.join_append, String.append_assoc]

theorem le_foldl_add (start : Nat) (ds : List Nat) : start ≤ ds.foldl (· + ·) start := by
  induction ds generalizing start with
  | nil => exact Nat.le_refl start
  | cons d ds ih => exact Nat.le_trans (Nat.le_add_right start d) (ih (start + d))

/-- Every total a run draws lies in a later block of the interval than its start, and no further
than the sum of the increments. -/
theorem mem_crossings {interval start x : Nat} {ds : List Nat}
    (hx : x ∈ crossings interval start ds) :
    start / interval < x / interval ∧ x ≤ ds.foldl (· + ·) start := by
  induction ds generalizing start with
  | nil => simp at hx
  | cons d ds ih =>
    rw [crossings_cons] at hx
    rw [List.foldl_cons]
    rcases List.mem_append.1 hx with hhead | hrest
    · split at hhead
      · rw [List.mem_singleton.1 hhead]
        exact ⟨‹_›, le_foldl_add (start + d) ds⟩
      · simp at hhead
    · have hmono : start / interval ≤ (start + d) / interval := Nat.div_le_div_right (by omega)
      obtain ⟨hlt, hle⟩ := ih hrest
      exact ⟨by omega, hle⟩

/-- The drawn totals increase strictly: a step that adds nothing crosses no multiple. -/
theorem crossings_pairwise (interval start : Nat) (ds : List Nat) :
    (crossings interval start ds).Pairwise (· < ·) := by
  induction ds generalizing start with
  | nil => simp
  | cons d ds ih =>
    rw [crossings_cons, List.pairwise_append]
    refine ⟨by split <;> simp, ih (start + d), fun a ha b hb => ?_⟩
    have hb := (mem_crossings hb).1
    split at ha
    · rw [List.mem_singleton.1 ha]
      -- `b` lies in a later block than `start + d`, so it is larger
      refine Nat.lt_of_not_le fun hle => ?_
      have := Nat.div_le_div_right (c := interval) hle
      omega
    · simp at ha

theorem length_crossings_le (interval start : Nat) (ds : List Nat) :
    (crossings interval start ds).length ≤
      ds.foldl (· + ·) start / interval - start / interval := by
  induction ds generalizing start with
  | nil => simp
  | cons d ds ih =>
    rw [crossings_cons, List.length_append, List.foldl_cons]
    have hrest := ih (start + d)
    have hmono : start / interval ≤ (start + d) / interval := Nat.div_le_div_right (by omega)
    have hend : (start + d) / interval ≤ ds.foldl (· + ·) (start + d) / interval :=
      Nat.div_le_div_right (le_foldl_add (start + d) ds)
    split <;> simp <;> omega

/-! ## A counter from the start -/

/-- A counter started by `new` and given the increments `ds` has counted their sum. Besides its
first line, for zero, it has drawn exactly the running totals whose step crosses a multiple of
its interval (the interval asked for, or one), in order; they increase strictly, and there are
at most as many as the interval goes into the sum. -/
theorem new_foldl_inc_draws_crossings (label : String) (interval : Nat) (enabled : Bool)
    (ds : List Nat) :
    (ds.foldl inc (new label interval enabled)).count = ds.foldl (· + ·) 0 ∧
    (ds.foldl inc (new label interval enabled)).written =
      (new label interval enabled).written ++
        String.join ((crossings (max interval 1) 0 ds).map (new label interval enabled).line) ∧
    (crossings (max interval 1) 0 ds).Pairwise (· < ·) ∧
    (crossings (max interval 1) 0 ds).length ≤ ds.foldl (· + ·) 0 / max interval 1 := by
  have hlen := length_crossings_le (max interval 1) 0 ds
  rw [Nat.zero_div, Nat.sub_zero] at hlen
  exact ⟨count_foldl_inc _ ds, written_foldl_inc _ ds, crossings_pairwise _ 0 ds, hlen⟩

/-- Three steps: the first crosses no multiple of ten, the second crosses one, and the third,
from 11 to 31, crosses two but draws once. -/
example : ((((new "rows" 10 true).inc 4).inc 7).inc 20).written = "\rrows: 0\rrows: 11\rrows: 31" := by
  decide

end ProgressCounter

end Strainer.Pipeline
