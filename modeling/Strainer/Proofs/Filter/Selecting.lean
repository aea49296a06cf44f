import Mathlib.Data.List.ReduceOption
import Strainer.Filter.Select

/-!
# Selection tests every item once, in order

A selection is pulled until it yields nothing, and each pull takes items until one gives an
output. Put together, the pulls take every item exactly once and in order: running the adapter
is running each item's step in turn (`List.mapM`) and keeping the outputs (`run_eq_mapM`).

For `keep`, the step is the item's test, so every item is tested exactly once, in order, and the
run yields the item for a pass, nothing for a fail and the error for a test that went wrong, and
goes on past errors to the end (`select_run_eq_mapM`). For `keepFallible`, an error of the inner
sequence gives its own output and no test is run for it. Without effects (`select`), the run is a
`filterMap` of the verdicts.
-/

namespace Strainer.Filter

namespace Selection

variable {ι ο : Type} {m : Type → Type} [Monad m]

theorem pull_cons (step : ι → m (Option ο)) (x : ι) (xs : List ι) :
    pull step (x :: xs) = step x >>= fun o => o.elim (pull step xs) fun y => pure (some y, xs) := by
  rw [pull]
  congr 1
  funext o
  cases o <;> rfl

variable [LawfulMonad m]

theorem drain_nil (step : ι → m (Option ο)) (fuel : Nat) : drain step fuel [] = pure [] := by
  cases fuel with
  | zero => rfl
  | succ n =>
    rw [drain, pull, pure_bind]

/-- A pull steps the first item; an item that gives nothing leaves the pull to the items after
it, and one that gives an output ends the pull, which the next pull resumes after it. -/
theorem drain_cons (step : ι → m (Option ο)) (fuel : Nat) (x : ι) (xs : List ι) :
    drain step (fuel + 1) (x :: xs) =
      step x >>= fun o => o.elim (drain step (fuel + 1) xs) fun y => (y :: ·) <$> drain step fuel xs := by
  rw [drain, pull_cons, bind_assoc]
  congr 1
  funext o
  cases o with
  | none => rw [Option.elim_none, Option.elim_none, drain]
  | some y =>
    rw [Option.elim_some, Option.elim_some, pure_bind, map_eq_pure_bind]

/-- With a pull to spare for every item, draining runs every item's step once, in order, and
keeps the outputs. -/
theorem drain_eq_mapM (step : ι → m (Option ο)) :
    ∀ (xs : List ι) (fuel : Nat), xs.length < fuel →
      drain step fuel xs = List.reduceOption <$> xs.mapM step
  | [], fuel, _ => by rw [drain_nil, List.mapM_nil, map_pure, List.reduceOption_nil]
  | x :: xs, fuel + 1, hfuel => by
    have hlen : xs.length < fuel := by simpa using hfuel
    rw [drain_cons, List.mapM_cons, map_bind]
    congr 1
    funext o
    rw [map_bind]
    cases o with
    | none =>
      -- the item gives nothing: the same pull goes on with the items after it
      simp only [Option.elim_none, map_pure, List.reduceOption_cons_of_none]
      rw [drain_eq_mapM step xs (fuel + 1) (by omega), map_eq_pure_bind]
    | some y =>
      -- the item's output is yielded, and the next pull starts after it
      simp only [Option.elim_some, map_pure, List.reduceOption_cons_of_some]
      rw [drain_eq_mapM step xs fuel hlen, ← comp_map, map_eq_pure_bind]
      rfl

/-- The adapter run to its end runs every item's step once, in order, and keeps the outputs. -/
theorem run_eq_mapM (step : ι → m (Option ο)) (xs : List ι) :
    run step xs = List.reduceOption <$> xs.mapM step :=
  drain_eq_mapM step xs (xs.length + 1) (Nat.lt_succ_self _)

end Selection

variable {α ε β : Type} {m : Type → Type} [Monad m] [LawfulMonad m]

/-- Selecting tests every item exactly once, in order, and keeps what the outcomes give: the item
for a pass, nothing for a fail and the error of a test that went wrong, going on past errors to
the end of the items. Over fallible items, an error of the inner sequence is given on in its
place as `up e`, with no test run for it, and the items are selected as before, with the errors
of their tests given on as `down e`. -/
theorem select_run_eq_mapM (test : α → m (Except EvalError Bool)) (up : ε → β)
    (down : EvalError → β) (xs : List α) (ys : List (Except ε α)) :
    Selection.run (Selection.keep test) xs =
        List.reduceOption <$> xs.mapM (fun x => verdict x <$> test x) ∧
      Selection.run (Selection.keepFallible up down test) ys =
        List.reduceOption <$> ys.mapM (Selection.keepFallible up down test) :=
  ⟨Selection.run_eq_mapM _ xs, Selection.run_eq_mapM _ ys⟩

/-- A test that records each item it is run on, fails on `0` and passes the even items. -/
def recordingTest (x : Nat) : StateM (List Nat) (Except EvalError Bool) := do
  modify (· ++ [x])
  pure (if x = 0 then .error (.unresolvedMember "n") else .ok (x % 2 == 0))

/-- The tests run are recorded in order: every item once, and no upstream error. -/
theorem select_run_records_tests :
    LawfulMonad (StateM (List Nat)) ∧
      (Selection.run (Selection.keep recordingTest) [3, 0, 2, 5]).run [] =
        ([.error (.unresolvedMember "n"), .ok 2], [3, 0, 2, 5]) ∧
      (Selection.run (Selection.keepFallible id (fun _ => "test failed") recordingTest)
          [.ok 3, .error "eof", .ok 0, .ok 2]).run [] =
        ([.error "eof", .error "test failed", .ok 2], [3, 0, 2]) := by
  obtain ⟨hkeep, hfallible⟩ := select_run_eq_mapM recordingTest (id : String → String)
    (fun _ => "test failed") [3, 0, 2, 5] [.ok 3, .error "eof", .ok 0, .ok 2]
  exact ⟨inferInstance, by rw [hkeep]; rfl, by rw [hfallible]; rfl⟩

/-- Without effects, selecting is a `filterMap` of the verdicts. -/
theorem select_eq_filterMap (test : α → Except EvalError Bool) (xs : List α) :
    select test xs = xs.filterMap fun x => verdict x (test x) := by
  unfold select
  rw [Selection.run_eq_mapM]
  show List.reduceOption (Id.run (xs.mapM (Selection.keep test))) = _
  rw [List.idRun_mapM, List.reduceOption, List.filterMap_map]
  rfl

end Strainer.Filter
