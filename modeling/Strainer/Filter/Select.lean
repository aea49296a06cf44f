import Strainer.Filter.Eval

/-!
# Selecting with a filter

Keeping the items of a sequence that pass a test, in order: an item that passes is kept, one
that fails is dropped, and one whose test goes wrong leaves its error in its place; the
sequence goes on after it. Over a sequence of fallible items, an item that is already an error is
passed on untested.

Selection is an adapter over the inner sequence. Each pull takes items in turn, testing each,
until one gives an output, and yields that; a pull that finds the inner sequence at its end
yields nothing. The test may have effects (any monad), so the order and number of tests is part
of what the adapter does. `select` and `selectFallible` run the adapter to its end.
-/

namespace Strainer.Filter

variable {α ε : Type}

/-- What an item gives, by the outcome of its test: the item when it passes, nothing when it
fails, and the error when the test went wrong. -/
def verdict (x : α) : Except EvalError Bool → Option (Except EvalError α)
  | .ok true => some (.ok x)
  | .ok false => none
  | .error e => some (.error e)

namespace Selection

variable {ι ο : Type} {m : Type → Type} [Monad m]

/-- One pull of an adapter that turns each item of an inner sequence into at most one output: it
takes the items in order, running `step` on each, until one gives an output, and yields that;
`none` once the inner sequence runs out. Also returns the items not taken yet. -/
def pull (step : ι → m (Option ο)) : List ι → m (Option ο × List ι)
  | [] => pure (none, [])
  | x :: xs => do
    match ← step x with
    | some y => pure (some y, xs)
    | none => pull step xs

/-- Pulls until the adapter yields nothing, at most `fuel` times: the outputs, in order. -/
def drain (step : ι → m (Option ο)) : Nat → List ι → m (List ο)
  | 0, _ => pure []
  | fuel + 1, xs => do
    match ← pull step xs with
    | (none, _) => pure []
    | (some y, rest) => return y :: (← drain step fuel rest)

/-- The adapter run to its end: every pull yields an output and takes at least one item, so
one pull more than there are items always reaches the end. -/
def run (step : ι → m (Option ο)) (xs : List ι) : m (List ο) :=
  drain step (xs.length + 1) xs

/-- The step of selecting with `test`: test the item, and give what its outcome gives. -/
def keep (test : α → m (Except EvalError Bool)) (x : α) : m (Option (Except EvalError α)) :=
  verdict x <$> test x

/-- The step of selecting over fallible items: an error `e` of the inner sequence is given on
as `up e` without a test; an item is tested, and an error of its test is given on as `down e`. -/
def keepFallible {β : Type} (up : ε → β) (down : EvalError → β) (test : α → m (Except EvalError Bool)) :
    Except ε α → m (Option (Except β α))
  | .error e => pure (some (.error (up e)))
  | .ok x => Option.map (Except.mapError down) <$> keep test x

end Selection

/-- The items that pass `test`, with the errors of those whose test went wrong, in order. -/
def select (test : α → Except EvalError Bool) (xs : List α) : List (Except EvalError α) :=
  Id.run (Selection.run (Selection.keep (m := Id) test) xs)

/-- `select` over fallible items: an upstream error is passed on as `up e`, a test error as
`down e`. -/
def selectFallible {β : Type} (up : ε → β) (down : EvalError → β) (test : α → Except EvalError Bool)
    (xs : List (Except ε α)) : List (Except β α) :=
  Id.run (Selection.run (Selection.keepFallible (m := Id) up down test) xs)

end Strainer.Filter
