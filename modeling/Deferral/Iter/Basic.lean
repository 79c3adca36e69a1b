import Deferral.Act

/-!
# Iterators that report every step

An iterator has a state in `τ` and moves in steps over its state and the world. A step yields an
element, skips (it did some work and has nothing to yield yet), or reports the end. Reporting the end
is not final: an iterator may be asked again. `Iter.next` steps until there is something to report;
it is the only loop, and it counts its steps, because a pipeline over an endless source may skip for
ever.

A step that panics leaves the state as it was at that moment, so the consumer may go on.
-/

namespace Deferral

/-- What one step of an iterator comes to. -/
inductive Step (α : Type) where
  | yield (element : α)
  | skip
  | finish
deriving DecidableEq, Repr

namespace Step

variable {α β : Type}

/-- Turn the element of a step into something else. -/
def map (f : α → β) : Step α → Step β
  | yield element => yield (f element)
  | skip => skip
  | finish => finish

end Step

/-- Bounds on the number of elements an iterator still has; no upper bound may be known. -/
structure Hint where
  lower : Nat
  upper : Option Nat
deriving DecidableEq, Repr

namespace Hint

/-- Exactly `count` elements. -/
def exactly (count : Nat) : Hint := ⟨count, some count⟩

/-- At most as many elements as the hint allows, and possibly none. -/
def upTo (hint : Hint) : Hint := ⟨0, hint.upper⟩

/-- The bounds after a cut to at most `count` elements. -/
def cut (hint : Hint) (count : Nat) : Hint :=
  ⟨min hint.lower count, some (match hint.upper with
    | some upper => min upper count
    | none => count)⟩

end Hint

/-- An iterator over a world `σ` with states in `τ` and elements in `α`. -/
structure Iter (σ τ α : Type) where
  step : Act (τ × σ) (Step α)
  hint : τ → Hint

namespace Iter

variable {σ τ α : Type}

/-- The next element, or `none` at an end, within the given number of steps. -/
def next (iter : Iter σ τ α) : Nat → Act (τ × σ) (Option α)
  | 0 => .giveUp
  | steps + 1 => do
    match ← iter.step with
    | .yield element => pure (some element)
    | .skip => iter.next steps
    | .finish => pure none

/-- All elements up to the first end, within the given number of steps. -/
def collect (iter : Iter σ τ α) : Nat → Act (τ × σ) (List α)
  | 0 => .giveUp
  | steps + 1 => do
    match ← iter.step with
    | .yield element => return element :: (← iter.collect steps)
    | .skip => iter.collect steps
    | .finish => pure []

/-- Turn the elements into something else as they come. -/
def map {β : Type} (iter : Iter σ τ α) (f : α → Act σ β) : Iter σ τ β where
  step := do
    match ← iter.step with
    | .yield element => return .yield (← (f element).beside)
    | .skip => pure .skip
    | .finish => pure .finish
  hint := iter.hint

/-- Keep the elements that pass the test. -/
def filter (iter : Iter σ τ α) (test : α → Act σ Bool) : Iter σ τ α where
  step := do
    match ← iter.step with
    | .yield element => return if ← (test element).beside then .yield element else .skip
    | .skip => pure .skip
    | .finish => pure .finish
  hint state := (iter.hint state).upTo

/-- Show each element to `look` as it passes. -/
def inspect (iter : Iter σ τ α) (look : α → Act σ Unit) : Iter σ τ α :=
  iter.map fun element => do
    look element
    return element

/-- Run a step of an iterator whose state is the first part of a larger one. -/
def stepWithin {ρ : Type} (iter : Iter σ τ α) : Act ((τ × ρ) × σ) (Step α) :=
  fun ((state, kept), world) =>
    let (result, state, world) := iter.step (state, world)
    (result, (state, kept), world)

/-- Number the elements from zero. -/
def enumerate (iter : Iter σ τ α) : Iter σ (τ × Nat) (α × Nat) where
  step := do
    match ← iter.stepWithin with
    | .yield element =>
      let position ← Act.read fun whole => whole.1.2
      Act.change fun whole => ((whole.1.1, position + 1), whole.2)
      return .yield (element, position)
    | .skip => pure .skip
    | .finish => pure .finish
  hint state := iter.hint state.1

/-- Ask for at most as many elements as the second part of the state says. Each time the iterator is
asked counts, also when it reports an end or panics. -/
def take (iter : Iter σ τ α) : Iter σ (τ × Nat) α where
  step := do
    match ← Act.read fun whole => whole.1.2 with
    | 0 => pure .finish
    | left + 1 =>
      Act.change fun whole => ((whole.1.1, left), whole.2)
      match ← iter.stepWithin with
      | .skip =>
        Act.change fun whole => ((whole.1.1, left + 1), whole.2)
        pure .skip
      | result => pure result
  hint state := (iter.hint state.1).cut state.2

end Iter

end Deferral
