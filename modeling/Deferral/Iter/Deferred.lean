import Deferral.Iter.Flat
import Deferral.Capture

/-!
# Pipelines of deferred failures

* `Iter.handling` yields the values and hands each failure to a handler;
* `Iter.sift` keeps the values that pass a test, and every failure;
* `Iter.gather` collects the values and stops at the first failure, pulling nothing after it;
* `Spread` reads a sequence that may have failed as a whole: every element as a value, or the one
  failure.
-/

namespace Deferral

namespace Iter

variable {σ τ ε α : Type}

/-- Yield the values and hand each failure to `handler`. -/
def handling (iter : Iter σ τ (Deferred ε α)) (handler : ε → Act σ Unit) : Iter σ τ α where
  step := do
    match ← iter.step with
    | .yield (.value element) => pure (.yield element)
    | .yield (.failure failure) =>
      (handler failure).beside
      pure .skip
    | .skip => pure .skip
    | .finish => pure .finish
  hint state := (iter.hint state).upTo

/-- Keep the values that pass the test, and every failure. -/
def sift (iter : Iter σ τ (Deferred ε α)) (test : α → Act σ Bool) :
    Iter σ τ (Deferred ε α) where
  step := do
    match ← iter.step with
    | .yield (.value element) =>
      return if ← (test element).beside then .yield (.value element) else .skip
    | .yield (.failure failure) => pure (.yield (.failure failure))
    | .skip => pure .skip
    | .finish => pure .finish
  hint state := (iter.hint state).upTo

/-- Collect the values up to the first end, or stop at the first failure and hand it out as stored.
Nothing is pulled after a failure. -/
def gather (iter : Iter σ τ (Deferred ε α)) : Nat → Act (τ × σ) (Except ε (List α))
  | 0 => .giveUp
  | steps + 1 => do
    match ← iter.step with
    | .yield (.value element) =>
      match ← iter.gather steps with
      | .ok elements => pure (.ok (element :: elements))
      | .error failure => pure (.error failure)
    | .yield (.failure failure) => pure (.error failure)
    | .skip => iter.gather steps
    | .finish => pure (.ok [])

end Iter

/-- A sequence in state `τ`, or the failure, as long as it has not been read, that came in place of
the sequence. -/
inductive Spread (ε τ : Type) where
  | values (sequence : τ)
  | failed (left : Option ε)
deriving DecidableEq, Repr

namespace Spread

variable {σ τ ε α : Type}

/-- Read a deferred sequence. -/
def ofDeferred : Deferred ε τ → Spread ε τ
  | .value sequence => values sequence
  | .failure failure => failed (some failure)

/-- Every element of the sequence as a value, or the one failure. -/
def iter (sequence : Iter σ τ α) : Iter σ (Spread ε τ) (Deferred ε α) where
  step whole :=
    match whole with
    | (values state, world) =>
      let (result, state, world) := (Step.map Deferred.value <$> sequence.step) (state, world)
      (result, values state, world)
    | (failed (some failure), world) => (.done (.yield (.failure failure)), failed none, world)
    | (failed none, world) => (.done .finish, failed none, world)
  hint
    | values state => sequence.hint state
    | failed left => Hint.exactly (if left.isSome then 1 else 0)

end Spread

variable {ω κ τ ε β γ : Type}

/-- Run `supplier` now and spread its sequence. -/
def spread (type : FailureType ω κ ε) (supplier : Run ω κ (Except ε τ)) :
    Run ω κ (Spread ε τ) := do
  return .ofDeferred (← capture type supplier)

/-- Run `supplier` now and spread its sequence, checking the type of its error. -/
def spreadAs [Wording ε] (type : FailureType ω κ ε) (supplier : Run ω κ (Outcome ε τ)) :
    Run ω κ (Spread ε τ) := do
  return .ofDeferred (← captureAs type supplier)

namespace Spread

/-- Adapt a supplier of sequences. -/
def supplier (type : FailureType ω κ ε) (supply : Run ω κ (Except ε τ)) :
    Unit → Run ω κ (Spread ε τ) :=
  fun _ => spread type supply

/-- Adapt a supplier of sequences with dynamic errors. -/
def supplierAs [Wording ε] (type : FailureType ω κ ε) (supply : Run ω κ (Outcome ε τ)) :
    Unit → Run ω κ (Spread ε τ) :=
  fun _ => spreadAs type supply

/-- Adapt a function to sequences. -/
def function (type : FailureType ω κ ε) (f : β → Run ω κ (Except ε τ)) :
    β → Run ω κ (Spread ε τ) :=
  fun input => spread type (f input)

/-- Adapt a function to sequences with dynamic errors. -/
def functionAs [Wording ε] (type : FailureType ω κ ε) (f : β → Run ω κ (Outcome ε τ)) :
    β → Run ω κ (Spread ε τ) :=
  fun input => spreadAs type (f input)

/-- Adapt a function of two arguments to sequences. -/
def binary (type : FailureType ω κ ε) (f : β → γ → Run ω κ (Except ε τ)) :
    β → γ → Run ω κ (Spread ε τ) :=
  fun first second => spread type (f first second)

/-- Adapt a function of two arguments to sequences with dynamic errors. -/
def binaryAs [Wording ε] (type : FailureType ω κ ε) (f : β → γ → Run ω κ (Outcome ε τ)) :
    β → γ → Run ω κ (Spread ε τ) :=
  fun first second => spreadAs type (f first second)

end Spread

end Deferral
