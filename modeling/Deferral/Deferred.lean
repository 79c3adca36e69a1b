import Deferral.FailureType
import Deferral.Hashing

/-!
# Deferred failures

A `Deferred ε α` is a value, or a failure that has not been raised yet. Failures travel as plain data
through `map`, `bind` and pipelines, and are raised only where the program asks for it.

Storing a failure, and passing one through `map` or `bind`, asserts the failure's cancellation. The
bare constructor `failure` and the operations that only look at or hand out a failure do not.
-/

namespace Deferral

/-- A value in `α`, or a deferred failure in `ε`. -/
inductive Deferred (ε α : Type) where
  | value (value : α)
  | failure (failure : ε)
deriving BEq, DecidableEq, Repr

/-- A value and a failure never feed a hasher the same. -/
instance {ε α : Type} [Feeds ε] [Feeds α] : Feeds (Deferred ε α) where
  feed
    | .value a => .tag 0 :: Feeds.feed a
    | .failure e => .tag 1 :: Feeds.feed e

/-- Store `failure` as data, asserting its cancellation. -/
def FailureType.defer {ω κ ε α : Type} (type : FailureType ω κ ε) (failure : ε) :
    Run ω κ (Deferred ε α) := do
  type.reassert failure
  pure (.failure failure)

namespace Deferred

variable {ω κ ε ε' α β : Type}

/-- Holds a value. -/
def isValue : Deferred ε α → Bool
  | value _ => true
  | failure _ => false

/-- Holds a failure. -/
def isFailure : Deferred ε α → Bool
  | value _ => false
  | failure _ => true

/-- The value, if there is one. -/
def value? : Deferred ε α → Option α
  | value a => some a
  | failure _ => none

/-- The failure, if there is one. -/
def failure? : Deferred ε α → Option ε
  | value _ => none
  | failure e => some e

/-- Hand out the value or the failure as stored. -/
def toExcept : Deferred ε α → Except ε α
  | value a => .ok a
  | failure e => .error e

/-- Hold a result with the bare constructors, without any effect. -/
def hold : Except ε α → Deferred ε α
  | .ok a => value a
  | .error e => failure e

/-- Defer the failure of a result. -/
def ofExcept (type : FailureType ω κ ε) : Except ε α → Run ω κ (Deferred ε α)
  | .ok a => pure (value a)
  | .error e => type.defer e

/-- Transform the value. A failure passes through, and `f` is not called. -/
def map (type : FailureType ω κ ε) (f : α → Run ω κ β) : Deferred ε α → Run ω κ (Deferred ε β)
  | value a => do return value (← f a)
  | failure e => type.defer e

/-- Go on with a computation that may fail itself. Its result is returned as it is; a failure passes
through, and `f` is not called. -/
def bind (type : FailureType ω κ ε) (f : α → Run ω κ (Deferred ε β)) :
    Deferred ε α → Run ω κ (Deferred ε β)
  | value a => f a
  | failure e => type.defer e

/-- Show the value to `look`. -/
def ifValue (look : α → Run ω κ Unit) : Deferred ε α → Run ω κ (Deferred ε α)
  | value a => do
    look a
    return value a
  | failure e => pure (failure e)

/-- The value, or whatever `recover` makes of the failure. -/
def recover (f : ε → Run ω κ (Except ε' α)) : Deferred ε α → Run ω κ (Except ε' α)
  | value a => pure (.ok a)
  | failure e => f e

/-- The value, or one computed from the failure. -/
def valueOr (f : ε → Run ω κ α) : Deferred ε α → Run ω κ α
  | value a => pure a
  | failure e => f e

/-- The value, or the failure raised anew at `site`. -/
def raise (type : FailureType ω κ ε) (site : Site) (deferred : Deferred ε α) :
    Run ω κ (Except ε α) :=
  deferred.recover fun e => do return .error (← type.raise e site)

/-- The value, or the failure that `wrap` makes of the stored one. -/
def raiseWith (wrap : ε → Run ω κ ε) (deferred : Deferred ε α) : Run ω κ (Except ε α) :=
  deferred.recover fun e => do return .error (← wrap e)

/-- Hand a failure to `handler` and drop it. -/
def handling (handler : ε → Run ω κ Unit) : Deferred ε α → Run ω κ (Option α)
  | value a => pure (some a)
  | failure e => do
    handler e
    return none

/-- Test the value. Failures are always accepted, so that a filter never drops one. -/
def accepted (test : α → Run ω κ Bool) : Deferred ε α → Run ω κ Bool
  | value a => test a
  | failure _ => pure true

/-- A value stands for itself, and a failure says that it is one. -/
def text [ToString ε] [ToString α] : Deferred ε α → String
  | value a => toString a
  | failure e => "failure: " ++ toString e

instance [ToString ε] [ToString α] : ToString (Deferred ε α) := ⟨text⟩

end Deferred

end Deferral
