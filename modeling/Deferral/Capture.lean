import Deferral.DynError

/-!
# Capturing the failures of callables

`capture` runs a callable that may fail and defers its failure, so that a pipeline does not stop at
the first one. `captureAs` does the same for a callable whose errors are dynamic: an error that is
not a failure of the declared type breaks the contract and panics. Panics are not failures. They
leave the adapter and are never stored.

The adapters for suppliers and for functions of one and two arguments only differ in what they
are given.
-/

namespace Deferral

variable {ω κ ε α β γ : Type}

/-- Run `supplier` now and defer its failure. -/
def capture (type : FailureType ω κ ε) (supplier : Run ω κ (Except ε α)) :
    Run ω κ (Deferred ε α) := do
  Deferred.ofExcept type (← supplier)

/-- The text of the panic that answers an error of the wrong type. -/
def FailureType.contractText [Wording ε] (type : FailureType ω κ ε) (error : DynError ε) : String :=
  "expected a failure of type " ++ type.name ++ ", caught: " ++ toString error

/-- Run `supplier` now and defer its error if it is a failure of the type, not looking through any
layer. -/
def captureAs [Wording ε] (type : FailureType ω κ ε) (supplier : Run ω κ (Outcome ε α)) :
    Run ω κ (Deferred ε α) := do
  match ← supplier with
  | .ok value => pure (.value value)
  | .error error =>
    match type.takeAt 0 error with
    | .ok failure => type.defer failure
    | .error other => .panic (.message (type.contractText other))

namespace Capture

/-- Adapt a supplier. -/
def supplier (type : FailureType ω κ ε) (supply : Run ω κ (Except ε α)) :
    Unit → Run ω κ (Deferred ε α) :=
  fun _ => capture type supply

/-- Adapt a supplier with dynamic errors. -/
def supplierAs [Wording ε] (type : FailureType ω κ ε) (supply : Run ω κ (Outcome ε α)) :
    Unit → Run ω κ (Deferred ε α) :=
  fun _ => captureAs type supply

/-- Adapt a function. -/
def function (type : FailureType ω κ ε) (f : β → Run ω κ (Except ε α)) :
    β → Run ω κ (Deferred ε α) :=
  fun input => capture type (f input)

/-- Adapt a function with dynamic errors. -/
def functionAs [Wording ε] (type : FailureType ω κ ε) (f : β → Run ω κ (Outcome ε α)) :
    β → Run ω κ (Deferred ε α) :=
  fun input => captureAs type (f input)

/-- Adapt a function of two arguments. -/
def binary (type : FailureType ω κ ε) (f : β → γ → Run ω κ (Except ε α)) :
    β → γ → Run ω κ (Deferred ε α) :=
  fun first second => capture type (f first second)

/-- Adapt a function of two arguments with dynamic errors. -/
def binaryAs [Wording ε] (type : FailureType ω κ ε) (f : β → γ → Run ω κ (Outcome ε α)) :
    β → γ → Run ω κ (Deferred ε α) :=
  fun first second => captureAs type (f first second)

end Capture

end Deferral
