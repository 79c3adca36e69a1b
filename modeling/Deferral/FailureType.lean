import Deferral.World

/-!
# Failure types

A failure type says how the library may treat the failures of one kind: whether a failure reports a
cancellation, how it is copied, and where it keeps its trail, the record of how it was raised. These
are callables of the client, so each may have effects of its own and may panic.

`FailureType.defer` stores a failure as data, and `FailureType.raise` raises a stored failure anew.
-/

namespace Deferral

/-- The call stack at the moment of a raise. Its text is not kept. -/
inductive Backtrace where
  | captured
deriving DecidableEq, Repr

/-- How a failure was raised: where, with which call stack, and from which stored failure. -/
structure Trail (ε : Type) where
  site : Option Site
  backtrace : Option Backtrace
  cause : Option ε
deriving DecidableEq, Repr

namespace Trail

variable {ε : Type}

/-- The trail of a failure that has never been raised. -/
def empty : Trail ε := ⟨none, none, none⟩

/-- The trail of a failure raised at `site` in place of `cause`. -/
def raised (site : Site) (cause : ε) : Trail ε := ⟨some site, some .captured, some cause⟩

/-- Nothing has been recorded. -/
def isEmpty (trail : Trail ε) : Bool :=
  trail.site.isNone && trail.backtrace.isNone && trail.cause.isNone

/-- Take the cause out and leave the rest of the trail. -/
def takeCause (trail : Trail ε) : Option ε × Trail ε :=
  (trail.cause, { trail with cause := none })

end Trail

/-- Access to the trail of a failure: its present content and the failure with another content. -/
structure Slots (ε : Type) where
  trail : Trail ε
  fill : Trail ε → ε

/-- How the failures of one type are treated. -/
structure FailureType (ω κ ε : Type) where
  /-- The name of the type, as it stands in texts. -/
  name : String
  /-- Is this error a failure of the type? -/
  owns : ε → Bool
  /-- The token whose cancellation the failure reports. -/
  cancellation : ε → Run ω κ (Option Token)
  /-- A copy with the same fields and an empty trail. -/
  copy : ε → Run ω κ (Except CopyError ε)
  /-- The trail of the failure, when the type has room for one. -/
  slots : ε → Run ω κ (Option (Slots ε))

namespace FailureType

variable {ω κ ε : Type}

/-- Assert the token of a cancellation again, so that storing the failure does not hide the request.
Other failures are left alone. -/
def reassert (type : FailureType ω κ ε) (failure : ε) : Run ω κ Unit := do
  match ← type.cancellation failure with
  | some token =>
    token.cancel
    log (.asserted type.name)
  | none => pure ()

/-- Raise a failure as it is, and log why no copy stands in for it. -/
def raiseAsStored (failure : ε) (site : Site) (reason : CopyError) : Run ω κ ε := do
  log (.raisedAsStored site reason)
  pure failure

/-- Rebuild `failure` for raising at `site`.

A cancellation clears its token and comes back blank: it never carries a history. Any other failure
is copied, and the copy records the site, a backtrace and the stored failure as its cause. A failure
that cannot be copied, or whose copy has no room for a trail, is raised as it is. -/
def raise (type : FailureType ω κ ε) (failure : ε) (site : Site) : Run ω κ ε := do
  match ← type.cancellation failure with
  | some token =>
    let _ ← token.clear
    log (.cleared type.name site)
    match ← type.copy failure with
    | .ok blank => pure blank
    | .error _ => pure failure
  | none =>
    match ← type.copy failure with
    | .error reason => raiseAsStored failure site reason
    | .ok copy =>
      match ← type.slots copy with
      | some slots => pure (slots.fill (.raised site failure))
      | none => raiseAsStored failure site (.unsupported type.name)

end FailureType

end Deferral
