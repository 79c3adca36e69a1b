import Deferral.Deferred

/-!
# Assertions on deferred failures

Tests assert which of the two a deferred failure holds. An assertion that fails panics with a text
that shows what was found, written out by the given outlines.
-/

namespace Deferral.Deferred

variable {ω κ ε α : Type}

/-- The value; a failure panics. -/
def expectValue (failureOutline : ε → String) : Deferred ε α → Run ω κ α
  | value a => pure a
  | failure e => .panic (.message ("Expected Success, got Failure: " ++ failureOutline e))

/-- The failure; a value panics. -/
def expectFailure (valueOutline : α → String) : Deferred ε α → Run ω κ ε
  | failure e => pure e
  | value a => .panic (.message ("Expected Failure, got Success: " ++ valueOutline a))

/-- The text of a failed comparison. -/
def unequalText (left right : String) : String :=
  "assertion `left == right` failed\n  left: " ++ left ++ "\n right: " ++ right

/-- Pass if the failure equals `expected`; a value or another failure panics. -/
def expectFailureWith [BEq ε] (failureOutline : ε → String) (valueOutline : α → String)
    (expected : ε) : Deferred ε α → Run ω κ Unit
  | failure e =>
    if e == expected then pure ()
    else .panic (.message (unequalText (failureOutline e) (failureOutline expected)))
  | value a =>
    .panic (.message ("Expected Failure with " ++ failureOutline expected ++ ", got Success: " ++
      valueOutline a))

end Deferral.Deferred
