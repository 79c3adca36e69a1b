import Deferral.DynError

/-!
# Claiming the failures of an outcome

A bridge between promises turns a failure of its declared type into data: the outcome that failed
with it becomes a completed one. `FailureType.claim` is that step. It looks through layers and
nothing else, leaves every other error untouched, and never panics: when looking up the cancellation
of the failure panics, the outcome fails with an error that keeps the failure as its source.
-/

namespace Deferral

namespace Alarm

/-- The text of an alarm, for the ones that have none a fixed phrase. -/
def text : Alarm → String
  | message text => text
  | object => "unknown panic"

end Alarm

namespace FailureType

variable {ω κ ε α : Type}

/-- Give up on `held` after a panic with `alarm`, and log it. -/
def interrupt (alarm : Alarm) (held : DynError ε) : Run ω κ (DynError ε) := do
  log (.bridgeInterrupted alarm.text)
  pure (.interrupted alarm.text held)

/-- Turn a failure of the type into data, and leave every other outcome as it is. -/
def claim (type : FailureType ω κ ε) : Outcome ε α → Run ω κ (Outcome ε (Deferred ε α))
  | .ok value => pure (.ok (.value value))
  | .error error =>
    match type.depth? error with
    | none => pure (.error error)
    | some depth =>
      match type.takeAt depth error with
      | .error rest => pure (.error rest)
      | .ok failure => do
        match ← (type.reassert failure).catchPanic with
        | .ok () => pure (.ok (.failure failure))
        | .error alarm => return .error (← interrupt alarm (.leaf failure))

end FailureType

end Deferral
