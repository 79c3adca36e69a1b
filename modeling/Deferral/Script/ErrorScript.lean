import Deferral.Script.Report

/-!
# Scripts of errors and bridges

These scripts look at a single error, or at a single outcome that is bridged while it is settled,
before it is settled, or without a promise in between.
-/

namespace Deferral.Script

/-- A copy error of a kind: with a reason, or because the kind does not support copies. -/
def copyError (kind : Kind) : Option String → CopyError
  | some reason => .refused kind.typeName reason
  | none => .unsupported kind.typeName

/-- The outline of a copy error. -/
def copyErrorOutline : CopyError → Text.Outline
  | .unsupported typeName => .record "Unsupported" [("type_name", .quoted typeName)]
  | .refused typeName reason =>
    .record "Hook" [("type_name", .quoted typeName), ("message", .quoted reason)]

/-- The source under a layer. -/
def layerSource? (error : DynError Fault) : Option (DynError Fault) :=
  (Fault.innerChain error).head?

/-- When an outcome is bridged. -/
inductive Timing where
  /-- After the promise was settled. -/
  | settled
  /-- Before the promise is settled, with a poll in between. -/
  | late
  /-- Without a promise in between. -/
  | direct
deriving DecidableEq, Repr

/-- A computation of a script that works at a desk. -/
abbrev ScriptDeskRun (α : Type) : Type := DeskRun Event Calls Fault Value α

/-- The waker of this name. -/
def namedWaker (name : String) : ScriptRun Unit := emit (.woken name)

/-- Ask for an outcome that has to be there. -/
def pollSettled (number : Nat) : ScriptDeskRun Result := do
  match ← Desk.poll number (namedWaker "w") with
  | some outcome => pure outcome
  | none => .giveUp

/-- The outcome of a bridge. -/
def bridged (kind : Kind) (timing : Timing) (outcome : Outcome Fault Value) :
    ScriptDeskRun Result := do
  let type := kind.failureType
  match timing with
  | .settled =>
    let input ← Desk.settled (outcome.map .plain)
    pollSettled (← Desk.bridge type input)
  | .late =>
    let input ← Desk.create "completer"
    let output ← Desk.bridge type input
    match ← Desk.poll output (namedWaker "w") with
    | some outcome => pure outcome
    | none =>
      (emit .stillPending).beside
      let _ ← Desk.settle input (outcome.map .plain)
      pollSettled output
  | .direct =>
    let claimed ← (type.claim (outcome.map .plain)).beside
    pure (claimed.map .ofDeferred)

/-- Raise what a bridge turned into data, as the outcome that it was made of. -/
def raiseBridged (kind : Kind) (site : Site) : Result → ScriptRun Result
  | .ok (.failure failure) => do
    match ← Deferred.raise (α := Value) kind.failureType site (.failure failure) with
    | .ok value => pure (.ok (.plain value))
    | .error raised => pure (.error (.leaf raised))
  | outcome => pure outcome

/-- Bridge an outcome, and raise the result if a site is given. -/
def runBridge (kind : Kind) (timing : Timing) (outcome : Outcome Fault Value)
    (site : Option Site) : ScriptRun Result := do
  let result ← (bridged kind timing outcome).locally Desk.empty
  match site with
  | some site => raiseBridged kind site result
  | none => pure result

end Deferral.Script
