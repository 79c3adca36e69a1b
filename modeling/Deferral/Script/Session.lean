import Deferral.Assert
import Deferral.Iter.Deferred
import Deferral.Script.Report

/-!
# Sessions

A session holds nothing, a deferred value, or a result, and works on it step by step. A step that
does not fit what is held is skipped.
-/

namespace Deferral.Script

/-- What a session holds. -/
inductive Held where
  | nothing
  | deferred (deferred : DeferredValue)
  | result (result : Except Fault Value)

/-- How a failure is recovered from: by a callable on its wording, or by keeping it. -/
inductive Recovery where
  | callable (body : Callable)
  | keep

/-- A step of a session. -/
inductive SessionStep where
  | start (item : Item)
  | ofResult (result : Except Template Value)
  | cancel (token : Token)
  | clear (token : Token)
  | map (body : Callable)
  | bind (body : Callable) (bare : Bool)
  | ifValue
  | holds
  | view
  | wording
  | outline (pretty : Bool)
  | recover (recovery : Recovery)
  | valueOr (body : Callable)
  | raise (site : Site)
  | raiseWith (wrapper : Option Template)
  | toResult
  | value?
  | failure?
  | handling
  | clone
  | same (item : Item)
  | expectValue
  | expectFailure
  | reraise (times : Nat) (site : Site)
  | defer
  | hold
  | cloneFailure
  | copy
  | chain
  | takeCause (keep : Bool)
  | cancellation

/-- The answer to a step of a session. -/
inductive SessionAnswer where
  | silent
  | skipped
  | flag (flag : Bool)
  | holds (isValue isFailure : Bool)
  | deferred (deferred : DeferredValue)
  | text (text : String)
  | value (value : Value)
  | value? (value : Option Value)
  | failure (failure : Fault)
  | failure? (failure : Option Fault)
  | handled (values : List Value) (hint : Hint)
  | same (verdict : Option Bool)
  | copy (copy : Except CopyError Fault)
  | chain (texts : Option (List String))
  | cause (cause : Option Fault)
  | token (token : Option Token)

/-- Call a callable that fails with failures of a kind. -/
def callOnce (body : Callable) (argument : Value) : ScriptRun (Except Fault Value) := do
  forgetCalls 0
  Routine.callTyped ⟨0, body⟩ argument

/-- The value of a call that must not fail: a failure panics with its wording after `phrase`. -/
def callOrPanic (phrase : String) (body : Callable) (argument : Value) : ScriptRun Value := do
  match ← callOnce body argument with
  | .ok value => pure value
  | .error failure => .panic (.message (phrase ++ toString failure))

/-- The wording of a failure as an argument. -/
def Fault.asValue (failure : Fault) : Value := .str (toString failure)

/-- Raise a deferred value and defer it again. -/
def reraise (kind : Kind) (site : Site) : Nat → DeferredValue → ScriptRun DeferredValue
  | 0, deferred => pure deferred
  | times + 1, deferred => do
    let result ← deferred.raise kind.failureType site
    reraise kind site times (← Deferred.ofExcept kind.failureType result)

/-- A clone of a deferred value. -/
def cloned : DeferredValue → DeferredValue
  | .value value => .value value
  | .failure failure => .failure failure.clone

/-- A step on a deferred value. -/
def deferredStep (kind : Kind) (deferred : DeferredValue) :
    SessionStep → ScriptRun (Held × SessionAnswer)
  | .map body => do
    let next ← deferred.map kind.failureType (callOrPanic "map got " body)
    return (.deferred next, .silent)
  | .bind body bare => do
    let next ← deferred.bind kind.failureType fun value => do
      match ← callOnce body value with
      | .ok value => pure (.value value)
      | .error failure =>
        if bare then pure (.failure failure) else kind.failureType.defer failure
    return (.deferred next, .silent)
  | .ifValue => do
    let next ← deferred.ifValue fun value => emit (.seen value)
    return (.deferred next, .silent)
  | .holds => pure (.deferred deferred, .holds deferred.isValue deferred.isFailure)
  | .view => pure (.deferred deferred, .deferred deferred)
  | .wording => pure (.deferred deferred, .text (toString deferred))
  | .outline pretty => do
    let flags ← Act.read (·.cancelled)
    return (.deferred deferred, .text ((deferredOutline flags deferred).text pretty))
  | .recover (.callable body) => do
    let result ← deferred.recover fun failure => callOnce body failure.asValue
    return (.result result, .silent)
  | .recover .keep => do
    let result ← deferred.recover fun failure => pure (.error failure)
    return (.result result, .silent)
  | .valueOr body => do
    let value ← deferred.valueOr fun failure => callOrPanic "recover got " body failure.asValue
    return (.nothing, .value value)
  | .raise site => do
    return (.result (← deferred.raise kind.failureType site), .silent)
  | .raiseWith wrapper => do
    let result ← deferred.raiseWith fun failure =>
      pure (match wrapper with
        | some template => (template.fill failure.asValue).failure
        | none => failure)
    return (.result result, .silent)
  | .toResult => pure (.result deferred.toExcept, .silent)
  | .value? => pure (.nothing, .value? deferred.value?)
  | .failure? => pure (.nothing, .failure? deferred.failure?)
  | .handling => do
    let value ← deferred.handling fun failure => emit (.handled failure)
    return (.nothing, .handled value.toList (.exactly value.toList.length))
  | .clone => pure (.deferred (cloned deferred), .silent)
  | .same item => do
    let other ← item.build kind
    let verdict := if kind.isComparable then some (deferred == other) else none
    return (.deferred deferred, .same verdict)
  | .expectValue => do
    let flags ← Act.read (·.cancelled)
    let value ← deferred.expectValue fun failure => (failure.outline flags).inline
    return (.nothing, .value value)
  | .expectFailure => do
    let failure ← deferred.expectFailure fun value => value.outline.inline
    return (.nothing, .failure failure)
  | .reraise times site => do
    return (.deferred (← reraise kind site times deferred), .silent)
  | _ => pure (.deferred deferred, .skipped)

/-- A step on a failure that has been raised. -/
def raisedStep (kind : Kind) (failure : Fault) :
    SessionStep → ScriptRun (Held × SessionAnswer)
  | .cloneFailure => pure (.result (.error failure.clone), .silent)
  | .copy => do
    return (.result (.error failure), .copy (← kind.failureType.copy failure))
  | .chain =>
    let texts := if kind.isError then some (failure.chain.map toString) else none
    pure (.result (.error failure), .chain texts)
  | .takeCause keep =>
    match failure.trail? with
    | none => pure (.result (.error failure), .cause none)
    | some trail =>
      let (cause, rest) := trail.takeCause
      let left := match keep, cause with
        | true, some cause => cause
        | _, _ => failure.withTrail rest
      pure (.result (.error left), .cause cause)
  | .cancellation => do
    return (.result (.error failure), .token (← kind.failureType.cancellation failure))
  | _ => pure (.result (.error failure), .skipped)

/-- A step on a result. -/
def resultStep (kind : Kind) (result : Except Fault Value) :
    SessionStep → ScriptRun (Held × SessionAnswer)
  | .defer => do
    return (.deferred (← Deferred.ofExcept kind.failureType result), .silent)
  | .hold => pure (.deferred (.hold result), .silent)
  | step =>
    match result with
    | .ok value => pure (.result (.ok value), .skipped)
    | .error failure => raisedStep kind failure step

/-- A step of a session. -/
def sessionStep (kind : Kind) (held : Held) : SessionStep → ScriptRun (Held × SessionAnswer)
  | .start item => do
    return (.deferred (← item.build kind), .silent)
  | .ofResult result => do
    let deferred ← Deferred.ofExcept kind.failureType (result.mapError Template.failure)
    return (.deferred deferred, .silent)
  | .cancel token => do
    token.cancel
    return (held, .silent)
  | .clear token => do
    return (held, .flag (← token.clear))
  | step =>
    match held with
    | .nothing => pure (.nothing, .skipped)
    | .deferred deferred => deferredStep kind deferred step
    | .result result => resultStep kind result step

/-- What is held after a step that panicked: a step that begins anew leaves what was held before, and
any other has lost it. -/
def heldAfterPanic (held : Held) : SessionStep → Held
  | .start _ => held
  | .ofResult _ => held
  | _ => .nothing

/-- Run a session, and report on each step the answer and what is held after it. -/
def runSession (kind : Kind) (held : Held) (world : ScriptWorld) :
    List SessionStep → List (Report (Held × SessionAnswer))
  | [] => []
  | step :: steps =>
    let (report, world) := reported (sessionStep kind held step) world
    let held := match report.exit with
      | .done (held, _) => held
      | _ => heldAfterPanic held step
    report :: runSession kind held world steps

/-- The answer to a comparison of two deferred values. -/
structure Comparison where
  equal : Bool
  sameHash : Bool
  equalToClone : Bool
  sameHashAsClone : Bool
  clone : DeferredValue

/-- An item, raised at a site and held again so many times. -/
structure RaisedItem where
  item : Item
  times : Nat

/-- Where items are raised again and again. -/
def raiseSite : Site := ⟨"A"⟩

/-- Raise a deferred value and hold the result so many times. -/
def raiseAndHold (kind : Kind) : Nat → DeferredValue → ScriptRun DeferredValue
  | 0, deferred => pure deferred
  | times + 1, deferred => do
    let result ← deferred.raise kind.failureType raiseSite
    raiseAndHold kind times (.hold result)

/-- The deferred value that a raised item describes. -/
def RaisedItem.build (kind : Kind) (raised : RaisedItem) : ScriptRun DeferredValue := do
  raiseAndHold kind raised.times (← raised.item.build kind)

/-- Compare two deferred values with each other, and the first one with its clone. -/
def compare (kind : Kind) (first second : RaisedItem) : ScriptRun Comparison := do
  let first ← first.build kind
  let second ← second.build kind
  let clone := cloned first
  return {
    equal := first == second
    sameHash := hashEqually first second
    equalToClone := first == clone
    sameHashAsClone := hashEqually first clone
    clone }

/-- Assert that a deferred value holds the failure that a template describes. -/
def assertFailedWith (kind : Kind) (raised : RaisedItem) (expected : Template) : ScriptRun Unit := do
  let deferred ← raised.build kind
  let flags ← Act.read (·.cancelled)
  deferred.expectFailureWith (fun failure => (failure.outline flags).inline)
    (fun value => value.outline.inline) expected.failure

end Deferral.Script
