import Deferral.Script.Source

/-!
# Adapters of callables

A script calls an adapted callable with one list of arguments after the other. The adapted callable
counts its calls over all of them, except where it is run at once: then each run starts from a fresh
one.
-/

namespace Deferral.Script

/-- What an adapter makes of a callable. -/
inductive Shape where
  /-- It is run at once. -/
  | once
  | supplier
  | function
  | binary
deriving DecidableEq, Repr

/-- An adapter: its shape, whether it spreads sequences, and whether errors are dynamic. -/
structure Adapter where
  shape : Shape
  sequence : Bool
  dynamic : Bool
deriving DecidableEq, Repr

/-- What an adapted callable gives: a deferred value, or all that a spread sequence yields. -/
inductive Adapted where
  | single (deferred : DeferredValue)
  | all (elements : List DeferredValue)

/-- The argument for two. -/
def pair (first second : Value) : Value := .list [first, second]

/-- Everything a spread sequence yields. -/
def spreadAll (state : Spread Fault (List Value)) : ScriptRun Adapted := do
  return .all (← ((Spread.iter sequenceIter).collect stepBudget).locally state)

/-- Call an adapted callable with a list of arguments. -/
def Adapter.call (adapter : Adapter) (kind : Kind) (routine : Routine) (arguments : List Value) :
    ScriptRun Adapted := do
  let type := kind.failureType
  let first := arguments[0]?.getD .none
  let second := arguments[1]?.getD .none
  match adapter.sequence, adapter.dynamic, adapter.shape with
  | false, false, .once =>
    forgetCalls routine.slot
    return .single (← capture type (routine.callTyped .none))
  | false, false, .supplier =>
    return .single (← Capture.supplier type (routine.callTyped .none) ())
  | false, false, .function => return .single (← Capture.function type routine.callTyped first)
  | false, false, .binary =>
    return .single (← Capture.binary type (fun a b => routine.callTyped (pair a b)) first second)
  | false, true, .once =>
    forgetCalls routine.slot
    return .single (← captureAs type (routine.callDynamic .none))
  | false, true, .supplier =>
    return .single (← Capture.supplierAs type (routine.callDynamic .none) ())
  | false, true, .function =>
    return .single (← Capture.functionAs type routine.callDynamic first)
  | false, true, .binary =>
    return .single
      (← Capture.binaryAs type (fun a b => routine.callDynamic (pair a b)) first second)
  | true, false, .once =>
    forgetCalls routine.slot
    spreadAll (← spread type (routine.sequenceTyped .none))
  | true, false, .supplier =>
    spreadAll (← Spread.supplier type (routine.sequenceTyped .none) ())
  | true, false, .function => spreadAll (← Spread.function type routine.sequenceTyped first)
  | true, false, .binary =>
    spreadAll (← Spread.binary type (fun a b => routine.sequenceTyped (pair a b)) first second)
  | true, true, .once =>
    forgetCalls routine.slot
    spreadAll (← spreadAs type (routine.sequenceDynamic .none))
  | true, true, .supplier =>
    spreadAll (← Spread.supplierAs type (routine.sequenceDynamic .none) ())
  | true, true, .function => spreadAll (← Spread.functionAs type routine.sequenceDynamic first)
  | true, true, .binary =>
    spreadAll (← Spread.binaryAs type (fun a b => routine.sequenceDynamic (pair a b)) first second)

/-- Call an adapted callable with each list of arguments, and report on every call. -/
def Adapter.run (adapter : Adapter) (kind : Kind) (routine : Routine) (world : ScriptWorld) :
    List (List Value) → List (Report Adapted)
  | [] => []
  | arguments :: rest =>
    let (report, world) := reported (adapter.call kind routine arguments) world
    report :: adapter.run kind routine world rest

end Deferral.Script
