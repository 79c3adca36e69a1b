import Deferral.Script.Outline

/-!
# Events of scripts, and how the kinds of failure are treated

Everything a script lets the library call back leaves an event in the trace. The client state of a
script counts how often each of its callables has been called.
-/

namespace Deferral.Script

/-- The outcome of a promise in a script. -/
abbrev Result : Type := Outcome Fault (Payload Fault Value)

/-- What a pull from a source found. -/
inductive Pulled where
  /-- The item at this position of the source's list. -/
  | item (position : Nat)
  /-- An element of a sequence that a callable made. -/
  | element (value : Value)
  /-- Nothing. -/
  | nothing

/-- What the answer to an observer's action says. -/
inductive ActionAnswer where
  | absent
  | flag (flag : Bool)
  | text (text : String)
  | finished
deriving DecidableEq, Repr

/-- An event of a script. -/
inductive Event where
  /-- A callable was called. -/
  | called (name : String) (argument : Value)
  /-- A predicate was called. -/
  | tested (name : String) (argument : Value)
  /-- A source was asked for its next item. -/
  | pulled (what : Pulled)
  /-- The copy hook of a kind ran. -/
  | copied (kind : Kind)
  /-- A handler was given a failure. -/
  | handled (failure : Fault)
  /-- A consumer was shown a value. -/
  | seen (value : Value)
  /-- An inspection was shown a deferred failure: does it hold a value? -/
  | inspected (isValue : Bool)
  /-- A promise that was asked for its outcome is still pending. -/
  | stillPending
  /-- A waker was woken. -/
  | woken (name : String)
  /-- An observer heard an outcome. -/
  | observed (name : String) (outcome : Result)
  /-- An observer's action was answered. -/
  | acted (action : String) (answer : ActionAnswer)

/-- How often each callable of a script has been called. -/
abbrev Calls : Type := Nat → Nat

/-- The world of a script. -/
abbrev ScriptWorld : Type := World Event Calls

/-- A computation of a script. -/
abbrev ScriptRun (α : Type) : Type := Run Event Calls α

/-- A deferred value of a script. -/
abbrev DeferredValue : Type := Deferred Fault Value

/-- Count a call of the callable in this slot, and say how many there have been, this one included. -/
def countCall (slot : Nat) : ScriptRun Nat := fun world =>
  let calls := world.client slot + 1
  (.done calls,
    { world with client := fun other => if other = slot then calls else world.client other })

/-- Forget the calls of the callable in this slot. -/
def forgetCalls (slot : Nat) : ScriptRun Unit :=
  .change fun world =>
    { world with client := fun other => if other = slot then 0 else world.client other }

/-- Let the callable in one slot start with the count of another. -/
def copyCalls (slot copy : Nat) : ScriptRun Unit :=
  .change fun world =>
    { world with client := fun other =>
        if other = copy then world.client slot else world.client other }

/-- What looking up the cancellation of a treacherous failure panics with. -/
def Trap.alarm (trap : Trap) (message : String) : Alarm :=
  match trap with
  | .fixed => .message "lookup exploded"
  | .message => .message ("lookup of " ++ message ++ " exploded")
  | .object => .object

/-- The token of a failure, when looking it up does not panic. -/
def Fault.cancellation : Fault → ScriptRun (Option Token)
  | .treacherous trap message => .panic (trap.alarm message)
  | fault => pure fault.token?

/-- A copy of a failure. It starts with an empty trail. -/
def Fault.copy (typeName : String) : Fault → ScriptRun (Except CopyError Fault)
  | .plain message _ => pure (.ok (.plain message .empty))
  | .fetch code message copies _ => do
    emit (.copied .fetch)
    return .ok (.fetch code message (copies + 1) .empty)
  | .hook message => do
    emit (.copied .hook)
    return .error (.refused typeName ("cannot copy " ++ message))
  | .slotless message copies => do
    emit (.copied .slotless)
    return .ok (.slotless message (copies + 1))
  | .cancelled token _ => pure (.ok (.cancelled token .empty))
  | .halt token note copies _ => do
    emit (.copied .halt)
    return .ok (.halt token note (copies + 1) .empty)
  | _ => pure (.error (.unsupported typeName))

/-- How the failures of a kind are treated. -/
def Kind.failureType (kind : Kind) : FailureType Event Calls Fault where
  name := kind.typeName
  owns fault := fault.kind? == some kind
  cancellation := Fault.cancellation
  copy := Fault.copy kind.typeName
  slots fault := pure (fault.trail?.map fun trail => ⟨trail, fault.withTrail⟩)

end Deferral.Script
