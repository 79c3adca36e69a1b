import Deferral.Script.Pipeline

/-!
# Scripts of spread sequences

A script spreads a source, or a failure in its place, and reads it through any number of iterators.
An iterator may be cloned; the clone has a position and a count of tests of its own.
-/

namespace Deferral.Script

/-- What is put over a spread sequence. -/
inductive Cover where
  | bare
  | handling
  | sift
  | both
deriving DecidableEq, Repr

/-- A step of a script of spread sequences, with the number of the iterator it asks. -/
inductive SpreadStep where
  | next (number : Nat)
  | hint (number : Nat)
  | clone (number : Nat)
  | rest (number : Nat)
  | count (number : Nat)
deriving DecidableEq, Repr

/-- The answer to a step of a script of spread sequences. -/
inductive SpreadAnswer where
  | next (element : Option Element)
  | hint (hint : Hint)
  | number (number : Nat)
  | rest (elements : List Element)
  | count (count : Nat)

/-- A script of spread sequences. -/
structure SpreadScript where
  kind : Kind
  content : Except Template (Source Value)
  cover : Cover
  test : Predicate
  steps : List SpreadStep

namespace SpreadScript

/-- The source, which is empty where a failure takes its place. -/
def source (script : SpreadScript) : Source Value :=
  match script.content with
  | .ok source => source
  | .error _ => ⟨[], none, false⟩

/-- The iterator whose tests are counted in the given slot. -/
def iter (script : SpreadScript) (slot : Nat) :
    Iter ScriptWorld (Spread Fault Nat) Element :=
  let spread : Iter ScriptWorld (Spread Fault Nat) DeferredValue :=
    Spread.iter (script.source.iter pure)
  let handler := fun failure => emit (.handled failure)
  let test := (Test.mk slot script.test).call
  match script.cover with
  | .bare => spread.map fun deferred => pure (.deferred deferred)
  | .handling => (spread.handling handler).map fun value => pure (.value value)
  | .sift => (spread.sift test).map fun deferred => pure (.deferred deferred)
  | .both => ((spread.sift test).handling handler).map fun value => pure (.value value)

/-- The state of the first iterator. -/
def start (script : SpreadScript) : ScriptRun (Spread Fault Nat) := do
  match script.content with
  | .ok _ => pure (.values 0)
  | .error template => return .ofDeferred (← script.kind.failureType.defer template.failure)

/-- The outline of a fresh spread sequence. -/
def outline (flags : Token → Bool) (state : Spread Fault Nat) : Text.Outline :=
  .record "MaybeIter" [("state", match state with
    | .values _ => .apply "Values" [.atom "Seq"]
    | .failed left => .apply "Failed" [.option (left.map fun failure => failure.outline flags)])]

/-- A clone of the state of an iterator. -/
def cloneState : Spread Fault Nat → Spread Fault Nat
  | .values position => .values position
  | .failed left => .failed (left.map Fault.clone)

/-- A step over the states of all iterators. The tests of an iterator are counted in the slot of its
number. -/
def step (script : SpreadScript) :
    SpreadStep → Act (List (Spread Fault Nat) × ScriptWorld) (Option SpreadAnswer)
  | .next number => do
    return (← onState number ((script.iter number).next stepBudget)).map .next
  | .hint number => do
    return (← onState number (Act.read fun whole => (script.iter number).hint whole.1)).map .hint
  | .clone number => do
    match (← Act.read Prod.fst)[number]? with
    | some state =>
      let copy := (← Act.read Prod.fst).length
      Act.change fun whole => (whole.1 ++ [cloneState state], whole.2)
      (copyCalls number copy).beside
      return some (.number copy)
    | none => pure none
  | .rest number => do
    return (← onState number ((script.iter number).collect stepBudget)).map .rest
  | .count number => do
    let elements ← onState number ((script.iter number).collect stepBudget)
    return elements.map fun elements => .count elements.length
where
  /-- Run a computation over the state of one iterator. -/
  onState {α : Type} (number : Nat) (act : Act (Spread Fault Nat × ScriptWorld) α) :
      Act (List (Spread Fault Nat) × ScriptWorld) (Option α) := fun (states, world) =>
    match states[number]? with
    | none => (.done none, states, world)
    | some state =>
      let (result, state, world) := (some <$> act) (state, world)
      (result, states.set number state, world)

/-- Run the steps of a script, and report on each. -/
def runSteps (script : SpreadScript) (states : List (Spread Fault Nat)) (world : ScriptWorld) :
    List SpreadStep → List (Report (Option SpreadAnswer))
  | [] => []
  | step :: steps =>
    let (report, states, world) := reportedBeside (script.step step) states world
    report :: script.runSteps states world steps

/-- The outline of the fresh spread sequence and the reports on the steps. -/
def run (script : SpreadScript) (world : ScriptWorld) :
    Exit (String × List (Report (Option SpreadAnswer))) :=
  match script.start world with
  | (.done state, world) =>
    .done ((outline world.cancelled state).inline, script.runSteps [state] world script.steps)
  | (.panicked alarm, _) => .panicked alarm
  | (.unfinished, _) => .unfinished

end SpreadScript

end Deferral.Script
