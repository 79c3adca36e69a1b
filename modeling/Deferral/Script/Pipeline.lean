import Deferral.Script.Adapter

/-!
# Pipelines

A pipeline is a source followed by stages. It carries plain values or deferred ones, and a stage fits
what the stage before it carries. A pipeline is consumed as a whole, or element by element; a panic
leaves it usable.
-/

namespace Deferral.Script

/-- An iterator together with its state. -/
structure Pipeline (α : Type) where
  τ : Type
  iter : Iter ScriptWorld τ α
  state : τ

/-- A pipeline of values, or of deferred values. -/
inductive Flow where
  | values (pipeline : Pipeline Value)
  | deferreds (pipeline : Pipeline DeferredValue)

/-- A stage of a pipeline. -/
inductive Stage where
  /-- Capture the failures of a callable on each value. -/
  | capture (body : Callable) (dynamic : Bool)
  /-- Capture the failures of a callable on each value and its position. -/
  | captureNumbered (body : Callable) (dynamic : Bool)
  /-- Spread the sequence that a callable makes of each value. -/
  | spread (body : Callable) (dynamic : Bool)
  /-- Spread the sequence that a callable makes of each value and its position. -/
  | spreadNumbered (body : Callable) (dynamic : Bool)
  /-- Filter with a test lifted to deferred values. -/
  | filter (test : Predicate)
  | sift (test : Predicate)
  | map (body : Callable)
  | bind (body : Callable)
  | raise (site : Site)
  | inspect
  | take (count : Nat)
  | handling
  | flatHandling
  | valueOr (value : Value)

/-- Where the elements of a pipeline come from. -/
inductive Origin where
  | values (source : Source Value)
  | deferreds (source : Source Item)
  /-- The sequence of a callable that is run while the pipeline is built. -/
  | spread (body : Callable) (dynamic : Bool)
  /-- A callable that is run for every element. -/
  | repeated (body : Callable) (dynamic : Bool)

/-- The position of an element as an argument. -/
def numbered (element : Value × Nat) : Value := pair element.1 (.int (Int.ofNat element.2))

/-- Run a routine and capture its failure. -/
def Routine.captured (kind : Kind) (routine : Routine) (dynamic : Bool) :
    Value → ScriptRun DeferredValue :=
  if dynamic then Capture.functionAs kind.failureType routine.callDynamic
  else Capture.function kind.failureType routine.callTyped

/-- Run a routine and spread its sequence. -/
def Routine.spread (kind : Kind) (routine : Routine) (dynamic : Bool) :
    Value → ScriptRun (Spread Fault (List Value)) :=
  if dynamic then Spread.functionAs kind.failureType routine.sequenceDynamic
  else Spread.function kind.failureType routine.sequenceTyped

/-- The most elements that an iterator without an end reports. -/
def manyElements : Nat := 18446744073709551615

/-- A callable that is run for every element. -/
def repeatedIter (kind : Kind) (routine : Routine) (dynamic : Bool) :
    Iter ScriptWorld Unit DeferredValue where
  step := do return .yield (← (routine.captured kind dynamic .none).beside)
  hint _ := ⟨manyElements, none⟩

/-- The routine of a stage that transforms a value and must not fail. -/
def Routine.total (routine : Routine) (argument : Value) : ScriptRun Value := do
  match ← routine.callTyped argument with
  | .ok value => pure value
  | .error failure => .panic (.message ("map got " ++ toString failure))

/-- Put a stage over a pipeline. A stage that does not fit gives nothing. -/
def Stage.over (kind : Kind) (slot : Nat) : Stage → Flow → Option Flow
  | .capture body dynamic, .values ⟨τ, iter, state⟩ =>
    some (.deferreds ⟨τ, iter.map ((Routine.mk slot body).captured kind dynamic), state⟩)
  | .captureNumbered body dynamic, .values ⟨_, iter, state⟩ =>
    let call := (Routine.mk slot body).captured kind dynamic
    some (.deferreds ⟨_, iter.enumerate.map fun element => call (numbered element), (state, 0)⟩)
  | .spread body dynamic, .values ⟨_, iter, state⟩ =>
    let call := (Routine.mk slot body).spread kind dynamic
    some (.deferreds ⟨_, iter.flatMap call (Spread.iter sequenceIter), .start state⟩)
  | .spreadNumbered body dynamic, .values ⟨_, iter, state⟩ =>
    let call := (Routine.mk slot body).spread kind dynamic
    some (.deferreds ⟨_, iter.enumerate.flatMap (fun element => call (numbered element))
      (Spread.iter sequenceIter), .start (state, 0)⟩)
  | .take count, .values ⟨_, iter, state⟩ => some (.values ⟨_, iter.take, (state, count)⟩)
  | .take count, .deferreds ⟨_, iter, state⟩ => some (.deferreds ⟨_, iter.take, (state, count)⟩)
  | .filter test, .deferreds ⟨τ, iter, state⟩ =>
    some (.deferreds ⟨τ, iter.filter (Deferred.accepted (Test.mk slot test).call), state⟩)
  | .sift test, .deferreds ⟨τ, iter, state⟩ =>
    some (.deferreds ⟨τ, iter.sift (Test.mk slot test).call, state⟩)
  | .map body, .deferreds ⟨τ, iter, state⟩ =>
    let step := Deferred.map kind.failureType (Routine.mk slot body).total
    some (.deferreds ⟨τ, iter.map step, state⟩)
  | .bind body, .deferreds ⟨τ, iter, state⟩ =>
    let step := Deferred.bind kind.failureType fun value => do
      Deferred.ofExcept kind.failureType (← (Routine.mk slot body).callTyped value)
    some (.deferreds ⟨τ, iter.map step, state⟩)
  | .raise site, .deferreds ⟨τ, iter, state⟩ =>
    let step := fun deferred => do
      Deferred.ofExcept kind.failureType (← Deferred.raise kind.failureType site deferred)
    some (.deferreds ⟨τ, iter.map step, state⟩)
  | .inspect, .deferreds ⟨τ, iter, state⟩ =>
    some (.deferreds ⟨τ, iter.inspect fun deferred => emit (.inspected deferred.isValue), state⟩)
  | .handling, .deferreds ⟨τ, iter, state⟩ =>
    some (.values ⟨τ, iter.handling fun failure => emit (.handled failure), state⟩)
  | .flatHandling, .deferreds ⟨_, iter, state⟩ =>
    let step := Deferred.handling fun failure => emit (.handled failure)
    some (.values ⟨_, iter.flatOption step, (state, false)⟩)
  | .valueOr value, .deferreds ⟨τ, iter, state⟩ =>
    some (.values ⟨τ, iter.map (Deferred.valueOr fun _ => pure value), state⟩)
  | _, _ => none

/-- Put stages over a pipeline, each counting its calls in a slot of its own. -/
def stagesOver (kind : Kind) : Nat → List Stage → Flow → Option Flow
  | _, [], flow => some flow
  | slot, stage :: stages, flow =>
    match stage.over kind slot flow with
    | some flow => stagesOver kind (slot + 1) stages flow
    | none => none

/-- An element of a pipeline. -/
inductive Element where
  | value (value : Value)
  | deferred (deferred : DeferredValue)

/-- A pipeline of elements of either sort. -/
def Flow.elements : Flow → Pipeline Element
  | .values ⟨τ, iter, state⟩ => ⟨τ, iter.map fun value => pure (.value value), state⟩
  | .deferreds ⟨τ, iter, state⟩ => ⟨τ, iter.map fun deferred => pure (.deferred deferred), state⟩

/-- A call of a consumer. -/
inductive Demand where
  | next
  | hint
deriving DecidableEq, Repr

/-- The answer to a call of a consumer. -/
inductive Supply where
  | next (element : Option Element)
  | hint (hint : Hint)

/-- How a pipeline is consumed. -/
inductive Consumer where
  | collect
  | gather
  | each (demands : List Demand)

/-- What consuming a pipeline came to. -/
inductive Consumed where
  | collected (report : Report (List Element))
  | gathered (report : Report (Except Fault (List Value)))
  | supplied (reports : List (Report Supply))

/-- Answer a call of a consumer. -/
def Demand.answer {τ : Type} (iter : Iter ScriptWorld τ Element) :
    Demand → Act (τ × ScriptWorld) Supply
  | .next => return .next (← iter.next stepBudget)
  | .hint => return .hint (← Act.read fun whole => iter.hint whole.1)

/-- Answer the calls of a consumer one after the other, and report on each. -/
def supply {τ : Type} (iter : Iter ScriptWorld τ Element) (state : τ) (world : ScriptWorld) :
    List Demand → List (Report Supply)
  | [] => []
  | demand :: demands =>
    let (report, state, world) := reportedBeside (demand.answer iter) state world
    report :: supply iter state world demands

/-- Consume a pipeline. Only deferred values can be gathered. -/
def Consumer.consume (world : ScriptWorld) : Consumer → Flow → Option Consumed
  | .collect, flow =>
    let ⟨_, iter, state⟩ := flow.elements
    some (.collected (reportedBeside (iter.collect stepBudget) state world).1)
  | .gather, .deferreds ⟨_, iter, state⟩ =>
    some (.gathered (reportedBeside (iter.gather stepBudget) state world).1)
  | .gather, .values _ => none
  | .each demands, flow =>
    let ⟨_, iter, state⟩ := flow.elements
    some (.supplied (supply iter state world demands))

/-- What a script of a pipeline reports: on building it, and on consuming it if it could be built. -/
structure PipelineReport where
  built : Report Unit
  consumed : Option Consumed

/-- The pipeline over an origin that takes no work to build. -/
def Origin.flow (kind : Kind) : Origin → Spread Fault (List Value) → Flow
  | .values source, _ => .values ⟨_, source.iter pure, 0⟩
  | .deferreds source, _ => .deferreds ⟨_, source.iter (Item.build kind), 0⟩
  | .spread _ _, state => .deferreds ⟨_, Spread.iter sequenceIter, state⟩
  | .repeated body dynamic, _ => .deferreds ⟨_, repeatedIter kind ⟨0, body⟩ dynamic, ()⟩

/-- The work of building an origin: the sequence of a callable that is run at once, if there is one. -/
def Origin.build (kind : Kind) : Origin → ScriptRun (Spread Fault (List Value))
  | .spread body dynamic => (Routine.mk 0 body).spread kind dynamic .none
  | _ => pure (.failed none)

/-- Build a pipeline and consume it. A pipeline whose stages do not fit gives nothing. -/
def runPipeline (kind : Kind) (origin : Origin) (stages : List Stage) (consumer : Consumer)
    (world : ScriptWorld) : Option PipelineReport :=
  let (report, world) := reported (origin.build kind) world
  match report.exit with
  | .done state =>
    match stagesOver kind 1 stages (origin.flow kind state) with
    | some flow =>
      (consumer.consume world flow).map fun consumed =>
        ⟨⟨.done (), report.trace, report.flags⟩, some consumed⟩
    | none => none
  | .panicked alarm => some ⟨⟨.panicked alarm, report.trace, report.flags⟩, none⟩
  | .unfinished => some ⟨⟨.unfinished, report.trace, report.flags⟩, none⟩

end Deferral.Script
