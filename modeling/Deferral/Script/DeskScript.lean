import Deferral.Script.ErrorScript

/-!
# Scripts of promises

A script gives names to promises and completers. A name stands for a promise of values, for the
output of a bridge, or for a future that claims the failures of a promise and can only be polled. A
step on a name that stands for nothing, or for something the step does not fit, is skipped.
-/

namespace Deferral.Script

/-- What a name of the promise side stands for. -/
inductive Side where
  | values (number : Nat)
  | deferreds (number : Nat)
  /-- A future that claims the failures of a promise. It is broken once polling it has panicked. -/
  | claiming (number : Nat) (kind : Kind) (broken : Bool)

/-- What a script does with a completer. -/
inductive CompleterAction where
  | complete (name : String) (value : Value)
  | fail (name : String) (error : Template)
  | settle (name : String) (outcome : Except Template Value)
  | isSettled (name : String)
  | outline (name : String)
  | clone (name copy : String)
  | drop (name : String)

namespace CompleterAction

/-- The name under which an action is traced. -/
def label : CompleterAction → String
  | complete _ _ => "complete"
  | fail _ _ => "fail"
  | settle _ _ => "settle"
  | isSettled _ => "done"
  | outline _ => "debug_c"
  | clone _ _ => "clone"
  | drop _ => "drop"

/-- The step with a completer that an action is. -/
def step : CompleterAction → CompleterStep Fault Value
  | complete name value => .settle name (.ok value)
  | fail name error => .settle name (.error error.error)
  | settle name outcome => .settle name (outcome.mapError Template.error)
  | isSettled name => .isSettled name
  | outline name => .isSettled name
  | clone name copy => .clone name copy
  | drop name => .drop name

/-- The outline of a completer. -/
def completerOutline (settled : Bool) : Text.Outline :=
  .record "Completer" [("done", .flag settled)]

/-- What the answer to an action says. -/
def answer (action : CompleterAction) (answer : CompleterAnswer) : ActionAnswer :=
  match action, answer with
  | _, .absent => .absent
  | outline _, .flag settled => .text (completerOutline settled).inline
  | _, .flag flag => .flag flag
  | _, .finished => .finished

/-- The action as a move of an observer, which traces its answer. -/
def move (action : CompleterAction) : Move Event Calls Fault Value :=
  .step action.step fun answer => emit (.acted action.label (action.answer answer))

end CompleterAction

/-- What an observer does after it has traced the outcome. -/
inductive ObserverAction where
  | panic (message : String)
  | act (action : CompleterAction)

/-- The action as a move of an observer. -/
def ObserverAction.move : ObserverAction → Move Event Calls Fault Value
  | panic message => .work (.panic (.message message))
  | act action => action.move

/-- An observer that traces the outcome it hears and then acts. -/
def observer (name : String) (actions : List ObserverAction) : Listener Event Calls Fault Value :=
  .observer fun outcome =>
    .work (emit (.observed name outcome)) :: actions.map ObserverAction.move

/-- A step of a script of promises. -/
inductive DeskStep where
  | create (promise completer : String)
  | settled (promise : String) (outcome : Except Template Value)
  | perform (action : CompleterAction)
  | poll (promise waker : String)
  | isTerminated (promise : String)
  | outline (promise : String)
  | dropPromise (promise : String)
  | observe (promise observer : String) (actions : List ObserverAction)
  | bridge (promise output : String) (kind : Kind)
  | claim (promise output : String) (kind : Kind)
  | spawn (promise : String) (body : Callable) (awaited : Option String)
  | runTasks

/-- The answer to a step of a script of promises. -/
inductive DeskAnswer where
  | silent
  | skipped
  | nothing
  | action (answer : ActionAnswer)
  | flag (flag : Bool)
  | text (text : String)
  | pending
  | outcome (outcome : Result)

/-- What each name of the promise side stands for. -/
abbrev Sides : Type := List (String × Side)

/-- A computation of a script of promises. -/
abbrev SidesRun (α : Type) : Type :=
  Act (Sides × (Desk Event Calls Fault Value × ScriptWorld)) α

namespace Side

/-- What a name stands for. -/
def find? (name : String) : SidesRun (Option Side) := .read fun whole => whole.1.lookup name

/-- Let a name stand for nothing. -/
def forget (name : String) : SidesRun Unit :=
  .change fun whole => (whole.1.filter (·.1 != name), whole.2)

/-- Let a name stand for something. -/
def bind (name : String) (side : Side) : SidesRun Unit :=
  .change fun whole => ((name, side) :: whole.1.filter (·.1 != name), whole.2)

/-- The number of a promise, when it is no more than that. -/
def promise? : Side → Option Nat
  | values number => some number
  | deferreds number => some number
  | claiming _ _ _ => none

end Side

/-- The outline of a promise. -/
def promiseOutline {ο ν ε α : Type} : Cell ο ν (Outcome ε α) → Text.Outline
  | .pending _ _ => state "pending"
  | .ready (.ok _) => state "completed"
  | .ready (.error _) => state "failed"
  | .taken => state "taken"
where
  /-- The outline of a promise in a state. -/
  state (name : String) : Text.Outline := .record "Promise" [("state", .quoted name)]

/-- The text of the panic that answers a poll of a future after one that panicked. -/
def brokenText : String := "`async fn` resumed after panicking"

/-- The answer to a poll. -/
def pollAnswer : Option Result → DeskAnswer
  | some outcome => .outcome outcome
  | none => .pending

/-- Poll what a name stands for. A future is gone once it is ready. -/
def pollSide (name : String) (waker : ScriptRun Unit) : Side → SidesRun DeskAnswer
  | .values number | .deferreds number => return pollAnswer (← (Desk.poll number waker).beside)
  | .claiming _ _ true => .panic (.message brokenText)
  | .claiming number kind false => do
    match ← (Desk.pollClaimed kind.failureType number waker).beside.catchPanic with
    | .ok answer =>
      if answer.isSome then
        Side.forget name
      pure (pollAnswer answer)
    | .error alarm =>
      Side.bind name (.claiming number kind true)
      .panic alarm

/-- The work of a spawned task: call a routine with the awaited value. -/
def taskCall (routine : Routine) : Option (Payload Fault Value) → ScriptRun (Outcome Fault Value)
  | some (.plain value) => routine.callDynamic value
  | _ => routine.callDynamic .none

/-- Spawn a task that calls `body`. Its calls are counted in the slot of the promise it settles. -/
def spawnTask (promise : String) (body : Callable) (awaited : Option Nat) : SidesRun DeskAnswer := do
  let slot ← (Desk.look (·.promises.length)).beside
  let number ← (Desk.spawn awaited (taskCall ⟨slot, body⟩)).beside
  Side.bind promise (.values number)
  return .silent

/-- A step on what a name stands for. -/
def sideStep (name : String) (side : Side) : DeskStep → SidesRun DeskAnswer
  | .poll _ waker => pollSide name (namedWaker waker) side
  | .isTerminated _ =>
    match side.promise? with
    | some number => return .flag (← (Desk.isTerminated number).beside)
    | none => pure .nothing
  | .outline _ =>
    match side.promise? with
    | some number => do
      let cell ← (Desk.look fun desk => (desk.shared number).cell).beside
      return .text (promiseOutline cell).inline
    | none => pure .nothing
  | .dropPromise _ => do
    Side.forget name
    return .silent
  | .observe _ observerName actions =>
    match side.promise? with
    | some number => do
      Side.forget name
      (Desk.listen number (observer observerName actions)).beside
      return .silent
    | none => pure .skipped
  | .bridge _ output kind =>
    match side with
    | .values number => do
      Side.forget name
      let bridged ← (Desk.bridge kind.failureType number).beside
      Side.bind output (.deferreds bridged)
      return .silent
    | _ => pure .skipped
  | .claim _ output kind =>
    match side with
    | .values number => do
      Side.forget name
      Side.bind output (.claiming number kind false)
      return .silent
    | _ => pure .skipped
  | .spawn promise body _ =>
    match side with
    | .values number => do
      Side.forget name
      spawnTask promise body (some number)
    | _ => pure .skipped
  | _ => pure .skipped

namespace DeskStep

/-- The name of the promise side that a step starts from. -/
def subject? : DeskStep → Option String
  | poll promise _ | isTerminated promise | outline promise | dropPromise promise
  | observe promise _ _ | bridge promise _ _ | claim promise _ _ => some promise
  | spawn _ _ awaited => awaited
  | _ => none

/-- A step of a script of promises. -/
def run : DeskStep → SidesRun DeskAnswer
  | .create promise completer => do
    let number ← (Desk.create completer).beside
    Side.bind promise (.values number)
    return .silent
  | .settled promise outcome => do
    let number ← (Desk.settled ((outcome.mapError Template.error).map .plain)).beside
    Side.bind promise (.values number)
    return .silent
  | .perform action => do
    return .action (action.answer (← (Desk.step action.step).beside))
  | .spawn promise body none => spawnTask promise body none
  | .runTasks => do
    Desk.runTasks.beside
    return .silent
  | step =>
    match step.subject? with
    | none => pure .skipped
    | some name => do
      match ← Side.find? name with
      | some side => sideStep name side step
      | none => pure .skipped

end DeskStep

/-- The state of a script of promises, in which nothing has been named. -/
def emptySides : Sides × Desk Event Calls Fault Value := ([], Desk.empty)

/-- Run the steps of a script of promises, and report on each. -/
def runDesk (sides : Sides) (desk : Desk Event Calls Fault Value) (world : ScriptWorld) :
    List DeskStep → List (Report DeskAnswer)
  | [] => []
  | step :: steps =>
    let (exit, sides, desk, after) := step.run (sides, desk, world)
    let next : ScriptWorld := { after with trace := #[] }
    ⟨exit, after.trace, after.cancelled⟩ :: runDesk sides desk next steps

end Deferral.Script
