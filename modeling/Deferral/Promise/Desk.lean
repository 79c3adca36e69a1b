import Deferral.Promise.Cell
import Deferral.Promise.Claim

/-!
# A desk of promises

A desk keeps any number of promises, each with its cell and the number of its live completers, the
completers that the program holds by name, and the tasks that have been spawned. Promises are
numbered in the order of their creation.

Settling a promise may run a listener, whose moves may settle further promises, whose listeners run
in turn. Each promise runs its listener at most once, so the nesting is never deeper than the number
of promises on the desk, and that number bounds the recursion.

A bridge is a listener: it claims the failures of the outcome it hears and settles its output with
the result. It holds a completer of its output, which is dropped when the bridge has run, and also
when it never runs. So an output is never left pending after its input has been settled or taken.
-/

namespace Deferral

/-- What a promise completes with: a plain value, or what a bridge made of another promise. -/
inductive Payload (ε α : Type) where
  | plain (value : α)
  | value (inner : Payload ε α)
  | failure (failure : ε)
deriving DecidableEq, Repr

namespace Payload

variable {ε α : Type}

/-- The payload of a bridge's output. -/
def ofDeferred : Deferred ε (Payload ε α) → Payload ε α
  | .value inner => value inner
  | .failure e => failure e

end Payload

/-- What may be done with a completer that is held by name. -/
inductive CompleterStep (ε α : Type) where
  | settle (name : String) (outcome : Outcome ε α)
  | isSettled (name : String)
  | clone (name copy : String)
  | drop (name : String)

/-- The answer to a step with a completer. -/
inductive CompleterAnswer where
  /-- No completer is held by that name. -/
  | absent
  | flag (flag : Bool)
  | finished
deriving DecidableEq, Repr

/-- A move of a listener: work of its own, or a step with a completer and a report of the answer. -/
inductive Move (ω κ ε α : Type) where
  | work (act : Run ω κ Unit)
  | step (step : CompleterStep ε α) (report : CompleterAnswer → Run ω κ Unit)

/-- Who hears the outcome of a promise: an observer, which answers it with moves, or a bridge to
another promise. -/
inductive Listener (ω κ ε α : Type) where
  | observer (moves : Outcome ε (Payload ε α) → List (Move ω κ ε α))
  | bridge (type : FailureType ω κ ε) (output : Nat)

/-- What a promise on a desk shares with its completers. -/
abbrev DeskShared (ω κ ε α : Type) : Type :=
  Shared (Listener ω κ ε α) (Run ω κ Unit) (Outcome ε (Payload ε α))

/-- A spawned task: the promise it settles, the promise it waits for, if any, and its work on the
value of that promise. -/
structure Task (ω κ ε α : Type) where
  output : Nat
  awaited : Option Nat
  work : Option (Payload ε α) → Run ω κ (Outcome ε α)

/-- A desk of promises. -/
structure Desk (ω κ ε α : Type) where
  promises : List (DeskShared ω κ ε α)
  completers : List (String × Nat)
  tasks : List (Task ω κ ε α)

/-- A computation of a program that works at a desk. -/
abbrev DeskRun (ω κ ε α β : Type) : Type := Act (Desk ω κ ε α × World ω κ) β

namespace Desk

variable {ω κ ε α β : Type}

/-- A desk without promises. -/
def empty : Desk ω κ ε α := ⟨[], [], []⟩

/-- What the promise of this number shares with its completers. A number without a promise behaves
as a promise whose outcome has been handed out. -/
def shared (desk : Desk ω κ ε α) (number : Nat) : DeskShared ω κ ε α :=
  desk.promises[number]?.getD .spent

/-- The desk with another state of one promise. -/
def put (desk : Desk ω κ ε α) (number : Nat) (shared : DeskShared ω κ ε α) : Desk ω κ ε α :=
  { desk with promises := desk.promises.set number shared }

/-- The promise whose completer is held by this name. -/
def completer? (desk : Desk ω κ ε α) (name : String) : Option Nat :=
  desk.completers.lookup name

/-- Hold a completer by this name, in place of one that was held by it. -/
def hold (desk : Desk ω κ ε α) (name : String) (number : Nat) : Desk ω κ ε α :=
  { desk with completers := (name, number) :: desk.completers.filter (·.1 != name) }

/-- Hold no completer by this name. -/
def release (desk : Desk ω κ ε α) (name : String) : Desk ω κ ε α :=
  { desk with completers := desk.completers.filter (·.1 != name) }

/-- Read something off the desk. -/
def look (view : Desk ω κ ε α → β) : DeskRun ω κ ε α β := .read fun whole => view whole.1

/-- Change the desk. -/
def change (f : Desk ω κ ε α → Desk ω κ ε α) : DeskRun ω κ ε α Unit :=
  .change fun whole => (f whole.1, whole.2)

/-- One step on what a promise shares with its completers. -/
def atShared (number : Nat) (step : DeskShared ω κ ε α → β × DeskShared ω κ ε α) :
    DeskRun ω κ ε α β := fun whole =>
  let (answer, shared) := step (whole.1.shared number)
  (.done answer, whole.1.put number shared, whole.2)

/-- A new pending promise with one live completer, and its number. -/
def addPromise : DeskRun ω κ ε α Nat := fun whole =>
  (.done whole.1.promises.length,
    { whole.1 with promises := whole.1.promises ++ [.fresh] }, whole.2)

/-- How a listener is run. -/
abbrev Notify (ω κ ε α : Type) : Type :=
  Listener ω κ ε α → Outcome ε (Payload ε α) → DeskRun ω κ ε α Unit

/-- Do what is left to do after a cell has been settled. -/
def discharge (notify : Notify ω κ ε α) :
    Duty (Listener ω κ ε α) (Run ω κ Unit) (Outcome ε (Payload ε α)) → DeskRun ω κ ε α Unit
  | .notify listener outcome => notify listener outcome
  | .wake waker => waker.beside
  | .rest => pure ()

/-- Settle a promise, and say whether this was the settle that counted. -/
def settleWith (notify : Notify ω κ ε α) (number : Nat) (outcome : Outcome ε (Payload ε α)) :
    DeskRun ω κ ε α Bool := do
  match ← atShared number (Shared.onCell (Cell.settle outcome)) with
  | some duty =>
    discharge notify duty
    pure true
  | none => pure false

/-- Drop a completer. The last one breaks the promise, if it is still pending. -/
def dropWith (notify : Notify ω κ ε α) (number : Nat) : DeskRun ω κ ε α Unit := do
  if ← atShared number Shared.release then
    let _ ← settleWith notify number (.error .abandoned)

/-- Run `act`, then `last`, also when `act` panics. -/
def andFinally (act : DeskRun ω κ ε α Unit) (last : DeskRun ω κ ε α Unit) :
    DeskRun ω κ ε α Unit := do
  match ← act.catchPanic with
  | .ok () => last
  | .error alarm =>
    last
    .panic alarm

/-- A step with a completer. A completer leaves its name before it is dropped, and a clone takes its
name before the completer that was held by it is dropped. -/
def stepWith (notify : Notify ω κ ε α) : CompleterStep ε α → DeskRun ω κ ε α CompleterAnswer
  | .settle name outcome => do
    match ← look (·.completer? name) with
    | none => pure .absent
    | some number => return .flag (← settleWith notify number (outcome.map .plain))
  | .isSettled name => do
    match ← look (·.completer? name) with
    | none => pure .absent
    | some number => return .flag (← look fun desk => (desk.shared number).cell.isSettled)
  | .clone name copy => do
    match ← look (·.completer? name) with
    | none => pure .absent
    | some number =>
      atShared number Shared.retain
      let former ← look (·.completer? copy)
      change (·.hold copy number)
      if let some former := former then
        dropWith notify former
      pure .finished
  | .drop name => do
    match ← look (·.completer? name) with
    | none => pure .absent
    | some number =>
      change (·.release name)
      dropWith notify number
      pure .finished

/-- A move of an observer. -/
def moveWith (notify : Notify ω κ ε α) : Move ω κ ε α → DeskRun ω κ ε α Unit
  | .work act => act.beside
  | .step step report => do
    let answer ← stepWith notify step
    (report answer).beside

/-- Make moves one after the other. -/
def movesWith (notify : Notify ω κ ε α) : List (Move ω κ ε α) → DeskRun ω κ ε α Unit
  | [] => pure ()
  | move :: moves => do
    moveWith notify move
    movesWith notify moves

/-- Run a listener, with listeners inside listeners down to the given depth. -/
def notify : Nat → Notify ω κ ε α
  | 0, _, _ => .giveUp
  | depth + 1, .observer moves, outcome => movesWith (notify depth) (moves outcome)
  | depth + 1, .bridge type output, outcome => do
    let claimed ← (type.claim outcome).beside
    andFinally
      (do let _ ← settleWith (notify depth) output (claimed.map .ofDeferred))
      (dropWith (notify depth) output)

/-- Work that may run listeners, with room for one listener of each promise on the desk. -/
def withListeners (act : Notify ω κ ε α → DeskRun ω κ ε α β) : DeskRun ω κ ε α β := do
  act (notify (← look (·.promises.length)))

/-- Settle a promise, and say whether this was the settle that counted. -/
def settle (number : Nat) (outcome : Outcome ε (Payload ε α)) : DeskRun ω κ ε α Bool :=
  withListeners fun notify => settleWith notify number outcome

/-- Drop a completer of a promise. -/
def dropCompleter (number : Nat) : DeskRun ω κ ε α Unit :=
  withListeners fun notify => dropWith notify number

/-- A step with a completer that is held by name. -/
def step (step : CompleterStep ε α) : DeskRun ω κ ε α CompleterAnswer :=
  withListeners fun notify => stepWith notify step

/-- A new pending promise whose completer is held by this name. A completer that was held by it is
dropped. -/
def create (name : String) : DeskRun ω κ ε α Nat := do
  let number ← addPromise
  let former ← look (·.completer? name)
  change (·.hold name number)
  if let some former := former then
    dropCompleter former
  return number

/-- A promise that has been settled from the start. -/
def settled (outcome : Outcome ε (Payload ε α)) : DeskRun ω κ ε α Nat := do
  let number ← addPromise
  let _ ← settle number outcome
  dropCompleter number
  return number

/-- The panic that answers a poll after the outcome has been handed out. -/
def spentText : String := "`Promise` polled after completion"

/-- Ask for the outcome of a promise. -/
def poll (number : Nat) (waker : Run ω κ Unit) :
    DeskRun ω κ ε α (Option (Outcome ε (Payload ε α))) := do
  match ← atShared number (Shared.onCell (Cell.poll waker)) with
  | .ready outcome => pure (some outcome)
  | .pending => pure none
  | .spent => .panic (.message spentText)

/-- Has the outcome of the promise been handed out? -/
def isTerminated (number : Nat) : DeskRun ω κ ε α Bool :=
  look fun desk => (desk.shared number).cell.isTaken

/-- Register a listener. One that never runs is dropped, and a bridge drops its completer with it. -/
def listen (number : Nat) (listener : Listener ω κ ε α) : DeskRun ω κ ε α Unit := do
  match ← atShared number (Shared.onCell (Cell.listen listener)) with
  | .now outcome => withListeners fun notify => notify listener outcome
  | .later => pure ()
  | .never =>
    match listener with
    | .observer _ => pure ()
    | .bridge _ output => dropCompleter output

/-- Bridge a promise: the output hears the outcome of the input, with the failures of the type turned
into data. -/
def bridge (type : FailureType ω κ ε) (input : Nat) : DeskRun ω κ ε α Nat := do
  let output ← addPromise
  listen input (.bridge type output)
  return output

/-- Ask for the outcome of a promise and claim its failures, without a promise in between. -/
def pollClaimed (type : FailureType ω κ ε) (number : Nat) (waker : Run ω κ Unit) :
    DeskRun ω κ ε α (Option (Outcome ε (Payload ε α))) := do
  match ← poll number waker with
  | none => pure none
  | some outcome =>
    let claimed ← (type.claim outcome).beside
    pure (some (claimed.map .ofDeferred))

/-- Spawn a task, and give the number of the promise it settles. -/
def spawn (awaited : Option Nat) (work : Option (Payload ε α) → Run ω κ (Outcome ε α)) :
    DeskRun ω κ ε α Nat := do
  let output ← addPromise
  change fun desk => { desk with tasks := desk.tasks ++ [⟨output, awaited, work⟩] }
  return output

/-- The work of a task on the value it waited for. An error of the awaited promise is passed on. -/
def taskWork (task : Task ω κ ε α) :
    Option (Outcome ε (Payload ε α)) → DeskRun ω κ ε α (Outcome ε α)
  | none => (task.work none).beside
  | some (.ok value) => (task.work (some value)).beside
  | some (.error error) => pure (.error error)

/-- Run a task as far as it goes: `none` while the promise it waits for is pending. -/
def taskOutcome (task : Task ω κ ε α) : DeskRun ω κ ε α (Option (Outcome ε α)) := do
  match task.awaited with
  | none => return some (← taskWork task none)
  | some awaited =>
    match ← poll awaited (pure ()) with
    | none => pure none
    | some outcome => return some (← taskWork task (some outcome))

/-- Settle the promise of a finished task. A panic of a listener ends here: it is the task's own. -/
def finishTask (task : Task ω κ ε α) (outcome : Outcome ε α) : DeskRun ω κ ε α Unit := do
  let _ ← (andFinally
    (do let _ ← settle task.output (outcome.map .plain))
    (dropCompleter task.output)).catchPanic

/-- Run a task, and say whether it has finished. A panic of its work is its outcome. -/
def runTask (task : Task ω κ ε α) : DeskRun ω κ ε α Bool := do
  match ← (taskOutcome task).catchPanic with
  | .ok none => pure false
  | .ok (some outcome) =>
    finishTask task outcome
    pure true
  | .error _ =>
    finishTask task (.error .crashed)
    pure true

/-- Run each of the tasks once and keep those that have not finished. -/
def runRound : List (Task ω κ ε α) → DeskRun ω κ ε α (List (Task ω κ ε α))
  | [] => pure []
  | task :: tasks => do
    let finished ← runTask task
    let left ← runRound tasks
    return if finished then left else task :: left

/-- Run tasks until none of them can go on. A round in which none finishes is the last. -/
def runRounds : Nat → DeskRun ω κ ε α Unit
  | 0 => pure ()
  | rounds + 1 => do
    let tasks ← look (·.tasks)
    let left ← runRound tasks
    change fun desk => { desk with tasks := left }
    if left.length < tasks.length then
      runRounds rounds

/-- Run every task that can go on until none can. -/
def runTasks : DeskRun ω κ ε α Unit := do
  runRounds ((← look (·.tasks.length)) + 1)

end Desk

end Deferral
