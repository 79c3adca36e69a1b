import Deferral.Proofs.Dialogue.Pulling
import Deferral.Proofs.Dialogue.Desks
import Deferral.Proofs.Deferred.Transparency

/-!
# Dialogues of a program with the library

A program makes a request, is given the answer or the panic that came instead, and goes on with a
request that may depend on it. What is handed back and forth has a shape, and from the shape it is
clear where in it failures stand. So likeness can be told of every answer by the same rule.

The exchanges of a program are its requests, each with the desk and the world in which it was made.
-/

namespace Deferral

variable {ω κ ε : Type}

/-! ### Shapes -/

/-- The shapes of what a program and the library hand each other. -/
inductive Shape : Type 1 where
  /-- Data in which no failure stands. -/
  | plain (β : Type)
  | failure
  | dynamic
  | deferred (value : Shape)
  | except (error value : Shape)
  | payload (value : Shape)
  | option (value : Shape)
  | list (value : Shape)
  | pair (first second : Shape)
  | exit (value : Shape)
  | spread (sequence : Shape)
  | flat (source piece : Shape)

namespace Shape

/-- What has a shape, with failures in `ε`. -/
@[reducible]
def Carrier (ε : Type) : Shape → Type
  | plain β => β
  | failure => ε
  | dynamic => DynError ε
  | deferred value => Deferred ε (value.Carrier ε)
  | except error value => Except (error.Carrier ε) (value.Carrier ε)
  | payload value => Payload ε (value.Carrier ε)
  | option value => Option (value.Carrier ε)
  | list value => List (value.Carrier ε)
  | pair first second => first.Carrier ε × second.Carrier ε
  | exit value => Exit (value.Carrier ε)
  | spread sequence => Spread ε (sequence.Carrier ε)
  | flat source piece => Flat (source.Carrier ε) (piece.Carrier ε)

/-- Likeness of what has a shape, given the likeness of failures. Plain data is alike when it is
equal. -/
def Alike (failures : ε → ε → Prop) : (s : Shape) → s.Carrier ε → s.Carrier ε → Prop
  | plain _ => Eq
  | failure => failures
  | dynamic => DynError.Alike failures
  | deferred value => Deferred.Alike failures (value.Alike failures)
  | except error value => ExceptAlike (error.Alike failures) (value.Alike failures)
  | payload value => Payload.Alike failures (value.Alike failures)
  | option value => Option.Rel (value.Alike failures)
  | list value => List.Forall₂ (value.Alike failures)
  | pair first second => Both (first.Alike failures) (second.Alike failures)
  | exit value => Exit.Matches (value.Alike failures)
  | spread sequence => Spread.Alike failures (sequence.Alike failures)
  | flat source piece => Flat.Alike (source.Alike failures) (piece.Alike failures)

end Shape

/-! ### Pipelines -/

/-- A callable between shapes. -/
abbrev Callable (ω κ ε : Type) (s t : Shape) : Type := Callback ω κ (s.Carrier ε) (t.Carrier ε)

/-- A pipeline with states of the first shape and elements of the second: a source of the client and
the adapters put onto it. -/
inductive Conduit (ω κ ε : Type) : Shape → Shape → Type 1 where
  | source {u s : Shape} (iter : Iter (World ω κ) (u.Carrier ε) (s.Carrier ε)) : Conduit ω κ ε u s
  | capture {u s t : Shape} (type : FailureType ω κ ε) (f : Callable ω κ ε s (.except .failure t))
    (before : Conduit ω κ ε u s) : Conduit ω κ ε u (.deferred t)
  | captureAs {u s t : Shape} (type : FailureType ω κ ε) (f : Callable ω κ ε s (.except .dynamic t))
    (before : Conduit ω κ ε u s) : Conduit ω κ ε u (.deferred t)
  | spread {u v s t : Shape} (type : FailureType ω κ ε) (f : Callable ω κ ε s (.except .failure v))
    (inner : Conduit ω κ ε v t) (before : Conduit ω κ ε u s) :
    Conduit ω κ ε (.flat u (.spread v)) (.deferred t)
  | spreadAs {u v s t : Shape} (type : FailureType ω κ ε)
    (f : Callable ω κ ε s (.except .dynamic v)) (inner : Conduit ω κ ε v t)
    (before : Conduit ω κ ε u s) : Conduit ω κ ε (.flat u (.spread v)) (.deferred t)
  | filter {u s : Shape} (test : Callable ω κ ε s (.plain Bool))
    (before : Conduit ω κ ε u (.deferred s)) : Conduit ω κ ε u (.deferred s)
  | sift {u s : Shape} (test : Callable ω κ ε s (.plain Bool))
    (before : Conduit ω κ ε u (.deferred s)) : Conduit ω κ ε u (.deferred s)
  | map {u s t : Shape} (type : FailureType ω κ ε) (f : Callable ω κ ε s t)
    (before : Conduit ω κ ε u (.deferred s)) : Conduit ω κ ε u (.deferred t)
  | bind {u s t : Shape} (type : FailureType ω κ ε) (f : Callable ω κ ε s (.deferred t))
    (before : Conduit ω κ ε u (.deferred s)) : Conduit ω κ ε u (.deferred t)
  | handling {u s : Shape} (handler : Callable ω κ ε .failure (.plain Unit))
    (before : Conduit ω κ ε u (.deferred s)) : Conduit ω κ ε u s

/-- Use an iterator from a state on, and hand out what it came to together with the state in which
it was left. -/
def Iter.used {σ τ β : Type} (act : Act (τ × σ) β) (state : τ) : Act σ (Exit β × τ) := fun world =>
  let (exit, state, world) := act (state, world)
  (.done (exit, state), world)

variable [Wording ε]

/-- The iterator that a pipeline is. -/
def Conduit.iter {u s : Shape} :
    Conduit ω κ ε u s → Iter (World ω κ) (u.Carrier ε) (s.Carrier ε)
  | .source iter => iter
  | .capture type f before => before.iter.map (Capture.function type f.run)
  | .captureAs type f before => before.iter.map (Capture.functionAs type f.run)
  | .spread type f inner before =>
    before.iter.flatMap (Spread.function type f.run) (Spread.iter inner.iter)
  | .spreadAs type f inner before =>
    before.iter.flatMap (Spread.functionAs type f.run) (Spread.iter inner.iter)
  | .filter test before => before.iter.filter (Deferred.accepted test.run)
  | .sift test before => before.iter.sift test.run
  | .map type f before => before.iter.map (Deferred.map type f.run)
  | .bind type f before => before.iter.map (Deferred.bind type f.run)
  | .handling handler before => before.iter.handling handler.run

/-! ### Requests -/

/-- The requests of a program, each with the shape of its answer. Promises complete with values of
the shape `base`. -/
inductive Request (ω κ ε : Type) (base : Shape) : Shape → Type 1 where
  /-- Anything that the program does in between. -/
  | client {s : Shape} (act : Run ω κ (s.Carrier ε)) : Request ω κ ε base s
  | defer {s : Shape} (type : FailureType ω κ ε) (failure : ε) : Request ω κ ε base (.deferred s)
  | ofExcept {s : Shape} (type : FailureType ω κ ε) (result : (Shape.except .failure s).Carrier ε) :
    Request ω κ ε base (.deferred s)
  /-- Store a failure with the bare constructor. -/
  | hold {s : Shape} (result : (Shape.except .failure s).Carrier ε) :
    Request ω κ ε base (.deferred s)
  | toExcept {s : Shape} (deferred : s.deferred.Carrier ε) :
    Request ω κ ε base (.except .failure s)
  | map {s t : Shape} (type : FailureType ω κ ε) (f : Callable ω κ ε s t)
    (deferred : s.deferred.Carrier ε) : Request ω κ ε base (.deferred t)
  | bind {s t : Shape} (type : FailureType ω κ ε) (f : Callable ω κ ε s (.deferred t))
    (deferred : s.deferred.Carrier ε) : Request ω κ ε base (.deferred t)
  | ifValue {s : Shape} (look : Callable ω κ ε s (.plain Unit)) (deferred : s.deferred.Carrier ε) :
    Request ω κ ε base (.deferred s)
  | recover {s t : Shape} (f : Callable ω κ ε .failure (.except t s))
    (deferred : s.deferred.Carrier ε) : Request ω κ ε base (.except t s)
  | valueOr {s : Shape} (f : Callable ω κ ε .failure s) (deferred : s.deferred.Carrier ε) :
    Request ω κ ε base s
  | raise {s : Shape} (type : FailureType ω κ ε) (site : Site) (deferred : s.deferred.Carrier ε) :
    Request ω κ ε base (.except .failure s)
  | raiseWith {s : Shape} (wrap : Callable ω κ ε .failure .failure)
    (deferred : s.deferred.Carrier ε) : Request ω κ ε base (.except .failure s)
  | handling {s : Shape} (handler : Callable ω κ ε .failure (.plain Unit))
    (deferred : s.deferred.Carrier ε) : Request ω κ ε base (.option s)
  | accepted {s : Shape} (test : Callable ω κ ε s (.plain Bool)) (deferred : s.deferred.Carrier ε) :
    Request ω κ ε base (.plain Bool)
  /-- Clone a deferred value, with the ways in which failures and values are cloned. -/
  | clone {s : Shape} (copyFailure : Callable ω κ ε .failure .failure)
    (copyValue : Callable ω κ ε s s) (deferred : s.deferred.Carrier ε) :
    Request ω κ ε base (.deferred s)
  /-- Compare two deferred values. -/
  | same {s : Shape} (values : BEq (s.Carrier ε)) (first second : s.deferred.Carrier ε) :
    Request ω κ ε base (.plain Bool)
  /-- What a deferred value feeds to a hasher. -/
  | feed {s : Shape} (values : Feeds (s.Carrier ε)) (deferred : s.deferred.Carrier ε) :
    Request ω κ ε base (.plain (List Chunk))
  /-- The wording of a deferred value. -/
  | text {s : Shape} (values : ToString (s.Carrier ε)) (deferred : s.deferred.Carrier ε) :
    Request ω κ ε base (.plain String)
  /-- Call a callable and capture its failure. -/
  | capture {s t : Shape} (type : FailureType ω κ ε) (f : Callable ω κ ε s (.except .failure t))
    (argument : s.Carrier ε) : Request ω κ ε base (.deferred t)
  | captureAs {s t : Shape} (type : FailureType ω κ ε) (f : Callable ω κ ε s (.except .dynamic t))
    (argument : s.Carrier ε) : Request ω κ ε base (.deferred t)
  /-- Call a callable and spread its sequence. -/
  | spread {s t : Shape} (type : FailureType ω κ ε) (f : Callable ω κ ε s (.except .failure t))
    (argument : s.Carrier ε) : Request ω κ ε base (.spread t)
  | spreadAs {s t : Shape} (type : FailureType ω κ ε) (f : Callable ω κ ε s (.except .dynamic t))
    (argument : s.Carrier ε) : Request ω κ ε base (.spread t)
  /-- The next element of a pipeline in this state, and the state in which the pipeline is left. -/
  | next {u s : Shape} (conduit : Conduit ω κ ε u s) (state : u.Carrier ε) (steps : Nat) :
    Request ω κ ε base (.pair (.exit (.option s)) u)
  | collect {u s : Shape} (conduit : Conduit ω κ ε u s) (state : u.Carrier ε) (steps : Nat) :
    Request ω κ ε base (.pair (.exit (.list s)) u)
  | gather {u s : Shape} (conduit : Conduit ω κ ε u (.deferred s)) (state : u.Carrier ε)
    (steps : Nat) : Request ω κ ε base (.pair (.exit (.except .failure (.list s))) u)
  /-- Claim the failure of an outcome that some future has come to. -/
  | claim {s : Shape} (type : FailureType ω κ ε) (outcome : (Shape.except .dynamic s).Carrier ε) :
    Request ω κ ε base (.except .dynamic (.deferred s))
  | create (name : String) : Request ω κ ε base (.plain Nat)
  | settled (outcome : (Shape.except .dynamic (.payload base)).Carrier ε) :
    Request ω κ ε base (.plain Nat)
  | completerStep (step : CompleterStep ε (base.Carrier ε)) :
    Request ω κ ε base (.plain CompleterAnswer)
  | poll (number : Nat) (waker : Run ω κ Unit) :
    Request ω κ ε base (.option (.except .dynamic (.payload base)))
  | pollClaimed (type : FailureType ω κ ε) (number : Nat) (waker : Run ω κ Unit) :
    Request ω κ ε base (.option (.except .dynamic (.payload base)))
  | isTerminated (number : Nat) : Request ω κ ε base (.plain Bool)
  | bridge (type : FailureType ω κ ε) (number : Nat) : Request ω κ ε base (.plain Nat)
  | observe (number : Nat) (moves : (Shape.except .dynamic (.payload base)).Carrier ε →
    List (Move ω κ ε (base.Carrier ε))) : Request ω κ ε base (.plain Unit)
  | spawn (awaited : Option Nat)
    (work : (Shape.option (.payload base)).Carrier ε →
      Run ω κ ((Shape.except .dynamic base).Carrier ε)) : Request ω κ ε base (.plain Nat)
  | runTasks : Request ω κ ε base (.plain Unit)

/-- Clone a deferred value, by cloning what it holds. -/
def Deferred.cloned {α : Type} (copyFailure : ε → Run ω κ ε) (copyValue : α → Run ω κ α) :
    Deferred ε α → Run ω κ (Deferred ε α)
  | .value a => do return .value (← copyValue a)
  | .failure e => do return .failure (← copyFailure e)

variable [BEq ε] [Feeds ε] {base : Shape}

/-- Answer a request. -/
def Request.perform {s : Shape} :
    Request ω κ ε base s → DeskRun ω κ ε (base.Carrier ε) (s.Carrier ε)
  | .client act => act.beside
  | .defer type failure => (type.defer failure).beside
  | .ofExcept type result => (Deferred.ofExcept type result).beside
  | .hold result => pure (.hold result)
  | .toExcept deferred => pure deferred.toExcept
  | .map type f deferred => (Deferred.map type f.run deferred).beside
  | .bind type f deferred => (Deferred.bind type f.run deferred).beside
  | .ifValue look deferred => (Deferred.ifValue look.run deferred).beside
  | .recover f deferred => (Deferred.recover f.run deferred).beside
  | .valueOr f deferred => (Deferred.valueOr f.run deferred).beside
  | .raise type site deferred => (Deferred.raise type site deferred).beside
  | .raiseWith wrap deferred => (Deferred.raiseWith wrap.run deferred).beside
  | .handling handler deferred => (Deferred.handling handler.run deferred).beside
  | .accepted test deferred => (Deferred.accepted test.run deferred).beside
  | .clone copyFailure copyValue deferred =>
    (Deferred.cloned copyFailure.run copyValue.run deferred).beside
  | .same _ first second => pure (first == second)
  | .feed _ deferred => pure (Feeds.feed deferred)
  | .text _ deferred => pure (toString deferred)
  | .capture type f argument => (Capture.function type f.run argument).beside
  | .captureAs type f argument => (Capture.functionAs type f.run argument).beside
  | .spread type f argument => (Spread.function type f.run argument).beside
  | .spreadAs type f argument => (Spread.functionAs type f.run argument).beside
  | .next conduit state steps => (Iter.used (conduit.iter.next steps) state).beside
  | .collect conduit state steps => (Iter.used (conduit.iter.collect steps) state).beside
  | .gather conduit state steps => (Iter.used (conduit.iter.gather steps) state).beside
  | .claim type outcome => (type.claim outcome).beside
  | .create name => Desk.create name
  | .settled outcome => Desk.settled outcome
  | .completerStep step => Desk.step step
  | .poll number waker => Desk.poll number waker
  | .pollClaimed type number waker => Desk.pollClaimed type number waker
  | .isTerminated number => Desk.isTerminated number
  | .bridge type number => Desk.bridge type number
  | .observe number moves => Desk.listen number (.observer moves)
  | .spawn awaited work => Desk.spawn awaited work
  | .runTasks => Desk.runTasks

/-! ### Dialogues -/

/-- A program: it makes a request and goes on with the answer, or with the alarm of the panic that
came instead, or it has come to its end. -/
inductive Dialogue (ω κ ε : Type) (base : Shape) : Type 1 where
  | finish
  | ask {s : Shape} (request : Request ω κ ε base s)
    (next : Except Alarm (s.Carrier ε) → Dialogue ω κ ε base)

/-- A request that was made, and where. -/
structure Exchange (ω κ ε : Type) (base : Shape) : Type 1 where
  {shape : Shape}
  request : Request ω κ ε base shape
  before : Desk ω κ ε (base.Carrier ε) × World ω κ

namespace Exchange

/-- How the request was answered. -/
def exit (exchange : Exchange ω κ ε base) : Exit (exchange.shape.Carrier ε) :=
  (exchange.request.perform exchange.before).1

/-- The desk and the world after the request. -/
def after (exchange : Exchange ω κ ε base) : Desk ω κ ε (base.Carrier ε) × World ω κ :=
  (exchange.request.perform exchange.before).2

end Exchange

/-- The exchanges of a program, in their order. A request that is never answered is the last. -/
def Dialogue.run : Dialogue ω κ ε base → Desk ω κ ε (base.Carrier ε) × World ω κ →
    List (Exchange ω κ ε base)
  | .finish, _ => []
  | .ask request next, whole =>
    ⟨request, whole⟩ ::
      match request.perform whole with
      | (.done answer, after) => (next (.ok answer)).run after
      | (.panicked alarm, after) => (next (.error alarm)).run after
      | (.unfinished, _) => []

end Deferral
