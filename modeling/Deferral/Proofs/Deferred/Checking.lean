import Deferral.Proofs.Promise.Classification
import Deferral.Proofs.Tokens.Flags
import Deferral.Script.Callable

/-!
# Checked adapters

Every adapter of a callable comes in two forms. The typed one takes a callable that fails with
failures of the type. The checked one takes a callable with dynamic errors and panics with those
that are not failures of the type as they stand. So it is the typed one, over the callable that
panics itself with such an error: `FailureType.demand` is what makes the difference. Where all
errors are failures of the type, there is none.
-/

namespace Deferral

variable {ω κ σ ρ δ ε α β γ τ π : Type}

/-! ### The adapters -/

/-- The adapters of callables, each by what the callable is called with, what it returns unless it
fails, and what the adapter makes of that. -/
inductive Adaptation (ε : Type) : Type → Type → Type → Type 1 where
  | attempt {α : Type} : Adaptation ε Unit α (Deferred ε α)
  | supplier {α : Type} : Adaptation ε Unit α (Deferred ε α)
  | function {β α : Type} : Adaptation ε β α (Deferred ε α)
  | binary {β γ α : Type} : Adaptation ε (β × γ) α (Deferred ε α)
  | spread {τ : Type} : Adaptation ε Unit τ (Spread ε τ)
  | spreadSupplier {τ : Type} : Adaptation ε Unit τ (Spread ε τ)
  | spreadFunction {β τ : Type} : Adaptation ε β τ (Spread ε τ)
  | spreadBinary {β γ τ : Type} : Adaptation ε (β × γ) τ (Spread ε τ)

namespace Adaptation

/-- Call a callable through the typed form. -/
def typed (type : FailureType ω κ ε) :
    Adaptation ε ρ α π → (ρ → Run ω κ (Except ε α)) → ρ → Run ω κ π
  | .attempt, f, input => capture type (f input)
  | .supplier, f, input => Capture.supplier type (f ()) input
  | .function, f, input => Capture.function type f input
  | .binary, f, (first, second) => Capture.binary type (fun a b => f (a, b)) first second
  | .spread, f, input => Deferral.spread type (f input)
  | .spreadSupplier, f, input => Spread.supplier type (f ()) input
  | .spreadFunction, f, input => Spread.function type f input
  | .spreadBinary, f, (first, second) => Spread.binary type (fun a b => f (a, b)) first second

/-- Call a callable with dynamic errors through the checked form. -/
def checked [Wording ε] (type : FailureType ω κ ε) :
    Adaptation ε ρ α π → (ρ → Run ω κ (Outcome ε α)) → ρ → Run ω κ π
  | .attempt, f, input => captureAs type (f input)
  | .supplier, f, input => Capture.supplierAs type (f ()) input
  | .function, f, input => Capture.functionAs type f input
  | .binary, f, (first, second) => Capture.binaryAs type (fun a b => f (a, b)) first second
  | .spread, f, input => spreadAs type (f input)
  | .spreadSupplier, f, input => Spread.supplierAs type (f ()) input
  | .spreadFunction, f, input => Spread.functionAs type f input
  | .spreadBinary, f, (first, second) => Spread.binaryAs type (fun a b => f (a, b)) first second

/-- What an adapter hands out: what came of the call, or a sequence over that. -/
def hand : Adaptation ε ρ α π → Deferred ε α → π
  | .attempt => id
  | .supplier => id
  | .function => id
  | .binary => id
  | .spread => .ofDeferred
  | .spreadSupplier => .ofDeferred
  | .spreadFunction => .ofDeferred
  | .spreadBinary => .ofDeferred

/-- Every typed form captures one call of the callable. -/
theorem typed_eq (adaptation : Adaptation ε ρ α π) (type : FailureType ω κ ε)
    (f : ρ → Run ω κ (Except ε α)) (input : ρ) :
    adaptation.typed type f input = adaptation.hand <$> capture type (f input) := by
  cases adaptation with
  | attempt => exact (id_map _).symm
  | supplier => exact (id_map _).symm
  | function => exact (id_map _).symm
  | binary => exact (id_map _).symm
  | spread => rfl
  | spreadSupplier => rfl
  | spreadFunction => rfl
  | spreadBinary => rfl

/-- So does every checked form, with the check. -/
theorem checked_eq [Wording ε] (adaptation : Adaptation ε ρ α π) (type : FailureType ω κ ε)
    (f : ρ → Run ω κ (Outcome ε α)) (input : ρ) :
    adaptation.checked type f input = adaptation.hand <$> captureAs type (f input) := by
  cases adaptation with
  | attempt => exact (id_map _).symm
  | supplier => exact (id_map _).symm
  | function => exact (id_map _).symm
  | binary => exact (id_map _).symm
  | spread => rfl
  | spreadSupplier => rfl
  | spreadFunction => rfl
  | spreadBinary => rfl

end Adaptation

/-! ### The check -/

namespace FailureType

/-- Insist that an error is a failure of the type as it stands. -/
def demand [Wording ε] (type : FailureType ω κ ε) : Outcome ε α → Run ω κ (Except ε α)
  | .ok value => pure (.ok value)
  | .error error =>
    match type.takeAt 0 error with
    | .ok failure => pure (.error failure)
    | .error other => .panic (.message (type.contractText other))

/-- Every failure of a callable is one of the type. -/
def Covers (type : FailureType ω κ ε) (f : Run ω κ (Except ε α)) : Prop :=
  f.Yields fun result => ∀ failure, result = .error failure → type.owns failure = true

/-- Nothing under layers is taken for a failure, however many layers there are. -/
theorem not_owns_layered (type : FailureType ω κ ε) (error : DynError ε) (count : Nat) :
    ¬type.Owns (error.layered (count + 1)) := id

/-- What is not a failure of the type stands in the way. -/
theorem takeAt_of_not_owns {type : FailureType ω κ ε} {error : DynError ε}
    (hforeign : ¬type.Owns error) : type.takeAt 0 error = .error error := by
  cases error with
  | leaf failure => exact if_neg hforeign
  | layer source => rfl
  | interrupted message suppressed => rfl
  | abandoned => rfl
  | crashed => rfl

/-- Nothing is stored of an error that is not a failure of the type. -/
theorem captureAsBoxings_of_not_owns {type : FailureType ω κ ε} {supplier : Run ω κ (Outcome ε α)}
    {world after : World ω κ} {error : DynError ε}
    (hcall : supplier world = (.done (.error error), after)) (hforeign : ¬type.Owns error) :
    type.captureAsBoxings supplier world = [] := by
  have hown : type.own? (.error error : Outcome ε α) = none := by
    cases error with
    | leaf failure => exact if_neg hforeign
    | layer source => rfl
    | interrupted message suppressed => rfl
    | abandoned => rfl
    | crashed => rfl
  rw [captureAsBoxings, Act.thereafter_of_done hcall, hown]
  rfl

section

variable [Wording ε] {type : FailureType ω κ ε}

/-- Whoever demands a failure of the type and is given one takes it. -/
theorem demand_boxed {result : Except ε α}
    (howned : ∀ failure, result = .error failure → type.owns failure = true) :
    (type.demand (result.mapError .leaf) : Run ω κ (Except ε α)) = pure result := by
  cases result with
  | ok value => rfl
  | error failure =>
    have htake : type.takeAt 0 (.leaf failure) = .ok failure := if_pos (howned failure rfl)
    change type.demand (.error (.leaf failure)) = _
    rw [demand, htake]

/-- To check the errors of a callable is to capture what is demanded of them. -/
theorem captureAs_eq (supplier : Run ω κ (Outcome ε α)) :
    captureAs type supplier = capture type (supplier >>= type.demand) := by
  rw [captureAs, capture, bind_assoc]
  refine bind_congr fun outcome => ?_
  cases outcome with
  | ok value => rfl
  | error error =>
    rcases htake : type.takeAt 0 error with other | failure
    · simp only [demand, htake]
      rfl
    · simp only [demand, htake]
      rfl

end

end FailureType

/-- A callable with its errors as dynamic ones. -/
def Run.boxed (f : Run ω κ (Except ε α)) : Run ω κ (Outcome ε α) := do
  return (← f).mapError .leaf

/-- What is demanded of the errors of a callable that fails with failures of the type is given. -/
theorem FailureType.Covers.demand_boxed [Wording ε] {type : FailureType ω κ ε}
    {f : Run ω κ (Except ε α)} (hcovers : type.Covers f) : f.boxed >>= type.demand = f := by
  calc f.boxed >>= type.demand = f >>= fun result => type.demand (result.mapError .leaf) := by
        rw [Run.boxed, bind_assoc]
        rfl
    _ = f >>= pure := Act.bind_congr_of_yields hcovers fun _ howned => type.demand_boxed howned
    _ = f := bind_pure f

/-! ### Calls in a row -/

/-- Call so often, each time with an argument that may depend on what has come of earlier calls, and
receive what comes of the call, be it a result or a panic. -/
def Act.callsInRow (call : ρ → Act σ π) (argument : δ → ρ)
    (receive : δ → Except Alarm π → Act σ δ) : Nat → δ → Act σ δ
  | 0, state => pure state
  | times + 1, state => do
    let result ← (call (argument state)).catchPanic
    let state ← receive state result
    Act.callsInRow call argument receive times state

/-- Calls in a row, each of which comes to its result by itself, in the world that was left when the
result of the call before it had been received. -/
inductive InRow (single : ρ → σ → Except Alarm π → σ → Prop) (argument : δ → ρ)
    (receive : δ → Except Alarm π → Act σ δ) :
    Nat → δ → σ → δ → σ → Prop where
  | nil {state : δ} {world : σ} : InRow single argument receive 0 state world state world
  | cons {times : Nat} {state next last : δ} {world middle later after : σ}
    {result : Except Alarm π}
    (hsingle : single (argument state) world result middle)
    (hreceive : receive state result middle = (.done next, later))
    (hrest : InRow single argument receive times next later last after) :
    InRow single argument receive (times + 1) state world last after

/-- Calls in a row are told by what is said of single calls. -/
theorem InRow.of_calls {call : ρ → Act σ π} {single : ρ → σ → Except Alarm π → σ → Prop}
    (hsingle : ∀ input world result after,
      (call input).catchPanic world = (.done result, after) → single input world result after)
    {argument : δ → ρ} {receive : δ → Except Alarm π → Act σ δ} {times : Nat} {state last : δ}
    {world after : σ}
    (h : Act.callsInRow call argument receive times state world = (.done last, after)) :
    InRow single argument receive times state world last after := by
  induction times generalizing state world with
  | zero =>
    cases h
    exact .nil
  | succ times ih =>
    obtain ⟨result, middle, hcall, h⟩ := Act.done_of_bind h
    obtain ⟨next, later, hreceive, h⟩ := Act.done_of_bind h
    exact .cons (hsingle _ _ _ _ hcall) hreceive (ih h)

namespace Adaptation

/-- What comes of one call of a checked form, and in which world. -/
inductive Checks [Wording ε] (adaptation : Adaptation ε ρ α π) (type : FailureType ω κ ε)
    (f : ρ → Run ω κ (Outcome ε α)) (input : ρ) (world : World ω κ) :
    Except Alarm π → World ω κ → Prop where
  /-- The callable returns a value, and nothing else happens. -/
  | returned {value : α} {after : World ω κ} (hcall : f input world = (.done (.ok value), after)) :
    Checks adaptation type f input world (.ok (adaptation.hand (.value value))) after
  /-- The callable fails with a failure of the type, which is stored. -/
  | stored {failure : ε} {middle after : World ω κ}
    (hcall : f input world = (.done (.error (.leaf failure)), middle))
    (howns : type.owns failure = true)
    (hreassert : type.reassert failure middle = (.done (), after)) :
    Checks adaptation type f input world (.ok (adaptation.hand (.failure failure))) after
  /-- The callable fails with a failure of the type, and looking at that panics. -/
  | shaken {failure : ε} {alarm : Alarm} {middle after : World ω κ}
    (hcall : f input world = (.done (.error (.leaf failure)), middle))
    (howns : type.owns failure = true)
    (hreassert : type.reassert failure middle = (.panicked alarm, after)) :
    Checks adaptation type f input world (.error alarm) after
  /-- The callable fails with anything else. That ends the call, and nothing else happens. -/
  | refused {error : DynError ε} {after : World ω κ}
    (hcall : f input world = (.done (.error error), after)) (hforeign : ¬type.Owns error) :
    Checks adaptation type f input world (.error (.message (type.contractText error))) after
  /-- The callable panics, and nothing else happens. -/
  | panicked {alarm : Alarm} {after : World ω κ}
    (hcall : f input world = (.panicked alarm, after)) :
    Checks adaptation type f input world (.error alarm) after

section

variable [Wording ε] {adaptation : Adaptation ε ρ α π} {type : FailureType ω κ ε}
  {g : ρ → Run ω κ (Outcome ε α)} {input : ρ} {world after : World ω κ}

/-- The checked form is the typed one, over what is demanded of the errors. -/
theorem checked_eq_typed (adaptation : Adaptation ε ρ α π) (type : FailureType ω κ ε)
    (g : ρ → Run ω κ (Outcome ε α)) :
    adaptation.checked type g = adaptation.typed type fun input => g input >>= type.demand := by
  funext input
  rw [checked_eq, typed_eq, type.captureAs_eq]

/-- An error that is not a failure of the type is the text of a panic, and that is all. -/
theorem checked_of_not_owns {error : DynError ε}
    (hcall : g input world = (.done (.error error), after)) (hforeign : ¬type.Owns error) :
    adaptation.checked type g input world =
      (.panicked (.message (type.contractText error)), after) := by
  rw [checked_eq, map_eq_pure_bind, captureAs, bind_assoc, Act.bind_of_done hcall]
  simp only [type.takeAt_of_not_owns hforeign]
  rfl

/-- Whatever comes of a call of a checked form, it has come about in one of these ways. -/
theorem Checks.of_call {result : Except Alarm π}
    (h : (adaptation.checked type g input).catchPanic world = (.done result, after)) :
    adaptation.Checks type g input world result after := by
  rw [Act.catchPanic_iff, checked_eq, map_eq_pure_bind, captureAs, bind_assoc] at h
  rcases Act.caught_of_bind h with ⟨alarm, rfl, hcall⟩ | ⟨outcome, middle, hcall, hrest⟩
  · exact .panicked hcall
  cases outcome with
  | ok value =>
    cases result <;> cases hrest
    exact .returned hcall
  | error error =>
    by_cases howns : type.Owns error
    · obtain ⟨failure, rfl, howned⟩ :
          ∃ failure, error = .leaf failure ∧ type.owns failure = true := by
        cases error with
        | leaf failure => exact ⟨failure, rfl, howns⟩
        | _ => exact howns.elim
      have htake : type.takeAt 0 (.leaf failure) = .ok failure := if_pos howned
      simp only [htake, FailureType.defer, bind_assoc, pure_bind] at hrest
      rcases Act.caught_of_bind hrest with ⟨alarm, rfl, hreassert⟩ | ⟨_, last, hreassert, hend⟩
      · exact .shaken hcall howned hreassert
      · cases result <;> cases hend
        exact .stored hcall howned hreassert
    · simp only [type.takeAt_of_not_owns howns] at hrest
      cases result <;> cases hrest
      exact .refused hcall howns

end

/-- What is to be said of a checked form, and of the typed form over a callable that fails with
failures of the type. -/
structure Agrees [Wording ε] (adaptation : Adaptation ε ρ α π) (type : FailureType ω κ ε)
    (f : ρ → Run ω κ (Except ε α)) : Prop where
  /-- Over the callable with its errors as dynamic ones, the checked form does the same on every
  call: it comes to the same, or to the same panic, in the same world. -/
  boxed : adaptation.checked type (fun input => (f input).boxed) = adaptation.typed type f
  /-- So it is with any calls in a row, whatever is done with what comes of them. -/
  inRow : ∀ {δ : Type} (argument : δ → ρ) (receive : δ → Except Alarm π → Run ω κ δ) times,
    Act.callsInRow (adaptation.checked type fun input => (f input).boxed) argument receive times =
      Act.callsInRow (adaptation.typed type f) argument receive times
  /-- Over any callable with dynamic errors, the checked form is the typed one, over the callable
  that panics itself with an error that is not a failure of the type. -/
  demands : ∀ g : ρ → Run ω κ (Outcome ε α),
    adaptation.checked type g = adaptation.typed type fun input => g input >>= type.demand
  /-- Such an error is the text of a panic. Nothing is stored, and the world is left as the callable
  has left it. -/
  refuses : ∀ (g : ρ → Run ω κ (Outcome ε α)) input world after error,
    g input world = (.done (.error error), after) → ¬type.Owns error →
      adaptation.checked type g input world =
          (.panicked (.message (type.contractText error)), after) ∧
        type.captureAsBoxings (g input) world = []
  /-- After that, and after any other panic, the next call goes as any call does. -/
  goesOn : ∀ {δ : Type} (g : ρ → Run ω κ (Outcome ε α)) (argument : δ → ρ)
    (receive : δ → Except Alarm π → Run ω κ δ) times state world last after,
    Act.callsInRow (adaptation.checked type g) argument receive times state world =
        (.done last, after) →
      InRow (adaptation.Checks type g) argument receive times state world last after

/-- The two forms of every adapter agree: over every callable that fails with failures of the type,
the checked form does on every call what the typed form does. Everything else that a callable with
dynamic errors may fail with makes the checked form panic, also a failure of the type under layers
or in another error; and that leaves no trace. -/
theorem checked_agrees [Wording ε] (adaptation : Adaptation ε ρ α π) (type : FailureType ω κ ε)
    {f : ρ → Run ω κ (Except ε α)} (hcovers : ∀ input, type.Covers (f input)) :
    adaptation.Agrees type f ∧
      (∀ (error : DynError ε) count, ¬type.Owns (error.layered (count + 1))) ∧
      ∀ message suppressed, ¬type.Owns (.interrupted message suppressed) := by
  have hboxed : adaptation.checked type (fun input => (f input).boxed) =
      adaptation.typed type f := by
    rw [checked_eq_typed]
    exact congrArg (adaptation.typed type) (funext fun input => (hcovers input).demand_boxed)
  refine ⟨?_, type.not_owns_layered, fun _ _ => id⟩
  constructor
  case boxed => exact hboxed
  case inRow =>
    intro δ argument receive times
    rw [hboxed]
  case demands => exact adaptation.checked_eq_typed type
  case refuses =>
    intro g input world after error hcall hforeign
    exact ⟨checked_of_not_owns hcall hforeign,
      FailureType.captureAsBoxings_of_not_owns hcall hforeign⟩
  case goesOn =>
    intro δ g argument receive times state world last after hcalls
    exact .of_calls (fun _ _ _ _ hcall => .of_call hcall) hcalls

end Adaptation

namespace Script

/-- A function that fails once its token is cancelled, and reports the token. -/
theorem checked_agrees_halt :
    let type := Kind.halt.failureType
    let f : Int → ScriptRun (Except Fault Int) := fun n => do
      match ← Token.check ⟨1⟩ with
      | .ok () => pure (.ok (n + 1))
      | .error token => pure (.error (.halt (some token) "late" 0 .empty))
    let adaptation : Adaptation Fault Int Int (Deferred Fault Int) := .function
    (∀ n, type.Covers (f n)) ∧ adaptation.Agrees type f ∧
      (∀ (error : DynError Fault) count, ¬type.Owns (error.layered (count + 1))) ∧
      ∀ message suppressed, ¬type.Owns (.interrupted message suppressed) := by
  intro type f adaptation
  have hcovers (n : Int) : type.Covers (f n) := by
    intro world result after hdone failure hfailure
    obtain ⟨checked, middle, -, hend⟩ := Act.done_of_bind hdone
    cases checked with
    | ok _ =>
      cases hend
      cases hfailure
    | error token =>
      cases hend
      cases hfailure
      rfl
  exact ⟨hcovers, adaptation.checked_agrees type hcovers⟩

end Script

end Deferral
