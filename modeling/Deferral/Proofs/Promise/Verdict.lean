import Deferral.Proofs.Effects
import Deferral.Proofs.Promise.Classification

/-!
# What claiming visibly does

What a look-up of a cancellation comes to, and what it visibly does, may depend on the failure and
on whatever the type sees of the world. Then claiming an outcome comes to a verdict that depends on
the outcome and on what is seen, and on nothing else: it is the same whenever the outcome is claimed.
-/

namespace Deferral

namespace FailureType

variable {ω κ ν ε α : Type}

/-- What a look-up comes to and what it visibly does is as `shown` says, given the failure and what
`view` shows of the world. -/
structure Shows (type : FailureType ω κ ε) (view : World ω κ → ν)
    (shown : ε → ν → Exit (Option Token) × Effect) : Prop where
  exit : ∀ failure world, (type.cancellation failure world).1 = (shown failure (view world)).1
  turns : ∀ failure world,
    (shown failure (view world)).2.Turns world (type.cancellation failure world).2

variable (type : FailureType ω κ ε)

/-- What claiming a failure comes to and visibly does, given what the look-up does. -/
def treated (failure : ε) :
    Exit (Option Token) × Effect → Exit (Outcome ε (Deferred ε α)) × Effect
  | (.done none, effect) => (.done (.ok (.failure failure)), effect)
  | (.done (some token), effect) =>
    (.done (.ok (.failure failure)),
      effect.andThen ((Effect.cancel token).andThen (.log (.asserted type.name))))
  | (.panicked alarm, effect) =>
    (.done (.error (.interrupted alarm.text (.leaf failure))),
      effect.andThen (.log (.bridgeInterrupted alarm.text)))
  | (.unfinished, effect) => (.unfinished, effect)

/-- What claiming an outcome comes to and visibly does. -/
def verdict (shown : ε → ν → Exit (Option Token) × Effect) (seen : ν) :
    Outcome ε α → Exit (Outcome ε (Deferred ε α)) × Effect
  | .ok value => (.done (.ok (.value value)), .nothing)
  | .error error =>
    match type.depth? error with
    | none => (.done (.error error), .nothing)
    | some depth =>
      match type.takeAt depth error with
      | .error rest => (.done (.error rest), .nothing)
      | .ok failure => type.treated failure (shown failure seen)

/-- No type finds a failure in the error of a task that panicked. -/
theorem verdict_crashed (shown : ε → ν → Exit (Option Token) × Effect) (seen : ν) :
    type.verdict shown seen (.error .crashed : Outcome ε α) = (.done (.error .crashed), .nothing) :=
  rfl

variable {type} {view : World ω κ → ν} {shown : ε → ν → Exit (Option Token) × Effect}

/-- Asserting the cancellation of a failure, with a panic caught, and then handing the failure out
is what treating it says. -/
theorem Shows.treated (hshows : type.Shows view shown) (failure : ε) (world : World ω κ) :
    let claimed := (do
      match ← (type.reassert failure).catchPanic with
      | .ok () => pure (.ok (.failure failure))
      | .error alarm => return .error (← interrupt alarm (.leaf failure)) :
        Run ω κ (Outcome ε (Deferred ε α))) world
    claimed.1 = (type.treated failure (shown failure (view world)) :
        Exit (Outcome ε (Deferred ε α)) × Effect).1 ∧
      (type.treated failure (shown failure (view world)) :
        Exit (Outcome ε (Deferred ε α)) × Effect).2.Turns world claimed.2 := by
  have hexit := hshows.exit failure world
  have hturns := hshows.turns failure world
  generalize shown failure (view world) = look at hexit hturns ⊢
  obtain ⟨exit, effect⟩ := look
  rcases hlookup : type.cancellation failure world with ⟨(_ | token) | alarm | _, after⟩
  all_goals
    rw [hlookup] at hexit hturns
    obtain rfl := hexit
    simp only [reassert, Act.bind_apply, Act.catchPanic, hlookup]
  · exact ⟨rfl, hturns⟩
  · refine ⟨rfl, hturns.andThen ?_⟩
    exact (Effect.turns_cancel after token).andThen (Effect.turns_log _ _)
  · exact ⟨rfl, hturns.andThen (Effect.turns_log _ _)⟩
  · exact ⟨rfl, hturns⟩

/-- Claiming comes to the verdict, and does what the verdict says. -/
theorem Shows.claim (hshows : type.Shows view shown) (outcome : Outcome ε α) (world : World ω κ) :
    (type.claim outcome world).1 = (type.verdict shown (view world) outcome).1 ∧
      (type.verdict shown (view world) outcome).2.Turns world (type.claim outcome world).2 := by
  cases outcome with
  | ok value => exact ⟨rfl, .refl world⟩
  | error error =>
    simp only [FailureType.claim, verdict]
    cases type.depth? error with
    | none => exact ⟨rfl, .refl world⟩
    | some depth =>
      cases htake : type.takeAt depth error with
      | error rest =>
        simp only [htake]
        exact ⟨rfl, .refl world⟩
      | ok failure =>
        simp only [htake]
        exact hshows.treated failure world

/-- To ask a lamp for its token comes to the same whatever is seen, and does nothing. -/
theorem lamps_shows : lamps.Shows (fun _ : World Unit Unit => ()) fun lit _ =>
    (if lit then .done (some ⟨7⟩) else .panicked .object, .nothing) where
  exit lit _ := by cases lit <;> rfl
  turns lit world := by cases lit <;> exact .refl world

end FailureType

end Deferral
