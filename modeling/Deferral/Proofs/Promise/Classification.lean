import Deferral.Promise.Claim
import Mathlib.Logic.ExistsUnique

/-!
# Exact classification

Claiming the failures of an outcome walks over its error twice: once to count the layers above a
failure, and once to take them off. Here the two walks are shown to agree, every error is seen to be
some layers over an error that is not a layer, and the three ways in which claiming ends are each
given exactly, with what becomes of the world.
-/

namespace Deferral

variable {ω κ ε α : Type}

namespace DynError

/-- An error that is not a layer. -/
def Bare : DynError ε → Prop
  | layer _ => False
  | leaf _ | interrupted _ _ | abandoned | crashed => True

/-- Every error is some layers over an error that is not a layer. -/
theorem exists_layered (error : DynError ε) :
    ∃ first count, Bare first ∧ error = first.layered count := by
  induction error with
  | leaf error => exact ⟨leaf error, 0, trivial, rfl⟩
  | layer source ih =>
    obtain ⟨first, count, hbare, rfl⟩ := ih
    exact ⟨first, count + 1, hbare, rfl⟩
  | interrupted message suppressed => exact ⟨interrupted message suppressed, 0, trivial, rfl⟩
  | abandoned => exact ⟨abandoned, 0, trivial, rfl⟩
  | crashed => exact ⟨crashed, 0, trivial, rfl⟩

/-- The layers over an error and the error under them are determined. -/
theorem layered_inj {first second : DynError ε} {count other : Nat} (hfirst : first.Bare)
    (hsecond : second.Bare) (h : first.layered count = second.layered other) :
    first = second ∧ count = other := by
  induction count generalizing other with
  | zero =>
    cases other with
    | zero => exact ⟨h, rfl⟩
    | succ other =>
      rw [layered, layered] at h
      rw [h] at hfirst
      exact hfirst.elim
  | succ count ih =>
    cases other with
    | zero =>
      rw [layered, layered] at h
      rw [← h] at hsecond
      exact hsecond.elim
    | succ other =>
      obtain ⟨hsame, hcount⟩ := ih (layer.inj h)
      exact ⟨hsame, congrArg (· + 1) hcount⟩

end DynError

namespace FailureType

/-- Is this error, as it stands, a failure of the type? -/
def Owns (type : FailureType ω κ ε) : DynError ε → Prop
  | .leaf failure => type.owns failure = true
  | .layer _ | .interrupted _ _ | .abandoned | .crashed => False

variable (type : FailureType ω κ ε)

/-- The counting walk counts the layers. -/
theorem depth?_layered (error : DynError ε) (count : Nat) :
    type.depth? (error.layered count) = (type.depth? error).map (· + count) := by
  induction count with
  | zero => simp [DynError.layered]
  | succ count ih =>
    rw [DynError.layered, depth?, ih, Option.map_map]
    rfl

/-- The counting walk finds nothing in an error that is neither a layer nor a failure of the
type. -/
theorem depth?_of_not_owns {first : DynError ε} (hbare : first.Bare) (hforeign : ¬type.Owns first) :
    type.depth? first = none := by
  cases first with
  | leaf failure => exact if_neg hforeign
  | layer source => exact hbare.elim
  | interrupted message suppressed => rfl
  | abandoned => rfl
  | crashed => rfl

/-- The taking walk takes the layers off, and finds the failure under them. -/
theorem takeAt_layered {failure : ε} (howns : type.owns failure = true) (count : Nat) :
    type.takeAt count ((DynError.leaf failure).layered count) = .ok failure := by
  induction count with
  | zero => exact if_pos howns
  | succ count ih => exact ih

/-- What claiming a failure comes to, once its cancellation has been looked up. -/
def resolved (failure : ε) :
    Exit (Option Token) × World ω κ → Exit (Outcome ε (Deferred ε α)) × World ω κ
  | (.done none, world) => (.done (.ok (.failure failure)), world)
  | (.done (some token), world) =>
    (.done (.ok (.failure failure)),
      (world.setFlag token true).push (.notice (.asserted type.name)))
  | (.panicked alarm, world) =>
    (.done (.error (.interrupted alarm.text (.leaf failure))),
      world.push (.notice (.bridgeInterrupted alarm.text)))
  | (.unfinished, world) => (.unfinished, world)

/-- A failure of the type is claimed from under its layers. -/
theorem claim_layered {failure : ε} (howns : type.owns failure = true) (count : Nat)
    (world : World ω κ) :
    type.claim (.error ((DynError.leaf failure).layered count) : Outcome ε α) world =
      type.resolved failure (type.cancellation failure world) := by
  have hdepth : type.depth? ((DynError.leaf failure).layered count) = some count := by
    rw [depth?_layered, depth?, if_pos howns, Option.map_some, Nat.zero_add]
  simp only [claim, hdepth, type.takeAt_layered howns count, Act.bind_apply, Act.catchPanic,
    reassert]
  rcases type.cancellation failure world with ⟨_ | _ | _, after⟩
  · next token => cases token <;> rfl
  · rfl
  · rfl

/-- Every other error is left as it is, with its layers. -/
theorem claim_foreign {first : DynError ε} (hbare : first.Bare) (hforeign : ¬type.Owns first)
    (count : Nat) (world : World ω κ) :
    type.claim (.error (first.layered count) : Outcome ε α) world =
      (.done (.error (first.layered count)), world) := by
  have hdepth : type.depth? (first.layered count) = none := by
    rw [depth?_layered, type.depth?_of_not_owns hbare hforeign, Option.map_none]
  simp only [claim, hdepth, Act.pure_apply]

/-- An outcome is a value, a failure of the type under some layers, or anything else under some
layers. -/
theorem outcome_cases (outcome : Outcome ε α) :
    (∃ value, outcome = .ok value) ∨
      (∃ failure count, type.owns failure = true ∧
        outcome = .error ((DynError.leaf failure).layered count)) ∨
        ∃ first count, first.Bare ∧ ¬type.Owns first ∧ outcome = .error (first.layered count) := by
  cases outcome with
  | ok value => exact .inl ⟨value, rfl⟩
  | error error =>
    obtain ⟨first, count, hbare, rfl⟩ := error.exists_layered
    by_cases howns : type.Owns first
    · cases first with
      | leaf failure => exact .inr (.inl ⟨failure, count, howns, rfl⟩)
      | layer source => exact hbare.elim
      | interrupted message suppressed => exact howns.elim
      | abandoned => exact howns.elim
      | crashed => exact howns.elim
    · exact .inr (.inr ⟨first, count, hbare, howns, rfl⟩)

/-- Claiming returns, unless the look-up of a cancellation does not. -/
theorem claim_returns (outcome : Outcome ε α) (world : World ω κ) :
    (∃ claimed, (type.claim outcome world).1 = .done claimed) ∨
      (type.claim outcome world).1 = .unfinished ∧
        ∃ failure, type.owns failure = true ∧
          (type.cancellation failure world).1 = .unfinished := by
  rcases type.outcome_cases outcome with ⟨value, rfl⟩ | ⟨failure, count, howns, rfl⟩ |
    ⟨first, count, hbare, hforeign, rfl⟩
  · exact .inl ⟨_, rfl⟩
  · rw [type.claim_layered howns count world]
    rcases hlookup : type.cancellation failure world with ⟨_ | _ | _, after⟩
    · next token => cases token <;> exact .inl ⟨_, rfl⟩
    · exact .inl ⟨_, rfl⟩
    · exact .inr ⟨rfl, failure, howns, by rw [hlookup]⟩
  · rw [type.claim_foreign hbare hforeign count world]
    exact .inl ⟨_, rfl⟩

/-- A bridge classifies every outcome exactly. A value is kept. A failure of the type is claimed
from under any number of layers, with its cancellation asserted, or kept as the source of the error
when the look-up of its cancellation panics. Any other error is left alone with its layers, and so
are the world and its tokens. -/
theorem claim_classifies (type : FailureType ω κ ε) (world : World ω κ) :
    (∀ value : α, type.claim (.ok value) world = (.done (.ok (.value value)), world)) ∧
    (∀ (failure : ε) (count : Nat), type.owns failure = true →
      let claimed := type.claim (.error ((DynError.leaf failure).layered count) : Outcome ε α) world
      (∀ after, type.cancellation failure world = (.done none, after) →
        claimed = (.done (.ok (.failure failure)), after)) ∧
      (∀ token after, type.cancellation failure world = (.done (some token), after) →
        claimed = (.done (.ok (.failure failure)),
          (after.setFlag token true).push (.notice (.asserted type.name)))) ∧
      (∀ text after, type.cancellation failure world = (.panicked (.message text), after) →
        claimed = (.done (.error (.interrupted text (.leaf failure))),
          after.push (.notice (.bridgeInterrupted text)))) ∧
      (∀ after, type.cancellation failure world = (.panicked .object, after) →
        claimed = (.done (.error (.interrupted "unknown panic" (.leaf failure))),
          after.push (.notice (.bridgeInterrupted "unknown panic"))))) ∧
    (∀ (first : DynError ε) (count : Nat), first.Bare → ¬type.Owns first →
      type.claim (.error (first.layered count) : Outcome ε α) world =
        (.done (.error (first.layered count)), world)) ∧
    (∀ error : DynError ε, ∃! parts : DynError ε × Nat,
      parts.1.Bare ∧ error = parts.1.layered parts.2) ∧
    (∀ (error : DynError ε) (depth : Nat), type.depth? error = some depth →
      ∃ failure, type.takeAt depth error = .ok failure ∧ type.owns failure = true ∧
        error = (DynError.leaf failure).layered depth) ∧
    (∀ outcome : Outcome ε α, (∃ claimed, (type.claim outcome world).1 = .done claimed) ∨
      (type.claim outcome world).1 = .unfinished ∧
        ∃ failure, type.owns failure = true ∧
          (type.cancellation failure world).1 = .unfinished) := by
  refine ⟨fun _ => rfl, fun failure count howns => ?_, ?_, fun error => ?_, ?_, ?_⟩
  · have hclaim := type.claim_layered (α := α) howns count world
    refine ⟨?_, ?_, ?_, ?_⟩
    · intro after hlookup
      rw [hclaim, hlookup, resolved]
    · intro token after hlookup
      rw [hclaim, hlookup, resolved]
    · intro text after hlookup
      rw [hclaim, hlookup, resolved, Alarm.text]
    · intro after hlookup
      rw [hclaim, hlookup, resolved, Alarm.text]
  · intro first count hbare hforeign
    exact type.claim_foreign hbare hforeign count world
  · obtain ⟨first, count, hbare, rfl⟩ := error.exists_layered
    refine ⟨(first, count), ⟨hbare, rfl⟩, ?_⟩
    rintro ⟨second, other⟩ ⟨hsecond, hsame⟩
    obtain ⟨rfl, rfl⟩ := DynError.layered_inj hbare hsecond hsame
    rfl
  · intro error depth hdepth
    exact type.takeAt_depth? hdepth
  · intro outcome
    exact type.claim_returns outcome world

/-- A type of two failures: one reports a token, and the other panics when it is asked. -/
def lamps : FailureType Unit Unit Bool where
  name := "Lamp"
  owns _ := true
  cancellation lit := if lit then pure (some ⟨7⟩) else .panic .object
  copy lit := pure (.ok lit)
  slots _ := pure none

/-- A failure under two layers is claimed and its token set, one whose look-up panics is kept as the
source of the error, and a broken promise is left under its layers. -/
theorem claim_classifies_lamps :
    let world : World Unit Unit := ⟨fun _ => false, #[], ()⟩
    lamps.claim (.error ((DynError.leaf true).layered 2) : Outcome Bool Nat) world =
        (.done (.ok (.failure true)),
          (world.setFlag ⟨7⟩ true).push (.notice (.asserted "Lamp"))) ∧
      lamps.claim (.error ((DynError.leaf false).layered 1) : Outcome Bool Nat) world =
        (.done (.error (.interrupted "unknown panic" (.leaf false))),
          world.push (.notice (.bridgeInterrupted "unknown panic"))) ∧
      lamps.claim (.error (DynError.abandoned.layered 3) : Outcome Bool Nat) world =
        (.done (.error (DynError.abandoned.layered 3)), world) := by
  intro world
  obtain ⟨-, howned, hforeign, -⟩ := lamps.claim_classifies (α := Nat) world
  refine ⟨?_, ?_, ?_⟩
  · exact (howned true 2 rfl).2.1 ⟨7⟩ world rfl
  · exact (howned false 1 rfl).2.2.2 world rfl
  · exact hforeign .abandoned 3 trivial id

end FailureType

end Deferral
