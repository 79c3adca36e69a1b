import Deferral.Deferred

/-!
# Dynamic errors

A dynamic error is an error whose type is known only at run time. Asynchronous code wraps the error
of the work it ran in layers, and the library has three errors of its own: that of a promise nobody
can settle any more, that of a bridge interrupted by a panic, and that of a task ended by one.
Everything else is a leaf, an error in `ε` that some failure type may own.

Layers are the only wrapper that is looked through. `FailureType.depth?` finds the layers above a
failure, `FailureType.takeAt` removes them, and `takeAt_depth?` says that the two agree.
-/

namespace Deferral

/-- An error whose type is known only at run time, with leaves in `ε`. -/
inductive DynError (ε : Type) where
  | leaf (error : ε)
  /-- The wrapper an asynchronous layer puts around the error of the work it ran. -/
  | layer (source : DynError ε)
  /-- A bridge panicked while it held `suppressed`. -/
  | interrupted (message : String) (suppressed : DynError ε)
  /-- The last completer of a promise was dropped before the promise was settled. -/
  | abandoned
  /-- A task panicked before it had an outcome. -/
  | crashed
deriving DecidableEq, Repr

/-- The wordings of the errors that the library does not word itself: those in `ε`, and that of a
task that panicked, which is up to whatever runs tasks. -/
class Wording (ε : Type) extends ToString ε where
  crashedText : String

/-- What asynchronous work ends in: a value or a dynamic error. -/
abbrev Outcome (ε α : Type) : Type := Except (DynError ε) α

namespace DynError

variable {ε : Type}

/-- What stands before the wording of the error under a layer. -/
@[irreducible] def layerPhrase : String := "asynchronous computation failed: "

/-- What stands before the message of the panic that interrupted a bridge. -/
@[irreducible] def interruptedPhrase : String := "failure bridge panicked: "

/-- The wording of a broken promise. -/
@[irreducible] def abandonedPhrase : String := "promise dropped without being completed"

/-- The wording of an error, given the wordings of a leaf and of a task that panicked. -/
def textWith (leafText : ε → String) (crashedText : String) : DynError ε → String
  | leaf error => leafText error
  | layer source => layerPhrase ++ source.textWith leafText crashedText
  | interrupted message _ => interruptedPhrase ++ message
  | abandoned => abandonedPhrase
  | crashed => crashedText

instance [Wording ε] : ToString (DynError ε) := ⟨textWith toString (Wording.crashedText ε)⟩

/-- Wrap an error in `count` layers. -/
def layered (error : DynError ε) : Nat → DynError ε
  | 0 => error
  | count + 1 => layer (error.layered count)

end DynError

namespace FailureType

variable {ω κ ε : Type}

/-- The number of layers above a failure of the type, when there is one under layers alone. -/
def depth? (type : FailureType ω κ ε) : DynError ε → Option Nat
  | .leaf error => if type.owns error then some 0 else none
  | .layer source => (type.depth? source).map (· + 1)
  | .interrupted _ _ => none
  | .abandoned => none
  | .crashed => none

/-- Remove `depth` layers and hand out the failure under them, or the error that stood in the way. -/
def takeAt (type : FailureType ω κ ε) : Nat → DynError ε → Except (DynError ε) ε
  | 0, .leaf error => if type.owns error then .ok error else .error (.leaf error)
  | depth + 1, .layer source => type.takeAt depth source
  | _, other => .error other

/-- At the depth at which a failure was found, taking it out succeeds. -/
theorem takeAt_depth? (type : FailureType ω κ ε) {error : DynError ε} {depth : Nat}
    (h : type.depth? error = some depth) :
    ∃ failure, type.takeAt depth error = .ok failure ∧ type.owns failure = true ∧
      error = (DynError.leaf failure).layered depth := by
  induction error generalizing depth with
  | leaf error =>
    by_cases howns : type.owns error = true
    · simp only [depth?, howns, if_true, Option.some.injEq] at h
      subst h
      exact ⟨error, by simp [takeAt, howns], howns, rfl⟩
    · simp [depth?, howns] at h
  | layer source ih =>
    simp only [depth?, Option.map_eq_some_iff] at h
    obtain ⟨inner, hinner, rfl⟩ := h
    obtain ⟨failure, htake, howns, rfl⟩ := ih hinner
    exact ⟨failure, htake, howns, rfl⟩
  | interrupted message suppressed => simp [depth?] at h
  | abandoned => simp [depth?] at h
  | crashed => simp [depth?] at h

end FailureType

end Deferral
