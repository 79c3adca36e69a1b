/-!
# Computations with effects

A computation `Act σ α` reads and changes a world `σ` and ends in one of three ways: it is done
with a result, it panics, or it is left unfinished because the number of steps it was allowed ran
out. A panic undoes nothing, so the world after a panic is the world at that moment. This is what
lets a pipeline go on after one of its callables has panicked.
-/

namespace Deferral

/-- What a panic carries out of the computation that raised it: a text, or an object without one. -/
inductive Alarm where
  | message (text : String)
  | object
deriving DecidableEq, Repr

/-- The three ways in which a computation ends. -/
inductive Exit (α : Type) where
  | done (result : α)
  | panicked (alarm : Alarm)
  | unfinished
deriving DecidableEq, Repr

/-- A computation over a world `σ` with a result in `α`. -/
def Act (σ α : Type) : Type := σ → Exit α × σ

namespace Act

variable {σ ρ α β : Type}

instance : Monad (Act σ) where
  pure a := fun world => (.done a, world)
  bind act next := fun world =>
    match act world with
    | (.done a, world) => next a world
    | (.panicked alarm, world) => (.panicked alarm, world)
    | (.unfinished, world) => (.unfinished, world)

/-- A result that needs no effect leaves the world as it is. -/
@[simp] theorem pure_apply (a : α) (world : σ) : (pure a : Act σ α) world = (.done a, world) := rfl

/-- A sequence goes on only after a first part that is done. -/
theorem bind_apply (act : Act σ α) (next : α → Act σ β) (world : σ) :
    (act >>= next) world =
      match act world with
      | (.done a, world) => next a world
      | (.panicked alarm, world) => (.panicked alarm, world)
      | (.unfinished, world) => (.unfinished, world) := rfl

/-- Two computations with the same exit and the same final world from every start are equal. -/
theorem ext {first second : Act σ α} (h : ∀ world, first world = second world) : first = second :=
  funext h

instance : LawfulMonad (Act σ) := LawfulMonad.mk' (Act σ)
  (fun act => ext fun world => by
    change (act >>= fun a => pure (id a)) world = act world
    rw [bind_apply]
    rcases act world with ⟨_ | _ | _, _⟩ <;> rfl)
  (fun _ _ => rfl)
  (fun act first second => ext fun world => by
    simp only [bind_apply]
    rcases act world with ⟨_ | _ | _, _⟩ <;> rfl)

/-- Panic with `alarm`. -/
def panic (alarm : Alarm) : Act σ α := fun world => (.panicked alarm, world)

/-- Give up because the allowed number of steps is used up. -/
def giveUp : Act σ α := fun world => (.unfinished, world)

/-- Read something off the world. -/
def read (view : σ → α) : Act σ α := fun world => (.done (view world), world)

/-- Change the world. -/
def change (f : σ → σ) : Act σ Unit := fun world => (.done (), f world)

/-- Run `act` and hand its panic out as data. -/
def catchPanic (act : Act σ α) : Act σ (Except Alarm α) := fun world =>
  match act world with
  | (.done a, world) => (.done (.ok a), world)
  | (.panicked alarm, world) => (.done (.error alarm), world)
  | (.unfinished, world) => (.unfinished, world)

/-- Run a computation that does not touch the state kept beside its world. -/
def beside (act : Act σ α) : Act (ρ × σ) α := fun (kept, world) =>
  let (result, world) := act world
  (result, kept, world)

/-- Run a computation with a state of its own, which is forgotten afterwards. -/
def locally (state : ρ) (act : Act (ρ × σ) α) : Act σ α := fun world =>
  let (result, _, world) := act (state, world)
  (result, world)

end Act

end Deferral
