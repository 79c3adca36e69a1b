import Deferral.Script.Callable

/-!
# Reports on the steps of a script

A script runs step by step. The report on a step holds how it ended, what was traced since the step
before, and the state of every token after it.
-/

namespace Deferral.Script

/-- The report on a step with an answer in `α`. -/
structure Report (α : Type) where
  exit : Exit α
  trace : Array (Entry Event)
  flags : Token → Bool

/-- The world at the start of a script: which tokens are cancelled, and nothing has happened. -/
def ScriptWorld.start (flags : Token → Bool) : ScriptWorld := ⟨flags, #[], fun _ => 0⟩

/-- Run a step and report on it. The next step starts with an empty trace. -/
def reported {α : Type} (act : ScriptRun α) (world : ScriptWorld) : Report α × ScriptWorld :=
  let (exit, world) := act world
  (⟨exit, world.trace, world.cancelled⟩, { world with trace := #[] })

/-- Run a step over a state kept beside the world, and report on it. -/
def reportedBeside {τ α : Type} (act : Act (τ × ScriptWorld) α) (state : τ) (world : ScriptWorld) :
    Report α × τ × ScriptWorld :=
  let (exit, state, world) := act (state, world)
  (⟨exit, world.trace, world.cancelled⟩, state, { world with trace := #[] })

/-- How many steps of an iterator a script allows before it gives up. -/
def stepBudget : Nat := 10000000

end Deferral.Script
