/-!
# The cell of a promise

A promise and its completers share one cell. Every operation on the cell is a single step under the
cell's lock: a total function from the cell to an answer and the next cell. What has to be done after
the lock is released, running a listener or waking a waker, is handed out as a `Duty`.

A cell moves from pending over ready to taken, or from pending straight to taken when a listener
waits for it, and never back.

Beside the cell stands the number of completers that are alive. Giving one up is a step of its own,
which says whether it was the last; breaking the promise is then the next step.
-/

namespace Deferral

/-- A cell with listeners in `ο`, wakers in `ν` and outcomes in `β`. -/
inductive Cell (ο ν β : Type) where
  | pending (listener : Option ο) (waker : Option ν)
  | ready (outcome : β)
  | taken
deriving DecidableEq, Repr

/-- What the side that settled a cell does after releasing the lock. -/
inductive Duty (ο ν β : Type) where
  | notify (listener : ο) (outcome : β)
  | wake (waker : ν)
  | rest
deriving DecidableEq, Repr

/-- What asking for the outcome comes to. -/
inductive Polled (β : Type) where
  | ready (outcome : β)
  | pending
  /-- The outcome has been handed out before. -/
  | spent
deriving DecidableEq, Repr

/-- What registering a listener comes to. -/
inductive Listened (β : Type) where
  /-- The listener runs at once, with this outcome. -/
  | now (outcome : β)
  /-- The listener runs when the cell is settled. -/
  | later
  /-- The outcome has been handed out before, and the listener never runs. -/
  | never
deriving DecidableEq, Repr

namespace Cell

variable {ο ν β : Type}

/-- A new cell. -/
def fresh : Cell ο ν β := pending none none

/-- Settle the cell, unless it has been settled before: then the answer is `none` and nothing
changes. -/
def settle (outcome : β) : Cell ο ν β → Option (Duty ο ν β) × Cell ο ν β
  | pending (some listener) _ => (some (.notify listener outcome), taken)
  | pending none (some waker) => (some (.wake waker), ready outcome)
  | pending none none => (some .rest, ready outcome)
  | ready first => (none, ready first)
  | taken => (none, taken)

/-- Ask for the outcome. A pending cell keeps the waker of the last one who asked. -/
def poll (waker : ν) : Cell ο ν β → Polled β × Cell ο ν β
  | pending listener _ => (.pending, pending listener (some waker))
  | ready outcome => (.ready outcome, taken)
  | taken => (.spent, taken)

/-- Register the one listener. It takes the place of a waker. -/
def listen (listener : ο) : Cell ο ν β → Listened β × Cell ο ν β
  | pending _ _ => (.later, pending (some listener) none)
  | ready outcome => (.now outcome, taken)
  | taken => (.never, taken)

/-- Has the cell been settled? -/
def isSettled : Cell ο ν β → Bool
  | pending _ _ => false
  | ready _ => true
  | taken => true

/-- Has the outcome been handed out? -/
def isTaken : Cell ο ν β → Bool
  | pending _ _ => false
  | ready _ => false
  | taken => true

end Cell

/-- What a promise shares with its completers: the cell, and how many completers are alive. -/
structure Shared (ο ν β : Type) where
  cell : Cell ο ν β
  completers : Nat
deriving DecidableEq, Repr

namespace Shared

variable {ο ν β γ : Type}

/-- A new promise has one completer. -/
def fresh : Shared ο ν β := ⟨.fresh, 1⟩

/-- A promise whose outcome has been handed out, and whose completers are gone. -/
def spent : Shared ο ν β := ⟨.taken, 0⟩

/-- One step on the cell. -/
def onCell (step : Cell ο ν β → γ × Cell ο ν β) (shared : Shared ο ν β) : γ × Shared ο ν β :=
  let (answer, cell) := step shared.cell
  (answer, { shared with cell })

/-- One more completer is alive. -/
def retain (shared : Shared ο ν β) : Unit × Shared ο ν β :=
  ((), { shared with completers := shared.completers + 1 })

/-- One completer less is alive. Was it the last one? -/
def release (shared : Shared ο ν β) : Bool × Shared ο ν β :=
  (shared.completers == 1, { shared with completers := shared.completers - 1 })

end Shared

end Deferral
