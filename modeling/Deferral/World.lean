import Deferral.Act
import Deferral.Notice

/-!
# Tokens and the world they live in

A token is a shared flag by which one part of a program asks another to stop. The world holds the
flag of every token, the trace of everything that has happened so far, and whatever state the
client's own callables keep. The trace interleaves the notices of the library with the events of the
client in the order in which they happened.
-/

namespace Deferral

/-- A cancellation token. Two tokens share their flag exactly when they are equal. -/
structure Token where
  id : Nat
deriving DecidableEq, Repr

/-- An entry of the trace: a notice of the library, or an event of a client with events in `ω`. -/
inductive Entry (ω : Type) where
  | notice (notice : Notice)
  | event (event : ω)
deriving DecidableEq, Repr

/-- The world of a program whose client has events in `ω` and state in `κ`. -/
structure World (ω κ : Type) where
  cancelled : Token → Bool
  trace : Array (Entry ω)
  client : κ

/-- A computation of a program over its world. -/
abbrev Run (ω κ α : Type) : Type := Act (World ω κ) α

namespace World

variable {ω κ : Type}

/-- Set the flag of one token and leave every other token alone. -/
def setFlag (world : World ω κ) (token : Token) (flag : Bool) : World ω κ :=
  { world with cancelled := fun other => if other = token then flag else world.cancelled other }

/-- To write a flag changes that flag, and no other. -/
@[simp] theorem cancelled_setFlag (world : World ω κ) (token other : Token) (flag : Bool) :
    (world.setFlag token flag).cancelled other =
      if other = token then flag else world.cancelled other := rfl

/-- Append an entry to the trace. -/
def push (world : World ω κ) (entry : Entry ω) : World ω κ :=
  { world with trace := world.trace.push entry }

/-- To write an entry leaves the flags as they are. -/
@[simp] theorem cancelled_push (world : World ω κ) (entry : Entry ω) :
    (world.push entry).cancelled = world.cancelled := rfl

/-- An entry is written behind the others. -/
@[simp] theorem trace_push (world : World ω κ) (entry : Entry ω) :
    (world.push entry).trace = world.trace.push entry := rfl

end World

variable {ω κ : Type}

/-- Log a notice. -/
def log (notice : Notice) : Run ω κ Unit := .change (·.push (.notice notice))

/-- Record an event of the client. -/
def emit (event : ω) : Run ω κ Unit := .change (·.push (.event event))

namespace Token

/-- Ask for cancellation. -/
def cancel (token : Token) : Run ω κ Unit := .change (·.setFlag token true)

/-- Withdraw the request, and say whether there was one. -/
def clear (token : Token) : Run ω κ Bool := fun world =>
  (.done (world.cancelled token), world.setFlag token false)

/-- Has cancellation been asked for, and the request not been withdrawn since? -/
def isCancelled (token : Token) : Run ω κ Bool := .read (·.cancelled token)

/-- Fail with the token if its cancellation has been asked for. -/
def check (token : Token) : Run ω κ (Except Token Unit) := do
  return if ← token.isCancelled then .error token else .ok ()

end Token

end Deferral
