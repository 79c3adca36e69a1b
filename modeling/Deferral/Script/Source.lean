import Deferral.Iter.Deferred
import Deferral.Script.Report

/-!
# Sources of items

A source is a list of items, some of which may be gaps: a pull that meets a gap finds nothing, and
the next pull goes on behind it. An endless source starts over when it has reached its end. Every
pull is traced before the item it found is built.

A sequence is what a callable makes for an adapter to spread: the elements of a list, nothing for
nothing, and a single element for anything else.
-/

namespace Deferral.Script

/-- A described source. A missing item is a gap. -/
structure Source (α : Type) where
  items : List (Option α)
  hint : Option Hint
  endless : Bool

namespace Source

variable {α β : Type}

/-- The index of the item at a position. -/
def index (source : Source α) (position : Nat) : Nat :=
  if source.endless then position % source.items.length else position

/-- The bounds that a source reports at a position. -/
def hintAt (source : Source α) (position : Nat) : Hint :=
  match source.hint with
  | some hint => hint
  | none =>
    if source.endless then ⟨0, none⟩ else Hint.exactly (source.items.length - position)

/-- Move on by one item. -/
def advance : Act (Nat × ScriptWorld) Unit := .change fun whole => (whole.1 + 1, whole.2)

/-- The items of a source, each built when it is pulled. The state is the position. -/
def iter (source : Source α) (build : α → ScriptRun β) : Iter ScriptWorld Nat β where
  step := do
    let index := source.index (← Act.read Prod.fst)
    match source.items[index]? with
    | none =>
      (emit (.pulled .nothing)).beside
      pure .finish
    | some none =>
      advance
      (emit (.pulled .nothing)).beside
      pure .finish
    | some (some item) =>
      advance
      (emit (.pulled (.item index))).beside
      return .yield (← (build item).beside)
  hint := source.hintAt

end Source

/-- The sequence that a value stands for. -/
def Value.sequence : Value → List Value
  | .list elements => elements
  | .none => []
  | other => [other]

/-- The elements of a sequence. The state holds those that are left. -/
def sequenceIter : Iter ScriptWorld (List Value) Value where
  step := do
    match ← Act.read Prod.fst with
    | [] => pure .finish
    | element :: rest =>
      Act.change fun whole => (rest, whole.2)
      (emit (.pulled (.element element))).beside
      pure (.yield element)
  hint left := .exactly left.length

/-- Call a routine for a sequence. -/
def Routine.sequenceTyped (routine : Routine) (argument : Value) :
    ScriptRun (Except Fault (List Value)) := do
  return (← routine.callTyped argument).map Value.sequence

/-- Call a routine with dynamic errors for a sequence. -/
def Routine.sequenceDynamic (routine : Routine) (argument : Value) :
    ScriptRun (Outcome Fault (List Value)) := do
  return (← routine.callDynamic argument).map Value.sequence

end Deferral.Script
