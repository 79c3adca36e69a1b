import Deferral.Iter.Basic

/-!
# Flat mapping

`Iter.flatMap` turns each element into a piece, an iterator of its own, and yields the elements of
the pieces one after the other. `Iter.flatOption` is the case in which a piece holds at most one
element, for which no piece has to be kept between two elements. Neither asks its source again after
the source has reported an end.
-/

namespace Deferral

/-- The state of a flat map: the source, whether it has ended, and the piece being read. -/
structure Flat (τ ι : Type) where
  source : τ
  ended : Bool
  piece : Option ι
deriving DecidableEq, Repr

namespace Flat

variable {σ τ ι : Type}

/-- A flat map that has not asked its source for anything. -/
def start (source : τ) : Flat τ ι := ⟨source, false, none⟩

/-- Run a computation over the source. -/
def onSource {α : Type} (act : Act (τ × σ) α) : Act (Flat τ ι × σ) α := fun (flat, world) =>
  let (result, source, world) := act (flat.source, world)
  (result, { flat with source }, world)

/-- Run a computation over a piece, which becomes the piece being read. -/
def onPiece {α : Type} (piece : ι) (act : Act (ι × σ) α) : Act (Flat τ ι × σ) α :=
  fun (flat, world) =>
    let (result, piece, world) := act (piece, world)
    (result, { flat with piece := some piece }, world)

end Flat

namespace Iter

variable {σ τ ι α β : Type}

/-- Read the elements of the pieces that `f` makes of the source's elements. -/
def flatMap (iter : Iter σ τ α) (f : α → Act σ ι) (inner : Iter σ ι β) :
    Iter σ (Flat τ ι) β where
  step := do
    match ← Act.read fun whole => whole.1.piece with
    | some piece =>
      match ← Flat.onPiece piece inner.step with
      | .finish =>
        Act.change fun whole => ({ whole.1 with piece := none }, whole.2)
        pure .skip
      | result => pure result
    | none =>
      if ← Act.read fun whole => whole.1.ended then
        pure .finish
      else
        match ← Flat.onSource iter.step with
        | .yield element =>
          let piece ← (f element).beside
          Act.change fun whole => ({ whole.1 with piece := some piece }, whole.2)
          pure .skip
        | .skip => pure .skip
        | .finish =>
          Act.change fun whole => ({ whole.1 with ended := true }, whole.2)
          pure .finish
  hint state :=
    let source := if state.ended then Hint.exactly 0 else iter.hint state.source
    let piece := match state.piece with
      | some piece => inner.hint piece
      | none => Hint.exactly 0
    ⟨piece.lower, if source = Hint.exactly 0 then piece.upper else none⟩

/-- Read the elements that `f` makes of the source's elements, where it makes any. The second part
of the state says whether the source has ended. -/
def flatOption (iter : Iter σ τ α) (f : α → Act σ (Option β)) : Iter σ (τ × Bool) β where
  step := do
    if ← Act.read fun whole => whole.1.2 then
      pure .finish
    else
      match ← iter.stepWithin with
      | .yield element =>
        match ← (f element).beside with
        | some element => pure (.yield element)
        | none => pure .skip
      | .skip => pure .skip
      | .finish =>
        Act.change fun whole => ((whole.1.1, true), whole.2)
        pure .finish
  hint state := if state.2 then Hint.exactly 0 else (iter.hint state.1).upTo

end Iter

end Deferral
