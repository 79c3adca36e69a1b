import Deferral.Proofs.Dialogue.Likeness
import Deferral.Iter.Deferred

/-!
# Likeness of iterators

An adapter turns an iterator whose steps follow each other into one whose steps do. So do the
consumers: pulling the next element, collecting all of them, and gathering the values up to the
first failure. What an iterator keeps is alike on both sides throughout, also after a panic.
-/

namespace Deferral

variable {ε σ τ ι α β γ : Type}

/-- Both steps skip, both are the end, or both yield elements that are alike. -/
inductive Step.Alike (elements : α → α → Prop) : Step α → Step α → Prop where
  | yield {first second : α} (h : elements first second) :
    Alike elements (.yield first) (.yield second)
  | skip : Alike elements .skip .skip
  | finish : Alike elements .finish .finish

/-- Both spread sequences in states that are alike, or failures that are alike, or are read to the
end. -/
inductive Spread.Alike (failures : ε → ε → Prop) (states : τ → τ → Prop) :
    Spread ε τ → Spread ε τ → Prop where
  | values {first second : τ} (h : states first second) :
    Alike failures states (.values first) (.values second)
  | failed {first second : Option ε} (h : Option.Rel failures first second) :
    Alike failures states (.failed first) (.failed second)

/-- The sources and the pieces of two flat maps are alike, and both sources have ended or neither
has. -/
structure Flat.Alike (sources : τ → τ → Prop) (pieces : ι → ι → Prop) (first second : Flat τ ι) :
    Prop where
  source : sources first.source second.source
  ended : first.ended = second.ended
  piece : Option.Rel pieces first.piece second.piece

/-- A sequence that was captured is spread as it is, and a failure as its one element. -/
theorem Spread.ofDeferred_alike {failures : ε → ε → Prop} {states : τ → τ → Prop}
    {first second : Deferred ε τ}
    (h : first.Alike failures states second) :
    (Spread.ofDeferred first).Alike failures states (Spread.ofDeferred second) := by
  cases h with
  | value hstate => exact .values hstate
  | failure hfailure => exact .failed (.some hfailure)

namespace Iter

variable {states : τ → τ → Prop} {worlds : σ → σ → Prop} {elements : α → α → Prop}
  {images : β → β → Prop} {failures : ε → ε → Prop}

/-- The steps of two iterators follow each other. -/
def Alike (states : τ → τ → Prop) (worlds : σ → σ → Prop) (elements : α → α → Prop)
    (iter other : Iter σ τ α) : Prop :=
  Act.Mirrors (Both states worlds) (Step.Alike elements) iter.step other.step

/-! ### Consumers -/

variable {iter other : Iter σ τ α}

/-- Pulling the next element of iterators that are alike finds elements that are alike, or the end
of both. -/
theorem Alike.next (h : iter.Alike states worlds elements other) (steps : Nat) :
    Act.Mirrors (Both states worlds) (Option.Rel elements) (iter.next steps)
      (other.next steps) := by
  induction steps with
  | zero => exact .giveUp
  | succ steps ih =>
    refine Act.Mirrors.bind h fun step result hstep => ?_
    cases hstep with
    | yield helement => exact .pure (.some helement)
    | skip => exact ih
    | finish => exact .pure .none

/-- Iterators that are alike are collected to lists that are alike. -/
theorem Alike.collect (h : iter.Alike states worlds elements other) (steps : Nat) :
    Act.Mirrors (Both states worlds) (List.Forall₂ elements) (iter.collect steps)
      (other.collect steps) := by
  induction steps with
  | zero => exact .giveUp
  | succ steps ih =>
    refine Act.Mirrors.bind h fun step result hstep => ?_
    cases hstep with
    | yield helement => exact ih.returning fun _ _ hrest => .cons helement hrest
    | skip => exact ih
    | finish => exact .pure .nil

/-- Iterators that are alike are gathered up to failures that are alike, or to lists of values that
are alike. -/
theorem Alike.gather {iter other : Iter σ τ (Deferred ε α)}
    (h : iter.Alike states worlds (Deferred.Alike failures elements) other) (steps : Nat) :
    Act.Mirrors (Both states worlds) (ExceptAlike failures (List.Forall₂ elements))
      (iter.gather steps) (other.gather steps) := by
  induction steps with
  | zero => exact .giveUp
  | succ steps ih =>
    refine Act.Mirrors.bind h fun step result hstep => ?_
    cases hstep with
    | yield helement =>
      cases helement with
      | value hvalue =>
        refine ih.bind fun rest left hrest => ?_
        cases hrest with
        | error hfailure => exact .pure (.error hfailure)
        | ok hvalues => exact .pure (.ok (.cons hvalue hvalues))
      | failure hfailure => exact .pure (.error hfailure)
    | skip => exact ih
    | finish => exact .pure (.ok .nil)

/-! ### Adapters -/

/-- Iterators stay alike when they are mapped by functions that follow each other. -/
theorem Alike.map (h : iter.Alike states worlds elements other) {f g : α → Act σ β}
    (hf : ∀ one other, elements one other → Act.Mirrors worlds images (f one) (g other)) :
    (iter.map f).Alike states worlds images (other.map g) := by
  refine Act.Mirrors.bind h fun step result hstep => ?_
  cases hstep with
  | yield helement => exact (hf _ _ helement).beside.returning fun _ _ himage => .yield himage
  | skip => exact .pure .skip
  | finish => exact .pure .finish

/-- They stay alike when they are filtered by tests that follow each other. -/
theorem Alike.filter (h : iter.Alike states worlds elements other) {test trial : α → Act σ Bool}
    (htest : ∀ one other, elements one other → Act.Mirrors worlds Eq (test one) (trial other)) :
    (iter.filter test).Alike states worlds elements (other.filter trial) := by
  refine Act.Mirrors.bind h fun step result hstep => ?_
  cases hstep with
  | yield helement =>
    refine (htest _ _ helement).beside.returning ?_
    rintro passed _ rfl
    cases passed
    · exact .skip
    · exact .yield helement
  | skip => exact .pure .skip
  | finish => exact .pure .finish

/-- They stay alike when they are sifted by tests that follow each other. -/
theorem Alike.sift {iter other : Iter σ τ (Deferred ε α)}
    (h : iter.Alike states worlds (Deferred.Alike failures elements) other)
    {test trial : α → Act σ Bool}
    (htest : ∀ one other, elements one other → Act.Mirrors worlds Eq (test one) (trial other)) :
    (iter.sift test).Alike states worlds (Deferred.Alike failures elements) (other.sift trial) := by
  refine Act.Mirrors.bind h fun step result hstep => ?_
  cases hstep with
  | yield helement =>
    cases helement with
    | value hvalue =>
      refine (htest _ _ hvalue).beside.returning ?_
      rintro passed _ rfl
      cases passed
      · exact .skip
      · exact .yield (.value hvalue)
    | failure hfailure => exact .pure (.yield (.failure hfailure))
  | skip => exact .pure .skip
  | finish => exact .pure .finish

/-- They stay alike when their failures are handed to handlers that follow each other. -/
theorem Alike.handling {iter other : Iter σ τ (Deferred ε α)}
    (h : iter.Alike states worlds (Deferred.Alike failures elements) other)
    {handler keeper : ε → Act σ Unit}
    (hhandler : ∀ one other, failures one other →
      Act.Mirrors worlds Eq (handler one) (keeper other)) :
    (iter.handling handler).Alike states worlds elements (other.handling keeper) := by
  refine Act.Mirrors.bind h fun step result hstep => ?_
  cases hstep with
  | yield helement =>
    cases helement with
    | value hvalue => exact .pure (.yield hvalue)
    | failure hfailure => exact (hhandler _ _ hfailure).beside.andThen (.pure .skip)
  | skip => exact .pure .skip
  | finish => exact .pure .finish

/-! ### Spreading -/

/-- They stay alike as the sequences that are spread. -/
theorem Alike.spread (h : iter.Alike states worlds elements other) :
    (Spread.iter iter : Iter σ (Spread ε τ) (Deferred ε α)).Alike
      (Spread.Alike failures states) worlds (Deferred.Alike failures elements)
      (Spread.iter other) := by
  rintro ⟨spread, world⟩ ⟨left, place⟩ ⟨hspread, hworlds⟩
  cases hspread with
  | @values first second hstates =>
    have hstep : Act.Mirrors (Both states worlds)
        (Step.Alike (Deferred.Alike failures elements))
        (Step.map (@Deferred.value ε α) <$> iter.step)
        (Step.map Deferred.value <$> other.step) := by
      rw [← bind_pure_comp, ← bind_pure_comp]
      refine Act.Mirrors.returning h fun step result hstep => ?_
      cases hstep with
      | yield helement => exact .yield (.value helement)
      | skip => exact .skip
      | finish => exact .finish
    have hboth : Both states worlds (first, world) (second, place) := ⟨hstates, hworlds⟩
    obtain ⟨hexits, hafter⟩ := hstep hboth
    exact ⟨hexits, .values hafter.1, hafter.2⟩
  | failed hfailure =>
    cases hfailure with
    | some hfailure => exact ⟨.done (.yield (.failure hfailure)), .failed .none, hworlds⟩
    | none => exact ⟨.done .finish, .failed .none, hworlds⟩

/-! ### Flat maps -/

section

variable {pieces : ι → ι → Prop}

/-- What is done to the sources of flat maps that are alike follows each other. -/
theorem mirrors_onSource {results : γ → γ → Prop} {act move : Act (τ × σ) γ}
    (h : Act.Mirrors (Both states worlds) results act move) :
    Act.Mirrors (Both (Flat.Alike states pieces) worlds) results
      (Flat.onSource act : Act (Flat τ ι × σ) γ) (Flat.onSource move) := by
  rintro ⟨flat, world⟩ ⟨plane, place⟩ ⟨hflat, hworlds⟩
  have hboth : Both states worlds (flat.source, world) (plane.source, place) :=
    ⟨hflat.source, hworlds⟩
  obtain ⟨hexits, hafter⟩ := h hboth
  exact ⟨hexits, ⟨hafter.1, hflat.ended, hflat.piece⟩, hafter.2⟩

/-- What is done to pieces that are alike follows each other, and the pieces are put back. -/
theorem mirrors_onPiece {results : γ → γ → Prop} {act move : Act (ι × σ) γ} {piece part : ι}
    (h : Act.Mirrors (Both pieces worlds) results act move) (hpiece : pieces piece part) :
    Act.Mirrors (Both (Flat.Alike states pieces) worlds) results
      (Flat.onPiece piece act : Act (Flat τ ι × σ) γ) (Flat.onPiece part move) := by
  rintro ⟨flat, world⟩ ⟨plane, place⟩ ⟨hflat, hworlds⟩
  have hboth : Both pieces worlds (piece, world) (part, place) := ⟨hpiece, hworlds⟩
  obtain ⟨hexits, hafter⟩ := h hboth
  exact ⟨hexits, ⟨hflat.source, hflat.ended, .some hafter.1⟩, hafter.2⟩

/-- Iterators stay alike in flat maps over pieces that are alike. -/
theorem Alike.flatMap (h : iter.Alike states worlds elements other) {f g : α → Act σ ι}
    (hf : ∀ one other, elements one other → Act.Mirrors worlds pieces (f one) (g other))
    {inner part : Iter σ ι β} (hinner : inner.Alike pieces worlds images part) :
    (iter.flatMap f inner).Alike (Flat.Alike states pieces) worlds images
      (other.flatMap g part) := by
  have hpiece : Act.Mirrors (Both (Flat.Alike states pieces) worlds) (Option.Rel pieces)
      (Act.read fun whole : Flat τ ι × σ => whole.1.piece) (Act.read fun whole => whole.1.piece) :=
    .read fun _ _ hwhole => hwhole.1.piece
  refine hpiece.bind fun piece left hpieces => ?_
  cases hpieces with
  | some hpieces =>
    refine (mirrors_onPiece hinner hpieces).bind fun step result hstep => ?_
    cases hstep with
    | yield himage => exact .pure (.yield himage)
    | skip => exact .pure .skip
    | finish =>
      refine (Act.Mirrors.change fun whole twin hwhole => ?_).andThen (.pure .skip)
      exact ⟨⟨hwhole.1.source, hwhole.1.ended, .none⟩, hwhole.2⟩
  | none =>
    have hended : Act.Mirrors (Both (Flat.Alike states pieces) worlds) Eq
        (Act.read fun whole : Flat τ ι × σ => whole.1.ended)
        (Act.read fun whole => whole.1.ended) :=
      .read fun _ _ hwhole => hwhole.1.ended
    refine hended.bindSame fun ended => ?_
    cases ended with
    | true => exact .pure .finish
    | false =>
      refine (mirrors_onSource h).bind fun step result hstep => ?_
      cases hstep with
      | yield helement =>
        refine (hf _ _ helement).beside.bind fun piece part hpart => ?_
        refine (Act.Mirrors.change fun whole twin hwhole => ?_).andThen (.pure .skip)
        exact ⟨⟨hwhole.1.source, hwhole.1.ended, .some hpart⟩, hwhole.2⟩
      | skip => exact .pure .skip
      | finish =>
        refine (Act.Mirrors.change fun whole twin hwhole => ?_).andThen (.pure .finish)
        exact ⟨⟨hwhole.1.source, rfl, hwhole.1.piece⟩, hwhole.2⟩

end

end Iter

end Deferral
