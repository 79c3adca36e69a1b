import Deferral.Proofs.Dialogue.Answers

/-!
# Where failures are held

A deferred value holds its failure, a dynamic error the failures at its leaves, and a promise that
is ready the failures in its outcome. `Shape.Holds` says it for everything that has a shape.

Two things are kept when they are equal and every failure held in them has a property. Kept failures
make a likeness, and then whatever is made of failures is alike exactly when it is kept. So the
library keeps a property of all failures wherever they are held, as soon as raising does.
-/

namespace Deferral

variable {ω κ ε ζ τ ι α β : Type}

/-! ### What is held -/

/-- The leaves of an error, also of one that was suppressed. -/
def DynError.leaves : DynError ε → List ε
  | leaf error => [error]
  | layer source => source.leaves
  | interrupted _ suppressed => suppressed.leaves
  | abandoned => []
  | crashed => []

/-- A failure is at a leaf of the error. -/
def DynError.Holds (error : DynError ε) (failure : ε) : Prop := failure ∈ error.leaves

/-- A failure is held in the error or in the value. -/
def ExceptHolds (errors : ζ → ε → Prop) (values : α → ε → Prop) : Except ζ α → ε → Prop
  | .error error => errors error
  | .ok value => values value

/-- A failure is held as such, or in the value. -/
def Deferred.Holds (values : α → ε → Prop) : Deferred ε α → ε → Prop
  | .value a => values a
  | .failure held => Eq held

/-- A failure is held behind any number of wrapped values, or in the plain value behind them. -/
def Payload.Holds (values : α → ε → Prop) : Payload ε α → ε → Prop
  | plain a => values a
  | value inner => inner.Holds values
  | failure held => Eq held

/-- A failure is held in the sequence, or is left in its place. -/
def Spread.Holds (sequences : τ → ε → Prop) : Spread ε τ → ε → Prop
  | .values sequence => sequences sequence
  | .failed left => fun failure => left = some failure

/-- A failure is held in what is left of the source, or in the piece that is being read. -/
def Flat.Holds (sources : τ → ε → Prop) (pieces : ι → ε → Prop) (flat : Flat τ ι) (failure : ε) :
    Prop :=
  sources flat.source failure ∨ ∃ piece, flat.piece = some piece ∧ pieces piece failure

/-- The failures held in what has a shape. -/
def Shape.Holds : (s : Shape) → s.Carrier ε → ε → Prop
  | plain _ => fun _ _ => False
  | failure => Eq
  | dynamic => DynError.Holds
  | deferred value => Deferred.Holds value.Holds
  | except error value => ExceptHolds error.Holds value.Holds
  | payload value => Payload.Holds value.Holds
  | option value => fun found failure => ∃ a, found = some a ∧ value.Holds a failure
  | list value => fun elements failure => ∃ a ∈ elements, value.Holds a failure
  | pair first second => fun both failure =>
    first.Holds both.1 failure ∨ second.Holds both.2 failure
  | exit value => fun exit failure => ∃ a, exit = .done a ∧ value.Holds a failure
  | spread sequence => Spread.Holds sequence.Holds
  | flat source piece => Flat.Holds source.Holds piece.Holds

/-- The failures held in the outcome of a promise. -/
def OutcomeHolds (values : α → ε → Prop) : Outcome ε (Payload ε α) → ε → Prop :=
  ExceptHolds DynError.Holds (Payload.Holds values)

/-- A failure is held in a promise that is ready. -/
def Desk.Holds (values : α → ε → Prop) (desk : Desk ω κ ε α) (failure : ε) : Prop :=
  ∃ shared ∈ desk.promises, ∃ outcome, shared.cell = .ready outcome ∧
    OutcomeHolds values outcome failure

/-! ### What is kept -/

/-- Two things are the same, and every failure held in them has the property. -/
def Kept (property : ε → Prop) (held : α → ε → Prop) (one other : α) : Prop :=
  one = other ∧ ∀ failure, held one failure → property failure

section

variable {property : ε → Prop}

/-- A thing is kept when every failure held in it has the property. -/
theorem Kept.refl {held : α → ε → Prop} {a : α} (h : ∀ failure, held a failure → property failure) :
    Kept property held a a :=
  ⟨rfl, h⟩

/-- A relation that says of two things that they are kept. -/
theorem eq_kept {relation : α → α → Prop} {held : α → ε → Prop}
    (h : ∀ {one other}, relation one other ↔ Kept property held one other) :
    relation = Kept property held := by
  funext one other
  exact propext h

/-- Dynamic errors over kept leaves are kept. -/
theorem DynError.alike_kept {one other : DynError ε} :
    one.Alike (Kept property Eq) other ↔ Kept property DynError.Holds one other := by
  constructor
  · intro h
    induction h with
    | leaf h =>
      obtain ⟨rfl, hproperty⟩ := h
      exact .refl fun failure hheld => hproperty failure (List.mem_singleton.1 hheld).symm
    | layer _ ih =>
      obtain ⟨rfl, hproperty⟩ := ih
      exact .refl hproperty
    | interrupted _ ih =>
      obtain ⟨rfl, hproperty⟩ := ih
      exact .refl hproperty
    | abandoned => exact .refl fun _ hheld => absurd hheld List.not_mem_nil
    | crashed => exact .refl fun _ hheld => absurd hheld List.not_mem_nil
  · rintro ⟨rfl, hproperty⟩
    induction one with
    | leaf error =>
      refine .leaf (.refl fun failure hsame => hproperty failure ?_)
      exact List.mem_singleton.2 hsame.symm
    | layer source ih => exact .layer (ih hproperty)
    | interrupted message suppressed ih => exact .interrupted (ih hproperty)
    | abandoned => exact .abandoned
    | crashed => exact .crashed

section

variable {held : α → ε → Prop} {errors : ζ → ε → Prop}

/-- Results of kept parts are kept. -/
theorem exceptAlike_kept {one other : Except ζ α} :
    ExceptAlike (Kept property errors) (Kept property held) one other ↔
      Kept property (ExceptHolds errors held) one other := by
  constructor
  · rintro (⟨⟨rfl, hproperty⟩⟩ | ⟨⟨rfl, hproperty⟩⟩)
    · exact .refl hproperty
    · exact .refl hproperty
  · rintro ⟨rfl, hproperty⟩
    cases one with
    | error error => exact .error (.refl hproperty)
    | ok value => exact .ok (.refl hproperty)

/-- Deferred values of kept parts are kept. -/
theorem Deferred.alike_kept {one other : Deferred ε α} :
    one.Alike (Kept property Eq) (Kept property held) other ↔
      Kept property (Deferred.Holds held) one other := by
  constructor
  · rintro (⟨⟨rfl, hproperty⟩⟩ | ⟨⟨rfl, hproperty⟩⟩)
    · exact .refl hproperty
    · exact .refl hproperty
  · rintro ⟨rfl, hproperty⟩
    cases one with
    | value a => exact .value (.refl hproperty)
    | failure e => exact .failure (.refl hproperty)

/-- Payloads of kept parts are kept. -/
theorem Payload.alike_kept {one other : Payload ε α} :
    one.Alike (Kept property Eq) (Kept property held) other ↔
      Kept property (Payload.Holds held) one other := by
  constructor
  · intro h
    induction h with
    | plain h =>
      obtain ⟨rfl, hproperty⟩ := h
      exact .refl hproperty
    | value _ ih =>
      obtain ⟨rfl, hproperty⟩ := ih
      exact .refl hproperty
    | failure h =>
      obtain ⟨rfl, hproperty⟩ := h
      exact .refl hproperty
  · rintro ⟨rfl, hproperty⟩
    induction one with
    | plain a => exact .plain (.refl hproperty)
    | value inner ih => exact .value (ih hproperty)
    | failure e => exact .failure (.refl hproperty)

/-- What may be absent is kept when what is there is. -/
theorem optionRel_kept {one other : Option α} :
    Option.Rel (Kept property held) one other ↔
      Kept property (fun found failure => ∃ a, found = some a ∧ held a failure) one other := by
  constructor
  · rintro (⟨rfl, hproperty⟩ | _)
    · refine .refl ?_
      rintro failure ⟨a, ⟨⟩, hheld⟩
      exact hproperty failure hheld
    · refine .refl ?_
      rintro failure ⟨a, ⟨⟩, _⟩
  · rintro ⟨rfl, hproperty⟩
    cases one with
    | none => exact .none
    | some a => exact .some (.refl fun failure hheld => hproperty failure ⟨a, rfl, hheld⟩)

/-- Lists of kept elements are kept. -/
theorem forall₂_kept {one other : List α} :
    List.Forall₂ (Kept property held) one other ↔
      Kept property (fun elements failure => ∃ a ∈ elements, held a failure) one other := by
  constructor
  · intro h
    induction h with
    | nil => exact .refl fun _ ⟨_, hmem, _⟩ => absurd hmem List.not_mem_nil
    | cons h _ ih =>
      obtain ⟨rfl, hfirst⟩ := h
      obtain ⟨rfl, hrest⟩ := ih
      refine .refl fun failure ⟨a, hmem, hheld⟩ => ?_
      rcases List.mem_cons.1 hmem with rfl | hmem
      · exact hfirst failure hheld
      · exact hrest failure ⟨a, hmem, hheld⟩
  · rintro ⟨rfl, hproperty⟩
    exact List.forall₂_same.2 fun a hmem =>
      .refl fun failure hheld => hproperty failure ⟨a, hmem, hheld⟩

/-- Pairs of kept parts are kept. -/
theorem both_kept {images : β → ε → Prop} {one other : α × β} :
    Both (Kept property held) (Kept property images) one other ↔
      Kept property (fun both failure => held both.1 failure ∨ images both.2 failure) one
        other := by
  constructor
  · obtain ⟨a, b⟩ := one
    rintro ⟨⟨hfirst, hheld⟩, hsecond, himages⟩
    exact ⟨Prod.ext hfirst hsecond, fun failure => Or.rec (hheld failure) (himages failure)⟩
  · rintro ⟨rfl, hproperty⟩
    exact ⟨.refl fun failure h => hproperty failure (.inl h),
      .refl fun failure h => hproperty failure (.inr h)⟩

/-- Exits with kept results are kept. -/
theorem matches_kept {one other : Exit α} :
    one.Matches (Kept property held) other ↔
      Kept property (fun exit failure => ∃ a, exit = .done a ∧ held a failure) one other := by
  constructor
  · rintro (⟨rfl, hproperty⟩ | alarm | _)
    · refine .refl ?_
      rintro failure ⟨a, ⟨⟩, hheld⟩
      exact hproperty failure hheld
    · refine .refl ?_
      rintro failure ⟨a, ⟨⟩, _⟩
    · refine .refl ?_
      rintro failure ⟨a, ⟨⟩, _⟩
  · rintro ⟨rfl, hproperty⟩
    cases one with
    | done a => exact .done (.refl fun failure hheld => hproperty failure ⟨a, rfl, hheld⟩)
    | panicked alarm => exact .panicked alarm
    | unfinished => exact .unfinished

/-- Spread sequences are kept when the sequence is, or the failure in its place. -/
theorem Spread.alike_kept {one other : Spread ε α} :
    one.Alike (Kept property Eq) (Kept property held) other ↔
      Kept property (Spread.Holds held) one other := by
  constructor
  · rintro (⟨⟨rfl, hproperty⟩⟩ | ⟨hleft⟩)
    · exact .refl hproperty
    · obtain ⟨rfl, hproperty⟩ := optionRel_kept.1 hleft
      exact .refl fun failure hheld => hproperty failure ⟨failure, hheld, rfl⟩
  · rintro ⟨rfl, hproperty⟩
    cases one with
    | values sequence => exact .values (.refl hproperty)
    | failed left =>
      refine .failed (optionRel_kept.2 (.refl ?_))
      rintro failure ⟨_, hleft, rfl⟩
      exact hproperty _ hleft

/-- Flat maps are kept when their source and their piece are. -/
theorem Flat.alike_kept {pieces : ι → ε → Prop} {one other : Flat α ι} :
    one.Alike (Kept property held) (Kept property pieces) other ↔
      Kept property (Flat.Holds held pieces) one other := by
  constructor
  · rintro ⟨⟨hsource, hheld⟩, hended, hpiece⟩
    obtain ⟨hsame, hpieces⟩ := optionRel_kept.1 hpiece
    refine ⟨?_, fun failure => Or.rec (hheld failure) (hpieces failure)⟩
    obtain ⟨source, ended, piece⟩ := one
    obtain ⟨_, _, _⟩ := other
    cases hsource
    cases hended
    cases hsame
    rfl
  · rintro ⟨rfl, hproperty⟩
    exact ⟨.refl fun failure h => hproperty failure (.inl h), rfl,
      optionRel_kept.2 (.refl fun failure h => hproperty failure (.inr h))⟩

end

/-- What has a shape is alike exactly when it is kept. -/
theorem Shape.alike_kept : ∀ s : Shape, s.Alike (Kept property Eq) = Kept property s.Holds
  | plain _ => eq_kept ⟨fun h => ⟨h, fun _ => False.elim⟩, fun h => h.1⟩
  | failure => rfl
  | dynamic => eq_kept DynError.alike_kept
  | deferred value => by
    rw [Alike, value.alike_kept]
    exact eq_kept Deferred.alike_kept
  | except error value => by
    rw [Alike, error.alike_kept, value.alike_kept]
    exact eq_kept exceptAlike_kept
  | payload value => by
    rw [Alike, value.alike_kept]
    exact eq_kept Payload.alike_kept
  | option value => by
    rw [Alike, value.alike_kept]
    exact eq_kept optionRel_kept
  | list value => by
    rw [Alike, value.alike_kept]
    exact eq_kept forall₂_kept
  | pair first second => by
    rw [Alike, first.alike_kept, second.alike_kept]
    exact eq_kept both_kept
  | exit value => by
    rw [Alike, value.alike_kept]
    exact eq_kept matches_kept
  | spread sequence => by
    rw [Alike, sequence.alike_kept]
    exact eq_kept Spread.alike_kept
  | flat source piece => by
    rw [Alike, source.alike_kept, piece.alike_kept]
    exact eq_kept Flat.alike_kept

end

/-! ### The likeness of what is kept -/

/-- A failure is shown by an event of the trace, or stored in the state of the client. -/
def World.Holds (shown : ω → ε → Prop) (stored : κ → ε → Prop) (world : World ω κ) (failure : ε) :
    Prop :=
  (∃ event, .event event ∈ world.trace ∧ shown event failure) ∨ stored world.client failure

namespace Likeness

/-- Failures are alike when they are the same and have the property, and so for events and states of
the client with the failures that they show and store. -/
def keeping (property : ε → Prop) (shown : ω → ε → Prop) (stored : κ → ε → Prop) :
    Likeness ω κ ε where
  failures := Kept property Eq
  events := Kept property shown
  clients := Kept property stored

variable {property : ε → Prop} {shown : ω → ε → Prop} {stored : κ → ε → Prop}

/-- The same failures are worded alike, compare alike and hash alike. -/
theorem derived_keeping [BEq ε] [Feeds ε] [ToString ε] :
    (keeping property shown stored).Derived where
  text := by
    rintro one _ ⟨rfl, _⟩
    rfl
  same := by
    rintro one _ left _ ⟨rfl, _⟩ ⟨rfl, _⟩
    rfl
  feed := by
    rintro one _ ⟨rfl, _⟩
    rfl

/-- Entries of the trace are kept when the failures that their events show have the property. -/
theorem entryAlike_kept {one other : Entry ω} :
    one.Alike (Kept property shown) other ↔
      Kept property (fun entry failure => ∃ event, entry = .event event ∧ shown event failure) one
        other := by
  constructor
  · rintro (_ | ⟨rfl, hproperty⟩)
    · refine .refl ?_
      rintro failure ⟨event, ⟨⟩, _⟩
    · refine .refl ?_
      rintro failure ⟨event, ⟨⟩, hshown⟩
      exact hproperty failure hshown
  · rintro ⟨rfl, hproperty⟩
    cases one with
    | notice notice => exact .notice notice
    | event event =>
      exact .event (.refl fun failure hshown => hproperty failure ⟨event, rfl, hshown⟩)

/-- Worlds are alike exactly when they are kept. -/
theorem worlds_kept {one other : World ω κ} :
    (keeping property shown stored).Worlds one other ↔
      Kept property (World.Holds shown stored) one other := by
  have hentries : Entry.Alike (Kept property shown) = Kept property
      (fun entry failure => ∃ event, entry = .event event ∧ shown event failure) :=
    eq_kept entryAlike_kept
  constructor
  · rintro ⟨hcancelled, htrace, hclient, hstored⟩
    have htrace : List.Forall₂ (Entry.Alike (Kept property shown)) _ _ := htrace
    rw [hentries, forall₂_kept] at htrace
    obtain ⟨hsame, hshown⟩ := htrace
    refine ⟨?_, ?_⟩
    · obtain ⟨cancelled, trace, client⟩ := one
      obtain ⟨_, _, _⟩ := other
      cases hcancelled
      cases hclient
      cases Array.toList_inj.1 hsame
      rfl
    · rintro failure (⟨event, hevent, hheld⟩ | hheld)
      · exact hshown failure ⟨_, Array.mem_toList_iff.2 hevent, event, rfl, hheld⟩
      · exact hstored failure hheld
  · rintro ⟨rfl, hproperty⟩
    have htrace : List.Forall₂ (Entry.Alike (Kept property shown)) one.trace.toList
        one.trace.toList := by
      rw [hentries, forall₂_kept]
      refine .refl ?_
      rintro failure ⟨_, hentry, event, rfl, hheld⟩
      exact hproperty failure (.inl ⟨event, Array.mem_toList_iff.1 hentry, hheld⟩)
    exact ⟨rfl, htrace, .refl fun failure hheld => hproperty failure (.inr hheld)⟩

end Likeness

section

variable {property : ε → Prop} {shown : ω → ε → Prop} {stored : κ → ε → Prop} {held : α → ε → Prop}

/-- Outcomes of promises are alike exactly when they are kept. -/
theorem resultAlike_kept {one other : Outcome ε (Payload ε α)} :
    ResultAlike (.keeping property shown stored) (Kept property held) one other ↔
      Kept property (OutcomeHolds held) one other := by
  have hleaves : DynError.Alike (Kept property (Eq : ε → ε → Prop)) =
      Kept property DynError.Holds := eq_kept DynError.alike_kept
  have hpayload : Payload.Alike (Kept property Eq) (Kept property held) =
      Kept property (Payload.Holds held) := eq_kept Payload.alike_kept
  change ExceptAlike (DynError.Alike (Kept property Eq))
    (Payload.Alike (Kept property Eq) (Kept property held)) one other ↔ _
  rw [hleaves, hpayload]
  exact exceptAlike_kept

/-- The failures held by a promise that is alike to another have the property. -/
theorem DeskShared.Alike.kept {shared twin : DeskShared ω κ ε α}
    (h : shared.Alike (.keeping property shown stored) (Kept property held) twin)
    {outcome : Outcome ε (Payload ε α)} (hready : shared.cell = .ready outcome) {failure : ε}
    (hheld : OutcomeHolds held outcome failure) : property failure := by
  have hcell := h.cell
  rw [hready] at hcell
  generalize twin.cell = cell at hcell
  cases hcell with
  | ready h => exact (resultAlike_kept.1 h).2 failure hheld

/-- The failures held by a desk that is alike to another have the property. -/
theorem Desk.Alike.kept {desk other : Desk ω κ ε α}
    (h : desk.Alike (.keeping property shown stored) (Kept property held) other) {failure : ε}
    (hheld : desk.Holds held failure) : property failure := by
  obtain ⟨shared, hshared, outcome, hready, hholds⟩ := hheld
  have hpromises : List.Forall₂ (fun shared twin =>
      (∀ outcome failure, shared.cell = .ready outcome → OutcomeHolds held outcome failure →
        property failure) ∧ DeskShared.Alike _ _ shared twin) desk.promises other.promises :=
    h.promises.imp fun _ _ halike => ⟨fun _ _ hready hheld => halike.kept hready hheld, halike⟩
  exact ((List.forall₂_and_left _ _).1 hpromises).1 shared hshared outcome failure hready hholds

end

end Deferral
