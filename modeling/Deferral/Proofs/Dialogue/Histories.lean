import Deferral.Proofs.Dialogue.Holding
import Deferral.Proofs.Raise.Canonical
import Mathlib.Logic.Relation

/-!
# Cancellations carry no history, and histories are whole

The trail of a failure is its history: where it was raised, with which call stack, and from which
stored failure. A program starts from failures with empty trails, builds others only with empty
trails of their own, and leaves it to the library to raise them. Copies keep the token of what they
are made from and start with an empty trail. Then, whatever the program does, and wherever failures
are held:

* a failure that reports a cancellation has an empty trail;
* every trail is empty, or has its site, its backtrace and its cause all filled;
* a failure that stands as a cause reports no cancellation.

This holds of every failure that can be reached from a held one through causes and through failures
that wrap others. The step is one raise, `Made.accounted`. It goes to all of the library by the
likeness of what is kept.
-/

namespace Deferral

variable {ω κ ε α : Type}

/-! ### Failures and what is under them -/

/-- Where the failures of a program keep their trails, which tokens they report and which failures
they wrap, and which failures are shown by events and stored by the client. Neither the token nor
the wrapped failures are kept in the trail. -/
structure Ledger (ω κ ε : Type) extends TrailField ε where
  token? : ε → Option Token
  wraps : ε → ε → Prop
  shown : ω → ε → Prop
  stored : κ → ε → Prop
  token?_withTrail : ∀ failure trail, token? (withTrail failure trail) = token? failure
  wraps_withTrail : ∀ failure trail, wraps (withTrail failure trail) = wraps failure

namespace Ledger

variable (ledger : Ledger ω κ ε)

/-- The second failure is the cause of the first, or is wrapped by it. -/
def Part (whole part : ε) : Prop :=
  (ledger.trail whole).cause = some part ∨ ledger.wraps whole part

/-- The second failure is reached from the first through causes and wrapped failures. -/
def Under : ε → ε → Prop := Relation.ReflTransGen ledger.Part

/-- A failure is given, or is built with an empty trail around such failures. -/
inductive Built (given : ε → Prop) : ε → Prop where
  | given {failure : ε} (h : given failure) : Built given failure
  | anew {failure : ε} (htrail : ledger.trail failure = .empty)
    (hwraps : ∀ part, ledger.wraps failure part → Built given part) : Built given failure

/-- No failure that is reached from this one has ever been raised. -/
def Fresh : ε → Prop := ledger.Built fun _ => False

/-- The second failure reports the token of the first, has an empty trail, and wraps nothing but
what is under the first or built anew. -/
structure Copies (failure copy : ε) : Prop where
  token? : ledger.token? copy = ledger.token? failure
  trail : ledger.trail copy = .empty
  wraps : ∀ part, ledger.wraps copy part → ledger.Built (ledger.Under failure) part

/-- When the hooks of a type answer, they answer with the token of the failure, with a copy of it,
and with the slots in which it keeps its trail. -/
structure Lawful (type : FailureType ω κ ε) : Prop where
  cancellation : ∀ failure, (type.cancellation failure).Yields (· = ledger.token? failure)
  copy : ∀ failure, (type.copy failure).Yields fun answer =>
    ∀ copy, answer = .ok copy → ledger.Copies failure copy
  slots : ∀ failure, (type.slots failure).Yields fun answer =>
    ∀ slots, answer = some slots → ledger.Opens slots failure

/-- A failure is built with an empty trail around failures that are made, or is what raising a
failure that is made has come to. -/
inductive Made : ε → Prop where
  | anew {failure : ε} (htrail : ledger.trail failure = .empty)
    (hwraps : ∀ part, ledger.wraps failure part → Made part) : Made failure
  | raised {type : FailureType ω κ ε} {failure raised : ε} {site : Site} {world after : World ω κ}
    (htype : ledger.Lawful type) (hfailure : Made failure)
    (hraise : type.raise failure site world = (.done raised, after)) : Made raised

/-- What the trail of a failure may be. -/
structure Sound (failure : ε) : Prop where
  /-- A cancellation carries no history. -/
  blank : ∀ token, ledger.token? failure = some token → ledger.trail failure = .empty
  /-- A history is not partial. -/
  whole : ledger.trail failure = .empty ∨ ∃ site backtrace cause,
    ledger.trail failure = ⟨some site, some backtrace, some cause⟩
  /-- A cause reports no cancellation. -/
  cause : ∀ cause, (ledger.trail failure).cause = some cause → ledger.token? cause = none

variable {ledger} {type : FailureType ω κ ε} {failure : ε}

/-- A failure that has never been raised is made. -/
theorem Fresh.made (h : ledger.Fresh failure) : ledger.Made failure := by
  induction h with
  | given h => exact h.elim
  | anew htrail _ ih => exact .anew htrail ih

/-- A failure with an empty trail is sound. -/
theorem Sound.of_empty (h : ledger.trail failure = .empty) : ledger.Sound failure where
  blank _ _ := h
  whole := .inl h
  cause cause hcause := by
    rw [h] at hcause
    cases hcause

/-! ### What one raise keeps -/

variable (ledger) in
/-- The failure and everything under it is made and sound. -/
def Accounted (failure : ε) : Prop :=
  ∀ below, ledger.Under failure below → ledger.Made below ∧ ledger.Sound below

/-- A failure is accounted if it is made and sound, and its parts are accounted. -/
theorem Accounted.of_parts (hmade : ledger.Made failure) (hsound : ledger.Sound failure)
    (hparts : ∀ part, ledger.Part failure part → ledger.Accounted part) :
    ledger.Accounted failure := by
  intro below hunder
  rcases Relation.ReflTransGen.cases_head hunder with rfl | ⟨part, hpart, hrest⟩
  · exact ⟨hmade, hsound⟩
  · exact hparts part hpart below hrest

/-- What is under an accounted failure is accounted. -/
theorem Accounted.under {below : ε} (h : ledger.Accounted failure)
    (hunder : ledger.Under failure below) : ledger.Accounted below :=
  fun deeper hdeeper => h deeper (hunder.trans hdeeper)

/-- A failure with an empty trail around accounted failures is accounted. -/
theorem Accounted.anew (htrail : ledger.trail failure = .empty)
    (hwraps : ∀ part, ledger.wraps failure part → ledger.Accounted part) :
    ledger.Accounted failure := by
  have hmade : ledger.Made failure :=
    .anew htrail fun part hpart => (hwraps part hpart part .refl).1
  refine .of_parts hmade (.of_empty htrail) fun part hpart => ?_
  rcases hpart with hcause | hwrapped
  · rw [htrail] at hcause
    cases hcause
  · exact hwraps part hwrapped

/-- What is built of accounted failures is accounted. -/
theorem Built.accounted {given : ε → Prop} (h : ledger.Built given failure)
    (hgiven : ∀ part, given part → ledger.Accounted part) : ledger.Accounted failure := by
  induction h with
  | given h => exact hgiven _ h
  | anew htrail _ ih => exact .anew htrail ih

/-- A copy of an accounted failure is accounted. -/
theorem Copies.accounted {copy : ε} (hcopy : ledger.Copies failure copy)
    (hfailure : ledger.Accounted failure) : ledger.Accounted copy :=
  .anew hcopy.trail fun part hpart =>
    (hcopy.wraps part hpart).accounted fun _ hunder => hfailure.under hunder

/-- A raise takes an accounted failure to an accounted one. Whether it records anything is decided
by the token: a cancellation comes back as a copy or as it is, and what is recorded as a cause had
no token. -/
theorem Lawful.accounted (htype : ledger.Lawful type) (hfailure : ledger.Accounted failure)
    {raised : ε} {site : Site} {world after : World ω κ}
    (hraise : type.raise failure site world = (.done raised, after)) : ledger.Accounted raised := by
  have hopens : ∀ copy slots world after, type.slots copy world = (.done (some slots), after) →
      ledger.Opens slots copy :=
    fun copy slots world after hslots => htype.slots copy world _ after hslots slots rfl
  obtain ⟨reported, calls, hcase⟩ := FailureType.Raises.of_raise hopens hraise
  cases hcase with
  | blank _ hcopied => exact (htype.copy _ _ _ _ hcopied _ rfl).accounted hfailure
  | cancelledAsStored _ _ => exact hfailure
  | refused _ _ => exact hfailure
  | slotless _ _ _ => exact hfailure
  | @traced copy _ _ _ _ _ hreported hcopied _ _ htrail hrest =>
    have hcopy := htype.copy _ _ _ _ hcopied _ rfl
    have htoken : ledger.token? failure = none := (htype.cancellation _ _ _ _ hreported).symm
    -- Apart from the trail, what is raised is the copy.
    have hsame : ledger.token? raised = ledger.token? copy ∧
        ledger.wraps raised = ledger.wraps copy := by
      rw [← hrest, ledger.token?_withTrail, ledger.wraps_withTrail]
      exact ⟨rfl, rfl⟩
    have hmade : ledger.Made raised := .raised htype (hfailure failure .refl).1 hraise
    refine .of_parts hmade
      ⟨fun token htokened => ?_, .inr ⟨_, _, _, htrail⟩, fun cause hcause => ?_⟩
      fun part hpart => ?_
    · rw [hsame.1, hcopy.token?, htoken] at htokened
      cases htokened
    · rw [htrail] at hcause
      cases hcause
      exact htoken
    · rcases hpart with hcause | hwrapped
      · rw [htrail] at hcause
        cases hcause
        exact hfailure
      · rw [hsame.2] at hwrapped
        exact (hcopy.accounted hfailure).under (.single (.inr hwrapped))

/-- A failure that is made is accounted. -/
theorem Made.accounted (h : ledger.Made failure) : ledger.Accounted failure := by
  induction h with
  | anew htrail _ ih => exact .anew htrail ih
  | raised htype _ hraise ih => exact htype.accounted ih hraise

/-! ### What the library keeps -/

variable (ledger) in
/-- Failures are alike when they are the same and made, and so for all that holds failures. -/
abbrev keeping : Likeness ω κ ε := .keeping ledger.Made ledger.shown ledger.stored

variable (ledger) in
/-- Started in a world that shows and stores failures that are made, the computation leaves such a
world. -/
abbrev Keeps (act : Run ω κ α) : Prop := ledger.keeping.Follows Eq act act

variable (ledger) in
/-- The hooks of the type answer as they should, and show and store failures that are made. -/
structure Keeping (type : FailureType ω κ ε) : Prop extends ledger.Lawful type where
  cancellation_keeps : ∀ failure, ledger.Made failure → ledger.Keeps (type.cancellation failure)
  copy_keeps : ∀ failure, ledger.Made failure → ledger.Keeps (type.copy failure)
  slots_keeps : ∀ failure, ledger.Made failure → ledger.Keeps (type.slots failure)

/-- To raise a failure as it was stored shows and stores no other. -/
theorem keeps_raiseAsStored (failure : ε) (site : Site) (reason : CopyError) :
    ledger.Keeps (FailureType.raiseAsStored failure site reason) :=
  (Likeness.follows_log _).andThen (.pure rfl)

/-- Raising a failure that is made keeps the world, as its hooks do. -/
theorem Keeping.raise (htype : ledger.Keeping type) (hfailure : ledger.Made failure) (site : Site) :
    ledger.Keeps (type.raise failure site) := by
  refine (htype.cancellation_keeps failure hfailure).bindSame fun reported => ?_
  have hcopy := (htype.copy_keeps failure hfailure).of_yields (htype.copy failure)
  cases reported with
  | some token =>
    refine (Likeness.follows_clear token).andThen ((Likeness.follows_log _).andThen ?_)
    refine hcopy.bind ?_
    rintro copied _ ⟨rfl, _⟩
    cases copied with
    | ok blank => exact .pure rfl
    | error reason => exact .pure rfl
  | none =>
    refine hcopy.bind ?_
    rintro copied _ ⟨rfl, hcopied⟩
    cases copied with
    | error reason => exact keeps_raiseAsStored failure site reason
    | ok copy =>
      have hmade := ((hcopied copy rfl).accounted hfailure.accounted copy .refl).1
      refine (htype.slots_keeps copy hmade).bindSame fun slots => ?_
      cases slots with
      | some slots => exact .pure rfl
      | none => exact keeps_raiseAsStored failure site _

/-- A type whose hooks show and store only what is made respects the likeness. -/
theorem Keeping.respects (htype : ledger.Keeping type) : ledger.keeping.Respects type where
  owns := by
    rintro one _ ⟨rfl, _⟩
    rfl
  cancellation := by
    rintro one _ ⟨rfl, hmade⟩
    exact htype.cancellation_keeps one (hmade one rfl)
  raise := by
    rintro site one _ ⟨rfl, hmade⟩
    have hone := hmade one rfl
    have hyields : (type.raise one site).Yields ledger.Made :=
      fun _ _ _ hraise => .raised htype.toLawful hone hraise
    refine ((htype.raise hone site).of_yields hyields).mono ?_
    rintro raised _ ⟨rfl, hraised⟩
    exact .refl fun _ hsame => hsame ▸ hraised

end Ledger

/-! ### All failures held in a run -/

variable [Wording ε] [BEq ε] [Feeds ε] {base : Shape}

/-- A failure is held after the exchange: in the answer, in a promise that is ready, by an event of
the trace, or by the client. -/
inductive Exchange.Holds (ledger : Ledger ω κ ε) (exchange : Exchange ω κ ε base) : ε → Prop where
  | answered {answer : exchange.shape.Carrier ε} {failure : ε}
    (hexit : exchange.exit = .done answer) (h : exchange.shape.Holds answer failure) :
    Holds ledger exchange failure
  | promised {failure : ε} (h : exchange.after.1.Holds base.Holds failure) :
    Holds ledger exchange failure
  | told {failure : ε} (h : exchange.after.2.Holds ledger.shown ledger.stored failure) :
    Holds ledger exchange failure

/-- The failures held after an exchange that is alike to another are made. -/
theorem Exchange.Alike.made {ledger : Ledger ω κ ε} {exchange twin : Exchange ω κ ε base}
    (h : exchange.Alike ledger.keeping ledger.Keeping twin) {failure : ε}
    (hheld : exchange.Holds ledger failure) : ledger.Made failure := by
  cases h with
  | @intro s request other before start hrequest hbefore hexit hafter =>
    cases hheld with
    | answered hdone hheld =>
      have hkept : Exit.Matches (s.Alike (Kept ledger.Made Eq)) _ _ := hexit
      rw [s.alike_kept, matches_kept] at hkept
      exact hkept.2 failure ⟨_, hdone, hheld⟩
    | promised hheld =>
      have hkept : Desk.Alike ledger.keeping (base.Alike (Kept ledger.Made Eq)) _ _ := hafter.1
      rw [base.alike_kept] at hkept
      exact hkept.kept hheld
    | told hheld => exact (Likeness.worlds_kept.1 hafter.2).2 failure hheld

/-- Cancellations carry no history, and histories are whole. A program starts from failures with
empty trails, in a world without others, and its callables build others with empty trails only, or
hand on what they were given; the hooks of its failure types copy failures with their tokens and
with empty trails. Then after every exchange every failure held anywhere, and every failure under
it, has an empty trail if it reports a token, has a trail that is empty or filled, and has a cause
without a token, if any. -/
theorem Dialogue.histories_sound (ledger : Ledger ω κ ε) {input : Shape}
    {program : input.Carrier ε → Dialogue ω κ ε base}
    (hprogram : ∀ argument, (∀ failure, input.Holds argument failure → ledger.Fresh failure) →
      (program argument).Alike ledger.keeping ledger.Keeping (program argument))
    {argument : input.Carrier ε}
    (hargument : ∀ failure, input.Holds argument failure → ledger.Fresh failure)
    {world : World ω κ}
    (hworld : ∀ failure, world.Holds ledger.shown ledger.stored failure → ledger.Fresh failure) :
    ∀ exchange ∈ (program argument).run (.empty, world), ∀ failure,
      exchange.Holds ledger failure →
        ∀ below, ledger.Under failure below → ledger.Sound below := by
  have hdesk : Desk.Alike ledger.keeping (base.Alike ledger.keeping.failures)
      (.empty : Desk ω κ ε (base.Carrier ε)) .empty := ⟨.nil, rfl, .nil⟩
  have hworlds : ledger.keeping.Worlds world world :=
    Likeness.worlds_kept.2 (.refl fun failure hheld => (hworld failure hheld).made)
  have hstart : Both (Desk.Alike ledger.keeping (base.Alike ledger.keeping.failures))
      ledger.keeping.Worlds (.empty, world) (.empty, world) :=
    ⟨hdesk, hworlds⟩
  have hrun := (hprogram argument hargument).run (fun _ => Ledger.Keeping.respects)
    Likeness.derived_keeping hstart
  intro exchange hexchange failure hheld below hunder
  have hmade := (List.forall₂_same.1 hrun exchange hexchange).made hheld
  exact (hmade.accounted below hunder).2

/-! ### Failures of scripts -/

namespace Script

/-- The failures that a failure wraps. -/
def Fault.Wraps : Fault → Fault → Prop
  | .io inner => inner.Holds
  | .boxed inner => inner.Holds
  | .task inner => inner.Holds
  | _ => fun _ => False

/-- The failures that an event shows. -/
def Event.Shows : Event → Fault → Prop
  | .handled failure => Eq failure
  | .observed _ outcome => OutcomeHolds (fun _ _ => False) outcome
  | _ => fun _ => False

/-- The trails, tokens and wrapped failures of scripts. Their clients count calls and store no
failures. -/
def Fault.ledger : Ledger Event Calls Fault where
  toTrailField := Fault.trailField
  token? := Fault.token?
  wraps := Fault.Wraps
  shown := Event.Shows
  stored _ _ := False
  token?_withTrail failure trail := by cases failure <;> rfl
  wraps_withTrail failure trail := by cases failure <;> rfl

/-- The hooks of every kind answer as they should. -/
theorem Kind.lawful (kind : Kind) : Fault.ledger.Lawful kind.failureType where
  cancellation failure world answer after hreported := by
    cases failure <;> cases hreported <;> rfl
  copy failure world answer after hcopied copy hcopy := by
    cases failure <;> cases hcopied <;> cases hcopy <;> exact ⟨rfl, rfl, fun _ => False.elim⟩
  slots failure world answer after hslots slots hfound := by
    cases hslots
    obtain ⟨trail, htrail, rfl⟩ := Option.map_eq_some_iff.1 hfound
    cases failure <;> first
      | exact ⟨fun _ => rfl, fun _ => rfl⟩
      | cases htrail

/-- They show no failures but those they are asked about. -/
theorem Kind.keeping (kind : Kind) : Fault.ledger.Keeping kind.failureType where
  toLawful := kind.lawful
  cancellation_keeps failure hmade := by
    cases failure <;> first | exact .pure rfl | exact .panic _
  copy_keeps failure hmade := by
    have hemit (copied : Kind) : Fault.ledger.Keeps (emit (.copied copied)) :=
      Likeness.follows_emit (.refl fun _ => False.elim)
    cases failure with
    | fetch _ _ _ _ => exact (hemit .fetch).andThen (.pure rfl)
    | hook _ => exact (hemit .hook).andThen (.pure rfl)
    | slotless _ _ => exact (hemit .slotless).andThen (.pure rfl)
    | halt _ _ _ _ => exact (hemit .halt).andThen (.pure rfl)
    | _ => exact .pure rfl
  slots_keeps failure hmade := .pure rfl

/-- A program that raises a failure, raises what was raised, settles a promise with what comes of
it, and raises another failure. -/
def recounting (both : Fault × Fault) : Dialogue Event Calls Fault (.plain Nat) :=
  .ask (.raise (s := .plain Nat) Kind.fetch.failureType ⟨"A"⟩ (.failure both.1)) fun
    | .ok (.error raised) =>
      .ask (.raise (s := .plain Nat) Kind.fetch.failureType ⟨"B"⟩ (.failure raised)) fun
        | .ok (.error again) =>
          .ask (.settled (.error (.leaf again))) fun _ =>
            .ask (.raise (s := .plain Nat) Kind.halt.failureType ⟨"C"⟩ (.failure both.2)) fun _ =>
              .finish
        | _ => .finish
    | _ => .finish

/-- It builds no failures of its own. -/
theorem recounting_alike {like : Likeness Event Calls Fault}
    {lawful : FailureType Event Calls Fault → Prop}
    (hlawful : ∀ kind : Kind, lawful kind.failureType) {one other : Fault × Fault}
    (h : Both like.failures like.failures one other) :
    (recounting one).Alike like lawful (recounting other) := by
  refine .ask (.raise (hlawful .fetch) ⟨"A"⟩ (.failure h.1)) fun _ _ hraised => ?_
  rcases hraised with _ | (hraised | _)
  · exact .finish
  · refine .ask (.raise (hlawful .fetch) ⟨"B"⟩ (.failure hraised)) fun _ _ hagain => ?_
    rcases hagain with _ | (hagain | _)
    · exact .finish
    · refine .ask (.settled (.error (.leaf hagain))) fun _ _ _ => ?_
      exact .ask (.raise (hlawful .halt) ⟨"C"⟩ (.failure h.2)) fun _ _ _ => .finish
    · exact .finish
  · exact .finish

/-- The program is run on a failure and a cancellation, neither of which has been raised before. -/
theorem recounting_histories_sound :
    let ledger := Fault.ledger
    let both : (Shape.pair .failure .failure).Carrier Fault :=
      (.fetch 404 "page" 0 .empty, .halt (some ⟨7⟩) "stop" 0 .empty)
    let world : ScriptWorld := ⟨fun token => token = ⟨7⟩, #[], fun _ => 0⟩
    (∀ argument : (Shape.pair .failure .failure).Carrier Fault,
      (∀ failure, (Shape.pair .failure .failure).Holds argument failure → ledger.Fresh failure) →
        (recounting argument).Alike ledger.keeping ledger.Keeping (recounting argument)) ∧
      (∀ failure, (Shape.pair .failure .failure).Holds both failure → ledger.Fresh failure) ∧
      (∀ failure, world.Holds ledger.shown ledger.stored failure → ledger.Fresh failure) ∧
      ∀ exchange ∈ (recounting both).run (.empty, world), ∀ failure,
        exchange.Holds ledger failure →
          ∀ below, ledger.Under failure below → ledger.Sound below := by
  intro ledger both world
  have hprogram : ∀ argument : (Shape.pair .failure .failure).Carrier Fault,
      (∀ failure, (Shape.pair .failure .failure).Holds argument failure → ledger.Fresh failure) →
        (recounting argument).Alike ledger.keeping ledger.Keeping (recounting argument) :=
    fun argument hfresh => recounting_alike Kind.keeping
      ⟨.refl fun failure hheld => (hfresh failure (.inl hheld)).made,
        .refl fun failure hheld => (hfresh failure (.inr hheld)).made⟩
  have hboth : ∀ failure, (Shape.pair .failure .failure).Holds both failure →
      ledger.Fresh failure := by
    rintro _ (⟨⟨⟩⟩ | ⟨⟨⟩⟩)
    · exact .anew rfl fun _ => False.elim
    · exact .anew rfl fun _ => False.elim
  have hworld : ∀ failure, world.Holds ledger.shown ledger.stored failure →
      ledger.Fresh failure := by
    rintro failure (⟨event, hevent, _⟩ | hstored)
    · exact absurd hevent (Array.not_mem_empty _)
    · exact hstored.elim
  exact ⟨hprogram, hboth, hworld, Dialogue.histories_sound ledger hprogram hboth hworld⟩

end Script

end Deferral
