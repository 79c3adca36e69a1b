import Deferral.Proofs.Dialogue.Answers
import Deferral.Proofs.Effects

/-!
# Trails never influence behaviour

Two runs of one program start from failures that differ at most in their trails, and in the trails
of the failures inside them. The program's callables, the hooks of its failure types and the
wordings of its failures do not look at trails. Then the runs take the same way: they make the same
requests and the same calls, log the same notices, leave the same tokens cancelled and see the same
results of comparisons, hashes and wordings, and all that is handed out differs at most in trails
again.

What failures are apart from their trails is told by `mask`, which empties every trail in a failure.
The one step of the library that touches trails is the raise. It puts a whole failure into a trail,
where `mask` does not see it, and makes its decisions by the hooks alone.
-/

namespace Deferral

variable {ω κ ε : Type}

/-! ### The likeness -/

namespace Likeness

/-- Failures are alike when they differ at most in what `mask` empties. -/
def masked (mask : ε → ε) (events : ω → ω → Prop) (clients : κ → κ → Prop) : Likeness ω κ ε where
  failures one other := mask one = mask other
  events := events
  clients := clients

variable {like : Likeness ω κ ε} {type : FailureType ω κ ε}

/-- Worlds that are alike have logged the same notices. -/
theorem Worlds.notices {first second : World ω κ} (h : like.Worlds first second) :
    first.notices = second.notices := by
  have htrace := h.trace
  rw [World.notices, World.notices]
  generalize first.trace.toList = entries at htrace ⊢
  generalize second.trace.toList = others at htrace ⊢
  induction htrace with
  | nil => rfl
  | cons hentry _ ih =>
    cases hentry with
    | notice notice => rw [List.filterMap_cons, List.filterMap_cons, ih]
    | event _ => rw [List.filterMap_cons, List.filterMap_cons, ih]; rfl

variable (like)

/-- The hooks of a type cannot tell failures apart that are alike, and whatever is put into the
slots of two such failures, they are still alike. -/
structure Blind (type : FailureType ω κ ε) : Prop where
  owns : ∀ one other, like.failures one other → type.owns one = type.owns other
  cancellation : like.Maps like.failures Eq type.cancellation type.cancellation
  copy : like.Maps like.failures (ExceptAlike Eq like.failures) type.copy type.copy
  slots : like.Maps like.failures
    (Option.Rel fun first second => ∀ trail other,
      like.failures (first.fill trail) (second.fill other)) type.slots type.slots

variable {like}

/-- Failures that are alike are raised as they were stored, with the same warning. -/
theorem follows_raiseAsStored {one other : ε} (h : like.failures one other) (site : Site)
    (reason : CopyError) :
    like.Follows like.failures (FailureType.raiseAsStored one site reason)
      (FailureType.raiseAsStored other site reason) :=
  (follows_log _).andThen (.pure h)

/-- Raising cannot tell failures apart that are alike: each of its decisions is that of a hook, and
the one place into which it puts a whole failure is a slot. -/
theorem Blind.respects (htype : like.Blind type) : like.Respects type where
  owns := htype.owns
  cancellation := htype.cancellation
  raise site one other hfailure := by
    refine (htype.cancellation one other hfailure).bindSame fun reported => ?_
    cases reported with
    | some token =>
      refine (follows_clear token).andThen ((follows_log _).andThen ?_)
      refine (htype.copy one other hfailure).bind fun copied answer hcopied => ?_
      cases hcopied with
      | ok hblank => exact .pure hblank
      | error _ => exact .pure hfailure
    | none =>
      refine (htype.copy one other hfailure).bind fun copied answer hcopied => ?_
      cases hcopied with
      | error hreason =>
        subst hreason
        exact follows_raiseAsStored hfailure site _
      | ok hcopy =>
        refine (htype.slots _ _ hcopy).bind fun slots places hslots => ?_
        cases hslots with
        | some hfill => exact .pure (hfill (.raised site one) (.raised site other))
        | none => exact follows_raiseAsStored hfailure site _

end Likeness

/-! ### Two runs of one program -/

variable [Wording ε] [BEq ε] [Feeds ε]

/-- Trails do not influence behaviour. A program is run twice, on inputs that differ at most in the
trails of failures, and its callables and hooks do not look at trails. Then the exchanges of the two
runs are alike one by one: the same request, with arguments that differ at most in trails, the same
way in which it is answered, and answers, desks and worlds that differ at most in trails. In
particular, the same calls are made, the same tokens are cancelled, and the same notices are logged
at each step. -/
theorem Dialogue.noninterference {mask : ε → ε} {events : ω → ω → Prop} {clients : κ → κ → Prop}
    (hderived : (Likeness.masked mask events clients).Derived) {input base : Shape}
    {program : input.Carrier ε → Dialogue ω κ ε base}
    (hprogram : ∀ one other, input.Alike (fun a b => mask a = mask b) one other →
      (program one).Alike (Likeness.masked mask events clients)
        (Likeness.masked mask events clients).Blind (program other))
    {one other : input.Carrier ε} (hinput : input.Alike (fun a b => mask a = mask b) one other)
    {desk place : Desk ω κ ε (base.Carrier ε)} {world sphere : World ω κ}
    (hdesks : desk.Alike (Likeness.masked mask events clients)
      (base.Alike fun a b => mask a = mask b) place)
    (hworlds : (Likeness.masked mask events clients).Worlds world sphere) :
    List.Forall₂
      (fun first second =>
        first.Alike (Likeness.masked mask events clients)
          (Likeness.masked mask events clients).Blind second ∧
        first.after.2.cancelled = second.after.2.cancelled ∧
        first.after.2.notices = second.after.2.notices)
      ((program one).run (desk, world)) ((program other).run (place, sphere)) := by
  have hstart : Both (Desk.Alike (Likeness.masked mask events clients)
      (base.Alike (Likeness.masked mask events clients).failures))
      (Likeness.masked mask events clients).Worlds (desk, world) (place, sphere) :=
    ⟨hdesks, hworlds⟩
  have hrun := (hprogram one other hinput).run (fun _ => Likeness.Blind.respects) hderived hstart
  refine hrun.imp fun first second halike => ⟨halike, ?_⟩
  cases halike with
  | intro _ _ _ hafter => exact ⟨hafter.2.cancelled, hafter.2.notices⟩

/-! ### Failures of scripts -/

namespace Script

namespace Fault

mutual

/-- The failure with every trail in it emptied. -/
def masked : Fault → Fault
  | plain message _ => plain message .empty
  | fetch code message copies _ => fetch code message copies .empty
  | cancelled token _ => cancelled token .empty
  | halt token note copies _ => halt token note copies .empty
  | io inner => io (maskedInner inner)
  | boxed inner => boxed (maskedInner inner)
  | task inner => task (maskedInner inner)
  | other => other

/-- The error with every trail in it emptied. -/
def maskedInner : DynError Fault → DynError Fault
  | .leaf error => .leaf (masked error)
  | .layer source => .layer (maskedInner source)
  | .interrupted message suppressed => .interrupted message (maskedInner suppressed)
  | .abandoned => .abandoned
  | .crashed => .crashed

end

/-- What is put into the trail of a failure is not seen. -/
theorem masked_withTrail (fault : Fault) (trail : Trail Fault) :
    (fault.withTrail trail).masked = fault.masked := by
  cases fault <;> rfl

/-- Trails do not show in the kind of a failure. -/
theorem kind?_masked (fault : Fault) : fault.masked.kind? = fault.kind? := by
  cases fault <;> rfl

/-- Nor do they show in the token that it reports. -/
theorem cancellation_masked (fault : Fault) : fault.masked.cancellation = fault.cancellation := by
  cases fault <;> rfl

/-- Nor do they show in its copies. -/
theorem copy_masked (typeName : String) (fault : Fault) :
    fault.masked.copy typeName = fault.copy typeName := by
  cases fault <;> rfl

/-- Nor do they show in whether it has a trail at all. -/
theorem isSome_trail?_masked (fault : Fault) :
    fault.masked.trail?.isSome = fault.trail?.isSome := by
  cases fault <;> rfl

/-- Nor do they show when it is compared with others. -/
theorem same_masked (first second : Fault) :
    same first.masked second.masked = same first second := by
  cases first <;> cases second <;> rfl

/-- Nor do they show in what it is hashed by. -/
theorem chunks_masked (fault : Fault) : fault.masked.chunks = fault.chunks := by
  cases fault <;> rfl

mutual

/-- Nor do they show in its wording. -/
theorem wording_masked : ∀ fault : Fault, fault.masked.wording = fault.wording
  | io inner => by rw [masked, wording, wording, innerWording_maskedInner inner]
  | boxed inner => by rw [masked, wording, wording, innerWording_maskedInner inner]
  | text _ => rfl
  | staticText _ => rfl
  | plain _ _ => rfl
  | fetch _ _ _ _ => rfl
  | hook _ => rfl
  | slotless _ _ => rfl
  | cancelled _ _ => rfl
  | stop _ _ => rfl
  | halt _ _ _ _ => rfl
  | format => rfl
  | treacherous _ _ => rfl
  | task _ => rfl
  | anonymous _ => rfl

/-- Nor do the trails of what it wraps. -/
theorem innerWording_maskedInner :
    ∀ error : DynError Fault, innerWording (maskedInner error) = innerWording error
  | .leaf error => by rw [maskedInner, innerWording, innerWording, wording_masked error]
  | .layer source => by
    rw [maskedInner, innerWording, innerWording, innerWording_maskedInner source]
  | .interrupted _ _ => by rw [maskedInner, innerWording, innerWording]
  | .abandoned => rfl
  | .crashed => rfl

end

/-- The wording, the comparison and the hash of a failure show nothing of its trails. -/
theorem derived_masked (events : Event → Event → Prop) (clients : Calls → Calls → Prop) :
    (Likeness.masked masked events clients).Derived where
  text one other h := by
    have hmasked : one.masked = other.masked := h
    change one.wording = other.wording
    rw [← wording_masked one, hmasked, wording_masked]
  same one other left right h hother := by
    have hmasked : one.masked = other.masked := h
    have hleft : left.masked = right.masked := hother
    change same one left = same other right
    rw [← same_masked one left, hmasked, hleft, same_masked]
  feed one other h := by
    have hmasked : one.masked = other.masked := h
    change one.chunks = other.chunks
    rw [← chunks_masked one, hmasked, chunks_masked]

end Fault

/-- The hooks of every kind are blind to trails, where the events of copies are alike. -/
theorem Kind.blind (kind : Kind) {events : Event → Event → Prop} (clients : Calls → Calls → Prop)
    (hcopied : ∀ copied, events (.copied copied) (.copied copied)) :
    (Likeness.masked Fault.masked events clients).Blind kind.failureType where
  owns one other h := by
    have hmasked : one.masked = other.masked := h
    change (one.kind? == some kind) = (other.kind? == some kind)
    rw [← Fault.kind?_masked one, hmasked, Fault.kind?_masked]
  cancellation one other h := by
    have hmasked : one.masked = other.masked := h
    change Likeness.Follows _ Eq one.cancellation other.cancellation
    rw [← Fault.cancellation_masked one, hmasked, Fault.cancellation_masked]
    cases other <;> first | exact .pure rfl | exact .panic _
  copy one other h := by
    have hmasked : one.masked = other.masked := h
    change Likeness.Follows _ _ (one.copy kind.typeName) (other.copy kind.typeName)
    rw [← Fault.copy_masked, hmasked, Fault.copy_masked]
    have hemit (copied : Kind) : (Likeness.masked Fault.masked events clients).Follows Eq
        (emit (.copied copied)) (emit (.copied copied)) := Likeness.follows_emit (hcopied copied)
    cases other with
    | plain _ _ => exact .pure (.ok rfl)
    | cancelled _ _ => exact .pure (.ok rfl)
    | fetch _ _ _ _ => exact (hemit .fetch).andThen (.pure (.ok rfl))
    | slotless _ _ => exact (hemit .slotless).andThen (.pure (.ok rfl))
    | halt _ _ _ _ => exact (hemit .halt).andThen (.pure (.ok rfl))
    | hook _ => exact (hemit .hook).andThen (.pure (.error rfl))
    | _ => exact .pure (.error rfl)
  slots one other h := by
    have hmasked : one.masked = other.masked := h
    have hroom : one.trail?.isSome = other.trail?.isSome := by
      rw [← Fault.isSome_trail?_masked one, hmasked, Fault.isSome_trail?_masked]
    change Likeness.Follows _ _
      (pure (one.trail?.map fun trail => (⟨trail, one.withTrail⟩ : Slots Fault)))
      (pure (other.trail?.map fun trail => (⟨trail, other.withTrail⟩ : Slots Fault)))
    generalize one.trail? = found at hroom ⊢
    generalize other.trail? = left at hroom ⊢
    cases found with
    | none =>
      cases left with
      | none => exact .pure .none
      | some _ => cases hroom
    | some _ =>
      cases left with
      | none => cases hroom
      | some _ =>
        refine .pure (.some fun trail content => ?_)
        change (one.withTrail trail).masked = (other.withTrail content).masked
        rw [Fault.masked_withTrail, Fault.masked_withTrail, hmasked]

/-- Events of scripts that differ at most in the trails of a handled failure. -/
inductive Event.Alike : Event → Event → Prop where
  | refl (event : Event) : Alike event event
  | handled {one other : Fault} (h : one.masked = other.masked) :
    Alike (.handled one) (.handled other)

/-- The length of the wording of a failure, measured where its handling shows in the trace. -/
def measured : Callable Event Calls Fault .failure (.plain Nat) :=
  ⟨.handled, fun fault => pure fault.wording.length⟩

/-- A program that stores a failure, raises it, compares what was stored with what was raised, and
recovers from the failure with the length of its wording. -/
def retelling (failure : Fault) : Dialogue Event Calls Fault (.plain Nat) :=
  .ask (.defer (s := .plain Nat) Kind.fetch.failureType failure) fun
    | .error _ => .finish
    | .ok stored =>
      .ask (.raise Kind.fetch.failureType ⟨"B"⟩ stored) fun
        | .error _ => .finish
        | .ok raised =>
          .ask (.hold raised) fun
            | .error _ => .finish
            | .ok again =>
              .ask (.same inferInstance stored again) fun _ =>
                .ask (.valueOr measured again) fun _ => .finish

/-- It does not look at trails. -/
theorem retelling_alike {one other : Fault} (h : one.masked = other.masked) :
    (retelling one).Alike (Likeness.masked Fault.masked Event.Alike Eq)
      (Likeness.masked Fault.masked Event.Alike Eq).Blind (retelling other) := by
  have hblind : (Likeness.masked Fault.masked Event.Alike (Eq : Calls → Calls → Prop)).Blind
      Kind.fetch.failureType := Kind.fetch.blind Eq fun copied => .refl (.copied copied)
  have hmeasured : (Likeness.masked Fault.masked Event.Alike Eq).Calls measured measured := by
    refine ⟨fun _ _ hfault => .handled hfault, fun fault twin hfault => .pure ?_⟩
    have hmasked : fault.masked = twin.masked := hfault
    change fault.wording.length = twin.wording.length
    rw [← Fault.wording_masked fault, hmasked, Fault.wording_masked]
  refine .ask (.defer hblind h) fun _ _ hstored => ?_
  cases hstored with
  | error _ => exact .finish
  | ok hstored =>
    refine .ask (.raise hblind ⟨"B"⟩ hstored) fun _ _ hraised => ?_
    cases hraised with
    | error _ => exact .finish
    | ok hraised =>
      refine .ask (.hold hraised) fun _ _ hagain => ?_
      cases hagain with
      | error _ => exact .finish
      | ok hagain =>
        refine .ask (.same ?_ hstored hagain) fun _ _ _ => ?_
        · rintro a _ c _ rfl rfl
          rfl
        · exact .ask (.valueOr hmeasured hagain) fun _ _ _ => .finish

/-- The program is told a failure that has never been raised, and the same failure after it was
raised before. -/
theorem retelling_noninterference :
    let like := Likeness.masked Fault.masked Event.Alike (Eq : Calls → Calls → Prop)
    let fresh := Fault.fetch 404 "page" 0 .empty
    let raised := Fault.fetch 404 "page" 0 (.raised ⟨"A"⟩ fresh)
    let world : ScriptWorld := ⟨fun _ => false, #[], fun _ => 0⟩
    let desk : Desk Event Calls Fault Nat := .empty
    like.Derived ∧
      (∀ one other : Shape.failure.Carrier Fault, Shape.failure.Alike like.failures one other →
        (retelling one).Alike like like.Blind (retelling other)) ∧
      Shape.failure.Alike like.failures fresh raised ∧ desk.Alike like Eq desk ∧
      like.Worlds world world ∧
        List.Forall₂
          (fun first second => first.Alike like like.Blind second ∧
            first.after.2.cancelled = second.after.2.cancelled ∧
            first.after.2.notices = second.after.2.notices)
          ((retelling fresh).run (desk, world)) ((retelling raised).run (desk, world)) := by
  intro like fresh raised world desk
  have hderived : like.Derived := Fault.derived_masked Event.Alike Eq
  have hprogram : ∀ one other : Shape.failure.Carrier Fault,
      Shape.failure.Alike like.failures one other →
        (retelling one).Alike like like.Blind (retelling other) := fun _ _ => retelling_alike
  have hinput : Shape.failure.Alike like.failures fresh raised := rfl
  have hdesk : desk.Alike like Eq desk := ⟨.nil, rfl, .nil⟩
  have hworld : like.Worlds world world := ⟨rfl, .nil, rfl⟩
  exact ⟨hderived, hprogram, hinput, hdesk, hworld,
    Dialogue.noninterference hderived hprogram hinput hdesk hworld⟩

end Script

end Deferral
