import Deferral.Proofs.Raise.CauseChain

/-!
# What raising a failure comes to

Raising a stored failure asks three hooks of its type: for the token that the failure reports, for a
copy, and for the slots of the copy. Their answers leave five cases, which `FailureType.Raises`
lists. Each case says what is raised, which worlds lie between one hook and the next, and so what
the library itself has written, and which hooks were called. Hooks may keep states of their own and
leave events, as long as they return and write no token; then one of the cases applies.

To see which hooks are called, a failure type is run with a record beside the state of its client:
`FailureType.recorded` appends every call of a hook to the record.
-/

namespace Deferral

variable {ω κ ε ρ α : Type}

/-! ### Recording the hooks -/

namespace World

/-- The world with a record kept beside the state of the client. -/
def noting (world : World ω κ) (record : ρ) : World ω (ρ × κ) :=
  ⟨world.cancelled, world.trace, record, world.client⟩

/-- The world without the record. -/
def unnoted (world : World ω (ρ × κ)) : World ω κ :=
  ⟨world.cancelled, world.trace, world.client.2⟩

end World

/-- A computation whose call is appended to the record. -/
def Run.noted (call : ρ) (act : Run ω κ α) : Run ω (List ρ × κ) α := fun world =>
  let (exit, after) := act world.unnoted
  (exit, after.noting (world.client.1 ++ [call]))

/-- A call that returns does what it does without a record, and stands at the end of the record. -/
theorem Run.noted_of_done {call : ρ} {act : Run ω κ α} {world after : World ω κ} {a : α}
    (h : act world = (.done a, after)) (record : List ρ) :
    Run.noted call act (world.noting record) = (.done a, after.noting (record ++ [call])) := by
  change (let (exit, after) := act world; (exit, after.noting (record ++ [call]))) = _
  rw [h]

/-- A call after others stands behind them in the record. -/
theorem Run.noted_after {call : ρ} {act : Run ω κ α} {world after : World ω κ} {a : α}
    (h : act world = (.done a, after)) (record calls : List ρ) :
    Run.noted call act (world.noting (record ++ calls)) =
      (.done a, after.noting (record ++ (calls ++ [call]))) := by
  rw [Run.noted_of_done h, List.append_assoc]

/-- A call of a hook: which hook, and the failure that it is asked about. -/
inductive HookCall (ε : Type) where
  | cancellation (failure : ε)
  | copy (failure : ε)
  | slots (failure : ε)
deriving DecidableEq, Repr

/-- A call of the copy hook. -/
def HookCall.isCopy : HookCall ε → Bool
  | cancellation _ => false
  | copy _ => true
  | slots _ => false

namespace FailureType

/-- The type whose hooks record that they are called. -/
def recorded (type : FailureType ω κ ε) : FailureType ω (List (HookCall ε) × κ) ε where
  name := type.name
  owns := type.owns
  cancellation failure := Run.noted (.cancellation failure) (type.cancellation failure)
  copy failure := Run.noted (.copy failure) (type.copy failure)
  slots failure := Run.noted (.slots failure) (type.slots failure)

end FailureType

/-! ### Orderly hooks -/

/-- A computation that returns and writes no token, wherever it is started. -/
def Run.Orderly (act : Run ω κ α) : Prop :=
  ∀ world, ∃ answer after, act world = (.done answer, after) ∧ after.cancelled = world.cancelled

/-- These slots are the ones in which `failure` keeps its trail: filling them changes the trail to
the given one and nothing else. -/
structure TrailField.Opens (field : TrailField ε) (slots : Slots ε) (failure : ε) : Prop where
  trail_fill : ∀ trail, field.trail (slots.fill trail) = trail
  restore : ∀ trail, field.withTrail (slots.fill trail) (field.trail failure) = failure

namespace FailureType

/-- The hooks that a raise of `failure` may call return and write no token, and the slots that they
hand out are those of the failure they are asked about. -/
structure Orderly (type : FailureType ω κ ε) (field : TrailField ε) (failure : ε) : Prop where
  cancellation : (type.cancellation failure).Orderly
  copy : (type.copy failure).Orderly
  slots : ∀ copy, (type.slots copy).Orderly
  opens : ∀ copy slots world after, type.slots copy world = (.done (some slots), after) →
    field.Opens slots copy

/-! ### The five cases -/

/-- The world in which a raise goes on after it has withdrawn the request of a cancellation. -/
def withdrawn (type : FailureType ω κ ε) (token : Token) (site : Site) (world : World ω κ) :
    World ω κ :=
  (world.setFlag token false).push (.notice (.cleared type.name site))

/-- The world in which a raise ends that could not put a copy in the place of the failure. -/
def warned (site : Site) (reason : CopyError) (world : World ω κ) : World ω κ :=
  world.push (.notice (.raisedAsStored site reason))

/-- A warning leaves the record as it is. -/
theorem warned_noting (site : Site) (reason : CopyError) (world : World ω κ) (record : ρ) :
    (warned site reason world).noting record = warned site reason (world.noting record) := rfl

/-- Raising `failure` at `site`, started in `world`, comes to this: the failure reports the
cancellation of this token, if of any, these hooks are called, this failure is raised, and the raise
ends in this world. -/
inductive Raises (type : FailureType ω κ ε) (field : TrailField ε) (failure : ε) (site : Site)
    (world : World ω κ) : Option Token → List (HookCall ε) → ε → World ω κ → Prop where
  /-- A cancellation clears its token and comes back as the copy, in which nothing is recorded. -/
  | blank {token : Token} {blank : ε} {asked after : World ω κ}
    (hreported : type.cancellation failure world = (.done (some token), asked))
    (hcopied : type.copy failure (type.withdrawn token site asked) = (.done (.ok blank), after)) :
    Raises type field failure site world (some token) [.cancellation failure, .copy failure] blank
      after
  /-- A cancellation that cannot be copied clears its token and is raised as it is. Nobody is
  warned. -/
  | cancelledAsStored {token : Token} {reason : CopyError} {asked after : World ω κ}
    (hreported : type.cancellation failure world = (.done (some token), asked))
    (hcopied : type.copy failure (type.withdrawn token site asked) =
      (.done (.error reason), after)) :
    Raises type field failure site world (some token) [.cancellation failure, .copy failure] failure
      after
  /-- Any other failure that cannot be copied is raised as it is, with a warning that says why. -/
  | refused {reason : CopyError} {asked copied : World ω κ}
    (hreported : type.cancellation failure world = (.done none, asked))
    (hcopied : type.copy failure asked = (.done (.error reason), copied)) :
    Raises type field failure site world none [.cancellation failure, .copy failure] failure
      (warned site reason copied)
  /-- A copy with slots is raised in place of the failure. It records where it was raised and the
  failure as its cause, and is the copy otherwise. -/
  | traced {copy raised : ε} {slots : Slots ε} {asked copied after : World ω κ}
    (hreported : type.cancellation failure world = (.done none, asked))
    (hcopied : type.copy failure asked = (.done (.ok copy), copied))
    (hslots : type.slots copy copied = (.done (some slots), after))
    (hraised : slots.fill (.raised site failure) = raised)
    (htrail : field.trail raised = ⟨some site, some .captured, some failure⟩)
    (hrest : field.withTrail raised (field.trail copy) = copy) :
    Raises type field failure site world none
      [.cancellation failure, .copy failure, .slots copy] raised after
  /-- A copy without slots is dropped, and the failure is raised as it is, with a warning. -/
  | slotless {copy : ε} {asked copied opened : World ω κ}
    (hreported : type.cancellation failure world = (.done none, asked))
    (hcopied : type.copy failure asked = (.done (.ok copy), copied))
    (hslots : type.slots copy copied = (.done none, opened)) :
    Raises type field failure site world none
      [.cancellation failure, .copy failure, .slots copy] failure
      (warned site (.unsupported type.name) opened)

section

variable {type : FailureType ω κ ε} {field : TrailField ε} {failure raised : ε} {site : Site}
  {world after : World ω κ} {reported : Option Token} {calls : List (HookCall ε)}

/-- A failure that reports a token has it withdrawn before it is copied. -/
theorem raise_of_reported {token : Token} {asked : World ω κ}
    (hreported : type.cancellation failure world = (.done (some token), asked)) :
    type.raise failure site world =
      (do match ← type.copy failure with
          | .ok blank => pure blank
          | .error _ => pure failure : Run ω κ ε) (type.withdrawn token site asked) :=
  Act.bind_of_done hreported _

/-- A failure that reports no token is copied at once. -/
theorem raise_of_unreported {asked : World ω κ}
    (hreported : type.cancellation failure world = (.done none, asked)) :
    type.raise failure site world =
      (do match ← type.copy failure with
          | .error reason => raiseAsStored failure site reason
          | .ok copy =>
            match ← type.slots copy with
            | some slots => pure (slots.fill (.raised site failure))
            | none => raiseAsStored failure site (.unsupported type.name) : Run ω κ ε) asked :=
  Act.bind_of_done hreported _

/-- In each of the cases, what the case says is what raising the failure does. -/
theorem Raises.raise (h : type.Raises field failure site world reported calls raised after) :
    type.raise failure site world = (.done raised, after) := by
  cases h with
  | blank hreported hcopied =>
    rw [raise_of_reported hreported, Act.bind_of_done hcopied]
    rfl
  | cancelledAsStored hreported hcopied =>
    rw [raise_of_reported hreported, Act.bind_of_done hcopied]
    rfl
  | refused hreported hcopied =>
    rw [raise_of_unreported hreported, Act.bind_of_done hcopied]
    rfl
  | traced hreported hcopied hslots hraised =>
    rw [raise_of_unreported hreported, Act.bind_of_done hcopied]
    dsimp only
    rw [Act.bind_of_done hslots, ← hraised]
    rfl
  | slotless hreported hcopied hslots =>
    rw [raise_of_unreported hreported, Act.bind_of_done hcopied]
    dsimp only
    rw [Act.bind_of_done hslots]
    rfl

/-- A raise that returns has gone one of these ways, if slots are those of the failure that they are
handed out for. -/
theorem Raises.of_raise
    (hopens : ∀ copy slots world after, type.slots copy world = (.done (some slots), after) →
      field.Opens slots copy)
    (h : type.raise failure site world = (.done raised, after)) :
    ∃ reported calls, type.Raises field failure site world reported calls raised after := by
  obtain ⟨reported, asked, hreported, _⟩ := Act.done_of_bind h
  cases reported with
  | some token =>
    rw [raise_of_reported hreported] at h
    obtain ⟨answer, copied, hcopied, hend⟩ := Act.done_of_bind h
    cases answer with
    | ok blank =>
      cases hend
      exact ⟨_, _, .blank hreported hcopied⟩
    | error reason =>
      cases hend
      exact ⟨_, _, .cancelledAsStored hreported hcopied⟩
  | none =>
    rw [raise_of_unreported hreported] at h
    obtain ⟨answer, copied, hcopied, hend⟩ := Act.done_of_bind h
    cases answer with
    | error reason =>
      cases hend
      exact ⟨_, _, .refused hreported hcopied⟩
    | ok copy =>
      obtain ⟨slots?, opened, hslots, hend⟩ := Act.done_of_bind hend
      cases slots? with
      | none =>
        cases hend
        exact ⟨_, _, .slotless hreported hcopied hslots⟩
      | some slots =>
        cases hend
        have hown := hopens _ _ _ _ hslots
        exact ⟨_, _, .traced hreported hcopied hslots rfl (hown.trail_fill _) (hown.restore _)⟩

/-- With hooks that record their calls the same case applies, and the record has grown by the calls
of the case. -/
theorem Raises.noting (h : type.Raises field failure site world reported calls raised after)
    (record : List (HookCall ε)) :
    type.recorded.Raises field failure site (world.noting record) reported calls raised
      (after.noting (record ++ calls)) := by
  cases h with
  | blank hreported hcopied =>
    exact .blank (Run.noted_of_done hreported record) (Run.noted_after hcopied record _)
  | cancelledAsStored hreported hcopied =>
    exact .cancelledAsStored (Run.noted_of_done hreported record)
      (Run.noted_after hcopied record _)
  | refused hreported hcopied =>
    rw [warned_noting]
    exact .refused (Run.noted_of_done hreported record) (Run.noted_after hcopied record _)
  | traced hreported hcopied hslots hraised htrail hrest =>
    exact .traced (Run.noted_of_done hreported record) (Run.noted_after hcopied record _)
      (Run.noted_after hslots record _) hraised htrail hrest
  | slotless hreported hcopied hslots =>
    rw [warned_noting]
    exact .slotless (Run.noted_of_done hreported record) (Run.noted_after hcopied record _)
      (Run.noted_after hslots record _)

/-- In each of the cases the copy hook is called once, with the stored failure. -/
theorem Raises.copies (h : type.Raises field failure site world reported calls raised after) :
    calls.filter HookCall.isCopy = [.copy failure] := by
  cases h <;> rfl

end

/-- With orderly hooks one of the cases applies, and the flag of the reported token is the only one
that is written. -/
theorem Orderly.cases {type : FailureType ω κ ε} {field : TrailField ε} {failure : ε}
    (horderly : type.Orderly field failure) (site : Site) (world : World ω κ) :
    ∃ reported calls raised after,
      type.Raises field failure site world reported calls raised after ∧
      ∀ token, after.cancelled token =
        if reported = some token then false else world.cancelled token := by
  obtain ⟨reported, asked, hreported, hasked⟩ := horderly.cancellation world
  cases reported with
  | some token =>
    obtain ⟨answer, after, hcopied, hafter⟩ :=
      horderly.copy (type.withdrawn token site asked)
    have hflags : ∀ other, after.cancelled other =
        if some token = some other then false else world.cancelled other := by
      intro other
      rw [hafter, ← hasked]
      by_cases hsame : other = token
      · subst hsame
        simp [withdrawn]
      · simp [withdrawn, hsame, Ne.symm hsame]
    cases answer with
    | ok blank => exact ⟨_, _, _, _, .blank hreported hcopied, hflags⟩
    | error reason => exact ⟨_, _, _, _, .cancelledAsStored hreported hcopied, hflags⟩
  | none =>
    obtain ⟨answer, copied, hcopied, hflags⟩ := horderly.copy asked
    cases answer with
    | error reason =>
      refine ⟨_, _, _, _, .refused hreported hcopied, fun token => ?_⟩
      simp [warned, hflags, hasked]
    | ok copy =>
      obtain ⟨slots?, opened, hslots, hopened⟩ := horderly.slots copy copied
      cases slots? with
      | none =>
        refine ⟨_, _, _, _, .slotless hreported hcopied hslots, fun token => ?_⟩
        simp [warned, hopened, hflags, hasked]
      | some slots =>
        have hopens := horderly.opens copy slots copied opened hslots
        refine ⟨_, _, _, _, .traced hreported hcopied hslots rfl
          (hopens.trail_fill (.raised site failure)) (hopens.restore _), fun token => ?_⟩
        simp [hopened, hflags, hasked]

/-- Raising a deferred failure is completely told by five cases, one of which applies whenever the
hooks are orderly; it writes the flag of the token that the failure reports and of no other, and
calls the copy hook exactly once. Raising a value hands the value out, and calls no hook. -/
theorem Orderly.rebuilds {type : FailureType ω κ ε} {field : TrailField ε} {failure : ε}
    (horderly : type.Orderly field failure) (site : Site) (world : World ω κ) :
    (∃ reported calls raised after,
      type.Raises field failure site world reported calls raised after ∧
      (Deferred.failure failure : Deferred ε α).raise type site world =
        (.done (.error raised), after) ∧
      (∀ record, (Deferred.failure failure : Deferred ε α).raise type.recorded site
        (world.noting record) = (.done (.error raised), after.noting (record ++ calls))) ∧
      calls.filter HookCall.isCopy = [.copy failure] ∧
      ∀ token, after.cancelled token =
        if reported = some token then false else world.cancelled token) ∧
    ∀ (a : α),
      (Deferred.value a).raise type site world = (.done (.ok a), world) ∧
      ∀ record, (Deferred.value a).raise type.recorded site (world.noting record) =
        (.done (.ok a), world.noting record) := by
  obtain ⟨reported, calls, raised, after, hraises, hflags⟩ := horderly.cases site world
  refine ⟨⟨reported, calls, raised, after, hraises, ?_, ?_, hraises.copies, hflags⟩,
    fun a => ⟨rfl, fun record => rfl⟩⟩
  · rw [Deferred.raise, Deferred.recover, Act.bind_of_done hraises.raise]
    rfl
  · intro record
    rw [Deferred.raise, Deferred.recover, Act.bind_of_done (hraises.noting record).raise]
    rfl

end FailureType

/-! ### Failures of scripts -/

namespace Script

/-- The hooks of every kind are orderly, except on failures whose cancellation panics when it is
looked up. -/
theorem Kind.orderly (kind : Kind) {failure : Fault}
    (htame : ∀ trap message, failure ≠ .treacherous trap message) :
    kind.failureType.Orderly Fault.trailField failure where
  cancellation world := by
    cases failure <;> first | exact ⟨_, _, rfl, rfl⟩ | exact absurd rfl (htame _ _)
  copy world := by cases failure <;> exact ⟨_, _, rfl, rfl⟩
  slots copy world := ⟨_, _, rfl, rfl⟩
  opens copy slots world after hslots := by
    obtain ⟨trail, htrail, rfl⟩ : ∃ trail, copy.trail? = some trail ∧
        (⟨trail, copy.withTrail⟩ : Slots Fault) = slots := by
      simpa [Kind.failureType, Option.map_eq_some_iff] using congrArg Prod.fst hslots
    cases copy <;> first
      | exact ⟨fun _ => rfl, fun _ => rfl⟩
      | cases htrail

/-- A failure that has been raised before is rebuilt, from a world with a request for cancellation
that has nothing to do with it. -/
theorem Kind.rebuilds_fetch :
    let lost (trail : Trail Fault) := Fault.fetch 404 "page" 0 trail
    let first := lost (.raised ⟨"A"⟩ (lost .empty))
    let world : ScriptWorld := ⟨fun token => token = ⟨7⟩, #[], fun _ => 0⟩
    Kind.fetch.failureType.Orderly Fault.trailField first ∧
      (∃ reported calls raised after,
        Kind.fetch.failureType.Raises Fault.trailField first ⟨"B"⟩ world reported calls raised
          after ∧
        (Deferred.failure first : DeferredValue).raise Kind.fetch.failureType ⟨"B"⟩ world =
          (.done (.error raised), after) ∧
        (∀ record, (Deferred.failure first : DeferredValue).raise Kind.fetch.failureType.recorded
          ⟨"B"⟩ (world.noting record) = (.done (.error raised), after.noting (record ++ calls))) ∧
        calls.filter HookCall.isCopy = [.copy first] ∧
        ∀ token, after.cancelled token =
          if reported = some token then false else world.cancelled token) :=
  have horderly := Kind.fetch.orderly (fun _ _ => by simp)
  ⟨horderly, (horderly.rebuilds ⟨"B"⟩ _).1⟩

end Script

end Deferral
