import Deferral.Proofs.Computation
import Deferral.Script.Event

/-!
# Deferral is transparent

A program that works on a deferred value and the same program on a plain result are run side by
side. They call the same callables with the same arguments in the same order, panic at the same
call, and come to the same value or the same failure. Only tokens and notices may differ, because a
failure that is stored asserts its cancellation; so the callables must not read tokens. No failure
is copied on the way.
-/

namespace Deferral

variable {ω κ ε ζ α β γ : Type}

/-! ### What callables see -/

/-- The event of a client in an entry of the trace. -/
def Entry.event? : Entry ω → Option ω
  | notice _ => none
  | event shown => some shown

/-- The events of the client, in their order. -/
def World.events (world : World ω κ) : List ω := world.trace.toList.filterMap Entry.event?

/-- Two worlds that callables cannot tell apart without reading tokens: the client's state is the
same, and so are the events of the client. -/
structure World.Alike (first second : World ω κ) : Prop where
  client : first.client = second.client
  events : first.events = second.events

namespace World.Alike

/-- A world is like itself. -/
theorem refl (world : World ω κ) : world.Alike world := ⟨rfl, rfl⟩

/-- Worlds are alike in either order. -/
theorem symm {first second : World ω κ} (h : first.Alike second) : second.Alike first :=
  ⟨h.client.symm, h.events.symm⟩

/-- Worlds that are like a third one are alike. -/
theorem trans {first second third : World ω κ} (h : first.Alike second)
    (hnext : second.Alike third) : first.Alike third :=
  ⟨h.client.trans hnext.client, h.events.trans hnext.events⟩

/-- Callables do not see the flag of a token. -/
theorem setFlag (world : World ω κ) (token : Token) (flag : Bool) :
    world.Alike (world.setFlag token flag) :=
  ⟨rfl, rfl⟩

/-- Callables do not see notices. -/
theorem push_notice (world : World ω κ) (notice : Notice) :
    world.Alike (world.push (.notice notice)) :=
  ⟨rfl, by simp [World.events, Entry.event?]⟩

/-- Worlds stay alike when the same event is written to their traces. -/
theorem push_event {first second : World ω κ} (h : first.Alike second) (event : ω) :
    (first.push (.event event)).Alike (second.push (.event event)) := by
  refine ⟨h.client, ?_⟩
  have hevents := h.events
  simp only [World.events] at hevents
  simp [World.events, hevents]

end World.Alike

/-- A computation that does not read tokens: started in worlds that look alike, it ends in the same
way, in worlds that look alike. -/
def Act.Blind (act : Run ω κ α) : Prop := act.Mirrors World.Alike Eq act

/-- A failure whose cancellation can be looked up: the look-up returns, and is not seen by
callables. -/
def FailureType.Calm (type : FailureType ω κ ε) (failure : ε) : Prop :=
  ∀ world, ∃ answer after, type.cancellation failure world = (.done answer, after) ∧
    world.Alike after

/-- A result that is a value, or a failure whose cancellation can be looked up. -/
def FailureType.CalmResult (type : FailureType ω κ ε) (result : Except ε α) : Prop :=
  ∀ failure, result = .error failure → type.Calm failure

/-- A callable of the client. Each of its calls shows itself by an event before any work is done. -/
structure Callback (ω κ α β : Type) where
  call : α → ω
  work : α → Run ω κ β

/-- Call a callable. -/
def Callback.run (callback : Callback ω κ α β) (argument : α) : Run ω κ β := do
  emit (callback.call argument)
  callback.work argument

/-- A callable does not read tokens, and what it makes has a property. -/
structure Callback.Sound (made : β → Prop) (callback : Callback ω κ α β) : Prop where
  blind : ∀ argument, (callback.work argument).Blind
  yields : ∀ argument, (callback.work argument).Yields made

/-- A call from worlds that look alike. -/
theorem Callback.Sound.mirrors {made : β → Prop} {callback : Callback ω κ α β}
    (h : callback.Sound made) (argument : α) :
    Act.Mirrors World.Alike (fun a b => a = b ∧ made a) (callback.run argument)
      (callback.run argument) :=
  Act.Mirrors.bind (fun _ _ halike => ⟨.done rfl, halike.push_event _⟩)
    fun _ _ _ => (h.blind argument).of_yields (h.yields argument)

/-! ### Programs -/

/-- A program whose steps take a value or a failure onward. From values in `α` and failures in `ε`
it leads to values in `γ` and failures in `ζ`. -/
inductive Program (ω κ : Type) : Type → Type → Type → Type → Type 1 where
  | done {ε α : Type} : Program ω κ ε α ε α
  | map {ε α β ζ γ : Type} (f : Callback ω κ α β) (rest : Program ω κ ε β ζ γ) :
    Program ω κ ε α ζ γ
  /-- A callable that may fail; it may store its failure with the bare constructor. -/
  | bind {ε α β ζ γ : Type} (f : Callback ω κ α (Except ε β)) (bare : Bool)
    (rest : Program ω κ ε β ζ γ) : Program ω κ ε α ζ γ
  | ifValue {ε α ζ γ : Type} (look : Callback ω κ α Unit) (rest : Program ω κ ε α ζ γ) :
    Program ω κ ε α ζ γ
  /-- A recovery, with failures of a type that may be another one. -/
  | recover {ε ε' α ζ γ : Type} (type : FailureType ω κ ε') (f : Callback ω κ ε (Except ε' α))
    (rest : Program ω κ ε' α ζ γ) : Program ω κ ε α ζ γ
  /-- The value or the failure is handed out and deferred again. -/
  | reenter {ε α ζ γ : Type} (rest : Program ω κ ε α ζ γ) : Program ω κ ε α ζ γ
  | raiseWith {ε α ζ γ : Type} (wrap : Callback ω κ ε ε) (rest : Program ω κ ε α ζ γ) :
    Program ω κ ε α ζ γ

namespace Program

/-- Store what a callable has come to, by the bare constructors or with the cancellation of a
failure asserted. -/
def store (type : FailureType ω κ ε) (bare : Bool) (result : Except ε α) :
    Run ω κ (Deferred ε α) :=
  if bare then pure (.hold result) else Deferred.ofExcept type result

/-- The steps of a program on a deferred value. -/
def steps {ε α ζ γ : Type} (type : FailureType ω κ ε) :
    Program ω κ ε α ζ γ → Deferred ε α → Run ω κ (Deferred ζ γ)
  | .done, deferred => pure deferred
  | .map f rest, deferred => do rest.steps type (← deferred.map type f.run)
  | .bind f bare rest, deferred => do
    rest.steps type (← deferred.bind type fun value => do store type bare (← f.run value))
  | .ifValue look rest, deferred => do rest.steps type (← deferred.ifValue look.run)
  | .recover later f rest, deferred => do
    rest.steps later (← Deferred.ofExcept later (← deferred.recover f.run))
  | .reenter rest, deferred => do rest.steps type (← Deferred.ofExcept type deferred.toExcept)
  | .raiseWith wrap rest, deferred => do
    rest.steps type (← Deferred.ofExcept type (← deferred.raiseWith wrap.run))

/-- Defer a result, go through the program, and hand out what has become of it. -/
def deferred (type : FailureType ω κ ε) (program : Program ω κ ε α ζ γ) (result : Except ε α) :
    Run ω κ (Except ζ γ) := do
  return (← program.steps type (← Deferred.ofExcept type result)).toExcept

/-- The program on a plain result: values go through the callables on values, failures through those
on failures, and whatever a step is not about is passed on. -/
def plain {ε α ζ γ : Type} : Program ω κ ε α ζ γ → Except ε α → Run ω κ (Except ζ γ)
  | .done, result => pure result
  | .map f rest, .ok value => do rest.plain (.ok (← f.run value))
  | .map _ rest, .error failure => rest.plain (.error failure)
  | .bind f _ rest, .ok value => do rest.plain (← f.run value)
  | .bind _ _ rest, .error failure => rest.plain (.error failure)
  | .ifValue look rest, .ok value => do
    look.run value
    rest.plain (.ok value)
  | .ifValue _ rest, .error failure => rest.plain (.error failure)
  | .recover _ _ rest, .ok value => rest.plain (.ok value)
  | .recover _ f rest, .error failure => do rest.plain (← f.run failure)
  | .reenter rest, result => rest.plain result
  | .raiseWith _ rest, .ok value => rest.plain (.ok value)
  | .raiseWith wrap rest, .error failure => do rest.plain (.error (← wrap.run failure))

/-- The callables of a program do not read tokens, and the cancellations of the failures they make
can be looked up. -/
def Sound {ε α ζ γ : Type} (type : FailureType ω κ ε) : Program ω κ ε α ζ γ → Prop
  | .done => True
  | .map f rest => f.Sound (fun _ => True) ∧ rest.Sound type
  | .bind f _ rest => f.Sound type.CalmResult ∧ rest.Sound type
  | .ifValue look rest => look.Sound (fun _ => True) ∧ rest.Sound type
  | .recover later f rest => f.Sound later.CalmResult ∧ rest.Sound later
  | .reenter rest => rest.Sound type
  | .raiseWith wrap rest => wrap.Sound type.Calm ∧ rest.Sound type

end Program

/-! ### Side by side -/

/-- A deferred value stands for a result, and the cancellation of its failure can be looked up. -/
inductive FailureType.StandsFor (type : FailureType ω κ ε) : Deferred ε α → Except ε α → Prop where
  | value (value : α) : StandsFor type (.value value) (.ok value)
  | failure {failure : ε} (hcalm : type.Calm failure) :
    StandsFor type (.failure failure) (.error failure)

variable {type : FailureType ω κ ε}

/-- Storing a failure whose cancellation can be looked up is not seen by callables. -/
theorem FailureType.Calm.defer {failure : ε} (hcalm : type.Calm failure) (world : World ω κ) :
    ∃ after, type.defer (α := α) failure world = (.done (.failure failure), after) ∧
      world.Alike after := by
  obtain ⟨answer, between, hlookup, halike⟩ := hcalm world
  rw [FailureType.defer, FailureType.reassert]
  simp only [bind_assoc]
  rw [Act.bind_of_done hlookup]
  cases answer with
  | none => exact ⟨between, rfl, halike⟩
  | some token =>
    exact ⟨_, rfl, halike.trans ((World.Alike.setFlag between token true).trans
      (World.Alike.push_notice _ _))⟩

/-- Deferring a failure beside a result that keeps it. -/
theorem FailureType.Calm.mirrors_defer {failure : ε} (hcalm : type.Calm failure) :
    Act.Mirrors World.Alike type.StandsFor (type.defer (α := α) failure)
      (pure (.error failure) : Run ω κ (Except ε α)) := by
  intro world other halike
  obtain ⟨after, hdefer, hafter⟩ := hcalm.defer (α := α) world
  rw [hdefer]
  exact ⟨.done (.failure hcalm), hafter.symm.trans halike⟩

/-- Deferring a result beside the result itself. -/
theorem FailureType.mirrors_ofExcept {result : Except ε α}
    (hcalm : type.CalmResult result) :
    Act.Mirrors World.Alike type.StandsFor (Deferred.ofExcept type result)
      (pure result : Run ω κ (Except ε α)) := by
  cases result with
  | ok value => exact .pure (.value value)
  | error failure => exact (hcalm failure rfl).mirrors_defer

namespace Program

/-- Storing a result beside the result itself. -/
theorem mirrors_store {type : FailureType ω κ ε} {result : Except ε α}
    (hcalm : type.CalmResult result) (bare : Bool) :
    Act.Mirrors World.Alike type.StandsFor (store type bare result)
      (pure result : Run ω κ (Except ε α)) := by
  cases bare with
  | false => exact FailureType.mirrors_ofExcept hcalm
  | true =>
    cases result with
    | ok value => exact .pure (.value value)
    | error failure => exact .pure (.failure (hcalm failure rfl))

/-- A program on a deferred value and the same program on the result it stands for make the same
calls, and what they come to stands for each other. -/
theorem mirrors {ε α ζ γ : Type} (program : Program ω κ ε α ζ γ) {type : FailureType ω κ ε}
    (hsound : program.Sound type) {start : Deferred ε α} {result : Except ε α}
    (hstart : type.StandsFor start result) :
    Act.Mirrors World.Alike (fun deferred result => deferred.toExcept = result)
      (program.steps type start) (program.plain result) := by
  -- A step calls its callable on both sides or on neither, and callables do not see what is stored
  -- in between. That the look-ups return is what the failures bring along as `Calm`.
  induction program with
  | done =>
    cases hstart with
    | value value => exact .pure rfl
    | failure hcalm => exact .pure rfl
  | map f rest ih =>
    obtain ⟨hf, hrest⟩ := hsound
    cases hstart with
    | value value =>
      rw [steps, Deferred.map, bind_assoc, plain]
      refine (hf.mirrors value).bind ?_
      rintro image _ ⟨rfl, -⟩
      exact ih hrest (.value image)
    | failure hcalm =>
      exact hcalm.mirrors_defer.bind fun _ _ hnext => ih hrest hnext
  | bind f bare rest ih =>
    obtain ⟨hf, hrest⟩ := hsound
    cases hstart with
    | value value =>
      rw [steps, Deferred.bind, bind_assoc, plain]
      refine (hf.mirrors value).bind ?_
      rintro made _ ⟨rfl, hmade⟩
      exact (mirrors_store hmade bare).bind fun _ _ hnext => ih hrest hnext
    | failure hcalm =>
      exact hcalm.mirrors_defer.bind fun _ _ hnext => ih hrest hnext
  | ifValue look rest ih =>
    obtain ⟨hlook, hrest⟩ := hsound
    cases hstart with
    | value value =>
      rw [steps, Deferred.ifValue, bind_assoc, plain]
      refine (hlook.mirrors value).bind ?_
      rintro _ _ -
      exact ih hrest (.value value)
    | failure hcalm => exact ih hrest (.failure hcalm)
  | recover later f rest ih =>
    obtain ⟨hf, hrest⟩ := hsound
    cases hstart with
    | value value => exact ih hrest (.value value)
    | failure hcalm =>
      refine (hf.mirrors _).bind ?_
      rintro made _ ⟨rfl, hmade⟩
      exact (FailureType.mirrors_ofExcept hmade).bind fun _ _ hnext => ih hrest hnext
  | reenter rest ih =>
    cases hstart with
    | value value => exact ih hsound (.value value)
    | failure hcalm => exact hcalm.mirrors_defer.bind fun _ _ hnext => ih hsound hnext
  | raiseWith wrap rest ih =>
    obtain ⟨hwrap, hrest⟩ := hsound
    cases hstart with
    | value value => exact ih hrest (.value value)
    | failure hcalm =>
      rw [steps, Deferred.raiseWith, Deferred.recover, bind_assoc, plain]
      refine (hwrap.mirrors _).bind ?_
      rintro made _ ⟨rfl, hmade⟩
      exact hmade.mirrors_defer.bind fun _ _ hnext => ih hrest hnext

end Program

/-! ### Copies -/

/-- The type with another way to copy failures. -/
def FailureType.withCopy (type : FailureType ω κ ε)
    (copy : (ε : Type) → ε → Run ω κ (Except CopyError ε)) : FailureType ω κ ε :=
  { type with copy := copy ε }

/-- Deferring a result copies nothing. -/
theorem FailureType.ofExcept_withCopy (type : FailureType ω κ ε)
    (copy : (ε : Type) → ε → Run ω κ (Except CopyError ε)) (result : Except ε α) :
    Deferred.ofExcept (type.withCopy copy) result = Deferred.ofExcept type result := by
  cases result <;> rfl

namespace Program

/-- The program with another way to copy failures of any type. -/
def withCopy (copy : (ε : Type) → ε → Run ω κ (Except CopyError ε)) {ε α ζ γ : Type} :
    Program ω κ ε α ζ γ → Program ω κ ε α ζ γ
  | .done => .done
  | .map f rest => .map f (rest.withCopy copy)
  | .bind f bare rest => .bind f bare (rest.withCopy copy)
  | .ifValue look rest => .ifValue look (rest.withCopy copy)
  | .recover later f rest => .recover (later.withCopy copy) f (rest.withCopy copy)
  | .reenter rest => .reenter (rest.withCopy copy)
  | .raiseWith wrap rest => .raiseWith wrap (rest.withCopy copy)

variable (copy : (ε : Type) → ε → Run ω κ (Except CopyError ε))

/-- The steps of a program do not depend on what copying a failure would do. -/
theorem steps_withCopy {ε α ζ γ : Type} (program : Program ω κ ε α ζ γ)
    (type : FailureType ω κ ε) (start : Deferred ε α) :
    (program.withCopy copy).steps (type.withCopy copy) start = program.steps type start := by
  induction program with
  | done => rfl
  | map f rest ih =>
    simp only [withCopy, steps, ih]
    cases start <;> rfl
  | bind f bare rest ih =>
    simp only [withCopy, steps, ih, store, FailureType.ofExcept_withCopy]
    cases start <;> rfl
  | ifValue look rest ih => simp only [withCopy, steps, ih]
  | recover later f rest ih =>
    simp only [withCopy, steps, ih, FailureType.ofExcept_withCopy]
  | reenter rest ih =>
    simp only [withCopy, steps, ih, FailureType.ofExcept_withCopy]
  | raiseWith wrap rest ih =>
    simp only [withCopy, steps, ih, FailureType.ofExcept_withCopy]

/-- Running a program on a deferred value comes to the same value or the same failure as running it
on the plain result, or to the same panic, after the same calls with the same arguments in the same
order. What copying a failure would do does not matter, so no failure is copied. -/
theorem transparent {ε α ζ γ : Type} (program : Program ω κ ε α ζ γ) {type : FailureType ω κ ε}
    (hsound : program.Sound type) {result : Except ε α} (hresult : type.CalmResult result)
    (world : World ω κ) :
    (program.deferred type result world).1 = (program.plain result world).1 ∧
      (program.deferred type result world).2.Alike (program.plain result world).2 ∧
      (program.withCopy copy).deferred (type.withCopy copy) result =
        program.deferred type result := by
  have hmirrors : Act.Mirrors World.Alike Eq (program.deferred type result)
      (program.plain result) := by
    have hend : ∀ (deferred : Deferred ζ γ) (result : Except ζ γ), deferred.toExcept = result →
        Act.Mirrors (World.Alike (ω := ω) (κ := κ)) Eq (pure deferred.toExcept) (pure result) :=
      fun _ _ hsame => .pure hsame
    have hparts := (FailureType.mirrors_ofExcept hresult).bind fun _ _ hstart =>
      (program.mirrors hsound hstart).bind hend
    simpa only [deferred, pure_bind, bind_pure] using hparts
  obtain ⟨hexits, halike⟩ := hmirrors (World.Alike.refl world)
  refine ⟨hexits.eq, halike, ?_⟩
  simp only [deferred, steps_withCopy, FailureType.ofExcept_withCopy]

end Program

/-! ### Failures of scripts -/

namespace Script

/-- The cancellation of a failure with a token of its own, or with none, can be looked up. -/
theorem Kind.calm_halt (kind : Kind) (token : Option Token) (note : String) (copies : Nat)
    (trail : Trail Fault) : kind.failureType.Calm (.halt token note copies trail) :=
  fun world => ⟨token, world, rfl, .refl world⟩

/-- Counting a call does not read tokens. -/
theorem countCall_blind (slot : Nat) : (countCall slot).Blind := by
  intro first second halike
  have hcalls := halike.client
  refine ⟨?_, ?_, halike.events⟩
  · simp only [countCall, hcalls]
    exact .done rfl
  · simp only [countCall, hcalls]

/-- A value is counted up, gives way to a failure that is stored with its token, and the failure is
wrapped in one with another token. -/
theorem transparent_of_halts :
    let type := Kind.halt.failureType
    let world : ScriptWorld := ⟨fun _ => false, #[], fun _ => 0⟩
    let copy : (ε : Type) → ε → Run Event Calls (Except CopyError ε) := fun _ _ => .panic .object
    let program : Program Event Calls Fault Int Fault Int :=
      .map ⟨fun n => .called "count" (.int n), fun n => do return n + (← countCall 0)⟩
        (.bind ⟨fun n => .called "fail" (.int n),
            fun _ => pure (.error (.halt (some ⟨1⟩) "late" 0 .empty))⟩ false
          (.raiseWith ⟨.handled, fun _ => pure (.halt (some ⟨2⟩) "wrapped" 0 .empty)⟩ .done))
    program.Sound type ∧ type.CalmResult (.ok 3 : Except Fault Int) ∧
      (program.deferred type (.ok 3) world).1 = (program.plain (.ok 3) world).1 ∧
      (program.deferred type (.ok 3) world).2.Alike (program.plain (.ok 3) world).2 ∧
      (program.withCopy copy).deferred (type.withCopy copy) (.ok 3) =
        program.deferred type (.ok 3) := by
  intro type world copy program
  have hsound : program.Sound type := by
    refine ⟨⟨fun n => ?_, fun _ _ _ _ _ => trivial⟩, ⟨fun n => .pure rfl, ?_⟩,
      ⟨fun failure => .pure rfl, ?_⟩, trivial⟩
    · exact (countCall_blind 0).bind fun _ _ hsame => .pure (by rw [hsame])
    · rintro n start result after hdone failure rfl
      cases hdone
      exact Kind.calm_halt _ _ _ _ _
    · rintro failure start result after hdone
      cases hdone
      exact Kind.calm_halt _ _ _ _ _
  have hresult : type.CalmResult (.ok 3 : Except Fault Int) := fun _ herror => nomatch herror
  exact ⟨hsound, hresult, program.transparent copy hsound hresult world⟩

end Script

end Deferral
