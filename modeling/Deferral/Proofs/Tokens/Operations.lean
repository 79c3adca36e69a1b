import Deferral.Proofs.Tokens.Bridging
import Deferral.Proofs.Tokens.Pulling

/-!
# A cancellation is never lost and never invented

A program makes operations on deferred values, on pipelines and at a desk, as many as it likes and
in any order, and its callables and hooks write no token. Then a token that is cancelled stays so
until a failure that reports it is raised, and a token becomes cancelled only when a failure that
reports it is boxed, passes through, or is claimed by a bridge.
-/

namespace Deferral

variable {ω κ ε α β : Type}

/-- A call of a callable: a supplier, or a function with its one or two arguments. -/
inductive Application (ω κ β : Type) : Type 1 where
  | supplier (supply : Run ω κ β)
  | function {γ : Type} (f : γ → Run ω κ β) (input : γ)
  | binary {γ δ : Type} (f : γ → δ → Run ω κ β) (first : γ) (second : δ)

namespace Application

/-- The call itself. -/
def run : Application ω κ β → Run ω κ β
  | .supplier supply => supply
  | .function f input => f input
  | .binary f first second => f first second

/-- The call through the adapter that captures its failure. -/
def captured (type : FailureType ω κ ε) : Application ω κ (Except ε β) → Run ω κ (Deferred ε β)
  | .supplier supply => Capture.supplier type supply ()
  | .function f input => Capture.function type f input
  | .binary f first second => Capture.binary type f first second

/-- The call through the adapter that captures its dynamic error. -/
def capturedAs [Wording ε] (type : FailureType ω κ ε) :
    Application ω κ (Outcome ε β) → Run ω κ (Deferred ε β)
  | .supplier supply => Capture.supplierAs type supply ()
  | .function f input => Capture.functionAs type f input
  | .binary f first second => Capture.binaryAs type f first second

/-- The call through the adapter that spreads its sequence. -/
def spread (type : FailureType ω κ ε) : Application ω κ (Except ε β) → Run ω κ (Spread ε β)
  | .supplier supply => Spread.supplier type supply ()
  | .function f input => Spread.function type f input
  | .binary f first second => Spread.binary type f first second

/-- The call through the adapter that spreads its sequence or captures its dynamic error. -/
def spreadAs [Wording ε] (type : FailureType ω κ ε) :
    Application ω κ (Outcome ε β) → Run ω κ (Spread ε β)
  | .supplier supply => Spread.supplierAs type supply ()
  | .function f input => Spread.functionAs type f input
  | .binary f first second => Spread.binaryAs type f first second

/-- Every adapter captures what it calls. -/
theorem captured_eq (type : FailureType ω κ ε) (call : Application ω κ (Except ε β)) :
    call.captured type = capture type call.run := by
  cases call <;> rfl

/-- So does every adapter for suppliers with dynamic errors. -/
theorem capturedAs_eq [Wording ε] (type : FailureType ω κ ε)
    (call : Application ω κ (Outcome ε β)) :
    call.capturedAs type = captureAs type call.run := by
  cases call <;> rfl

/-- Every adapter that spreads a sequence spreads what it calls. -/
theorem spread_eq (type : FailureType ω κ ε) (call : Application ω κ (Except ε β)) :
    call.spread type = Deferral.spread type call.run := by
  cases call <;> rfl

/-- So does every such adapter for suppliers with dynamic errors. -/
theorem spreadAs_eq [Wording ε] (type : FailureType ω κ ε) (call : Application ω κ (Outcome ε β)) :
    call.spreadAs type = Deferral.spreadAs type call.run := by
  cases call <;> rfl

end Application

/-- The operations of a program, with the type of their answers. Failures may be of any type; those
that travel through promises on the desk are in `ε`, and the payloads there are in `α`. -/
inductive Operation (ω κ ε α : Type) : Type → Type 1 where
  /-- Anything that the program does in between. -/
  | client {β : Type} (act : Run ω κ β) : Operation ω κ ε α β
  | defer {ζ β : Type} (type : FailureType ω κ ζ) (failure : ζ) : Operation ω κ ε α (Deferred ζ β)
  | ofExcept {ζ β : Type} (type : FailureType ω κ ζ) (result : Except ζ β) :
    Operation ω κ ε α (Deferred ζ β)
  | map {ζ β γ : Type} (type : FailureType ω κ ζ) (f : β → Run ω κ γ) (deferred : Deferred ζ β) :
    Operation ω κ ε α (Deferred ζ γ)
  | bind {ζ β γ : Type} (type : FailureType ω κ ζ) (f : β → Run ω κ (Deferred ζ γ))
    (deferred : Deferred ζ β) : Operation ω κ ε α (Deferred ζ γ)
  | ifValue {ζ β : Type} (look : β → Run ω κ Unit) (deferred : Deferred ζ β) :
    Operation ω κ ε α (Deferred ζ β)
  | recover {ζ η β : Type} (f : ζ → Run ω κ (Except η β)) (deferred : Deferred ζ β) :
    Operation ω κ ε α (Except η β)
  | raise {ζ β : Type} (type : FailureType ω κ ζ) (site : Site) (deferred : Deferred ζ β) :
    Operation ω κ ε α (Except ζ β)
  | raiseWith {ζ β : Type} (wrap : ζ → Run ω κ ζ) (deferred : Deferred ζ β) :
    Operation ω κ ε α (Except ζ β)
  | toExcept {ζ β : Type} (deferred : Deferred ζ β) : Operation ω κ ε α (Except ζ β)
  | handling {ζ β : Type} (handler : ζ → Run ω κ Unit) (deferred : Deferred ζ β) :
    Operation ω κ ε α (Option β)
  | accepted {ζ β : Type} (test : β → Run ω κ Bool) (deferred : Deferred ζ β) :
    Operation ω κ ε α Bool
  /-- A call, at once or through an adapter, whose failure is captured. -/
  | capture {ζ β : Type} (type : FailureType ω κ ζ) (call : Application ω κ (Except ζ β)) :
    Operation ω κ ε α (Deferred ζ β)
  | captureAs {ζ β : Type} (wording : Wording ζ) (type : FailureType ω κ ζ)
    (call : Application ω κ (Outcome ζ β)) : Operation ω κ ε α (Deferred ζ β)
  /-- A call, at once or through an adapter, whose sequence is spread. -/
  | spread {ζ β : Type} (type : FailureType ω κ ζ) (call : Application ω κ (Except ζ β)) :
    Operation ω κ ε α (Spread ζ β)
  | spreadAs {ζ β : Type} (wording : Wording ζ) (type : FailureType ω κ ζ)
    (call : Application ω κ (Outcome ζ β)) :
    Operation ω κ ε α (Spread ζ β)
  /-- The next element of a pipeline that has come to this state. -/
  | next {τ β γ : Type} (stages : Stages ω κ β γ) (source : Iter (World ω κ) τ β)
    (state : (stages.onto (.ofSource source)).State) (steps : Nat) : Operation ω κ ε α (Option γ)
  /-- All elements of a pipeline from this state on. -/
  | collect {τ β γ : Type} (stages : Stages ω κ β γ) (source : Iter (World ω κ) τ β)
    (state : (stages.onto (.ofSource source)).State) (steps : Nat) : Operation ω κ ε α (List γ)
  /-- The values of a pipeline from this state on, or the first failure. -/
  | gather {τ ζ β γ : Type} (stages : Stages ω κ β (Deferred ζ γ)) (source : Iter (World ω κ) τ β)
    (state : (stages.onto (.ofSource source)).State) (steps : Nat) :
    Operation ω κ ε α (Except ζ (List γ))
  | bridge (type : FailureType ω κ ε) (input : Nat) : Operation ω κ ε α Nat
  | pollClaimed (type : FailureType ω κ ε) (number : Nat) (waker : Run ω κ Unit) :
    Operation ω κ ε α (Option (Outcome ε (Payload ε α)))
  /-- Claim the failure of an outcome that some other future has come to. -/
  | claim {ζ β : Type} (type : FailureType ω κ ζ) (outcome : Outcome ζ β) :
    Operation ω κ ε α (Outcome ζ (Deferred ζ β))
  | errand {β : Type} (errand : Errand ω κ ε α β) : Operation ω κ ε α β

namespace Operation

/-- Perform an operation. Those on deferred values and pipelines leave the desk alone. -/
def perform : Operation ω κ ε α β → DeskRun ω κ ε α β
  | .client act => act.beside
  | .defer type failure => (type.defer failure).beside
  | .ofExcept type result => (Deferred.ofExcept type result).beside
  | .map type f deferred => (deferred.map type f).beside
  | .bind type f deferred => (deferred.bind type f).beside
  | .ifValue look deferred => (deferred.ifValue look).beside
  | .recover f deferred => (deferred.recover f).beside
  | .raise type site deferred => (deferred.raise type site).beside
  | .raiseWith wrap deferred => (deferred.raiseWith wrap).beside
  | .toExcept deferred => pure deferred.toExcept
  | .handling handler deferred => (deferred.handling handler).beside
  | .accepted test deferred => (deferred.accepted test).beside
  | .capture type call => (call.captured type).beside
  | .captureAs _ type call => (call.capturedAs type).beside
  | .spread type call => (call.spread type).beside
  | .spreadAs _ type call => (call.spreadAs type).beside
  | .next stages source state steps =>
    (((stages.onto (.ofSource source)).iter.next steps).locally state).beside
  | .collect stages source state steps =>
    (((stages.onto (.ofSource source)).iter.collect steps).locally state).beside
  | .gather stages source state steps =>
    (((stages.onto (.ofSource source)).iter.gather steps).locally state).beside
  | .bridge type input => Desk.bridge type input
  | .pollClaimed type number waker => Desk.pollClaimed type number waker
  | .claim type outcome => (type.claim outcome).beside
  | .errand work => work.perform

/-- The callables and hooks that come with an operation write no token, and the promise that it
bridges is on the desk. -/
def Sound (desk : Desk ω κ ε α) : Operation ω κ ε α β → Prop
  | .client act => act.Quiet
  | .defer type _ => type.Quiet
  | .ofExcept type _ => type.Quiet
  | .map type f _ => type.Quiet ∧ ∀ value, (f value).Quiet
  | .bind type f _ => type.Quiet ∧ ∀ value, (f value).Quiet
  | .ifValue look _ => ∀ value, (look value).Quiet
  | .recover f _ => ∀ failure, (f failure).Quiet
  | .raise type _ _ => type.Quiet
  | .raiseWith wrap _ => ∀ failure, (wrap failure).Quiet
  | .toExcept _ => True
  | .handling handler _ => ∀ failure, (handler failure).Quiet
  | .accepted test _ => ∀ value, (test value).Quiet
  | .capture type call => type.Quiet ∧ call.run.Quiet
  | .captureAs _ type call => type.Quiet ∧ call.run.Quiet
  | .spread type call => type.Quiet ∧ call.run.Quiet
  | .spreadAs _ type call => type.Quiet ∧ call.run.Quiet
  | .next stages source _ _ => stages.Quiet ∧ source.step.Quiet
  | .collect stages source _ _ => stages.Quiet ∧ source.step.Quiet
  | .gather stages source _ _ => stages.Quiet ∧ source.step.Quiet
  | .bridge type input => type.Quiet ∧ input < desk.promises.length
  | .pollClaimed type _ waker => type.Quiet ∧ waker.Quiet
  | .claim type _ => type.Quiet
  | .errand work => work.Quiet

/-- The failures that an operation boxes, passes through or bridges, in their order, and each with
the world at that moment. -/
def boxings (whole : Desk ω κ ε α × World ω κ) : Operation ω κ ε α β → List (Boxing ω κ)
  | .defer type failure => type.boxings (some failure) whole.2
  | .ofExcept type result => type.boxings (Deferred.hold result).failure? whole.2
  | .map type _ deferred => type.boxings deferred.failure? whole.2
  | .bind type _ deferred => type.boxings deferred.failure? whole.2
  | .capture type call => type.captureBoxings call.run whole.2
  | .captureAs _ type call => type.captureAsBoxings call.run whole.2
  | .spread type call => type.captureBoxings call.run whole.2
  | .spreadAs _ type call => type.captureAsBoxings call.run whole.2
  | .next stages source state steps => (stages.onto (.ofSource source)).iter.loopBoxings
    (stages.boxings source) Step.skips steps (state, whole.2)
  | .collect stages source state steps => (stages.onto (.ofSource source)).iter.loopBoxings
    (stages.boxings source) Step.goesOn steps (state, whole.2)
  | .gather stages source state steps => (stages.onto (.ofSource source)).iter.loopBoxings
    (stages.boxings source) Step.succeeds steps (state, whole.2)
  | .bridge type input => Desk.bridgeBoxings type input whole
  | .pollClaimed type number _ => Desk.bridgeBoxings type number whole
  | .claim type outcome => type.boxings (type.carried? outcome) whole.2
  | .errand work => work.boxings whole
  | _ => []

/-- The operation boxes, passes through or bridges a failure that reports the token. -/
def Boxes (operation : Operation ω κ ε α β) (whole : Desk ω κ ε α × World ω κ) (token : Token) :
    Prop :=
  ∃ boxing ∈ operation.boxings whole, boxing.Reports token

/-- The tokens of the failures that an operation raises. -/
def Raises (operation : Operation ω κ ε α β) (whole : Desk ω κ ε α × World ω κ) (token : Token) :
    Prop :=
  match operation with
  | .raise type _ deferred =>
    ∃ failure, deferred = .failure failure ∧ type.ReportsAt failure whole.2 token
  | _ => False

/-- A failure that an operation boxed itself and now answers with is heeded. What the function of a
`bind` returns is not among them. -/
def Heeds (boxings : List (Boxing ω κ)) (answer : β) (after : Desk ω κ ε α × World ω κ)
    (operation : Operation ω κ ε α β) : Prop :=
  match operation, answer with
  | .defer type failure, answer => answer = .failure failure ∧ type.Heeded failure boxings after.2
  | .ofExcept type _, answer =>
    ∀ failure, answer = .failure failure → type.Heeded failure boxings after.2
  | .map type _ _, answer =>
    ∀ failure, answer = .failure failure → type.Heeded failure boxings after.2
  | .bind type _ deferred, answer => ∀ failure, deferred = .failure failure →
    answer = .failure failure ∧ type.Heeded failure boxings after.2
  | .capture type _, answer =>
    ∀ failure, answer = .failure failure → type.Heeded failure boxings after.2
  | .captureAs _ type _, answer =>
    ∀ failure, answer = .failure failure → type.Heeded failure boxings after.2
  | .spread type _, answer =>
    ∀ failure, answer = .failed (some failure) → type.Heeded failure boxings after.2
  | .spreadAs _ type _, answer =>
    ∀ failure, answer = .failed (some failure) → type.Heeded failure boxings after.2
  | .bridge type _, answer => ∀ failure,
    (after.1.shared answer).cell = .ready (.ok (.failure failure)) →
      type.Heeded failure boxings after.2
  | .pollClaimed type _ _, answer =>
    ∀ failure, answer = some (.ok (.failure failure)) → type.Heeded failure boxings after.2
  | .claim type _, answer =>
    ∀ failure, answer = .ok (.failure failure) → type.Heeded failure boxings after.2
  | _, _ => True

/-! ### One operation -/

variable {operation : Operation ω κ ε α β} {whole : Desk ω κ ε α × World ω κ}

/-- Nothing on the desk writes a token afterwards. A token is cancelled then if it was before and
has not been reported by a failure that was raised, or if it has been reported by one that was
boxed, and otherwise it is not. -/
structure Fares (operation : Operation ω κ ε α β) (whole : Desk ω κ ε α × World ω κ) : Prop where
  quiet : (operation.perform whole).2.1.Quiet
  cancelled_iff : ∀ token, (operation.perform whole).2.2.cancelled token = true ↔
    whole.2.cancelled token = true ∧ ¬operation.Raises whole token ∨ operation.Boxes whole token

/-- An operation that raises nothing. -/
theorem Fares.of_asked (hquiet : (operation.perform whole).2.1.Quiet)
    (hraises : ∀ token, ¬operation.Raises whole token)
    (hasked : Asked (operation.boxings whole) whole.2.cancelled
      (operation.perform whole).2.2.cancelled) : operation.Fares whole where
  quiet := hquiet
  cancelled_iff token := by
    rw [hasked token, and_iff_left (hraises token)]
    rfl

/-- Raising clears the token of a failure, and leaves a value alone. -/
theorem fares_raise {ζ γ : Type} {type : FailureType ω κ ζ} (htype : type.Quiet) (site : Site)
    (deferred : Deferred ζ γ) (hdesk : whole.1.Quiet) :
    (raise type site deferred : Operation ω κ ε α (Except ζ γ)).Fares whole := by
  refine ⟨hdesk, fun token => ?_⟩
  have hboxes : ¬(raise type site deferred : Operation ω κ ε α (Except ζ γ)).Boxes whole token := by
    simp [Boxes, boxings]
  rw [or_iff_left hboxes]
  cases deferred with
  | value value =>
    have hraises : ¬(raise type site (.value value) : Operation ω κ ε α (Except ζ γ)).Raises whole
        token := fun ⟨_, h, _⟩ => nomatch h
    rw [and_iff_left hraises]
    rfl
  | failure failure =>
    have hworld : ((Deferred.failure failure : Deferred ζ γ).raise type site whole.2).2 =
        (type.raise failure site whole.2).2 := Act.after_bind_pure _ _ whole.2
    have hraises : (raise type site (.failure failure) :
        Operation ω κ ε α (Except ζ γ)).Raises whole token ↔
          type.ReportsAt failure whole.2 token := by
      simp [Raises]
    rw [hraises, ← FailureType.cancelled_raise htype failure site whole.2 token, ← hworld]
    rfl

/-- Every operation does to the flags of tokens what the failures that it boxes and raises ask. -/
theorem fares (hdesk : whole.1.Quiet) (hsound : operation.Sound whole.1) :
    operation.Fares whole := by
  cases operation with
  | client act => exact .of_asked hdesk (fun _ => id) (.nil (hsound whole.2))
  | defer type failure =>
    exact .of_asked hdesk (fun _ => id) ((FailureType.boxes_defer hsound failure).asked whole.2)
  | ofExcept type result =>
    exact .of_asked hdesk (fun _ => id) ((FailureType.boxes_ofExcept hsound result).asked whole.2)
  | map type f deferred =>
    have hboxes := FailureType.boxes_map hsound.1 hsound.2 deferred
    exact .of_asked hdesk (fun _ => id) (hboxes.asked whole.2)
  | bind type f deferred =>
    have hboxes := FailureType.boxes_bind hsound.1 hsound.2 deferred
    exact .of_asked hdesk (fun _ => id) (hboxes.asked whole.2)
  | ifValue look deferred =>
    exact .of_asked hdesk (fun _ => id) (.nil (deferred.quiet_ifValue hsound whole.2))
  | recover f deferred =>
    exact .of_asked hdesk (fun _ => id) (.nil (deferred.quiet_recover hsound whole.2))
  | raise type site deferred => exact fares_raise hsound site deferred hdesk
  | raiseWith wrap deferred =>
    exact .of_asked hdesk (fun _ => id) (.nil (deferred.quiet_raiseWith hsound whole.2))
  | toExcept deferred => exact .of_asked hdesk (fun _ => id) (.nil rfl)
  | handling handler deferred =>
    exact .of_asked hdesk (fun _ => id) (.nil (deferred.quiet_handling hsound whole.2))
  | accepted test deferred =>
    exact .of_asked hdesk (fun _ => id) (.nil (deferred.quiet_accepted hsound whole.2))
  | capture type call =>
    have hboxes := FailureType.boxes_capture hsound.1 hsound.2
    rw [← call.captured_eq type] at hboxes
    exact .of_asked hdesk (fun _ => id) (hboxes.asked whole.2)
  | captureAs wording type call =>
    have hboxes := FailureType.boxes_captureAs hsound.1 hsound.2
    rw [← call.capturedAs_eq type] at hboxes
    exact .of_asked hdesk (fun _ => id) (hboxes.asked whole.2)
  | spread type call =>
    have hboxes := FailureType.boxes_spread hsound.1 hsound.2
    rw [← call.spread_eq type] at hboxes
    exact .of_asked hdesk (fun _ => id) (hboxes.asked whole.2)
  | spreadAs wording type call =>
    have hboxes := FailureType.boxes_spreadAs hsound.1 hsound.2
    rw [← call.spreadAs_eq type] at hboxes
    exact .of_asked hdesk (fun _ => id) (hboxes.asked whole.2)
  | next stages source state steps =>
    have hboxes := Iter.boxes_next (stages.boxes hsound.1 hsound.2) steps
    exact .of_asked hdesk (fun _ => id) ((hboxes.locally state).asked whole.2)
  | collect stages source state steps =>
    have hboxes := Iter.boxes_collect (stages.boxes hsound.1 hsound.2) steps
    exact .of_asked hdesk (fun _ => id) ((hboxes.locally state).asked whole.2)
  | gather stages source state steps =>
    have hboxes := Iter.boxes_gather (stages.boxes hsound.1 hsound.2) steps
    exact .of_asked hdesk (fun _ => id) ((hboxes.locally state).asked whole.2)
  | bridge type input =>
    obtain ⟨hquiet, hasked⟩ := Desk.boxes_bridge hsound.1 hdesk hsound.2 whole.2
    exact .of_asked hquiet (fun _ => id) hasked
  | pollClaimed type number waker =>
    obtain ⟨hquiet, hasked, -⟩ := Desk.boxes_pollClaimed hsound.1 number hsound.2 whole hdesk
    exact .of_asked hquiet (fun _ => id) hasked
  | claim type outcome =>
    exact .of_asked hdesk (fun _ => id) ((FailureType.boxes_claim hsound outcome).asked whole.2)
  | errand work =>
    obtain ⟨hquiet, hasked, -⟩ := Errand.boxes hsound whole hdesk
    exact .of_asked hquiet (fun _ => id) hasked

/-- The tokens of boxed failures are cancelled afterwards. -/
theorem Fares.heeded (hfares : operation.Fares whole) {ζ : Type} {type : FailureType ω κ ζ}
    {failure : ζ} {moment : World ω κ} {exit : Exit β} {after : Desk ω κ ε α × World ω κ}
    (hafter : operation.perform whole = (exit, after))
    (hmem : ⟨type, failure, moment⟩ ∈ operation.boxings whole) :
    type.Heeded failure (operation.boxings whole) after.2 := by
  refine ⟨moment, hmem, fun token hreports => ?_⟩
  have hboxes : operation.Boxes whole token := ⟨_, hmem, hreports⟩
  have hcancelled := (hfares.cancelled_iff token).2 (.inr hboxes)
  rwa [hafter] at hcancelled

/-- A failure that an operation boxed itself and answers with is heeded at once. -/
theorem heeds {answer : β} {after : Desk ω κ ε α × World ω κ} (hdesk : whole.1.Quiet)
    (hsound : operation.Sound whole.1) (hdone : operation.perform whole = (.done answer, after)) :
    operation.Heeds (operation.boxings whole) answer after := by
  have hfares := operation.fares hdesk hsound
  have hsingle {ζ : Type} {type : FailureType ω κ ζ} {failure : ζ} {failure? : Option ζ}
      (hfound : failure? = some failure) :
      ⟨type, failure, whole.2⟩ ∈ type.boxings failure? whole.2 := by
    rw [hfound]
    exact List.mem_singleton_self _
  cases operation with
  | defer type failure =>
    have hstored : (type.defer failure).beside whole = (.done answer, after) := hdone
    exact ⟨FailureType.of_defer (Act.of_beside hstored).1, hfares.heeded hdone (hsingle rfl)⟩
  | ofExcept type result =>
    rintro failure rfl
    have hfound := FailureType.failure?_of_ofExcept (Act.of_beside hdone).1
    exact hfares.heeded hdone (hsingle hfound)
  | map type f deferred =>
    rintro failure rfl
    have hfound := FailureType.failure?_of_map (Act.of_beside hdone).1
    exact hfares.heeded hdone (hsingle hfound)
  | bind type f deferred =>
    rintro failure rfl
    have hstored : (type.defer failure).beside whole = (.done answer, after) := hdone
    exact ⟨FailureType.of_defer (Act.of_beside hstored).1, hfares.heeded hdone (hsingle rfl)⟩
  | capture type call =>
    rintro failure rfl
    have hcaptured : call.captured type whole.2 = (.done (.failure failure), after.2) :=
      (Act.of_beside hdone).1
    rw [call.captured_eq type] at hcaptured
    obtain ⟨moment, hmem⟩ := FailureType.mem_captureBoxings hcaptured
    exact hfares.heeded hdone hmem
  | captureAs wording type call =>
    rintro failure rfl
    have hcaptured : call.capturedAs type whole.2 = (.done (.failure failure), after.2) :=
      (Act.of_beside hdone).1
    rw [call.capturedAs_eq type] at hcaptured
    obtain ⟨moment, hmem⟩ := FailureType.mem_captureAsBoxings hcaptured
    exact hfares.heeded hdone hmem
  | spread type call =>
    rintro failure rfl
    have hspread : call.spread type whole.2 = (.done (.failed (some failure)), after.2) :=
      (Act.of_beside hdone).1
    rw [call.spread_eq type] at hspread
    obtain ⟨moment, hmem⟩ :=
      FailureType.mem_captureBoxings (FailureType.done_of_ofDeferred hspread)
    exact hfares.heeded hdone hmem
  | spreadAs wording type call =>
    rintro failure rfl
    have hspread : call.spreadAs type whole.2 = (.done (.failed (some failure)), after.2) :=
      (Act.of_beside hdone).1
    rw [call.spreadAs_eq type] at hspread
    obtain ⟨moment, hmem⟩ :=
      FailureType.mem_captureAsBoxings (FailureType.done_of_ofDeferred hspread)
    exact hfares.heeded hdone hmem
  | bridge type input =>
    intro failure hready
    exact hfares.heeded hdone (Desk.mem_bridgeBoxings_of_bridge hsound.2 hdone hready)
  | pollClaimed type number waker =>
    rintro failure rfl
    exact hfares.heeded hdone (Desk.mem_bridgeBoxings_of_pollClaimed hdone)
  | claim type outcome =>
    rintro failure rfl
    have hfound := FailureType.carried?_of_claim (Act.of_beside hdone).1
    exact hfares.heeded hdone (hsingle hfound)
  | _ => trivial

end Operation

/-! ### Runs of operations -/

/-- An operation that was performed, and where. -/
structure Deed (ω κ ε α : Type) : Type 1 where
  {answer : Type}
  operation : Operation ω κ ε α answer
  before : Desk ω κ ε α × World ω κ

namespace Deed

/-- The desk and the world that the operation leaves. -/
def after (deed : Deed ω κ ε α) : Desk ω κ ε α × World ω κ :=
  (deed.operation.perform deed.before).2

/-- The deed boxed, passed through or bridged a failure that reports the token. -/
def Boxes (deed : Deed ω κ ε α) (token : Token) : Prop := deed.operation.Boxes deed.before token

/-- The deed raised a failure that reports the token. -/
def Raises (deed : Deed ω κ ε α) (token : Token) : Prop := deed.operation.Raises deed.before token

/-- What a deed does to tokens is what the failures that it boxes or raises ask for. -/
structure Faithful (deed : Deed ω κ ε α) : Prop where
  /-- No request is lost but to the raise of a failure that reports it. -/
  kept : ∀ token, deed.before.2.cancelled token = true → deed.after.2.cancelled token = false →
    deed.Raises token
  /-- No request is made but by a failure that reports it. -/
  earned : ∀ token, deed.before.2.cancelled token = false → deed.after.2.cancelled token = true →
    deed.Boxes token
  /-- Every request that a boxed failure reports is made. -/
  asserted : ∀ token, deed.Boxes token → deed.after.2.cancelled token = true
  /-- Every other token stays as it is. -/
  others : ∀ token, ¬deed.Boxes token → ¬deed.Raises token →
    deed.after.2.cancelled token = deed.before.2.cancelled token
  /-- The failure that the deed boxed itself and answered with is heeded at once. -/
  heeded : ∀ answer after, deed.operation.perform deed.before = (.done answer, after) →
    deed.operation.Heeds (deed.operation.boxings deed.before) answer after

end Deed

/-- A run of operations, from one state of the desk and the world to another, with its deeds. -/
inductive Course : Desk ω κ ε α × World ω κ → List (Deed ω κ ε α) →
    Desk ω κ ε α × World ω κ → Prop
  | nil (whole : Desk ω κ ε α × World ω κ) : Course whole [] whole
  | cons {β : Type} {first last : Desk ω κ ε α × World ω κ} {history : List (Deed ω κ ε α)}
    (operation : Operation ω κ ε α β) (hsound : operation.Sound first.1)
    (hrest : Course (operation.perform first).2 history last) :
    Course first (⟨operation, first⟩ :: history) last

/-- An operation at a desk on which nothing writes a token is a faithful deed. -/
theorem Operation.faithful {operation : Operation ω κ ε α β} {whole : Desk ω κ ε α × World ω κ}
    (hdesk : whole.1.Quiet) (hsound : operation.Sound whole.1) :
    Deed.Faithful ⟨operation, whole⟩ := by
  have hiff := (operation.fares hdesk hsound).cancelled_iff
  refine ⟨?kept, ?earned, fun token hboxes => (hiff token).2 (.inr hboxes), ?others,
    fun answer after hdone => operation.heeds hdesk hsound hdone⟩
  case kept =>
    intro token hbefore hafter
    refine Classical.byContradiction fun hraises => ?_
    have hstill := (hiff token).2 (.inl ⟨hbefore, hraises⟩)
    exact absurd (hafter.symm.trans hstill) nofun
  case earned =>
    intro token hbefore hafter
    rcases (hiff token).1 hafter with ⟨hwas, -⟩ | hboxes
    · exact absurd (hbefore.symm.trans hwas) nofun
    · exact hboxes
  case others =>
    intro token hboxes hraises
    have hsame := (hiff token).trans ((or_iff_left hboxes).trans (and_iff_left hraises))
    exact Bool.eq_iff_iff.2 hsame

/-- However long a run of operations is, and whatever the operations are: a token that is cancelled
stays so until a failure that reports it is raised, a token becomes cancelled only when a failure
that reports it is boxed, passes through or is bridged, no step changes any other token, and a
failure that an operation boxed itself and answers with is heeded at once. -/
theorem Course.neverLost {first last : Desk ω κ ε α × World ω κ} {history : List (Deed ω κ ε α)}
    (hcourse : Course first history last) (hdesk : first.1.Quiet) :
    (∀ token, first.2.cancelled token = true → last.2.cancelled token = false →
      ∃ deed ∈ history, deed.Raises token) ∧
    (∀ token, first.2.cancelled token = false → last.2.cancelled token = true →
      ∃ deed ∈ history, deed.Boxes token) ∧
    ∀ deed ∈ history, deed.Faithful := by
  induction hcourse with
  | nil whole =>
    refine ⟨fun token hbefore hafter => ?_, fun token hbefore hafter => ?_, nofun⟩
    · exact absurd (hafter.symm.trans hbefore) nofun
    · exact absurd (hafter.symm.trans hbefore) nofun
  | @cons β first last history operation hsound hrest ih =>
    have hfaithful := operation.faithful hdesk hsound
    obtain ⟨hkept, hearned, hall⟩ := ih (operation.fares hdesk hsound).quiet
    -- A flag that differs at the end has changed in the first operation or in the run after it.
    refine ⟨fun token hbefore hafter => ?_, fun token hbefore hafter => ?_,
      List.forall_mem_cons.2 ⟨hfaithful, hall⟩⟩
    · cases hbetween : (operation.perform first).2.2.cancelled token with
      | true =>
        obtain ⟨deed, hmember, hraises⟩ := hkept token hbetween hafter
        exact ⟨deed, List.mem_cons_of_mem _ hmember, hraises⟩
      | false => exact ⟨_, List.mem_cons_self, hfaithful.kept token hbefore hbetween⟩
    · cases hbetween : (operation.perform first).2.2.cancelled token with
      | true => exact ⟨_, List.mem_cons_self, hfaithful.earned token hbefore hbetween⟩
      | false =>
        obtain ⟨deed, hmember, hboxes⟩ := hearned token hbetween hafter
        exact ⟨deed, List.mem_cons_of_mem _ hmember, hboxes⟩

/-- The hooks of lamps write no token. -/
theorem FailureType.lamps_quiet : FailureType.lamps.Quiet where
  cancellation lit world := by cases lit <;> rfl
  copy _ := .pure _
  slots _ := .pure _

/-- A request is boxed, taken back by a raise, and made again where the same failure passes through.
The raise is the deed that took it back, and the deed after it the one that made it again. -/
theorem Course.neverLost_of_lamps :
    let box : Operation Unit Unit Bool Unit (Deferred Bool Nat) := .defer .lamps true
    let raise : Operation Unit Unit Bool Unit (Except Bool Nat) :=
      .raise .lamps ⟨"door"⟩ (.failure true)
    let pass : Operation Unit Unit Bool Unit (Deferred Bool Nat) :=
      .map .lamps (fun value => pure (value + 1)) (.failure true)
    let first : Desk Unit Unit Bool Unit × World Unit Unit := (.empty, ⟨fun _ => false, #[], ()⟩)
    let boxed := (box.perform first).2
    let raised := (raise.perform boxed).2
    (∃ deed ∈ [Deed.mk raise boxed], deed.Raises ⟨7⟩) ∧
      (∃ deed ∈ [Deed.mk pass raised], deed.Boxes ⟨7⟩) ∧
      ∀ deed ∈ [Deed.mk box first, Deed.mk raise boxed, Deed.mk pass raised], deed.Faithful := by
  intro box raise pass first boxed raised
  have hpass : pass.Sound raised.1 := ⟨FailureType.lamps_quiet, fun _ => .pure _⟩
  have hempty : first.1.Quiet := ⟨fun _ => trivial, nofun⟩
  have hlast : Course raised [Deed.mk pass raised] (pass.perform raised).2 :=
    .cons pass hpass (.nil _)
  have hmiddle : Course boxed [Deed.mk raise boxed] raised :=
    .cons raise FailureType.lamps_quiet (.nil _)
  have hall : Course first [Deed.mk box first, Deed.mk raise boxed, Deed.mk pass raised]
      (pass.perform raised).2 :=
    .cons box FailureType.lamps_quiet (.cons raise FailureType.lamps_quiet hlast)
  refine ⟨?_, ?_, (hall.neverLost hempty).2.2⟩
  · exact (hmiddle.neverLost hempty).1 ⟨7⟩ rfl rfl
  · exact (hlast.neverLost hempty).2.1 ⟨7⟩ rfl rfl

end Deferral
