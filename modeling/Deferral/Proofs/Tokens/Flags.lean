import Deferral.Proofs.Computation
import Deferral.Iter.Deferred

/-!
# What computations do to the flags of tokens

Storing a failure asserts the token that the failure reports, raising one clears it, and nothing
else in the library writes a token. A `Boxing` is a failure that was stored, together with the world
at that moment. `Act.Boxes` says of a computation which failures it stores, in their order, and that
it sets the flags of exactly the tokens that these report. Sequences store what their parts do, one
after the other, so the boxings of a longer computation are put together along its definition.
Callables and hooks that write no token are the special case `Act.Quiet`.
-/

namespace Deferral

variable {ω κ σ τ ε α β γ : Type}

/-- States in which every token has a flag. -/
class Flagged (σ : Type) where
  flags : σ → Token → Bool

export Flagged (flags)

/-- A world keeps the flag of every token. -/
instance : Flagged (World ω κ) := ⟨World.cancelled⟩

/-- A state that is kept beside has no flags of its own. -/
instance [Flagged σ] : Flagged (τ × σ) := ⟨fun state => flags state.2⟩

/-- A computation that writes no token. -/
def Act.Quiet [Flagged σ] (act : Act σ α) : Prop :=
  ∀ state, flags (act state).2 = flags state

/-! ### Boxings -/

/-- In this world, the failure reports the cancellation of this token. -/
def FailureType.ReportsAt (type : FailureType ω κ ε) (failure : ε) (world : World ω κ)
    (token : Token) : Prop :=
  (type.cancellation failure world).1 = .done (some token)

/-- A failure of some type that is stored, passes through, or is claimed by a bridge, and the world
at that moment. -/
structure Boxing (ω κ : Type) : Type 1 where
  {ε : Type}
  type : FailureType ω κ ε
  failure : ε
  world : World ω κ

/-- The failure reports the cancellation of this token. -/
def Boxing.Reports (boxing : Boxing ω κ) (token : Token) : Prop :=
  boxing.type.ReportsAt boxing.failure boxing.world token

/-- From `before` to `after`, the flags of exactly those tokens have been set that these failures
report. -/
def Asked (boxings : List (Boxing ω κ)) (before after : Token → Bool) : Prop :=
  ∀ token, after token = true ↔ before token = true ∨ ∃ boxing ∈ boxings, boxing.Reports token

namespace Asked

variable {boxings later : List (Boxing ω κ)} {before middle after : Token → Bool}

/-- Where the flags are the same, nothing was stored. -/
theorem nil (h : after = before) : Asked ([] : List (Boxing ω κ)) before after :=
  fun token => by simp [h]

/-- Where nothing is stored, nothing has changed. -/
theorem eq_of_nil (h : Asked ([] : List (Boxing ω κ)) before after) : after = before :=
  funext fun token => Bool.eq_iff_iff.2 (by simpa using h token)

/-- What was stored first and what was stored later was stored in all. -/
theorem append (hfirst : Asked boxings before middle) (hlater : Asked later middle after) :
    Asked (boxings ++ later) before after := by
  intro token
  rw [hlater token, hfirst token, or_assoc]
  simp only [List.mem_append, or_and_right, exists_or]

end Asked

/-- What is stored after a first part: nothing if that part is not done. -/
def Act.thereafter (act : Act σ α) (boxings : α → σ → List (Boxing ω κ)) (state : σ) :
    List (Boxing ω κ) :=
  match act state with
  | (.done a, middle) => boxings a middle
  | (.panicked _, _) => []
  | (.unfinished, _) => []

namespace Act

variable {act : Act σ α} {rest : α → σ → List (Boxing ω κ)} {state middle : σ}

/-- After a part that is done, its result says what is stored. -/
theorem thereafter_of_done {a : α} (h : act state = (.done a, middle)) :
    act.thereafter rest state = rest a middle := by
  rw [thereafter, h]

/-- After a part that has panicked, nothing is stored. -/
theorem thereafter_of_panicked {alarm : Alarm} (h : act state = (.panicked alarm, middle)) :
    act.thereafter rest state = [] := by
  rw [thereafter, h]

/-- After a part that is left unfinished, nothing is stored. -/
theorem thereafter_of_unfinished (h : act state = (.unfinished, middle)) :
    act.thereafter rest state = [] := by
  rw [thereafter, h]

end Act

/-- Started in a state with `inv`, a computation ends in one, sets the flags of exactly the tokens
that the failures in `boxings` report, and comes to a result with `made` if it is done. -/
def Act.Guards [Flagged σ] (inv : σ → Prop) (boxings : σ → List (Boxing ω κ)) (made : α → Prop)
    (act : Act σ α) : Prop :=
  ∀ state, inv state → inv (act state).2 ∧
    Asked (boxings state) (flags state) (flags (act state).2) ∧
    ∀ a, (act state).1 = .done a → made a

/-- A computation that stores these failures, and sets the flags of exactly the tokens that they
report. -/
abbrev Act.Boxes [Flagged σ] (boxings : σ → List (Boxing ω κ)) (act : Act σ α) : Prop :=
  act.Guards (fun _ => True) boxings fun _ => True

namespace Act

section

variable [Flagged σ] {inv : σ → Prop} {boxings : σ → List (Boxing ω κ)} {made : α → Prop}
  {later : β → Prop} {act : Act σ α} {next : α → Act σ β}

/-- A computation stores failures if it sets the flags of exactly the tokens that they report. -/
theorem Boxes.of_asked (h : ∀ state, Asked (boxings state) (flags state) (flags (act state).2)) :
    act.Boxes boxings :=
  fun state _ => ⟨trivial, h state, fun _ _ => trivial⟩

/-- A computation that stores failures sets the flags of exactly the tokens that they report. -/
theorem Boxes.asked (h : act.Boxes boxings) (state : σ) :
    Asked (boxings state) (flags state) (flags (act state).2) :=
  (h state trivial).2.1

/-- It makes no difference how the failures that are stored are given. -/
theorem Guards.of_eq {other : σ → List (Boxing ω κ)} (h : act.Guards inv boxings made)
    (hsame : ∀ state, boxings state = other state) : act.Guards inv other made := by
  rwa [← funext hsame]

/-- To return a value stores nothing. -/
theorem Guards.pure {a : α} (h : made a) :
    (Pure.pure a : Act σ α).Guards inv (fun _ => ([] : List (Boxing ω κ))) made := by
  intro state hinv
  refine ⟨hinv, .nil rfl, fun b hb => ?_⟩
  cases hb
  exact h

/-- To panic stores nothing. -/
theorem Guards.panic (alarm : Alarm) :
    (Act.panic alarm : Act σ α).Guards inv (fun _ => ([] : List (Boxing ω κ))) made :=
  fun _ hinv => ⟨hinv, .nil rfl, nofun⟩

/-- A computation that is left unfinished at once has stored nothing. -/
theorem Guards.giveUp :
    (Act.giveUp : Act σ α).Guards inv (fun _ => ([] : List (Boxing ω κ))) made :=
  fun _ hinv => ⟨hinv, .nil rfl, nofun⟩

/-- Reading leaves everything as it is. -/
theorem Guards.read {view : σ → α} (h : ∀ state, inv state → made (view state)) :
    (Act.read view).Guards inv (fun _ => ([] : List (Boxing ω κ))) made := by
  intro state hinv
  refine ⟨hinv, .nil rfl, fun a ha => ?_⟩
  cases ha
  exact h state hinv

/-- A change of the state beside the flags. -/
theorem Guards.change {f : σ → σ} (hinv : ∀ state, inv state → inv (f state))
    (hflags : ∀ state, flags (f state) = flags state) :
    (Act.change f).Guards inv (fun _ => ([] : List (Boxing ω κ))) fun _ => True :=
  fun state hstate => ⟨hinv state hstate, .nil (hflags state), fun _ _ => trivial⟩

/-- A sequence stores what its first part stores, and then what its second part stores. -/
theorem Guards.bind {rest : α → σ → List (Boxing ω κ)} (hact : act.Guards inv boxings made)
    (hnext : ∀ a, made a → (next a).Guards inv (rest a) later) :
    (act >>= next).Guards inv (fun state => boxings state ++ act.thereafter rest state) later := by
  intro state hinv
  dsimp only
  obtain ⟨hafter, hflags, hmade⟩ := hact state hinv
  rcases hstart : act state with ⟨a | alarm | _, middle⟩
  all_goals rw [hstart] at hafter hflags hmade
  · obtain ⟨hlast, hrest, hlater⟩ := hnext a (hmade a rfl) middle hafter
    rw [bind_of_done hstart, thereafter_of_done hstart]
    exact ⟨hlast, hflags.append hrest, hlater⟩
  · rw [bind_of_panicked hstart, thereafter_of_panicked hstart, List.append_nil]
    exact ⟨hafter, hflags, nofun⟩
  · rw [bind_of_unfinished hstart, thereafter_of_unfinished hstart, List.append_nil]
    exact ⟨hafter, hflags, nofun⟩

/-- A sequence whose first part stores nothing. -/
theorem Guards.then {rest : α → σ → List (Boxing ω κ)}
    (hact : act.Guards inv (fun _ => ([] : List (Boxing ω κ))) made)
    (hnext : ∀ a, made a → (next a).Guards inv (rest a) later) :
    (act >>= next).Guards inv (act.thereafter rest) later :=
  (hact.bind hnext).of_eq fun _ => List.nil_append _

/-- A sequence whose second part stores nothing. -/
theorem Guards.before (hact : act.Guards inv boxings made)
    (hnext : ∀ a, made a → (next a).Guards inv (fun _ => ([] : List (Boxing ω κ))) later) :
    (act >>= next).Guards inv boxings later := by
  refine (hact.bind hnext).of_eq fun state => ?_
  have hnone : act.thereafter (fun _ _ => ([] : List (Boxing ω κ))) state = [] := by
    rcases hstart : act state with ⟨a | alarm | _, middle⟩
    · exact thereafter_of_done hstart
    · exact thereafter_of_panicked hstart
    · exact thereafter_of_unfinished hstart
  rw [hnone, List.append_nil]

/-- What a computation has stored before a panic stays stored when the panic is caught. -/
theorem Guards.catchPanic (h : act.Guards inv boxings made) :
    act.catchPanic.Guards inv boxings fun result => ∀ a, result = .ok a → made a := by
  intro state hinv
  obtain ⟨hafter, hflags, hmade⟩ := h state hinv
  unfold Act.catchPanic
  rcases hstart : act state with ⟨a | alarm | _, after⟩
  all_goals rw [hstart] at hafter hflags hmade
  · refine ⟨hafter, hflags, fun result hresult b hb => ?_⟩
    subst hb
    cases hresult
    exact hmade a rfl
  · refine ⟨hafter, hflags, fun result hresult b hb => ?_⟩
    subst hb
    cases hresult
  · exact ⟨hafter, hflags, nofun⟩

/-- Beside a state, a computation keeps whatever holds of that state. -/
theorem Guards.beside {kept : τ → Prop} (h : act.Guards (fun _ => True) boxings made) :
    (act.beside : Act (τ × σ) α).Guards (fun state => kept state.1)
      (fun state => boxings state.2) made :=
  fun state hkept => ⟨hkept, (h state.2 trivial).2⟩

/-- What is done beside a state stores what it does without one. -/
theorem Boxes.beside (h : act.Boxes boxings) :
    (act.beside : Act (τ × σ) α).Boxes fun state => boxings state.2 :=
  .of_asked fun state => h.asked state.2

/-- With a state of its own, a computation only shows what it does to the tokens. -/
theorem Boxes.locally {boxings : τ × σ → List (Boxing ω κ)} {act : Act (τ × σ) α}
    (h : act.Boxes boxings) (state : τ) :
    (act.locally state).Boxes fun world => boxings (state, world) :=
  fun world _ => h (state, world) trivial

/-- What writes no token stores nothing. -/
theorem Quiet.boxes (h : act.Quiet) : act.Boxes fun _ => ([] : List (Boxing ω κ)) :=
  .of_asked fun state => .nil (h state)

/-- What stores nothing writes no token. -/
theorem Boxes.quiet (h : act.Boxes fun _ => ([] : List (Boxing ω κ))) : act.Quiet :=
  fun state => (h.asked state).eq_of_nil

/-- To return a value writes no token. -/
theorem Quiet.pure (a : α) : (Pure.pure a : Act σ α).Quiet := fun _ => rfl

/-- A sequence writes no token if its parts write none. -/
theorem Quiet.bind (hact : act.Quiet) (hnext : ∀ a, (next a).Quiet) : (act >>= next).Quiet := by
  have hboxes : (act >>= next).Boxes fun _ => ([] : List (Boxing Unit Unit)) :=
    hact.boxes.before fun a _ => (hnext a).boxes
  exact hboxes.quiet

end

end Act

/-- To log a notice writes no token. -/
theorem quiet_log (notice : Notice) : (log notice : Run ω κ Unit).Quiet := fun _ => rfl

/-! ### Storing and raising -/

/-- The failure with these marks that an error is, directly or under layers. -/
def DynError.carried? (owns : ε → Bool) : DynError ε → Option ε
  | leaf failure => if owns failure then some failure else none
  | layer source => source.carried? owns
  | interrupted _ _ => none
  | abandoned => none
  | crashed => none

namespace FailureType

variable {type : FailureType ω κ ε} {failure : ε} {world after : World ω κ}

/-- Hooks that write no token. -/
structure Quiet (type : FailureType ω κ ε) : Prop where
  cancellation : ∀ failure, (type.cancellation failure).Quiet
  copy : ∀ failure, (type.copy failure).Quiet
  slots : ∀ failure, (type.slots failure).Quiet

/-- The failure is among those that were stored, and the token that it reported then, if it reported
one, is cancelled. -/
def Heeded (type : FailureType ω κ ε) (failure : ε) (boxings : List (Boxing ω κ))
    (world : World ω κ) : Prop :=
  ∃ moment, ⟨type, failure, moment⟩ ∈ boxings ∧
    ∀ token, type.ReportsAt failure moment token → world.cancelled token = true

/-- The boxing of a failure, if there is one. -/
def boxings (type : FailureType ω κ ε) (failure? : Option ε) (world : World ω κ) :
    List (Boxing ω κ) :=
  match failure? with
  | some failure => [⟨type, failure, world⟩]
  | none => []

/-- The failure of the type that the error of an outcome is, directly or under layers. -/
def carried? (type : FailureType ω κ ε) : Outcome ε α → Option ε
  | .ok _ => none
  | .error error => error.carried? type.owns

/-- The failure of the type that the error of an outcome is, as it stands. -/
def own? (type : FailureType ω κ ε) : Outcome ε α → Option ε
  | .error (.leaf failure) => if type.owns failure then some failure else none
  | _ => none

/-- Layers around an error do not change which failure it carries. -/
theorem carried?_layered (error : DynError ε) (count : Nat) :
    type.carried? (.error (error.layered count) : Outcome ε α) = error.carried? type.owns := by
  induction count with
  | zero => rfl
  | succ count ih => exact ih

/-- What is stored when a supplier is captured: the failure that it fails with. -/
def captureBoxings (type : FailureType ω κ ε) (supplier : Run ω κ (Except ε α)) :
    World ω κ → List (Boxing ω κ) :=
  supplier.thereafter fun result => type.boxings (Deferred.hold result).failure?

/-- What is stored when a supplier with dynamic errors is captured. -/
def captureAsBoxings (type : FailureType ω κ ε) (supplier : Run ω κ (Outcome ε α)) :
    World ω κ → List (Boxing ω κ) :=
  supplier.thereafter fun result => type.boxings (type.own? result)

/-- Asserting a failure that reports a token sets the flag of that token. -/
theorem reassert_of_some {token : Token} {next : World ω κ}
    (hfound : type.cancellation failure world = (.done (some token), next)) :
    type.reassert failure world =
      (.done (), (next.setFlag token true).push (.notice (.asserted type.name))) := by
  rw [reassert, Act.bind_of_done hfound]
  rfl

/-- Asserting a failure that reports no token only looks for one. -/
theorem reassert_of_none {next : World ω κ}
    (hfound : type.cancellation failure world = (.done none, next)) :
    type.reassert failure world = (.done (), next) := by
  rw [reassert, Act.bind_of_done hfound]
  rfl

/-- Asserting a failure sets the flag of exactly the token that it reports. -/
theorem boxes_reassert (htype : type.Quiet) (failure : ε) :
    (type.reassert failure).Boxes (type.boxings (some failure)) := by
  refine .of_asked fun world token => ?_
  have hlook : (type.cancellation failure world).2.cancelled = world.cancelled :=
    htype.cancellation failure world
  have hreports : (∃ boxing ∈ type.boxings (some failure) world, boxing.Reports token) ↔
      (type.cancellation failure world).1 = .done (some token) := by
    simp [boxings, Boxing.Reports, ReportsAt]
  change (type.reassert failure world).2.cancelled token = true ↔ world.cancelled token = true ∨ _
  rw [hreports, ← hlook]
  rcases hfound : type.cancellation failure world with ⟨(_ | found) | alarm | _, next⟩
  case done.none =>
    rw [reassert_of_none hfound]
    simp
  case done.some =>
    rw [reassert_of_some hfound, World.cancelled_push, World.cancelled_setFlag]
    by_cases htoken : token = found
    · simp [htoken]
    · simp [htoken, Ne.symm htoken]
  case panicked =>
    rw [reassert, Act.bind_of_panicked hfound]
    simp
  case unfinished =>
    rw [reassert, Act.bind_of_unfinished hfound]
    simp

/-- To raise a failure as it was stored writes no token. -/
theorem quiet_raiseAsStored (failure : ε) (site : Site) (reason : CopyError) :
    (raiseAsStored failure site reason : Run ω κ ε).Quiet :=
  (quiet_log _).bind fun _ => .pure _

/-- Raising a failure clears the flag of exactly the token that it reports. -/
theorem cancelled_raise (htype : type.Quiet) (failure : ε) (site : Site) (world : World ω κ)
    (token : Token) :
    (type.raise failure site world).2.cancelled token = true ↔
      world.cancelled token = true ∧ ¬type.ReportsAt failure world token := by
  have hlook : (type.cancellation failure world).2.cancelled = world.cancelled :=
    htype.cancellation failure world
  rw [ReportsAt, ← hlook]
  rcases hfound : type.cancellation failure world with ⟨(_ | found) | alarm | _, next⟩
  case done.none =>
    have hrest : (type.raise failure site world).2.cancelled = next.cancelled := by
      rw [raise, Act.bind_of_done hfound]
      refine Act.Quiet.bind (htype.copy failure) (fun copied => ?_) next
      rcases copied with reason | copy
      · exact quiet_raiseAsStored failure site reason
      · refine (htype.slots copy).bind fun slots => ?_
        cases slots with
        | none => exact quiet_raiseAsStored failure site _
        | some slots => exact .pure _
    simp [hrest]
  case done.some =>
    have hrest : (type.raise failure site world).2.cancelled =
        (next.setFlag found false).cancelled := by
      have hclear : found.clear next =
        (.done (next.cancelled found), next.setFlag found false) := rfl
      have hlog : (log (.cleared type.name site) : Run ω κ Unit) (next.setFlag found false) =
        (.done (), (next.setFlag found false).push (.notice (.cleared type.name site))) := rfl
      rw [raise, Act.bind_of_done hfound]
      dsimp only
      rw [Act.bind_of_done hclear, Act.bind_of_done hlog]
      refine Act.Quiet.bind (htype.copy failure) (fun copied => ?_) _
      rcases copied with reason | blank
      all_goals exact .pure _
    rw [hrest, World.cancelled_setFlag]
    by_cases htoken : token = found
    · simp [htoken]
    · simp [htoken, Ne.symm htoken]
  case panicked =>
    rw [raise, Act.bind_of_panicked hfound]
    simp
  case unfinished =>
    rw [raise, Act.bind_of_unfinished hfound]
    simp

/-! ### Failures that are boxed -/

/-- To defer a failure stores it. -/
theorem boxes_defer (htype : type.Quiet) (failure : ε) :
    (type.defer failure : Run ω κ (Deferred ε α)).Boxes (type.boxings (some failure)) :=
  (boxes_reassert htype failure).before fun _ _ => .pure trivial

/-- Storing a failure comes to that failure. -/
theorem of_defer {deferred : Deferred ε α}
    (hdone : type.defer failure world = (.done deferred, after)) : deferred = .failure failure := by
  obtain ⟨_, middle, -, hpure⟩ := Act.done_of_bind hdone
  cases hpure
  rfl

/-- To hold a result stores its failure, if it has one. -/
theorem boxes_ofExcept (htype : type.Quiet) (result : Except ε α) :
    (Deferred.ofExcept type result).Boxes (type.boxings (Deferred.hold result).failure?) := by
  cases result with
  | ok value => exact .pure trivial
  | error failure => exact boxes_defer htype failure

/-- A result that comes to a failure is that failure. -/
theorem failure?_of_ofExcept {result : Except ε α}
    (hdone : Deferred.ofExcept type result world = (.done (.failure failure), after)) :
    (Deferred.hold result).failure? = some failure := by
  cases result with
  | ok value => cases hdone
  | error error =>
    cases of_defer hdone
    rfl

/-- A failure that passes through is stored anew. -/
theorem boxes_map {f : α → Run ω κ β} (htype : type.Quiet) (hf : ∀ value, (f value).Quiet)
    (deferred : Deferred ε α) :
    (deferred.map type f).Boxes (type.boxings deferred.failure?) := by
  cases deferred with
  | value value => exact (hf value).boxes.before fun _ _ => .pure trivial
  | failure failure => exact boxes_defer htype failure

/-- Only a failure comes to a failure when it is transformed. -/
theorem failure?_of_map {f : α → Run ω κ β} {deferred : Deferred ε α}
    (hdone : deferred.map type f world = (.done (.failure failure), after)) :
    deferred.failure? = some failure := by
  cases deferred with
  | value value =>
    obtain ⟨_, _, -, hpure⟩ := Act.done_of_bind hdone
    cases hpure
  | failure error =>
    cases of_defer hdone
    rfl

/-- A failure that passes through is stored anew, and what comes after a value is quiet. -/
theorem boxes_bind {f : α → Run ω κ (Deferred ε β)} (htype : type.Quiet)
    (hf : ∀ value, (f value).Quiet) (deferred : Deferred ε α) :
    (deferred.bind type f).Boxes (type.boxings deferred.failure?) := by
  cases deferred with
  | value value => exact (hf value).boxes
  | failure failure => exact boxes_defer htype failure

/-- To capture a supplier stores the failure that it fails with. -/
theorem boxes_capture {supplier : Run ω κ (Except ε α)} (htype : type.Quiet)
    (hsupplier : supplier.Quiet) :
    (capture type supplier).Boxes (type.captureBoxings supplier) :=
  hsupplier.boxes.then fun result _ => boxes_ofExcept htype result

/-- A failure that a capture comes to is the one that the supplier failed with. -/
theorem mem_captureBoxings {supplier : Run ω κ (Except ε α)}
    (hdone : capture type supplier world = (.done (.failure failure), after)) :
    ∃ moment, ⟨type, failure, moment⟩ ∈ type.captureBoxings supplier world := by
  obtain ⟨result, middle, hresult, hstored⟩ := Act.done_of_bind hdone
  refine ⟨middle, ?_⟩
  rw [captureBoxings, Act.thereafter_of_done hresult, failure?_of_ofExcept hstored]
  exact List.mem_singleton_self _

/-- To capture a supplier with dynamic errors stores the failure of the type, and nothing where the
contract is broken. -/
theorem boxes_captureAs [Wording ε] {supplier : Run ω κ (Outcome ε α)} (htype : type.Quiet)
    (hsupplier : supplier.Quiet) :
    (captureAs type supplier).Boxes
      (supplier.thereafter fun result => type.boxings (type.own? result)) := by
  refine hsupplier.boxes.then fun result _ => ?_
  rcases result with (failure | source | _ | _ | _) | value
  case error.leaf =>
    by_cases howns : type.owns failure = true
    · simp only [takeAt, own?, if_pos howns]
      exact boxes_defer htype failure
    · simp only [takeAt, own?, if_neg howns]
      exact .panic _
  case ok => exact .pure trivial
  all_goals exact .panic _

/-- A failure that such a capture comes to is the one that the supplier failed with. -/
theorem mem_captureAsBoxings [Wording ε] {supplier : Run ω κ (Outcome ε α)}
    (hdone : captureAs type supplier world = (.done (.failure failure), after)) :
    ∃ moment, ⟨type, failure, moment⟩ ∈ type.captureAsBoxings supplier world := by
  obtain ⟨result, middle, hresult, hstored⟩ := Act.done_of_bind hdone
  have hown : type.own? result = some failure := by
    rcases result with (error | source | _ | _ | _) | value
    case error.leaf =>
      by_cases howns : type.owns error = true
      · simp only [takeAt, if_pos howns] at hstored
        cases of_defer hstored
        exact if_pos howns
      · simp only [takeAt, if_neg howns] at hstored
        cases hstored
    all_goals cases hstored
  refine ⟨middle, ?_⟩
  rw [captureAsBoxings, Act.thereafter_of_done hresult, hown]
  exact List.mem_singleton_self _

/-- To spread a supplier stores the failure that it fails with. -/
theorem boxes_spread {supplier : Run ω κ (Except ε α)} (htype : type.Quiet)
    (hsupplier : supplier.Quiet) :
    (spread type supplier).Boxes (type.captureBoxings supplier) :=
  (boxes_capture htype hsupplier).before fun _ _ => .pure trivial

/-- To spread a supplier with dynamic errors stores the failure of the type. -/
theorem boxes_spreadAs [Wording ε] {supplier : Run ω κ (Outcome ε α)} (htype : type.Quiet)
    (hsupplier : supplier.Quiet) :
    (spreadAs type supplier).Boxes (type.captureAsBoxings supplier) :=
  (boxes_captureAs htype hsupplier).before fun _ _ => .pure trivial

/-- A sequence that failed as a whole holds the failure that came in its place. -/
theorem done_of_ofDeferred {act : Run ω κ (Deferred ε α)}
    (hdone : (do return Spread.ofDeferred (← act) : Run ω κ (Spread ε α)) world =
      (.done (.failed (some failure)), after)) :
    act world = (.done (.failure failure), after) := by
  obtain ⟨captured, middle, hcaptured, hpure⟩ := Act.done_of_bind hdone
  cases captured with
  | value sequence => cases hpure
  | failure error =>
    cases hpure
    exact hcaptured

end FailureType

/-! ### Operations that leave failures as they are -/

namespace Deferred

variable {ζ : Type} (deferred : Deferred ε α)

/-- To look at the value writes no token. -/
theorem quiet_ifValue {look : α → Run ω κ Unit} (hlook : ∀ value, (look value).Quiet) :
    (deferred.ifValue look).Quiet := by
  cases deferred with
  | value value => exact (hlook value).bind fun _ => .pure _
  | failure failure => exact .pure _

/-- To recover from the failure writes no token. -/
theorem quiet_recover {f : ε → Run ω κ (Except ζ α)} (hf : ∀ failure, (f failure).Quiet) :
    (deferred.recover f).Quiet := by
  cases deferred with
  | value value => exact .pure _
  | failure failure => exact hf failure

/-- To raise what a callable makes of the failure writes no token. -/
theorem quiet_raiseWith {wrap : ε → Run ω κ ε} (hwrap : ∀ failure, (wrap failure).Quiet) :
    (deferred.raiseWith wrap).Quiet :=
  quiet_recover deferred fun failure => (hwrap failure).bind fun _ => .pure _

/-- To hand the failure to a handler writes no token. -/
theorem quiet_handling {handler : ε → Run ω κ Unit}
    (hhandler : ∀ failure, (handler failure).Quiet) : (deferred.handling handler).Quiet := by
  cases deferred with
  | value value => exact .pure _
  | failure failure => exact (hhandler failure).bind fun _ => .pure _

/-- To test the value writes no token. -/
theorem quiet_accepted {test : α → Run ω κ Bool} (htest : ∀ value, (test value).Quiet) :
    (deferred.accepted test).Quiet := by
  cases deferred with
  | value value => exact htest value
  | failure failure => exact .pure _

end Deferred

end Deferral
