import Deferral.Proofs.Computation
import Deferral.Promise.Claim
import Deferral.Capture
import Mathlib.Data.List.Forall2

/-!
# Likeness

A likeness says when two failures, two events and two states of a client are taken to be alike. From
these it is told of everything that a program handles: deferred values and results, dynamic errors,
payloads of promises, and worlds. Two computations follow each other when, started in worlds that
are alike, they end in the same way, with results that are alike, in worlds that are alike.

Here the operations on deferred failures are shown to follow each other on whatever is alike,
provided that the callables and hooks handed to them do. A likeness that leaves something out, as
the trails of failures, shows that the library never looks at it. A likeness that says of two equal
failures that they have a property shows that the library keeps the property.
-/

namespace Deferral

variable {ω κ ε ζ σ τ ρ α β γ δ : Type}

/-! ### Likeness of parts -/

/-- Both are values that are alike, or both are errors that are alike. -/
inductive ExceptAlike (errors : ε → ζ → Prop) (values : α → β → Prop) :
    Except ε α → Except ζ β → Prop where
  | error {first : ε} {second : ζ} (h : errors first second) :
    ExceptAlike errors values (.error first) (.error second)
  | ok {first : α} {second : β} (h : values first second) :
    ExceptAlike errors values (.ok first) (.ok second)

/-- The two parts of a pair are alike. -/
def Both (first : α → β → Prop) (second : γ → δ → Prop) (one : α × γ) (other : β × δ) : Prop :=
  first one.1 other.1 ∧ second one.2 other.2

/-- Both errors have the same layers, over leaves that are alike or over the same error of the
library. -/
inductive DynError.Alike (failures : ε → ε → Prop) : DynError ε → DynError ε → Prop where
  | leaf {first second : ε} (h : failures first second) :
    Alike failures (.leaf first) (.leaf second)
  | layer {first second : DynError ε} (h : Alike failures first second) :
    Alike failures (.layer first) (.layer second)
  | interrupted {message : String} {first second : DynError ε} (h : Alike failures first second) :
    Alike failures (.interrupted message first) (.interrupted message second)
  | abandoned : Alike failures .abandoned .abandoned
  | crashed : Alike failures .crashed .crashed

/-- Both hold values that are alike, or both hold failures that are alike. -/
inductive Deferred.Alike (failures : ε → ε → Prop) (values : α → α → Prop) :
    Deferred ε α → Deferred ε α → Prop where
  | value {first second : α} (h : values first second) :
    Alike failures values (.value first) (.value second)
  | failure {first second : ε} (h : failures first second) :
    Alike failures values (.failure first) (.failure second)

/-- Outcomes of asynchronous work that are alike. -/
abbrev OutcomeAlike (failures : ε → ε → Prop) (values : α → α → Prop) :
    Outcome ε α → Outcome ε α → Prop :=
  ExceptAlike (DynError.Alike failures) values

namespace Act.Mirrors

variable {worlds : σ → τ → Prop} {results : α → β → Prop} {first : Act σ α} {second : Act τ β}

/-- Results that are alike in one sense may be alike in another. -/
theorem mono {weaker : α → β → Prop} (h : Act.Mirrors worlds results first second)
    (hweaker : ∀ a b, results a b → weaker a b) : Act.Mirrors worlds weaker first second := by
  intro world other hworlds
  obtain ⟨hexits, hafter⟩ := h hworlds
  refine ⟨?_, hafter⟩
  generalize (first world).1 = exit at hexits ⊢
  generalize (second other).1 = answer at hexits ⊢
  cases hexits with
  | done hresults => exact .done (hweaker _ _ hresults)
  | panicked alarm => exact .panicked alarm
  | unfinished => exact .unfinished

/-- The same panic is alike on both sides. -/
theorem panic (alarm : Alarm) :
    Act.Mirrors worlds results (.panic alarm : Act σ α) (.panic alarm : Act τ β) :=
  fun _ _ hworlds => ⟨.panicked alarm, hworlds⟩

/-- Both sides may be left unfinished. -/
theorem giveUp : Act.Mirrors worlds results (.giveUp : Act σ α) (.giveUp : Act τ β) :=
  fun _ _ hworlds => ⟨.unfinished, hworlds⟩

/-- What is read of worlds that are alike is alike if the views say so of all such worlds. -/
theorem read {view : σ → α} {sight : τ → β}
    (h : ∀ world other, worlds world other → results (view world) (sight other)) :
    Act.Mirrors worlds results (.read view) (.read sight) :=
  fun _ _ hworlds => ⟨.done (h _ _ hworlds), hworlds⟩

/-- Changes that keep worlds alike follow each other. -/
theorem change {f : σ → σ} {g : τ → τ}
    (h : ∀ world other, worlds world other → worlds (f world) (g other)) :
    Act.Mirrors worlds Eq (.change f) (.change g) :=
  fun _ _ hworlds => ⟨.done rfl, h _ _ hworlds⟩

/-- A panic that is caught is the same on both sides. -/
theorem catchPanic (h : Act.Mirrors worlds results first second) :
    Act.Mirrors worlds (ExceptAlike Eq results) first.catchPanic second.catchPanic := by
  intro world other hworlds
  obtain ⟨hexits, hafter⟩ := h hworlds
  rw [Act.catchPanic, Act.catchPanic]
  generalize first world = ended at hexits hafter ⊢
  generalize second other = stopped at hexits hafter ⊢
  obtain ⟨exit, after⟩ := ended
  obtain ⟨answer, rest⟩ := stopped
  cases hexits with
  | done hresults => exact ⟨.done (.ok hresults), hafter⟩
  | panicked alarm => exact ⟨.done (.error rfl), hafter⟩
  | unfinished => exact ⟨.unfinished, hafter⟩

/-- What is done beside a state leaves the state as it is. -/
theorem beside {states : ρ → δ → Prop} (h : Act.Mirrors worlds results first second) :
    Act.Mirrors (Both states worlds) results first.beside second.beside := by
  rintro ⟨kept, world⟩ ⟨left, other⟩ ⟨hstates, hworlds⟩
  obtain ⟨hexits, hafter⟩ := h hworlds
  exact ⟨hexits, hstates, hafter⟩

/-- To go on with a part that does not depend on the first is to go on. -/
theorem andThen {later : γ → δ → Prop} {next : Act σ γ} {rest : Act τ δ}
    (h : Act.Mirrors worlds results first second) (hnext : Act.Mirrors worlds later next rest) :
    Act.Mirrors worlds later (first >>= fun _ => next) (second >>= fun _ => rest) :=
  h.bind fun _ _ _ => hnext

/-- To go on with a part that depends on a result that is the same on both sides. -/
theorem bindSame {later : γ → δ → Prop} {act : Act σ α} {move : Act τ α} {next : α → Act σ γ}
    {rest : α → Act τ δ} (h : Act.Mirrors worlds Eq act move)
    (hnext : ∀ a, Act.Mirrors worlds later (next a) (rest a)) :
    Act.Mirrors worlds later (act >>= next) (move >>= rest) := by
  refine h.bind ?_
  rintro a _ rfl
  exact hnext a

/-- To answer with something made of the result. -/
theorem returning {later : γ → δ → Prop} {f : α → γ} {g : β → δ}
    (h : Act.Mirrors worlds results first second)
    (hmake : ∀ a b, results a b → later (f a) (g b)) :
    Act.Mirrors worlds later (first >>= fun a => Pure.pure (f a))
      (second >>= fun b => Pure.pure (g b)) :=
  h.bind fun _ _ hresults => .pure (hmake _ _ hresults)

end Act.Mirrors

/-! ### Likeness of worlds -/

/-- Which failures, events and states of the client are alike. -/
structure Likeness (ω κ ε : Type) where
  failures : ε → ε → Prop
  events : ω → ω → Prop
  clients : κ → κ → Prop

/-- Both are the same notice, or both are events that are alike. -/
inductive Entry.Alike (events : ω → ω → Prop) : Entry ω → Entry ω → Prop where
  | notice (notice : Notice) : Alike events (.notice notice) (.notice notice)
  | event {first second : ω} (h : events first second) : Alike events (.event first) (.event second)

namespace Likeness

variable (like : Likeness ω κ ε)

/-- The flags of all tokens are the same, the traces are alike entry by entry, with the same
notices, and the client's states are alike. -/
structure Worlds (first second : World ω κ) : Prop where
  cancelled : first.cancelled = second.cancelled
  trace : List.Forall₂ (Entry.Alike like.events) first.trace.toList second.trace.toList
  client : like.clients first.client second.client

/-- Started in worlds that are alike, the two computations end in the same way and in worlds that
are alike, with results that are alike. -/
abbrev Follows (results : α → β → Prop) (first : Run ω κ α) (second : Run ω κ β) : Prop :=
  Act.Mirrors like.Worlds results first second

/-- Both functions take arguments that are alike to computations that follow each other. -/
def Maps (arguments : γ → γ → Prop) (results : α → β → Prop) (f : γ → Run ω κ α)
    (g : γ → Run ω κ β) : Prop :=
  ∀ one other, arguments one other → like.Follows results (f one) (g other)

/-- The hooks of a type follow each other on failures that are alike, and so does raising. -/
structure Respects (type : FailureType ω κ ε) : Prop where
  owns : ∀ one other, like.failures one other → type.owns one = type.owns other
  cancellation : like.Maps like.failures Eq type.cancellation type.cancellation
  raise : ∀ site, like.Maps like.failures like.failures (type.raise · site) (type.raise · site)

/-- Failures that are alike cannot be told apart by their wording, by comparing them with others, or
by hashing. -/
structure Derived [BEq ε] [Feeds ε] [ToString ε] : Prop where
  text : ∀ one other, like.failures one other → toString one = toString other
  same : ∀ one other left right, like.failures one other → like.failures left right →
    (one == left) = (other == right)
  feed : ∀ one other, like.failures one other → Feeds.feed one = Feeds.feed other

variable {like}

/-- Worlds stay alike when entries that are alike are written to their traces. -/
theorem Worlds.push {first second : World ω κ} (h : like.Worlds first second)
    {entry other : Entry ω} (hentry : entry.Alike like.events other) :
    like.Worlds (first.push entry) (second.push other) where
  cancelled := h.cancelled
  trace := by
    simp only [World.trace_push, Array.toList_push]
    exact List.rel_append h.trace (.cons hentry .nil)
  client := h.client

/-- Worlds stay alike when the flag of the same token is set to the same. -/
theorem Worlds.setFlag {first second : World ω κ} (h : like.Worlds first second) (token : Token)
    (flag : Bool) : like.Worlds (first.setFlag token flag) (second.setFlag token flag) where
  cancelled := by
    funext other
    rw [World.cancelled_setFlag, World.cancelled_setFlag, h.cancelled]
  trace := h.trace
  client := h.client

/-- The same notice is logged on both sides. -/
theorem follows_log (notice : Notice) : like.Follows Eq (log notice) (log notice) :=
  .change fun _ _ hworlds => hworlds.push (.notice notice)

/-- Events that are alike are written down on both sides. -/
theorem follows_emit {first second : ω} (h : like.events first second) :
    like.Follows Eq (emit first) (emit second) :=
  .change fun _ _ hworlds => hworlds.push (.event h)

/-- The same token is set on both sides. -/
theorem follows_cancel (token : Token) : like.Follows Eq token.cancel token.cancel :=
  .change fun _ _ hworlds => hworlds.setFlag token true

/-- The same token is cleared on both sides, and its flag was the same before. -/
theorem follows_clear (token : Token) : like.Follows Eq token.clear token.clear :=
  fun _ _ hworlds => ⟨.done (congrFun hworlds.cancelled token), hworlds.setFlag token false⟩

/-! ### Storing failures -/

variable {type : FailureType ω κ ε} {values : α → α → Prop} {one other : ε}

/-- Storing failures that are alike sets the same token and logs the same. -/
theorem Respects.reassert (htype : like.Respects type) (h : like.failures one other) :
    like.Follows Eq (type.reassert one) (type.reassert other) := by
  refine (htype.cancellation one other h).bindSame fun token => ?_
  cases token with
  | none => exact .pure rfl
  | some token => exact (follows_cancel token).andThen (follows_log _)

/-- Failures that are alike are deferred alike. -/
theorem Respects.defer (htype : like.Respects type) (h : like.failures one other) :
    like.Follows (Deferred.Alike like.failures values) (type.defer one) (type.defer other) :=
  (htype.reassert h).andThen (.pure (.failure h))

/-- Results that are alike are deferred alike. -/
theorem Respects.ofExcept (htype : like.Respects type) {result answer : Except ε α}
    (h : ExceptAlike like.failures values result answer) :
    like.Follows (Deferred.Alike like.failures values) (Deferred.ofExcept type result)
      (Deferred.ofExcept type answer) := by
  cases h with
  | error herror => exact htype.defer herror
  | ok hvalue => exact .pure (.value hvalue)

end Likeness

/-- Errors that are alike are worded alike, when failures that are alike are. -/
theorem DynError.Alike.text [Wording ε] {failures : ε → ε → Prop} {error other : DynError ε}
    (h : error.Alike failures other)
    (htext : ∀ one other, failures one other → toString one = toString other) :
    toString error = toString other := by
  change error.textWith toString (Wording.crashedText ε) =
    other.textWith toString (Wording.crashedText ε)
  induction h with
  | leaf h => exact htext _ _ h
  | layer h ih => rw [DynError.textWith, DynError.textWith, ih]
  | interrupted h ih => rw [DynError.textWith, DynError.textWith]
  | abandoned => rfl
  | crashed => rfl

namespace Likeness

variable {like : Likeness ω κ ε} {type : FailureType ω κ ε} {values : α → α → Prop}
  {images : β → β → Prop}

/-- The counting walk takes the same way through errors that are alike. -/
theorem Respects.depth? (htype : like.Respects type) {error other : DynError ε}
    (h : error.Alike like.failures other) : type.depth? error = type.depth? other := by
  induction h with
  | leaf h => rw [FailureType.depth?, FailureType.depth?, htype.owns _ _ h]
  | layer h ih => rw [FailureType.depth?, FailureType.depth?, ih]
  | interrupted h ih => rfl
  | abandoned => rfl
  | crashed => rfl

/-- The taking walk finds failures that are alike, or stops at errors that are alike. -/
theorem Respects.takeAt (htype : like.Respects type) {error other : DynError ε}
    (h : error.Alike like.failures other) (depth : Nat) :
    ExceptAlike (DynError.Alike like.failures) like.failures (type.takeAt depth error)
      (type.takeAt depth other) := by
  induction h generalizing depth with
  | @leaf one other h =>
    cases depth with
    | zero =>
      rw [FailureType.takeAt, FailureType.takeAt, htype.owns one other h]
      split
      · exact .ok h
      · exact .error (.leaf h)
    | succ depth => exact .error (.leaf h)
  | layer h ih =>
    cases depth with
    | zero => exact .error (.layer h)
    | succ depth => exact ih depth
  | interrupted h ih => cases depth <;> exact .error (.interrupted h)
  | abandoned => cases depth <;> exact .error .abandoned
  | crashed => cases depth <;> exact .error .crashed

/-- Claiming takes outcomes that are alike to outcomes that are alike. -/
theorem Respects.claim (htype : like.Respects type) {outcome other : Outcome ε α}
    (h : OutcomeAlike like.failures values outcome other) :
    like.Follows (OutcomeAlike like.failures (Deferred.Alike like.failures values))
      (type.claim outcome) (type.claim other) := by
  cases h with
  | ok hvalue => exact .pure (.ok (.value hvalue))
  | @error error other herror =>
    rw [FailureType.claim, FailureType.claim, htype.depth? herror]
    cases type.depth? other with
    | none => exact .pure (.error herror)
    | some depth =>
      dsimp only
      have htaken := htype.takeAt herror depth
      generalize type.takeAt depth error = taken at htaken ⊢
      generalize type.takeAt depth other = left at htaken ⊢
      cases htaken with
      | error hrest => exact .pure (.error hrest)
      | ok hfailure =>
        refine (htype.reassert hfailure).catchPanic.bind ?_
        rintro looked _ (⟨⟨⟩⟩ | ⟨⟨⟩⟩)
        · exact ((follows_log _).andThen (.pure (.interrupted (.leaf hfailure)))).returning
            fun _ _ herror => .error herror
        · exact .pure (.ok (.failure hfailure))

/-! ### Deferred values -/

section

variable {first second : Deferred ε α}

/-- Mapping deferred values that are alike follows each other. -/
theorem Respects.map (htype : like.Respects type) {f g : α → Run ω κ β}
    (hf : like.Maps values images f g) (h : first.Alike like.failures values second) :
    like.Follows (Deferred.Alike like.failures images) (first.map type f) (second.map type g) := by
  cases h with
  | value hvalue => exact (hf _ _ hvalue).returning fun _ _ himage => .value himage
  | failure hfailure => exact htype.defer hfailure

/-- So does going on with a computation that may fail itself. -/
theorem Respects.bind (htype : like.Respects type) {f g : α → Run ω κ (Deferred ε β)}
    (hf : like.Maps values (Deferred.Alike like.failures images) f g)
    (h : first.Alike like.failures values second) :
    like.Follows (Deferred.Alike like.failures images) (first.bind type f)
      (second.bind type g) := by
  cases h with
  | value hvalue => exact hf _ _ hvalue
  | failure hfailure => exact htype.defer hfailure

/-- So does looking at the value. -/
theorem follows_ifValue {look glance : α → Run ω κ Unit} (hlook : like.Maps values Eq look glance)
    (h : first.Alike like.failures values second) :
    like.Follows (Deferred.Alike like.failures values) (first.ifValue look)
      (second.ifValue glance) := by
  cases h with
  | value hvalue => exact (hlook _ _ hvalue).returning fun _ _ _ => .value hvalue
  | failure hfailure => exact .pure (.failure hfailure)

/-- So does taking out the value or what is made of the failure. -/
theorem follows_recover {errors : ζ → ζ → Prop} {f g : ε → Run ω κ (Except ζ α)}
    (hf : like.Maps like.failures (ExceptAlike errors values) f g)
    (h : first.Alike like.failures values second) :
    like.Follows (ExceptAlike errors values) (first.recover f) (second.recover g) := by
  cases h with
  | value hvalue => exact .pure (.ok hvalue)
  | failure hfailure => exact hf _ _ hfailure

/-- So does replacing the failure by a value. -/
theorem follows_valueOr {f g : ε → Run ω κ α} (hf : like.Maps like.failures values f g)
    (h : first.Alike like.failures values second) :
    like.Follows values (first.valueOr f) (second.valueOr g) := by
  cases h with
  | value hvalue => exact .pure hvalue
  | failure hfailure => exact hf _ _ hfailure

/-- So does raising the failure. -/
theorem Respects.raiseDeferred (htype : like.Respects type) (site : Site)
    (h : first.Alike like.failures values second) :
    like.Follows (ExceptAlike like.failures values) (first.raise type site)
      (second.raise type site) :=
  follows_recover
    (fun one other hfailure => (htype.raise site one other hfailure).returning
      fun _ _ hraised => .error hraised) h

/-- So does raising what a callable makes of the failure. -/
theorem follows_raiseWith {wrap cover : ε → Run ω κ ε}
    (hwrap : like.Maps like.failures like.failures wrap cover)
    (h : first.Alike like.failures values second) :
    like.Follows (ExceptAlike like.failures values) (first.raiseWith wrap)
      (second.raiseWith cover) :=
  follows_recover
    (fun one other hfailure => (hwrap one other hfailure).returning
      fun _ _ hraised => .error hraised) h

/-- So does handing the failure to a handler. -/
theorem follows_handling {handler keeper : ε → Run ω κ Unit}
    (hhandler : like.Maps like.failures Eq handler keeper)
    (h : first.Alike like.failures values second) :
    like.Follows (Option.Rel values) (first.handling handler) (second.handling keeper) := by
  cases h with
  | value hvalue => exact .pure (.some hvalue)
  | failure hfailure => exact (hhandler _ _ hfailure).returning fun _ _ _ => .none

/-- So does testing the value. -/
theorem follows_accepted {test trial : α → Run ω κ Bool} (htest : like.Maps values Eq test trial)
    (h : first.Alike like.failures values second) :
    like.Follows Eq (first.accepted test) (second.accepted trial) := by
  cases h with
  | value hvalue => exact htest _ _ hvalue
  | failure hfailure => exact .pure rfl

end

end Likeness

/-! ### Capturing -/

/-- The text of a broken contract shows no more of an error than its wording. -/
theorem FailureType.contractText_congr [Wording ε] (type : FailureType ω κ ε)
    {error other : DynError ε} (h : toString error = toString other) :
    type.contractText error = type.contractText other := by
  unfold FailureType.contractText
  exact congrArg (_ ++ ·) h

namespace Likeness

variable {like : Likeness ω κ ε} {type : FailureType ω κ ε} {values : α → α → Prop}

/-- Capturing what computations return that follow each other follows each other. -/
theorem Respects.capture (htype : like.Respects type) {supply other : Run ω κ (Except ε α)}
    (h : like.Follows (ExceptAlike like.failures values) supply other) :
    like.Follows (Deferred.Alike like.failures values) (capture type supply)
      (capture type other) :=
  h.bind fun _ _ hresult => htype.ofExcept hresult

/-- So does capturing outcomes. The contract is broken on both sides, with the same text, or on
neither. -/
theorem Respects.captureAs [Wording ε] (htype : like.Respects type)
    (htext : ∀ one other, like.failures one other → toString one = toString other)
    {supply other : Run ω κ (Outcome ε α)}
    (h : like.Follows (OutcomeAlike like.failures values) supply other) :
    like.Follows (Deferred.Alike like.failures values) (captureAs type supply)
      (captureAs type other) := by
  refine h.bind fun result answer hresult => ?_
  cases hresult with
  | ok hvalue => exact .pure (.value hvalue)
  | @error error other herror =>
    dsimp only
    have htaken := htype.takeAt herror 0
    generalize type.takeAt 0 error = taken at htaken ⊢
    generalize type.takeAt 0 other = left at htaken ⊢
    cases htaken with
    | ok hfailure =>
      dsimp only
      exact htype.defer hfailure
    | error hrest =>
      have hsame := type.contractText_congr (hrest.text htext)
      dsimp only
      simp only [hsame]
      exact .panic _

end Likeness

end Deferral
