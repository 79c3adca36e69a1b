import Deferral.Proofs.Computation
import Deferral.Proofs.Effects
import Deferral.Proofs.Tokens.Flags
import Deferral.Script.Event

/-!
# Regrouping chains of functions

A deferred value goes through functions that may fail, one after the other, and the calls of
`Deferred.bind` by which it does so can be put into parentheses in many ways. Each way calls the
same functions with the same arguments in the same order, up to the first failure. What differs is
only how often that failure is passed on afterwards, and so how often it is stored anew: not at all
where no function was left to call, and otherwise at least once. As to store a failure once more
neither changes a flag nor comes to anything else, all ways end alike.
-/

namespace Deferral

variable {ω κ σ ε α β γ : Type}

/-! ### Functions in a row -/

/-- Functions that may fail, each of which goes on from the values of the one before. -/
inductive Functions (ω κ ε : Type) : Type → Type → Type 1 where
  | last {α β : Type} (f : α → Run ω κ (Deferred ε β)) : Functions ω κ ε α β
  | cons {α β γ : Type} (f : α → Run ω κ (Deferred ε β)) (rest : Functions ω κ ε β γ) :
    Functions ω κ ε α γ

/-- What comes of functions that are called in a row: a value, or a failure and the number of the
functions that were still to be called. -/
inductive Followed (ε α : Type) where
  | value (value : α)
  | failure (failure : ε) (left : Nat)

namespace Followed

/-- What has come of a deferred value before any function is called. -/
def start : Deferred ε α → Followed ε α
  | .value a => .value a
  | .failure e => .failure e 0

/-- The number of functions that were still to be called. -/
def left : Followed ε α → Nat
  | value _ => 0
  | failure _ left => left

end Followed

namespace Functions

/-- The number of functions. -/
def length {α β : Type} : Functions ω κ ε α β → Nat
  | .last _ => 1
  | .cons _ rest => rest.length + 1

/-- The functions of two rows, one row after the other. -/
def append {α β γ : Type} : Functions ω κ ε α β → Functions ω κ ε β γ → Functions ω κ ε α γ
  | .last f, other => .cons f other
  | .cons f rest, other => .cons f (rest.append other)

/-- Call the functions in a row, up to the first failure. -/
def follow {α β : Type} : Functions ω κ ε α β → α → Run ω κ (Followed ε β)
  | .last f, a => do return .start (← f a)
  | .cons f rest, a => do
    match ← f a with
    | .value b => rest.follow b
    | .failure e => pure (.failure e rest.length)

/-- Go on with the functions from what has come of others. -/
def goOn (functions : Functions ω κ ε α β) : Followed ε α → Run ω κ (Followed ε β)
  | .value a => functions.follow a
  | .failure e left => pure (.failure e (left + functions.length))

/-- There is at least one function in a row. -/
theorem length_pos (functions : Functions ω κ ε α β) : 0 < functions.length := by
  cases functions <;> simp [length]

/-- A row behind another has as many functions as both. -/
theorem length_append {α β γ : Type} (first : Functions ω κ ε α β)
    (second : Functions ω κ ε β γ) :
    (first.append second).length = first.length + second.length := by
  induction first with
  | last f => simp [append, length, Nat.add_comm]
  | cons f rest ih => simp [append, length, ih, Nat.add_right_comm]

/-- Of three rows, it makes no difference which two are put together first. -/
theorem append_assoc {α β γ δ : Type} (first : Functions ω κ ε α β)
    (second : Functions ω κ ε β γ) (third : Functions ω κ ε γ δ) :
    (first.append second).append third = first.append (second.append third) := by
  induction first with
  | last f => rfl
  | cons f rest ih => exact congrArg (cons f) (ih second)

/-- To follow two rows is to follow the first, and to go on with the second. -/
theorem follow_append {α β γ : Type} (first : Functions ω κ ε α β)
    (second : Functions ω κ ε β γ) (a : α) :
    (first.append second).follow a = first.follow a >>= second.goOn := by
  induction first with
  | last f =>
    simp only [append, follow, bind_assoc, pure_bind]
    refine bind_congr fun result => ?_
    cases result with
    | value b => rfl
    | failure e => simp only [Followed.start, goOn, Nat.zero_add]
  | cons f rest ih =>
    simp only [append, follow, bind_assoc]
    refine bind_congr fun result => ?_
    cases result with
    | value b => exact ih second b
    | failure e => simp only [pure_bind, goOn, length_append]

/-- To go on with two rows is to go on with the first, and then with the second. -/
theorem goOn_append {α β γ : Type} (first : Functions ω κ ε α β)
    (second : Functions ω κ ε β γ) (followed : Followed ε α) :
    (first.append second).goOn followed = first.goOn followed >>= second.goOn := by
  cases followed with
  | value a => exact follow_append first second a
  | failure e left => simp only [goOn, pure_bind, length_append, Nat.add_assoc]

/-- Where a function has been called, not all of them are left. -/
theorem left_lt_length {α β : Type} (functions : Functions ω κ ε α β) (a : α) :
    (functions.follow a).Yields fun followed => followed.left < functions.length := by
  intro world followed after hdone
  induction functions generalizing world with
  | last f =>
    obtain ⟨result, middle, -, hpure⟩ := Act.done_of_bind hdone
    cases hpure
    cases result <;> exact Nat.zero_lt_one
  | cons f rest ih =>
    obtain ⟨result, middle, -, hnext⟩ := Act.done_of_bind hdone
    cases result with
    | value b =>
      have hlt : followed.left < rest.length := ih b middle followed hnext
      exact Nat.lt_succ_of_lt hlt
    | failure e =>
      cases hnext
      exact Nat.lt_succ_self _

end Functions

/-! ### Passing a failure on -/

namespace FailureType

/-- Assert the cancellation of a failure so many times. -/
def reassertTimes (type : FailureType ω κ ε) (failure : ε) : Nat → Run ω κ Unit
  | 0 => pure ()
  | times + 1 => do
    type.reassertTimes failure times
    type.reassert failure

/-- Hand out what has come of functions in a row. A failure is passed on as often as `passings` says
for the functions that were still to be called. -/
def passOn (type : FailureType ω κ ε) (passings : Nat → Nat) :
    Followed ε α → Run ω κ (Deferred ε α)
  | .value a => pure (.value a)
  | .failure e left => do
    type.reassertTimes e (passings left)
    pure (.failure e)

end FailureType

/-- A failure is passed on if functions were left to call, and only then. -/
def Faithful (passings : Nat → Nat) : Prop := ∀ left, passings left = 0 ↔ left = 0

/-- How often a failure is passed on where so many functions are added to a row: as often as among
the added functions alone, or once more than before, if it came before them. -/
def onward (before added : Nat → Nat) (count left : Nat) : Nat :=
  if left < count then added left else before (left - count) + 1

/-- Failures are passed on faithfully when functions are added to a row. -/
theorem Faithful.onward {before added : Nat → Nat} {count : Nat} (hadded : Faithful added)
    (hcount : 0 < count) : Faithful (Deferral.onward before added count) := by
  intro left
  unfold Deferral.onward
  by_cases hlt : left < count
  · rw [if_pos hlt]
    exact hadded left
  · rw [if_neg hlt]
    omega

/-! ### Groupings -/

/-- Functions in parentheses: a single one, or two groups of which the second goes on from the
values of the first. -/
inductive Group (ω κ ε : Type) : Type → Type → Type 1 where
  | single {α β : Type} (f : α → Run ω κ (Deferred ε β)) : Group ω κ ε α β
  | both {α β γ : Type} (first : Group ω κ ε α β) (second : Group ω κ ε β γ) : Group ω κ ε α γ

namespace Group

/-- The functions of a group, in their order. -/
def functions {α β : Type} : Group ω κ ε α β → Functions ω κ ε α β
  | .single f => .last f
  | .both first second => first.functions.append second.functions

/-- Call a group as a function. -/
def call {α β : Type} (type : FailureType ω κ ε) : Group ω κ ε α β → α → Run ω κ (Deferred ε β)
  | .single f, a => f a
  | .both first second, a => do (← first.call type a).bind type (second.call type)

/-- How often a failure of a function is passed on within a group. -/
def passings {α β : Type} : Group ω κ ε α β → Nat → Nat
  | .single _ => id
  | .both first second => onward first.passings second.passings second.functions.length

/-- A group passes a failure on if functions of it were left to call, and only then. -/
theorem faithful {α β : Type} (group : Group ω κ ε α β) : Faithful group.passings := by
  induction group with
  | single f => exact fun left => Iff.rfl
  | both first second _ ih => exact ih.onward second.functions.length_pos

end Group

/-- A deferred value goes through groups of functions, one group after the other. -/
inductive Grouping (ω κ ε : Type) : Type → Type → Type 1 where
  | whole {α β : Type} (group : Group ω κ ε α β) : Grouping ω κ ε α β
  | more {α β γ : Type} (first : Grouping ω κ ε α β) (group : Group ω κ ε β γ) :
    Grouping ω κ ε α γ

namespace Grouping

/-- All the functions, in their order. -/
def functions {α β : Type} : Grouping ω κ ε α β → Functions ω κ ε α β
  | .whole group => group.functions
  | .more first group => first.functions.append group.functions

/-- Let a deferred value go through the groups. -/
def run {α β : Type} (type : FailureType ω κ ε) :
    Grouping ω κ ε α β → Deferred ε α → Run ω κ (Deferred ε β)
  | .whole group, deferred => deferred.bind type (group.call type)
  | .more first group, deferred => do (← first.run type deferred).bind type (group.call type)

/-- How often a failure is passed on. -/
def passings {α β : Type} : Grouping ω κ ε α β → Nat → Nat
  | .whole group => onward (fun _ => 0) group.passings group.functions.length
  | .more first group => onward first.passings group.passings group.functions.length

/-- So does a grouping. -/
theorem faithful {α β : Type} (grouping : Grouping ω κ ε α β) : Faithful grouping.passings := by
  cases grouping with
  | whole group => exact group.faithful.onward group.functions.length_pos
  | more first group => exact group.faithful.onward group.functions.length_pos

end Grouping

/-- The functions are called in a row, from a deferred value and up to the first failure. Nothing
happens after that, but that a failure is passed on if functions were left to call. -/
def Functions.Calls (functions : Functions ω κ ε α β) (type : FailureType ω κ ε)
    (deferred : Deferred ε α) (act : Run ω κ (Deferred ε β)) : Prop :=
  ∃ passings, Faithful passings ∧ act = functions.goOn (.start deferred) >>= type.passOn passings

section

variable {type : FailureType ω κ ε}

/-- To go on with a group from what was handed out is to go on with its functions, where a failure
that was handed out is passed on once more. -/
theorem FailureType.passOn_bind {group : Group ω κ ε β γ}
    (hcall : ∀ b, group.call type b = group.functions.follow b >>= type.passOn group.passings)
    (passings : Nat → Nat) (followed : Followed ε β) :
    (type.passOn passings followed >>= fun deferred => deferred.bind type (group.call type)) =
      group.functions.goOn followed >>=
        type.passOn (onward passings group.passings group.functions.length) := by
  cases followed with
  | value b =>
    simp only [passOn, pure_bind, Deferred.bind, Functions.goOn, hcall]
    refine Act.bind_congr_of_yields (group.functions.left_lt_length b) fun later hlater => ?_
    cases later with
    | value c => rfl
    | failure e left => simp only [passOn, onward, if_pos (show left < _ from hlater)]
  | failure e left =>
    have honward : onward passings group.passings group.functions.length
        (left + group.functions.length) = passings left + 1 := by
      rw [onward, if_neg (by omega), Nat.add_sub_cancel]
    simp only [passOn, bind_assoc, pure_bind, Deferred.bind, defer, Functions.goOn, honward,
      reassertTimes]

/-- A group calls its functions in a row. -/
theorem Group.call_eq {α β : Type} (group : Group ω κ ε α β) (a : α) :
    group.call type a = group.functions.follow a >>= type.passOn group.passings := by
  induction group with
  | single f =>
    simp only [call, functions, Functions.follow, bind_assoc, pure_bind]
    calc f a = f a >>= pure := (bind_pure _).symm
      _ = f a >>= fun result => type.passOn (Group.single f).passings (.start result) := by
        refine bind_congr fun result => ?_
        cases result <;> rfl
  | both first second hfirst hsecond =>
    rw [call, hfirst a, bind_assoc]
    simp only [FailureType.passOn_bind hsecond]
    rw [functions, Functions.follow_append, bind_assoc]
    rfl

/-- A grouping calls its functions in a row. -/
theorem Grouping.run_eq {α β : Type} (grouping : Grouping ω κ ε α β) (deferred : Deferred ε α) :
    grouping.run type deferred =
      grouping.functions.goOn (.start deferred) >>= type.passOn grouping.passings := by
  induction grouping with
  | whole group =>
    have hstart : type.passOn (fun _ => 0) (.start deferred) = pure deferred := by
      cases deferred <;> rfl
    rw [run, functions, passings, ← FailureType.passOn_bind group.call_eq, hstart, pure_bind]
  | more first group ih =>
    rw [run, ih, bind_assoc]
    simp only [FailureType.passOn_bind group.call_eq]
    rw [functions, Functions.goOn_append, bind_assoc]
    rfl

/-- A grouping calls its functions in a row and passes on what they fail with. -/
theorem Grouping.calls (grouping : Grouping ω κ ε α β) (type : FailureType ω κ ε)
    (deferred : Deferred ε α) :
    grouping.functions.Calls type deferred (grouping.run type deferred) :=
  ⟨grouping.passings, grouping.faithful, grouping.run_eq deferred⟩

end

/-! ### Storing a failure once more -/

/-- Two computations end in the same way, wherever they are started, and leave every token with the
same flag. -/
def Run.EndsAlike (first second : Run ω κ α) : Prop :=
  ∀ world, (first world).1 = (second world).1 ∧
    (first world).2.cancelled = (second world).2.cancelled

/-- To make an effect twice leaves the flags as they are after the first time. -/
theorem Effect.flags_flags (effect : Effect) (cancelled : Token → Bool) :
    effect.flags (effect.flags cancelled) = effect.flags cancelled := by
  funext token
  simp only [flags]
  cases effect.written token <;> rfl

namespace FailureType

/-- What a look-up of the cancellation comes to, be it a panic, and what it writes to tokens, is
settled by the failure: it is the same whenever the failure is looked at. -/
structure Settled (type : FailureType ω κ ε) (failure : ε) : Prop where
  exit : ∃ look, ∀ world, (type.cancellation failure world).1 = look
  writes : ∃ effect : Effect, ∀ world,
    (type.cancellation failure world).2.cancelled = effect.flags world.cancelled

variable {type : FailureType ω κ ε} {failure : ε}

/-- What asserting a settled failure comes to, and what it writes to tokens, is settled, too. -/
theorem Settled.reassert (hsettled : type.Settled failure) :
    (∃ asserted, ∀ world, (type.reassert failure world).1 = asserted) ∧
      ∃ effect : Effect, ∀ world,
        (type.reassert failure world).2.cancelled = effect.flags world.cancelled := by
  obtain ⟨⟨look, hlook⟩, effect, hwrites⟩ := hsettled
  have hfound (world : World ω κ) :
      type.cancellation failure world = (look, (type.cancellation failure world).2) :=
    Prod.ext (hlook world) rfl
  rcases look with (_ | token) | alarm | _
  case done.none =>
    refine ⟨⟨.done (), fun world => ?_⟩, effect, fun world => ?_⟩
    · rw [reassert_of_none (hfound world)]
    · rw [reassert_of_none (hfound world), hwrites]
  case done.some =>
    refine ⟨⟨.done (), fun world => ?_⟩, effect.andThen (.cancel token), fun world => ?_⟩
    · rw [reassert_of_some (hfound world)]
    · rw [reassert_of_some (hfound world), Effect.flags_andThen, ← hwrites]
      exact (Effect.turns_cancel _ token).cancelled
  case panicked =>
    have hpanics (world : World ω κ) : type.reassert failure world =
        (.panicked alarm, (type.cancellation failure world).2) :=
      Act.bind_of_panicked (hfound world) _
    refine ⟨⟨.panicked alarm, fun world => ?_⟩, effect, fun world => ?_⟩
    · rw [hpanics world]
    · rw [hpanics world, hwrites]
  case unfinished =>
    have hends (world : World ω κ) : type.reassert failure world =
        (.unfinished, (type.cancellation failure world).2) :=
      Act.bind_of_unfinished (hfound world) _
    refine ⟨⟨.unfinished, fun world => ?_⟩, effect, fun world => ?_⟩
    · rw [hends world]
    · rw [hends world, hwrites]

/-- To assert a settled failure several times is to assert it once. -/
theorem Settled.reassertTimes (hsettled : type.Settled failure) (times : Nat) :
    (type.reassertTimes failure (times + 1)).EndsAlike (type.reassert failure) := by
  obtain ⟨⟨asserted, hexit⟩, effect, hwrites⟩ := hsettled.reassert
  induction times with
  | zero => exact fun world => ⟨rfl, rfl⟩
  | succ times ih =>
    intro world
    obtain ⟨hbefore, hflags⟩ := ih world
    rw [FailureType.reassertTimes]
    rcases hstart : type.reassertTimes failure (times + 1) world with ⟨_ | alarm | _, middle⟩
    all_goals rw [hstart] at hbefore hflags
    case done =>
      rw [Act.bind_of_done hstart]
      refine ⟨(hexit middle).trans (hexit world).symm, ?_⟩
      calc (type.reassert failure middle).2.cancelled = effect.flags middle.cancelled :=
            hwrites middle
        _ = effect.flags (effect.flags world.cancelled) := by rw [← hwrites world, ← hflags]
        _ = effect.flags world.cancelled := effect.flags_flags _
        _ = (type.reassert failure world).2.cancelled := (hwrites world).symm
    case panicked =>
      rw [Act.bind_of_panicked hstart]
      exact ⟨hbefore, hflags⟩
    case unfinished =>
      rw [Act.bind_of_unfinished hstart]
      exact ⟨hbefore, hflags⟩

end FailureType

namespace Run.EndsAlike

variable {first second third : Run ω κ α}

/-- Computations end alike in either order. -/
theorem symm (h : first.EndsAlike second) : second.EndsAlike first :=
  fun world => ⟨(h world).1.symm, (h world).2.symm⟩

/-- Computations that end as a third one does end alike. -/
theorem trans (h : first.EndsAlike second) (hnext : second.EndsAlike third) :
    first.EndsAlike third :=
  fun world => ⟨(h world).1.trans (hnext world).1, (h world).2.trans (hnext world).2⟩

/-- What follows may end differently in parts that end alike. -/
theorem bind (act : Run ω κ α) {next other : α → Run ω κ β}
    (h : ∀ a, (next a).EndsAlike (other a)) :
    (act >>= next).EndsAlike (act >>= other) := by
  intro world
  rcases hstart : act world with ⟨a | alarm | _, after⟩
  · rw [Act.bind_of_done hstart, Act.bind_of_done hstart]
    exact h a after
  · rw [Act.bind_of_panicked hstart, Act.bind_of_panicked hstart]
    exact ⟨rfl, rfl⟩
  · rw [Act.bind_of_unfinished hstart, Act.bind_of_unfinished hstart]
    exact ⟨rfl, rfl⟩

/-- What comes after parts that end alike does the same in both, if it does nothing to tokens. -/
theorem andThen {first second : Run ω κ α} (h : first.EndsAlike second) (f : α → β) :
    (first >>= fun a => pure (f a)).EndsAlike (second >>= fun a => pure (f a)) := by
  intro world
  obtain ⟨hexit, hflags⟩ := h world
  rw [Act.after_bind_pure, Act.after_bind_pure]
  refine ⟨?_, hflags⟩
  rw [Act.bind_apply, Act.bind_apply]
  generalize first world = ended at hexit
  generalize second world = stopped at hexit
  obtain ⟨exit, after⟩ := ended
  obtain ⟨answer, rest⟩ := stopped
  subst hexit
  rcases exit with a | alarm | _ <;> rfl

end Run.EndsAlike

section

variable {type : FailureType ω κ ε}

/-- Passed on several times, a settled failure comes to what it comes to when it is passed on once.
-/
theorem FailureType.passOn_endsAlike (hsettled : ∀ failure, type.Settled failure)
    {passings other : Nat → Nat} (hpassings : Faithful passings) (hother : Faithful other)
    (followed : Followed ε α) :
    (type.passOn passings followed).EndsAlike (type.passOn other followed) := by
  cases followed with
  | value a => exact fun world => ⟨rfl, rfl⟩
  | failure e left =>
    have honce (times : Nat → Nat) (htimes : Faithful times) (hleft : left ≠ 0) :
        (type.passOn times (.failure e left) : Run ω κ (Deferred ε α)).EndsAlike
          (type.reassert e >>= fun _ => pure (.failure e)) := by
      obtain ⟨more, hmore⟩ := Nat.exists_eq_succ_of_ne_zero (mt (htimes left).1 hleft)
      rw [passOn, hmore]
      exact ((hsettled e).reassertTimes more).andThen _
    by_cases hleft : left = 0
    · rw [passOn, passOn, (hpassings left).2 hleft, (hother left).2 hleft]
      exact fun world => ⟨rfl, rfl⟩
    · exact (honce passings hpassings hleft).trans (honce other hother hleft).symm

/-- Whatever calls the same functions in a row from the same deferred value ends alike. -/
theorem Functions.Calls.endsAlike (hsettled : ∀ failure, type.Settled failure)
    {functions : Functions ω κ ε α β} {deferred : Deferred ε α}
    {first second : Run ω κ (Deferred ε β)} (hfirst : functions.Calls type deferred first)
    (hsecond : functions.Calls type deferred second) : first.EndsAlike second := by
  obtain ⟨passings, hpassings, rfl⟩ := hfirst
  obtain ⟨other, hother, rfl⟩ := hsecond
  exact .bind _ fun followed => FailureType.passOn_endsAlike hsettled hpassings hother followed

end

/-! ### Maps in a row -/

/-- Functions that cannot fail, each of which goes on from the values of the one before. -/
inductive Maps (ω κ : Type) : Type → Type → Type 1 where
  | last {α β : Type} (f : α → Run ω κ β) : Maps ω κ α β
  | cons {α β γ : Type} (f : α → Run ω κ β) (rest : Maps ω κ β γ) : Maps ω κ α γ

/-- A function that cannot fail as one that may. -/
def Deferred.lift (ε : Type) (f : α → Run ω κ β) (a : α) : Run ω κ (Deferred ε β) := do
  return .value (← f a)

namespace Maps

/-- Map a deferred value with each of the functions. -/
def each {α β : Type} (type : FailureType ω κ ε) :
    Maps ω κ α β → Deferred ε α → Run ω κ (Deferred ε β)
  | .last f, deferred => deferred.map type f
  | .cons f rest, deferred => do rest.each type (← deferred.map type f)

/-- The composition of the functions. -/
def composed {α β : Type} : Maps ω κ α β → α → Run ω κ β
  | .last f, a => f a
  | .cons f rest, a => do rest.composed (← f a)

/-- The functions as ones that may fail. -/
def lifted (ε : Type) {α β : Type} : Maps ω κ α β → Functions ω κ ε α β
  | .last f => .last (Deferred.lift ε f)
  | .cons f rest => .cons (Deferred.lift ε f) (rest.lifted ε)

/-- The functions as a group of which the composition is called. -/
def group (ε : Type) {α β : Type} : Maps ω κ α β → Group ω κ ε α β
  | .last f => .single (Deferred.lift ε f)
  | .cons f rest => .both (.single (Deferred.lift ε f)) (rest.group ε)

/-- The functions one by one behind a grouping. -/
def behind {α β γ : Type} (grouping : Grouping ω κ ε α β) : Maps ω κ β γ → Grouping ω κ ε α γ
  | .last f => .more grouping (.single (Deferred.lift ε f))
  | .cons f rest => rest.behind (.more grouping (.single (Deferred.lift ε f)))

end Maps

namespace Deferred

/-- To map is to go on with the function as one that may fail. -/
theorem map_eq_bind (type : FailureType ω κ ε) (f : α → Run ω κ β) (deferred : Deferred ε α) :
    deferred.map type f = deferred.bind type (lift ε f) := by
  cases deferred <;> rfl

end Deferred

namespace Maps

variable {type : FailureType ω κ ε}

/-- The functions of a group of maps are the maps, each into a value. -/
theorem functions_group {α β : Type} (maps : Maps ω κ α β) :
    (maps.group ε).functions = maps.lifted ε := by
  induction maps with
  | last f => rfl
  | cons f rest ih => exact congrArg (Functions.cons _) ih

/-- Maps behind a grouping are called behind its functions. -/
theorem functions_behind {α β γ : Type} (maps : Maps ω κ β γ) (grouping : Grouping ω κ ε α β) :
    (maps.behind grouping).functions = grouping.functions.append (maps.lifted ε) := by
  induction maps with
  | last f => rfl
  | cons f rest ih =>
    rw [behind, ih, Grouping.functions, Functions.append_assoc]
    rfl

/-- To run a grouping with maps behind it is to run the grouping and then the maps. -/
theorem run_behind {α β γ : Type} (maps : Maps ω κ β γ) (grouping : Grouping ω κ ε α β)
    (deferred : Deferred ε α) :
    (maps.behind grouping).run type deferred = grouping.run type deferred >>= maps.each type := by
  induction maps with
  | last f =>
    refine bind_congr fun middle => ?_
    exact (middle.map_eq_bind type f).symm
  | cons f rest ih =>
    rw [behind, ih, Grouping.run, bind_assoc]
    refine bind_congr fun middle => ?_
    rw [each, middle.map_eq_bind]
    rfl

/-- To call the group is to call the composition. -/
theorem call_group {α β : Type} (maps : Maps ω κ α β) :
    (maps.group ε).call type = Deferred.lift ε maps.composed := by
  funext a
  induction maps with
  | last f => rfl
  | cons f rest ih =>
    simp only [group, Group.call, Deferred.lift, composed, bind_assoc, pure_bind, Deferred.bind]
    refine bind_congr fun b => ?_
    exact ih b

/-- Mapping with each function calls the functions in a row. -/
theorem each_calls {α β : Type} (maps : Maps ω κ α β) (deferred : Deferred ε α) :
    (maps.lifted ε).Calls type deferred (maps.each type deferred) := by
  cases maps with
  | last f =>
    have hcalls := (Grouping.whole (.single (Deferred.lift ε f))).calls type deferred
    rw [Grouping.run] at hcalls
    rw [each, deferred.map_eq_bind]
    exact hcalls
  | cons f rest =>
    let first := Grouping.whole (.single (Deferred.lift ε f))
    have hcalls := (rest.behind first).calls type deferred
    rw [functions_behind, run_behind] at hcalls
    rw [each, deferred.map_eq_bind]
    exact hcalls

/-- Mapping with the composition calls the functions in a row. -/
theorem composed_calls {α β : Type} (maps : Maps ω κ α β) (deferred : Deferred ε α) :
    (maps.lifted ε).Calls type deferred (deferred.map type maps.composed) := by
  have hcalls := (Grouping.whole (maps.group ε)).calls type deferred
  rw [Grouping.functions, functions_group, Grouping.run, call_group,
    ← deferred.map_eq_bind] at hcalls
  exact hcalls

end Maps

/-! ### The laws -/

namespace FailureType

/-- The world after a failure has been stored, given what its look-up came to and where that ended:
the token, if there is one, is cancelled, and that is logged. -/
def asserted (type : FailureType ω κ ε) : Option Token → World ω κ → World ω κ
  | none, world => world
  | some token, world => (world.setFlag token true).push (.notice (.asserted type.name))

/-- Storing a failure does no more than its look-up does, and asserts the token. -/
theorem defer_of_done {type : FailureType ω κ ε} {failure : ε} {reported : Option Token}
    {world after : World ω κ} (hfound : type.cancellation failure world = (.done reported, after)) :
    (type.defer failure : Run ω κ (Deferred ε α)) world =
      (.done (.failure failure), type.asserted reported after) := by
  cases reported with
  | none =>
    rw [defer, Act.bind_of_done (reassert_of_none hfound)]
    rfl
  | some token =>
    rw [defer, Act.bind_of_done (reassert_of_some hfound)]
    rfl

/-- What may be regrouped in chains of functions on deferred values, and what does not change. -/
structure Regroups (type : FailureType ω κ ε) : Prop where
  /-- However they are grouped, functions are called in a row and up to the first failure, and
  nothing else happens but that a failure is passed on. -/
  calls : ∀ {α β : Type} (grouping : Grouping ω κ ε α β) (deferred : Deferred ε α),
    grouping.functions.Calls type deferred (grouping.run type deferred)
  /-- Two groupings of the same functions come to the same deferred value or to the same panic, with
  the same tokens cancelled. -/
  regroup : ∀ {α β : Type} (first second : Grouping ω κ ε α β),
    first.functions = second.functions → ∀ deferred,
      (first.run type deferred).EndsAlike (second.run type deferred)
  /-- To go on from a value is to call the function. -/
  value_bind : ∀ {α β : Type} (f : α → Run ω κ (Deferred ε β)) (a : α),
    (Deferred.value a).bind type f = f a
  /-- To map is to go on with the values of the function, down to what is logged. -/
  map_bind : ∀ {α β : Type} (f : α → Run ω κ β) (deferred : Deferred ε α),
    deferred.map type f = deferred.bind type fun a => do return .value (← f a)
  /-- Maps in a row and the map with their composition call the functions in a row. -/
  maps_call : ∀ {α β : Type} (maps : Maps ω κ α β) (deferred : Deferred ε α),
    (maps.lifted ε).Calls type deferred (maps.each type deferred) ∧
      (maps.lifted ε).Calls type deferred (deferred.map type maps.composed)
  /-- They come to the same deferred value or to the same panic, with the same tokens cancelled. -/
  maps_fuse : ∀ {α β : Type} (maps : Maps ω κ α β) (deferred : Deferred ε α),
    (maps.each type deferred).EndsAlike (deferred.map type maps.composed)
  /-- A value that only passes through comes out in the same world. -/
  value_unit : ∀ {α : Type} (a : α) (world : World ω κ),
    (Deferred.value a).bind type (fun a => pure (.value a)) world = (.done (.value a), world) ∧
      (Deferred.value a).map type pure world = (.done (.value a), world)
  /-- A failure that only passes through, and whose look-up returns, comes out unchanged; the token
  that it reports, if it reports one, is cancelled, and that is logged. -/
  failure_unit : ∀ {α : Type} (e : ε) (world after : World ω κ) (reported : Option Token),
    type.cancellation e world = (.done reported, after) →
      (Deferred.failure e : Deferred ε α).bind type (fun a => pure (.value a)) world =
          (.done (.failure e), type.asserted reported after) ∧
        (Deferred.failure e : Deferred ε α).map type pure world =
          (.done (.failure e), type.asserted reported after)

/-- Chains of functions on deferred values can be regrouped, for every deferred value, also for one
with a failure that reports a token or panics when it is looked up, and for all functions, whatever
they do to tokens: neither what the chain comes to, nor the calls and their order, nor the tokens
depend on how it is put in parentheses. -/
theorem chains_regroup (type : FailureType ω κ ε) (hsettled : ∀ failure, type.Settled failure) :
    type.Regroups where
  calls grouping deferred := grouping.calls type deferred
  regroup first second hsame deferred := by
    have hfirst := first.calls type deferred
    rw [hsame] at hfirst
    exact hfirst.endsAlike hsettled (second.calls type deferred)
  value_bind f a := rfl
  map_bind f deferred := deferred.map_eq_bind type f
  maps_call maps deferred := ⟨maps.each_calls deferred, maps.composed_calls deferred⟩
  maps_fuse maps deferred :=
    (maps.each_calls deferred).endsAlike hsettled (maps.composed_calls deferred)
  value_unit a world := ⟨rfl, rfl⟩
  failure_unit e world after reported hfound := ⟨defer_of_done hfound, defer_of_done hfound⟩

end FailureType

/-! ### Failures of scripts -/

namespace Script

/-- What a look-up of the failures of any kind comes to is settled, also where it panics. -/
theorem Kind.settled (kind : Kind) (failure : Fault) : kind.failureType.Settled failure where
  exit := by cases failure <;> exact ⟨_, fun _ => rfl⟩
  writes := by cases failure <;> exact ⟨.nothing, fun _ => rfl⟩

/-- A value goes through a function that clears a token, and one that fails with a failure that
reports the token. The failure is then passed on to a third function twice, or only once. -/
theorem Kind.chains_regroup_halt :
    let type := Kind.halt.failureType
    let token : Token := ⟨1⟩
    let clear : Int → ScriptRun (Deferred Fault Int) := fun n => do
      let _ ← token.clear
      return .value (n + 1)
    let fail : Int → ScriptRun (Deferred Fault Int) := fun _ =>
      pure (.failure (.halt (some token) "late" 0 .empty))
    let spell : Int → ScriptRun (Deferred Fault String) := fun n => pure (.value (toString n))
    let count : String → ScriptRun (Deferred Fault Nat) := fun text => pure (.value text.length)
    let onByOne : Grouping Event Calls Fault Int Nat :=
      .more (.more (.more (.whole (.single clear)) (.single fail)) (.single spell)) (.single count)
    let nested : Grouping Event Calls Fault Int Nat :=
      .whole (.both (.single clear) (.both (.single fail) (.both (.single spell) (.single count))))
    (∀ failure, type.Settled failure) ∧ onByOne.functions = nested.functions ∧
      (onByOne.run type (.value 3)).EndsAlike (nested.run type (.value 3)) := by
  intro type token clear fail spell count onByOne nested
  exact ⟨Kind.halt.settled, rfl,
    (type.chains_regroup Kind.halt.settled).regroup onByOne nested rfl (.value 3)⟩

end Script

end Deferral
