import Deferral.World

/-!
# What steps visibly do

Of what a step does to the world, a bystander sees which tokens it sets or clears and what it logs.
An `Effect` says just that. Effects that write different tokens may be made in either order, and the
tokens come out the same.
-/

namespace Deferral

variable {ω κ : Type}

/-- The notice in an entry of the trace. -/
def Entry.notice? : Entry ω → Option Notice
  | notice logged => some logged
  | event _ => none

/-- The notices of the library, in their order. -/
def World.notices (world : World ω κ) : List Notice := world.trace.toList.filterMap Entry.notice?

/-- A notice that is logged comes behind those before it. -/
@[simp] theorem World.notices_push_notice (world : World ω κ) (notice : Notice) :
    (world.push (.notice notice)).notices = world.notices ++ [notice] := by
  simp [World.notices, Entry.notice?]

/-- To write a flag logs nothing. -/
@[simp] theorem World.notices_setFlag (world : World ω κ) (token : Token) (flag : Bool) :
    (world.setFlag token flag).notices = world.notices := rfl

/-- What a step visibly does: what it writes to the flags of tokens, and what it logs. -/
structure Effect where
  written : Token → Option Bool
  notices : List Notice

namespace Effect

/-- Nothing is written and nothing is logged. -/
def nothing : Effect := ⟨fun _ => none, []⟩

/-- One token is set. -/
def cancel (token : Token) : Effect := ⟨fun other => if other = token then some true else none, []⟩

/-- One notice is logged. -/
def log (notice : Notice) : Effect := ⟨fun _ => none, [notice]⟩

/-- One effect after the other. -/
def andThen (first second : Effect) : Effect :=
  ⟨fun token => (second.written token).or (first.written token), first.notices ++ second.notices⟩

/-- The flags after the effect. -/
def flags (effect : Effect) (cancelled : Token → Bool) : Token → Bool :=
  fun token => (effect.written token).getD (cancelled token)

/-- The effects write no token in common. -/
def Apart (effect other : Effect) : Prop :=
  ∀ token, effect.written token = none ∨ other.written token = none

/-- The effect is what has happened, as far as a bystander can see. -/
structure Turns (effect : Effect) (world later : World ω κ) : Prop where
  cancelled : later.cancelled = effect.flags world.cancelled
  notices : later.notices = world.notices ++ effect.notices

variable {effect other : Effect} {world middle later : World ω κ}

/-- Of two effects one after the other, the second is made on the flags that the first leaves. -/
@[simp] theorem flags_andThen (first second : Effect) (cancelled : Token → Bool) :
    (first.andThen second).flags cancelled = second.flags (first.flags cancelled) := by
  funext token
  simp only [flags, andThen]
  cases second.written token <;> rfl

/-- What the first of two effects logs comes before what the second does. -/
@[simp] theorem notices_andThen (first second : Effect) :
    (first.andThen second).notices = first.notices ++ second.notices := rfl

/-- To do nothing after an effect changes nothing about it. -/
@[simp] theorem andThen_nothing (effect : Effect) : effect.andThen nothing = effect := by
  simp [andThen, nothing]

/-- To do nothing before an effect changes nothing about it. -/
@[simp] theorem nothing_andThen (effect : Effect) : nothing.andThen effect = effect := by
  simp [andThen, nothing]

/-- Of three effects one after the other, it makes no difference which two are taken together. -/
theorem andThen_assoc (first second third : Effect) :
    (first.andThen second).andThen third = first.andThen (second.andThen third) := by
  simp [andThen, Option.or_assoc]

/-- Two effects that write no token in common with another write none together. -/
theorem Apart.andThen {first second : Effect} (h : first.Apart other) (hnext : second.Apart other) :
    (first.andThen second).Apart other := by
  intro token
  rcases h token with hfirst | hother
  · rcases hnext token with hsecond | hother
    · exact .inl (by simp [Effect.andThen, hfirst, hsecond])
    · exact .inr hother
  · exact .inr hother

/-- Effects that write no token in common may be made in either order. -/
theorem Apart.flags_comm (h : effect.Apart other) (cancelled : Token → Bool) :
    effect.flags (other.flags cancelled) = other.flags (effect.flags cancelled) := by
  funext token
  rcases h token with hnone | hnone <;> simp [flags, hnone]

/-- Where nothing is done, nothing has happened. -/
theorem Turns.refl (world : World ω κ) : nothing.Turns world world :=
  ⟨rfl, (List.append_nil _).symm⟩

/-- What happened before and what happened after have happened one after the other. -/
theorem Turns.andThen (h : effect.Turns world middle) (hnext : other.Turns middle later) :
    (effect.andThen other).Turns world later where
  cancelled := by rw [hnext.cancelled, h.cancelled, flags_andThen]
  notices := by rw [hnext.notices, h.notices, List.append_assoc, notices_andThen]

/-- To set a token is to have that effect. -/
theorem turns_cancel (world : World ω κ) (token : Token) :
    (cancel token).Turns world (world.setFlag token true) where
  cancelled := by
    funext candidate
    by_cases hsame : candidate = token <;> simp [flags, cancel, hsame]
  notices := by rw [World.notices_setFlag, cancel, List.append_nil]

/-- To log a notice is to have that effect. -/
theorem turns_log (world : World ω κ) (notice : Notice) :
    (log notice).Turns world (world.push (.notice notice)) :=
  ⟨rfl, World.notices_push_notice world notice⟩

end Effect

end Deferral
