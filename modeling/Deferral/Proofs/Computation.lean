import Deferral.Act

/-!
# How computations end

A sequence ends as its second part does when the first part is done, and as its first part does
otherwise. Proofs about longer computations take them apart with these three equations.

`Act.Mirrors` compares two computations over worlds of their own: started in related worlds they end
alike, in related worlds again. `Act.Within` compares two computations that are allowed different
numbers of steps: wherever the first is finished, the second ends in the same way. Both are kept by
sequencing, so that programs are compared part by part.
-/

namespace Deferral

variable {σ τ α β γ δ : Type}

namespace Act

variable {act : Act σ α} {world after : σ}

/-- After a first part that is done, the second part goes on with its result. -/
theorem bind_of_done {a : α} (h : act world = (.done a, after)) (next : α → Act σ β) :
    (act >>= next) world = next a after := by
  rw [bind_apply, h]

/-- A panic of the first part is a panic of the whole. -/
theorem bind_of_panicked {alarm : Alarm} (h : act world = (.panicked alarm, after))
    (next : α → Act σ β) : (act >>= next) world = (.panicked alarm, after) := by
  rw [bind_apply, h]

/-- A first part that is left unfinished leaves the whole unfinished. -/
theorem bind_of_unfinished (h : act world = (.unfinished, after)) (next : α → Act σ β) :
    (act >>= next) world = (.unfinished, after) := by
  rw [bind_apply, h]

/-- A sequence that is done has gone through both its parts. -/
theorem done_of_bind {next : α → Act σ β} {b : β} (h : (act >>= next) world = (.done b, after)) :
    ∃ a middle, act world = (.done a, middle) ∧ next a middle = (.done b, after) := by
  rcases hstart : act world with ⟨a | alarm | _, middle⟩
  · rw [bind_of_done hstart] at h
    exact ⟨a, middle, rfl, h⟩
  · rw [bind_of_panicked hstart] at h
    cases h
  · rw [bind_of_unfinished hstart] at h
    cases h

/-- To turn a result into something else changes no world. -/
theorem after_bind_pure (act : Act σ α) (f : α → β) (world : σ) :
    ((act >>= fun a => pure (f a)) world).2 = (act world).2 := by
  rw [bind_apply]
  rcases act world with ⟨a | alarm | _, after⟩ <;> rfl

/-- What is done beside a state is done in the world next to it, and the state is kept. -/
theorem of_beside {exit : Exit α} {state next : τ × σ} (h : act.beside state = (exit, next)) :
    act state.2 = (exit, next.2) ∧ next.1 = state.1 := by
  cases h
  exact ⟨rfl, rfl⟩

/-- A computation comes to the same beside a state, which is kept. -/
theorem beside_eq {world after : σ} {exit : Exit α} (h : act world = (exit, after)) (kept : τ) :
    act.beside (kept, world) = (exit, kept, after) := by rw [beside, h]

/-- To return a value beside a state is to return it. -/
@[simp] theorem beside_pure (a : α) : ((pure a : Act σ α).beside : Act (τ × σ) α) = pure a := rfl

/-- Sequences beside a state are sequences of what is done beside it. -/
theorem beside_bind (act : Act σ α) (next : α → Act σ β) :
    ((act >>= next).beside : Act (τ × σ) β) = act.beside >>= fun a => (next a).beside := by
  refine ext fun (kept, world) => ?_
  rw [bind_apply, beside, beside, bind_apply]
  rcases act world with ⟨a | alarm | _, after⟩ <;> rfl

end Act

/-- How a computation has ended that comes to this once its panic is caught. -/
def Exit.ofCaught : Except Alarm α → Exit α
  | .ok a => .done a
  | .error alarm => .panicked alarm

/-- What comes of a computation whose panic is caught says how it has ended. -/
theorem Act.catchPanic_iff {act : Act σ α} {world after : σ} {caught : Except Alarm α} :
    act.catchPanic world = (.done caught, after) ↔ act world = (.ofCaught caught, after) := by
  rw [catchPanic]
  rcases act world with ⟨a | alarm | _, last⟩ <;> cases caught <;> simp [Exit.ofCaught]

/-- A sequence that returns or panics has panicked in its first part, or goes on from there. -/
theorem Act.caught_of_bind {act : Act σ α} {next : α → Act σ β} {world after : σ}
    {caught : Except Alarm β} (h : (act >>= next) world = (.ofCaught caught, after)) :
    (∃ alarm, caught = .error alarm ∧ act world = (.panicked alarm, after)) ∨
      ∃ a middle, act world = (.done a, middle) ∧ next a middle = (.ofCaught caught, after) := by
  rcases hstart : act world with ⟨a | alarm | _, middle⟩
  · rw [bind_of_done hstart] at h
    exact .inr ⟨a, middle, rfl, h⟩
  · rw [bind_of_panicked hstart] at h
    cases caught <;> cases h
    exact .inl ⟨alarm, rfl, rfl⟩
  · rw [bind_of_unfinished hstart] at h
    cases caught <;> cases h

/-- Two computations end alike: both are done, with related results, or both panic with the same
alarm, or both are left unfinished. -/
inductive Exit.Matches (results : α → β → Prop) : Exit α → Exit β → Prop where
  | done {a : α} {b : β} (h : results a b) : Matches results (.done a) (.done b)
  | panicked (alarm : Alarm) : Matches results (.panicked alarm) (.panicked alarm)
  | unfinished : Matches results .unfinished .unfinished

/-- Exits that match with equal results are equal. -/
theorem Exit.Matches.eq {first second : Exit α} (h : first.Matches Eq second) : first = second := by
  cases h with
  | done hsame => rw [hsame]
  | panicked alarm => rfl
  | unfinished => rfl

/-- Started in related worlds, two computations end alike and in related worlds. -/
def Act.Mirrors (worlds : σ → τ → Prop) (results : α → β → Prop) (first : Act σ α)
    (second : Act τ β) : Prop :=
  ∀ ⦃world other⦄, worlds world other →
    (first world).1.Matches results (second other).1 ∧ worlds (first world).2 (second other).2

/-- Every result of a computation has a property, wherever it is started. -/
def Act.Yields (made : α → Prop) (act : Act σ α) : Prop :=
  ∀ world a after, act world = (.done a, after) → made a

/-- What goes on only from results with a property may be replaced where the results have it. -/
theorem Act.bind_congr_of_yields {made : α → Prop} {act : Act σ α} {first second : α → Act σ β}
    (hyields : act.Yields made) (hnext : ∀ a, made a → first a = second a) :
    act >>= first = act >>= second := by
  refine Act.ext fun world => ?_
  rcases hstart : act world with ⟨a | alarm | _, after⟩
  · rw [bind_of_done hstart, bind_of_done hstart, hnext a (hyields world a after hstart)]
  · rw [bind_of_panicked hstart, bind_of_panicked hstart]
  · rw [bind_of_unfinished hstart, bind_of_unfinished hstart]

/-- Wherever it is started, a computation returns. -/
def Act.Returns (act : Act σ α) : Prop :=
  ∀ world, ∃ answer after, act world = (.done answer, after)

/-- Wherever it is started, a computation returns or panics. -/
def Act.Finishes (act : Act σ α) : Prop :=
  ∀ world, (act world).1 ≠ .unfinished

namespace Act.Mirrors

variable {worlds : σ → τ → Prop} {results : α → β → Prop}

/-- Values that are alike are returned on both sides. -/
theorem pure {a : α} {b : β} (h : results a b) :
    Act.Mirrors worlds results (Pure.pure a) (Pure.pure b) :=
  fun _ _ hworlds => ⟨.done h, hworlds⟩

/-- Sequences mirror each other when their parts do. -/
theorem bind {later : γ → δ → Prop} {first : Act σ α} {second : Act τ β} {next : α → Act σ γ}
    {other : β → Act τ δ} (hfirst : Act.Mirrors worlds results first second)
    (hnext : ∀ a b, results a b → Act.Mirrors worlds later (next a) (other b)) :
    Act.Mirrors worlds later (first >>= next) (second >>= other) := by
  intro world start hworlds
  obtain ⟨hexits, hafter⟩ := hfirst hworlds
  rw [Act.bind_apply, Act.bind_apply]
  generalize first world = ended at hexits hafter ⊢
  generalize second start = stopped at hexits hafter ⊢
  obtain ⟨exit, after⟩ := ended
  obtain ⟨answer, rest⟩ := stopped
  cases hexits with
  | done hresults => exact hnext _ _ hresults hafter
  | panicked alarm => exact ⟨.panicked alarm, hafter⟩
  | unfinished => exact ⟨.unfinished, hafter⟩

/-- Whatever a computation is known to come to, its results have it. -/
theorem of_yields {made : α → Prop} {first : Act σ α} {second : Act τ β}
    (hmirrors : Act.Mirrors worlds results first second) (hyields : first.Yields made) :
    Act.Mirrors worlds (fun a b => results a b ∧ made a) first second := by
  intro world start hworlds
  obtain ⟨hexits, hafter⟩ := hmirrors hworlds
  have hmade := hyields world
  generalize first world = ended at hexits hafter hmade ⊢
  generalize second start = stopped at hexits hafter ⊢
  obtain ⟨exit, after⟩ := ended
  obtain ⟨answer, rest⟩ := stopped
  refine ⟨?_, hafter⟩
  cases hexits with
  | done hresults => exact .done ⟨hresults, hmade _ _ rfl⟩
  | panicked alarm => exact .panicked alarm
  | unfinished => exact .unfinished

end Act.Mirrors

/-- Wherever the first computation is not left unfinished, the second ends in the same way. -/
def Act.Within (first second : Act σ α) : Prop :=
  ∀ world, (first world).1 ≠ .unfinished → second world = first world

namespace Act.Within

/-- A computation is within itself. -/
theorem refl (act : Act σ α) : act.Within act := fun _ _ => rfl

/-- A computation is within one that is equal to it. -/
theorem of_eq {first second : Act σ α} (h : first = second) : first.Within second :=
  fun world _ => by rw [h]

/-- What is within a computation is within what that one is within. -/
theorem trans {first second third : Act σ α} (h : first.Within second)
    (hnext : second.Within third) : first.Within third := by
  intro world hends
  have hsame := h world hends
  rw [hnext world (by rwa [hsame]), hsame]

/-- To give up is within everything. -/
theorem giveUp (act : Act σ α) : (Act.giveUp : Act σ α).Within act :=
  fun _ hends => absurd rfl hends

/-- A sequence is within another when its parts are within the other's. -/
theorem bind {first second : Act σ α} {next other : α → Act σ β} (hfirst : first.Within second)
    (hnext : ∀ a, (next a).Within (other a)) : (first >>= next).Within (second >>= other) := by
  intro world hends
  rcases hstart : first world with ⟨a | alarm | _, after⟩
  · have hsame : second world = (.done a, after) := by rw [hfirst world (by simp [hstart]), hstart]
    rw [bind_of_done hstart] at hends ⊢
    rw [bind_of_done hsame]
    exact hnext a after hends
  · have hsame : second world = (.panicked alarm, after) := by
      rw [hfirst world (by simp [hstart]), hstart]
    rw [bind_of_panicked hstart, bind_of_panicked hsame]
  · rw [bind_of_unfinished hstart] at hends
    exact absurd rfl hends

/-- A computation beside a state is within another if it is so without the state. -/
theorem beside {first second : Act σ α} (h : first.Within second) :
    (first.beside : Act (τ × σ) α).Within second.beside := by
  rintro ⟨kept, world⟩ hends
  simp only [Act.beside, h world hends]

/-- A computation with a state of its own is within another if it is so over that state. -/
theorem locally {first second : Act (τ × σ) α} (h : first.Within second) (state : τ) :
    (first.locally state).Within (second.locally state) := by
  intro world hends
  simp only [Act.locally, h (state, world) hends]

end Act.Within

end Deferral
