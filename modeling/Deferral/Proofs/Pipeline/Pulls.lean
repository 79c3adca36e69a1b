import Deferral.Proofs.Pipeline.Pieces

/-!
# Pulling a source

A pull is a call of `Iter.next` that is allowed enough steps, however many that are. It ends in only
one way. A loop takes the steps that a pull takes, and then goes on with what the pull came to, so a
loop is told by the pulls that it makes.
-/

namespace Deferral

variable {σ τ ε ρ δ α β : Type}

namespace Iter

/-- Pulled where it is at `start`, an iterator comes to `exit` and is then at `after`. -/
def Pull (iter : Iter σ τ α) (start : τ × σ) (exit : Exit (Option α)) (after : τ × σ) : Prop :=
  Act.Reaches iter.next start exit after

namespace Pull

variable {iter : Iter σ τ α} {start middle after last : τ × σ} {exit other : Exit (Option α)}

/-- A pull ends in only one way. -/
theorem unique (h : iter.Pull start exit after) (hother : iter.Pull start other last) :
    exit = other ∧ after = last :=
  Act.Reaches.unique (fun _ _ hle => iter.next_within hle) h hother

/-- A pull goes on after a step that skips. -/
theorem skip (hstep : iter.step start = (.done .skip, middle)) (h : iter.Pull middle exit after) :
    iter.Pull start exit after := by
  obtain ⟨hends, steps, hnext⟩ := h
  refine ⟨hends, steps + 1, ?_⟩
  rw [next_succ, hstep]
  exact hnext

/-- A pull comes to the element of a step. -/
theorem yield {element : α} (hstep : iter.step start = (.done (.yield element), after)) :
    iter.Pull start (.done (some element)) after := by
  refine ⟨by simp, 1, ?_⟩
  rw [next_succ, hstep]

/-- A pull comes to the end that a step reports. -/
theorem finish (hstep : iter.step start = (.done .finish, after)) :
    iter.Pull start (.done none) after := by
  refine ⟨by simp, 1, ?_⟩
  rw [next_succ, hstep]

/-- A pull panics where a step does. -/
theorem panicked {alarm : Alarm} (hstep : iter.step start = (.panicked alarm, after)) :
    iter.Pull start (.panicked alarm) after := by
  refine ⟨by simp, 1, ?_⟩
  rw [next_succ, hstep]

end Pull

/-- Go on with a loop from what a pull has come to. -/
def feedPulled (iter : Iter σ τ α) (body : ρ → α → Act σ (Except δ ρ)) (steps : Nat) (kept : ρ) :
    Exit (Option α) → Act (τ × σ) (Except δ ρ)
  | .done (some element) => do
    match ← (body kept element).beside with
    | .ok kept => iter.feed body steps kept
    | .error stop => pure (.error stop)
  | .done none => pure (.ok kept)
  | .panicked alarm => .panic alarm
  | .unfinished => .giveUp

/-- A loop makes a pull in some number of steps, and goes on from what that comes to. -/
theorem Pull.feed {iter : Iter σ τ α} {start after : τ × σ} {exit : Exit (Option α)}
    (h : iter.Pull start exit after) (body : ρ → α → Act σ (Except δ ρ)) :
    ∃ used, ∀ more kept,
      iter.feed body (used + more) kept start = iter.feedPulled body more kept exit after := by
  obtain ⟨hends, steps, hnext⟩ := h
  induction steps generalizing start with
  | zero =>
    cases hnext
    exact absurd rfl hends
  | succ steps ih =>
    rw [next_succ] at hnext
    rcases hstep : iter.step start with ⟨(element | _ | _) | alarm | _, middle⟩
    all_goals simp only [hstep] at hnext
    case done.skip =>
      obtain ⟨used, hused⟩ := ih hnext
      refine ⟨used + 1, fun more kept => ?_⟩
      rw [Nat.add_right_comm, Iter.feed, Act.bind_of_done hstep]
      exact hused more kept
    case unfinished =>
      cases hnext
      exact absurd rfl hends
    case done.yield =>
      cases hnext
      refine ⟨1, fun more kept => ?_⟩
      rw [Nat.add_comm, Iter.feed, Act.bind_of_done hstep]
      rfl
    case done.finish =>
      cases hnext
      refine ⟨1, fun more kept => ?_⟩
      rw [Nat.add_comm, Iter.feed, Act.bind_of_done hstep]
      rfl
    case panicked =>
      cases hnext
      refine ⟨1, fun more kept => ?_⟩
      rw [Nat.add_comm, Iter.feed, Act.bind_of_panicked hstep]
      rfl

/-- What a loop that stops with the first element has found. -/
def firstOf : Except α Unit → Option α
  | .ok () => none
  | .error element => some element

/-- A call of `next` is the loop that stops with the first element. -/
theorem next_eq_feed (iter : Iter σ τ α) (steps : Nat) :
    iter.next steps = (do
      return firstOf (← iter.feed (fun _ element => pure (.error element)) steps ())) := by
  induction steps with
  | zero => rfl
  | succ steps ih =>
    rw [next, feed, bind_assoc]
    refine bind_congr fun step => ?_
    cases step with
    | yield element => rfl
    | skip => exact ih
    | finish => rfl

/-- Go on with a call of `next` of an adapter from what a pull of its source has come to. -/
def nextPulled (iter : Iter σ τ α) (f : α → Act σ (Option β)) (steps : Nat) :
    Exit (Option α) → Act (τ × σ) (Option β)
  | .done (some element) => do
    match ← (f element).beside with
    | some image => pure (some image)
    | none => (iter.keepSome f).next steps
  | .done none => pure none
  | .panicked alarm => .panic alarm
  | .unfinished => .giveUp

/-- So does a call of `next` of an adapter that makes at most one element of each. -/
theorem Pull.keepSome {iter : Iter σ τ α} {start after : τ × σ} {exit : Exit (Option α)}
    (h : iter.Pull start exit after) (f : α → Act σ (Option β)) :
    ∃ used, ∀ more,
      (iter.keepSome f).next (used + more) start = iter.nextPulled f more exit after := by
  let body (kept : Unit) (element : α) : Act σ (Except β Unit) := do
    match ← f element with
    | some image => pure (.error image)
    | none => pure (.ok kept)
  have hnext (steps : Nat) : (iter.keepSome f).next steps = (do
      return firstOf (← iter.feed body steps ())) := by
    have hfeed : (iter.keepSome f).feed (fun _ image => pure (.error image)) steps () =
        iter.feed body steps () := feed_keepSome iter f _ steps ()
    rw [next_eq_feed, hfeed]
  obtain ⟨used, hused⟩ := h.feed body
  refine ⟨used, fun more => ?_⟩
  rw [hnext, Act.bind_apply, hused, ← Act.bind_apply]
  rcases exit with (_ | element) | alarm | _
  case done.some =>
    simp only [feedPulled, nextPulled, body, hnext, Act.beside_bind, bind_assoc]
    refine congrFun (bind_congr fun made => ?_) after
    cases made <;> rfl
  all_goals rfl

end Iter

end Deferral
