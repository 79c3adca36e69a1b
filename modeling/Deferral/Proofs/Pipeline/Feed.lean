import Deferral.Iter.Deferred
import Deferral.Proofs.Computation

/-!
# Feeding a loop

`Iter.feed` is the loop that pulls the elements of an iterator one after the other and hands each to
a body, until the iterator ends or the body stops the loop. Gathering is such a loop. An adapter
that makes at most one element of each leaves the loop as it is and goes into the body instead.
-/

namespace Deferral

variable {ω κ σ τ ε ρ δ α β : Type}

namespace Iter

/-- Hand the elements up to the first end to `body`, which goes on with what it keeps or stops. -/
def feed (iter : Iter σ τ α) (body : ρ → α → Act σ (Except δ ρ)) :
    Nat → ρ → Act (τ × σ) (Except δ ρ)
  | 0, _ => .giveUp
  | steps + 1, kept => do
    match ← iter.step with
    | .yield element =>
      match ← (body kept element).beside with
      | .ok kept => iter.feed body steps kept
      | .error stop => pure (.error stop)
    | .skip => iter.feed body steps kept
    | .finish => pure (.ok kept)

variable {iter : Iter σ τ α} {body : ρ → α → Act σ (Except δ ρ)}

/-- One step of a loop, by the step of the iterator. -/
theorem feed_succ (iter : Iter σ τ α) (body : ρ → α → Act σ (Except δ ρ)) (steps : Nat) (kept : ρ)
    (whole : τ × σ) :
    iter.feed body (steps + 1) kept whole =
      match iter.step whole with
      | (.done (.yield element), state, world) =>
        match body kept element world with
        | (.done (.ok kept), world) => iter.feed body steps kept (state, world)
        | (.done (.error stop), world) => (.done (.error stop), state, world)
        | (.panicked alarm, world) => (.panicked alarm, state, world)
        | (.unfinished, world) => (.unfinished, state, world)
      | (.done .skip, whole) => iter.feed body steps kept whole
      | (.done .finish, whole) => (.done (.ok kept), whole)
      | (.panicked alarm, whole) => (.panicked alarm, whole)
      | (.unfinished, whole) => (.unfinished, whole) := by
  rw [feed, Act.bind_apply]
  rcases iter.step whole with ⟨(element | _ | _) | alarm | _, state, world⟩
  · dsimp only
    rw [Act.bind_apply, Act.beside]
    dsimp only
    rcases body kept element world with ⟨(stop | next) | alarm | _, after⟩ <;> rfl
  all_goals rfl

/-- A loop only sees the steps of an iterator. -/
theorem feed_congr {first second : Iter σ τ α} (hstep : first.step = second.step)
    (body : ρ → α → Act σ (Except δ ρ)) (steps : Nat) (kept : ρ) :
    first.feed body steps kept = second.feed body steps kept := by
  induction steps generalizing kept with
  | zero => rfl
  | succ steps ih => simp only [feed, hstep, ih]

/-- More steps, in the loop or in its body, do not change how a loop ends. -/
theorem feed_within {other : ρ → α → Act σ (Except δ ρ)} {steps more : Nat}
    (hbody : ∀ kept element, (body kept element).Within (other kept element)) (hle : steps ≤ more)
    (kept : ρ) : (iter.feed body steps kept).Within (iter.feed other more kept) := by
  induction steps generalizing more kept with
  | zero => exact .giveUp _
  | succ steps ih =>
    obtain ⟨more, rfl⟩ := Nat.exists_eq_add_of_lt hle
    refine (Act.Within.refl _).bind ?_
    rintro (element | _ | _)
    · refine (hbody kept element).beside.bind ?_
      rintro (stop | kept)
      · exact .refl _
      · exact ih (by omega) kept
    · exact ih (by omega) kept
    · exact .refl _

/-- Make at most one element of each. -/
def keepSome (iter : Iter σ τ α) (f : α → Act σ (Option β)) : Iter σ τ β where
  step := do
    match ← iter.step with
    | .yield element =>
      match ← (f element).beside with
      | some image => pure (.yield image)
      | none => pure .skip
    | .skip => pure .skip
    | .finish => pure .finish
  hint state := (iter.hint state).upTo

/-- An adapter that makes at most one element of each goes into the body of the loop. -/
theorem feed_keepSome (iter : Iter σ τ α) (f : α → Act σ (Option β))
    (body : ρ → β → Act σ (Except δ ρ)) (steps : Nat) (kept : ρ) :
    (iter.keepSome f).feed body steps kept =
      iter.feed (fun kept element => do
        match ← f element with
        | some image => body kept image
        | none => pure (.ok kept)) steps kept := by
  induction steps generalizing kept with
  | zero => rfl
  | succ steps ih =>
    simp only [feed, keepSome, bind_assoc]
    refine bind_congr fun step => ?_
    cases step with
    | yield element =>
      simp only [Act.beside_bind, bind_assoc]
      refine bind_congr fun image => ?_
      cases image with
      | some image => simp only [pure_bind, ← ih, keepSome]
      | none => simp only [pure_bind, Act.beside_pure, ← ih, keepSome]
    | skip => simp only [pure_bind, ← ih, keepSome]
    | finish => simp only [pure_bind]

/-- A map makes one element of each. -/
theorem map_step (iter : Iter σ τ α) (f : α → Act σ β) :
    (iter.map f).step = (iter.keepSome fun element => some <$> f element).step := by
  refine bind_congr fun step => ?_
  cases step with
  | yield element =>
    simp only [map_eq_pure_bind, Act.beside_bind, Act.beside_pure, bind_assoc, pure_bind]
  | skip => rfl
  | finish => rfl

/-- A map in a loop runs before the body. -/
theorem feed_map (iter : Iter σ τ α) (f : α → Act σ β) (body : ρ → β → Act σ (Except δ ρ))
    (steps : Nat) (kept : ρ) :
    (iter.map f).feed body steps kept =
      iter.feed (fun kept element => do body kept (← f element)) steps kept := by
  rw [feed_congr (map_step iter f), feed_keepSome]
  simp only [map_eq_pure_bind, bind_assoc, pure_bind]

/-- A filter in a loop decides whether the body is run. -/
theorem feed_filter (iter : Iter σ τ α) (test : α → Act σ Bool) (body : ρ → α → Act σ (Except δ ρ))
    (steps : Nat) (kept : ρ) :
    (iter.filter test).feed body steps kept =
      iter.feed (fun kept element => do
        if ← test element then body kept element else pure (.ok kept)) steps kept := by
  have hstep : (iter.filter test).step =
      (iter.keepSome fun element => do
        return if ← test element then some element else none).step := by
    refine bind_congr fun step => ?_
    cases step with
    | yield element =>
      simp only [Act.beside_bind, Act.beside_pure, bind_assoc, pure_bind]
      refine bind_congr fun passed => ?_
      cases passed <;> rfl
    | skip => rfl
    | finish => rfl
  have hbody : ∀ kept element, (do
      match ← (do return if ← test element then some element else none : Act σ (Option α)) with
      | some image => body kept image
      | none => pure (.ok kept)) = (do
      if ← test element then body kept element else pure (.ok kept)) := by
    intro kept element
    rw [bind_assoc]
    refine bind_congr fun passed => ?_
    cases passed <;> rfl
  rw [feed_congr hstep, feed_keepSome]
  simp only [hbody]

/-- A test of the values filters deferred values by accepting every failure. -/
theorem feed_sift (iter : Iter (World ω κ) τ (Deferred ε α)) (test : α → Run ω κ Bool)
    (body : ρ → Deferred ε α → Run ω κ (Except δ ρ)) (steps : Nat) (kept : ρ) :
    (iter.sift test).feed body steps kept =
      (iter.filter (Deferred.accepted test)).feed body steps kept := by
  refine feed_congr (bind_congr fun step => ?_) body steps kept
  rcases step with (element | failure) | _ | _ <;> rfl

/-- A handler in a loop takes the failures, and only the values come to the body. -/
theorem feed_handling (iter : Iter (World ω κ) τ (Deferred ε α)) (handler : ε → Run ω κ Unit)
    (body : ρ → α → Run ω κ (Except δ ρ)) (steps : Nat) (kept : ρ) :
    (iter.handling handler).feed body steps kept =
      iter.feed (fun kept element => do
        match ← Deferred.handling handler element with
        | some value => body kept value
        | none => pure (.ok kept)) steps kept := by
  have hstep : (iter.handling handler).step = (iter.keepSome (Deferred.handling handler)).step := by
    refine bind_congr fun step => ?_
    rcases step with (element | failure) | _ | _
    case yield.failure =>
      simp only [Deferred.handling, Act.beside_bind, Act.beside_pure, bind_assoc, pure_bind]
    all_goals rfl
  rw [feed_congr hstep, feed_keepSome]

/-- Keep a value behind those that are kept already, or stop with a failure. -/
def keepValue (kept : List α) : Deferred ε α → Act σ (Except ε (List α))
  | .value element => pure (.ok (kept ++ [element]))
  | .failure failure => pure (.error failure)

/-- What a loop has kept stands before what it gathers. -/
theorem feed_keepValue (iter : Iter σ τ (Deferred ε α)) (steps : Nat) (kept : List α) :
    iter.feed keepValue steps kept = (do
      match ← iter.gather steps with
      | .ok elements => pure (.ok (kept ++ elements))
      | .error failure => pure (.error failure)) := by
  induction steps generalizing kept with
  | zero => rfl
  | succ steps ih =>
    simp only [feed, gather, bind_assoc]
    refine bind_congr fun step => ?_
    cases step with
    | yield element =>
      cases element with
      | value element =>
        simp only [keepValue, Act.beside_pure, pure_bind, bind_assoc, ih]
        refine bind_congr fun gathered => ?_
        cases gathered with
        | ok elements => simp only [pure_bind, List.append_assoc, List.singleton_append]
        | error failure => rfl
      | failure failure => rfl
    | skip => exact ih kept
    | finish => simp only [pure_bind, List.append_nil]

/-- Gathering is the loop that keeps the values and stops at the first failure. -/
theorem gather_eq_feed (iter : Iter σ τ (Deferred ε α)) (steps : Nat) :
    iter.gather steps = iter.feed keepValue steps [] := by
  calc iter.gather steps = iter.gather steps >>= pure := (bind_pure _).symm
    _ = iter.feed keepValue steps [] := by
      rw [feed_keepValue]
      refine bind_congr fun gathered => ?_
      cases gathered <;> rfl

end Iter

end Deferral
