import Deferral.Proofs.Pipeline.Feed

/-!
# Nested sequences in a loop

A loop over a flat map is a loop over its source whose body is a loop over each piece. The pieces
are read one element at a time, and between two elements the loop goes through its whole body, so
that the two sides take different numbers of steps; each is within the other when it is allowed
enough of them.
-/

namespace Deferral

variable {σ τ υ ι ε ρ δ α β γ : Type}

namespace Act

/-- Run a computation with a state of its own, which is handed out beside the result. -/
def held (state : ι) (act : Act (ι × σ) α) : Act σ (α × ι) := fun world =>
  match act (state, world) with
  | (.done a, state, world) => (.done (a, state), world)
  | (.panicked alarm, _, world) => (.panicked alarm, world)
  | (.unfinished, _, world) => (.unfinished, world)

/-- Run a computation over a larger state: enter it with the state at hand, and leave it again with
the part that is of interest. -/
def through (enter : τ → υ) (leave : υ → τ) (act : Act (υ × σ) α) : Act (τ × σ) α :=
  fun (state, world) =>
    let (exit, state, world) := act (enter state, world)
    (exit, leave state, world)

/-- Seen through another state, a computation is within another if it is so as it stands. -/
theorem Within.through {first second : Act (υ × σ) α} (h : first.Within second) (enter : τ → υ)
    (leave : υ → τ) : (first.through enter leave).Within (second.through enter leave) := by
  rintro ⟨state, world⟩ hends
  simp only [Act.through, h (enter state, world) hends]

/-- To return a value with a state of one's own is to return it. -/
@[simp] theorem locally_pure (a : α) (state : ι) :
    (pure a : Act (ι × σ) α).locally state = pure a := rfl

/-- A sequence with a state of its own hands the state on from its first part to its second. -/
theorem locally_bind (act : Act (ι × σ) α) (next : α → Act (ι × σ) β) (state : ι) :
    (act >>= next).locally state =
      act.held state >>= fun result => (next result.1).locally result.2 := by
  refine ext fun world => ?_
  rw [bind_apply, locally, held, bind_apply]
  rcases act (state, world) with ⟨a | alarm | _, state, after⟩ <;> rfl

/-- What is done beside a state of its own does not need the state. -/
theorem locally_beside_bind (act : Act σ α) (next : α → Act (ι × σ) β) (state : ι) :
    (act.beside >>= next).locally state = act >>= fun a => (next a).locally state := by
  refine ext fun world => ?_
  rw [bind_apply, locally, bind_apply, beside]
  rcases act world with ⟨a | alarm | _, after⟩ <;> rfl

end Act

namespace Iter

variable {iter : Iter σ τ α} {f : α → Act σ ι} {inner : Iter σ ι β}
  {body : ρ → β → Act σ (Except δ ρ)}

/-- Without a piece, a flat map asks its source. -/
theorem flatMap_step_none (source : τ) (world : σ) :
    (iter.flatMap f inner).step (⟨source, false, none⟩, world) =
      match iter.step (source, world) with
      | (.done (.yield element), source, world) =>
        match f element world with
        | (.done piece, world) => (.done .skip, ⟨source, false, some piece⟩, world)
        | (.panicked alarm, world) => (.panicked alarm, ⟨source, false, none⟩, world)
        | (.unfinished, world) => (.unfinished, ⟨source, false, none⟩, world)
      | (.done .skip, source, world) => (.done .skip, ⟨source, false, none⟩, world)
      | (.done .finish, source, world) => (.done .finish, ⟨source, true, none⟩, world)
      | (.panicked alarm, source, world) => (.panicked alarm, ⟨source, false, none⟩, world)
      | (.unfinished, source, world) => (.unfinished, ⟨source, false, none⟩, world) := by
  change (Flat.onSource iter.step >>= _) (⟨source, false, none⟩, world) = _
  rw [Act.bind_apply, Flat.onSource]
  rcases iter.step (source, world) with ⟨(element | _ | _) | alarm | _, source, after⟩
  case done.yield =>
    dsimp only
    rw [Act.bind_apply, Act.beside]
    dsimp only
    rcases f element after with ⟨piece | alarm | _, last⟩ <;> rfl
  all_goals rfl

/-- With a piece, a flat map reads it, and drops it at its end. -/
theorem flatMap_step_some (source : τ) (piece : ι) (world : σ) :
    (iter.flatMap f inner).step (⟨source, false, some piece⟩, world) =
      match inner.step (piece, world) with
      | (.done (.yield element), piece, world) =>
        (.done (.yield element), ⟨source, false, some piece⟩, world)
      | (.done .skip, piece, world) => (.done .skip, ⟨source, false, some piece⟩, world)
      | (.done .finish, _, world) => (.done .skip, ⟨source, false, none⟩, world)
      | (.panicked alarm, piece, world) => (.panicked alarm, ⟨source, false, some piece⟩, world)
      | (.unfinished, piece, world) => (.unfinished, ⟨source, false, some piece⟩, world) := by
  change (Flat.onPiece piece inner.step >>= _) (⟨source, false, some piece⟩, world) = _
  rw [Act.bind_apply, Flat.onPiece]
  rcases inner.step (piece, world) with ⟨(element | _ | _) | alarm | _, piece, after⟩ <;> rfl

/-- A loop over a flat map that is about to read `piece`, seen from the source. -/
def feedFrom (iter : Iter σ τ α) (f : α → Act σ ι) (inner : Iter σ ι β)
    (body : ρ → β → Act σ (Except δ ρ)) (piece : Option ι) (steps : Nat) (kept : ρ) :
    Act (τ × σ) (Except δ ρ) :=
  ((iter.flatMap f inner).feed body steps kept).through (⟨·, false, piece⟩) Flat.source

/-- Without a piece, a step of the loop is one of the source. -/
theorem feedFrom_none (steps : Nat) (kept : ρ) :
    iter.feedFrom f inner body none (steps + 1) kept = (do
      match ← iter.step with
      | .yield element =>
        let piece ← (f element).beside
        iter.feedFrom f inner body (some piece) steps kept
      | .skip => iter.feedFrom f inner body none steps kept
      | .finish => pure (.ok kept)) := by
  refine Act.ext fun (source, world) => ?_
  rw [feedFrom, Act.through, feed_succ, flatMap_step_none, Act.bind_apply]
  rcases iter.step (source, world) with ⟨(element | _ | _) | alarm | _, source, after⟩
  case done.yield =>
    dsimp only
    rw [Act.bind_apply, Act.beside]
    dsimp only
    rcases f element after with ⟨piece | alarm | _, last⟩ <;> rfl
  all_goals rfl

/-- With a piece, a step of the loop is one of the piece, and its body follows at once. -/
theorem feedFrom_some (piece : ι) (steps : Nat) (kept : ρ) :
    iter.feedFrom f inner body (some piece) (steps + 1) kept = (do
      match ← (inner.step.held piece).beside with
      | (.yield element, piece) =>
        match ← (body kept element).beside with
        | .ok kept => iter.feedFrom f inner body (some piece) steps kept
        | .error stop => pure (.error stop)
      | (.skip, piece) => iter.feedFrom f inner body (some piece) steps kept
      | (.finish, _) => iter.feedFrom f inner body none steps kept) := by
  refine Act.ext fun (source, world) => ?_
  rw [feedFrom, Act.through, feed_succ, flatMap_step_some, Act.bind_apply, Act.beside, Act.held]
  rcases inner.step (piece, world) with ⟨(element | _ | _) | alarm | _, piece, after⟩
  case done.yield =>
    dsimp only
    rw [Act.bind_apply, Act.beside]
    dsimp only
    rcases body kept element after with ⟨(stop | kept) | alarm | _, last⟩ <;> rfl
  all_goals rfl

/-- More steps do not change how a loop over a flat map ends. -/
theorem feedFrom_within {steps more : Nat} (hle : steps ≤ more) (piece : Option ι) (kept : ρ) :
    (iter.feedFrom f inner body piece steps kept).Within
      (iter.feedFrom f inner body piece more kept) :=
  (feed_within (fun _ _ => .refl _) hle kept).through _ _

/-- Loop over a piece up to its end, and go on with `next` unless the loop is stopped. -/
def readThen (inner : Iter σ ι β) (body : ρ → β → Act σ (Except δ ρ)) (steps : Nat) (piece : ι)
    (next : ρ → Act (τ × σ) (Except δ ρ)) (kept : ρ) : Act (τ × σ) (Except δ ρ) := do
  match ← ((inner.feed body steps kept).locally piece).beside with
  | .ok kept => next kept
  | .error stop => pure (.error stop)

/-- One step of a loop over a piece. -/
theorem readThen_succ (steps : Nat) (piece : ι) (next : ρ → Act (τ × σ) (Except δ ρ)) (kept : ρ) :
    inner.readThen body (steps + 1) piece next kept = (do
      match ← (inner.step.held piece).beside with
      | (.yield element, piece) =>
        match ← (body kept element).beside with
        | .ok kept => inner.readThen body steps piece next kept
        | .error stop => pure (.error stop)
      | (.skip, piece) => inner.readThen body steps piece next kept
      | (.finish, _) => next kept) := by
  rw [readThen, feed, Act.locally_bind, Act.beside_bind, bind_assoc]
  refine bind_congr fun result => ?_
  obtain ⟨step, piece⟩ := result
  cases step with
  | yield element =>
    simp only [Act.locally_beside_bind, Act.beside_bind, bind_assoc]
    refine bind_congr fun kept => ?_
    cases kept with
    | ok kept => rfl
    | error stop => simp only [Act.locally_pure, Act.beside_pure, pure_bind]
  | skip => rfl
  | finish => simp only [Act.locally_pure, Act.beside_pure, pure_bind]

/-- More steps, in a piece or after it, do not change how reading it ends. -/
theorem readThen_within {steps more : Nat} {next other : ρ → Act (τ × σ) (Except δ ρ)}
    (hle : steps ≤ more) (hnext : ∀ kept, (next kept).Within (other kept)) (piece : ι) (kept : ρ) :
    (inner.readThen body steps piece next kept).Within
      (inner.readThen body more piece other kept) := by
  have hpiece : (inner.feed body steps kept).Within (inner.feed body more kept) :=
    feed_within (fun _ _ => .refl _) hle kept
  refine (hpiece.locally piece).beside.bind ?_
  rintro (stop | kept)
  · exact .refl _
  · exact hnext kept

/-- The body of the loop over the source of a flat map: make a piece and loop over it. -/
def pieceBody (f : α → Act σ ι) (inner : Iter σ ι β) (body : ρ → β → Act σ (Except δ ρ))
    (steps : Nat) (kept : ρ) (element : α) : Act σ (Except δ ρ) := do
  let piece ← f element
  (inner.feed body steps kept).locally piece

/-- An element of the source is made a piece and read before the source goes on. -/
theorem pieceBody_then (steps : Nat) (next : ρ → Act (τ × σ) (Except δ ρ)) (kept : ρ)
    (element : α) :
    (do
      match ← (pieceBody f inner body steps kept element).beside with
      | .ok kept => next kept
      | .error stop => pure (.error stop)) = (do
      let piece ← (f element).beside
      inner.readThen body steps piece next kept) := by
  rw [pieceBody, Act.beside_bind, bind_assoc]
  rfl

/-- A loop over a flat map ends as the loop over its source does, if it ends; when it is about to
read a piece, that piece is read first. The pieces are allowed `more` steps, as many as the whole
loop. -/
theorem feedFrom_within_feed {steps more : Nat} (hle : steps ≤ more) (kept : ρ) :
    (iter.feedFrom f inner body none steps kept).Within
      (iter.feed (pieceBody f inner body more) steps kept) ∧
    ∀ piece enough, steps ≤ enough → (iter.feedFrom f inner body (some piece) steps kept).Within
      (inner.readThen body enough piece (iter.feed (pieceBody f inner body more) steps) kept) := by
  -- A step of the flat map is one of the source or one of the piece being read, and either may lead
  -- to the other, so both halves are proved in one induction.
  induction steps generalizing kept with
  | zero => exact ⟨.giveUp _, fun _ _ _ => .giveUp _⟩
  | succ steps ih =>
    have hless : steps ≤ more := Nat.le_of_succ_le hle
    have hmore : ∀ kept, (iter.feed (pieceBody f inner body more) steps kept).Within
        (iter.feed (pieceBody f inner body more) (steps + 1) kept) :=
      fun kept => feed_within (fun _ _ => .refl _) (Nat.le_succ steps) kept
    refine ⟨?_, fun piece enough henough => ?_⟩
    · rw [feedFrom_none, feed]
      refine (Act.Within.refl _).bind fun step => ?_
      cases step with
      | yield element =>
        refine .trans ?_ (.of_eq (pieceBody_then more _ kept element).symm)
        exact (Act.Within.refl _).bind fun piece => (ih hless kept).2 piece more hless
      | skip => exact (ih hless kept).1
      | finish => exact .refl _
    · obtain ⟨enough, rfl⟩ := Nat.exists_eq_add_of_lt henough
      have hread : ∀ piece kept, (iter.feedFrom f inner body (some piece) steps kept).Within
          (inner.readThen body (steps + enough) piece
            (iter.feed (pieceBody f inner body more) (steps + 1)) kept) := fun piece kept =>
        ((ih hless kept).2 piece _ (Nat.le_add_right _ _)).trans
          (readThen_within (Nat.le_refl _) hmore piece kept)
      rw [feedFrom_some, readThen_succ]
      refine (Act.Within.refl _).bind fun result => ?_
      obtain ⟨step, piece⟩ := result
      cases step with
      | yield element =>
        refine (Act.Within.refl _).bind ?_
        rintro (stop | kept)
        · exact .refl _
        · exact hread piece kept
      | skip => exact hread piece kept
      | finish => exact (ih hless kept).1.trans (hmore kept)

/-- Reading a piece and then the rest of a flat map is what the flat map does, given the steps for
both. -/
theorem readThen_within_feedFrom (enough steps : Nat) (piece : ι) (kept : ρ) :
    (inner.readThen body enough piece (iter.feedFrom f inner body none steps) kept).Within
      (iter.feedFrom f inner body (some piece) (enough + steps) kept) := by
  induction enough generalizing piece kept with
  | zero => exact .giveUp _
  | succ enough ih =>
    rw [Nat.succ_add, feedFrom_some, readThen_succ]
    refine (Act.Within.refl _).bind fun result => ?_
    obtain ⟨step, piece⟩ := result
    cases step with
    | yield element =>
      refine (Act.Within.refl _).bind ?_
      rintro (stop | kept)
      · exact .refl _
      · exact ih piece kept
    | skip => exact ih piece kept
    | finish => exact feedFrom_within (Nat.le_add_left steps enough) none kept

/-- A loop over the source whose body loops over the pieces ends as the loop over the flat map does,
which needs the steps for one piece, and one more, for each step of the source. -/
theorem feed_within_feedFrom (enough steps : Nat) (kept : ρ) :
    (iter.feed (pieceBody f inner body enough) steps kept).Within
      (iter.feedFrom f inner body none (steps * (enough + 1)) kept) := by
  -- Each step of the source is given the steps for a whole piece, whether it yields one or not.
  induction steps generalizing kept with
  | zero => exact .giveUp _
  | succ steps ih =>
    have hsteps : (steps + 1) * (enough + 1) = enough + steps * (enough + 1) + 1 := by
      rw [Nat.succ_mul]
      omega
    rw [hsteps, feedFrom_none, feed]
    refine (Act.Within.refl _).bind fun step => ?_
    cases step with
    | yield element =>
      refine .trans (.of_eq (pieceBody_then enough _ kept element)) ?_
      refine (Act.Within.refl _).bind fun piece => ?_
      exact (readThen_within (Nat.le_refl _) ih piece kept).trans
        (readThen_within_feedFrom enough _ piece kept)
    | skip => exact (ih kept).trans (feedFrom_within (Nat.le_add_left _ _) none kept)
    | finish => exact .refl _

end Iter

/-! ### Sequences that may have failed as a whole -/

namespace Spread

variable {inner : Iter σ ι β} {body : ρ → Deferred ε β → Act σ (Except δ ρ)}

/-- A step of a sequence that did not fail is a step over its elements. -/
theorem held_values (sequence : ι) :
    (iter inner : Iter σ (Spread ε ι) (Deferred ε β)).step.held (.values sequence) = (do
      let (step, sequence) ← inner.step.held sequence
      return (step.map .value, .values sequence)) := by
  refine Act.ext fun world => ?_
  rw [Act.held, iter, Act.bind_apply, Act.held]
  dsimp only
  rw [map_eq_pure_bind, Act.bind_apply]
  rcases inner.step (sequence, world) with ⟨step | alarm | _, sequence, after⟩ <;> rfl

/-- A loop over a sequence that did not fail is the loop over its elements, each as a value. -/
theorem feed_values (steps : Nat) (kept : ρ) (sequence : ι) :
    ((iter inner).feed body steps kept).locally (.values sequence) =
      (inner.feed (fun kept element => body kept (.value element)) steps kept).locally
        sequence := by
  induction steps generalizing kept sequence with
  | zero => rfl
  | succ steps ih =>
    rw [Iter.feed, Iter.feed, Act.locally_bind, Act.locally_bind, held_values, bind_assoc]
    refine bind_congr fun result => ?_
    obtain ⟨step, sequence⟩ := result
    cases step with
    | yield element =>
      simp only [pure_bind, Step.map, Act.locally_beside_bind]
      refine bind_congr fun kept => ?_
      cases kept with
      | ok kept => exact ih kept sequence
      | error stop => rfl
    | skip => exact ih kept sequence
    | finish => rfl

/-- A loop over a sequence that failed as a whole goes through its body once, with the failure. -/
theorem feed_failed (steps : Nat) (kept : ρ) (failure : ε) :
    ((iter inner).feed body (steps + 2) kept).locally (.failed (some failure)) =
      body kept (.failure failure) := by
  refine Act.ext fun world => ?_
  have hstep : (iter inner).step (.failed (some failure), world) =
      (.done (.yield (.failure failure)), .failed none, world) := rfl
  rw [Act.locally, Iter.feed_succ, hstep]
  dsimp only
  rcases body kept (.failure failure) world with ⟨(stop | kept) | alarm | _, after⟩ <;> rfl

end Spread

end Deferral
