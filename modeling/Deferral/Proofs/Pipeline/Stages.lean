import Deferral.Proofs.Pipeline.FlatMap

/-!
# Pipelines and the loop over single items

A pipeline is lazy: its consumer asks the last stage for an element, which asks the stage before it,
and so on up to the source, and a stage that spreads sequences suspends the one it is reading. The
loop over single items takes one item of the source, pushes it, and each element it expands to,
through all the stages, and only then takes the next one. This module shows that the two end alike,
and in the same world.

The worlds include the trace and whatever the callables keep, so a pipeline that pulled, called or
tested anything in another order, once too often, or with another argument would be told apart by
callables that write down their calls. The theorem says so in so many words: it also holds of the
stages and the source under a `Watch`, which records every pull and every call with its argument.
-/

namespace Deferral

variable {ω κ σ τ ι ε ρ δ α β γ : Type}

/-! ### Computations given enough steps -/

namespace Act

/-- A computation that may be allowed any number of steps ends so when it is allowed enough. -/
def Reaches (act : Nat → Act σ α) (world : σ) (exit : Exit α) (after : σ) : Prop :=
  exit ≠ .unfinished ∧ ∃ steps, act steps world = (exit, after)

variable {first second : Nat → Act σ α} {world after last : σ} {exit other : Exit α}

/-- What is reached within some number of steps is reached by any family that goes as far. -/
theorem Reaches.mono (hwithin : ∀ steps, ∃ more, (first steps).Within (second more))
    (hreaches : Reaches first world exit after) : Reaches second world exit after := by
  obtain ⟨hends, steps, hsteps⟩ := hreaches
  obtain ⟨more, hmore⟩ := hwithin steps
  refine ⟨hends, more, ?_⟩
  rw [hmore world (by rw [hsteps]; exact hends), hsteps]

/-- A computation that more steps do not change ends in only one way. -/
theorem Reaches.unique (hmore : ∀ steps more, steps ≤ more → (first steps).Within (first more))
    (hreaches : Reaches first world exit after) (hother : Reaches first world other last) :
    exit = other ∧ after = last := by
  obtain ⟨hends, steps, hsteps⟩ := hreaches
  obtain ⟨hlast, more, hother⟩ := hother
  rcases Nat.le_total steps more with hle | hle
  · have hsame := hmore steps more hle world (by rw [hsteps]; exact hends)
    rw [hsteps, hother] at hsame
    exact (Prod.mk.inj hsame).imp Eq.symm Eq.symm
  · have hsame := hmore more steps hle world (by rw [hother]; exact hlast)
    rw [hsteps, hother] at hsame
    exact Prod.mk.inj hsame

/-- So the end that it is known to reach is the only one. -/
theorem Reaches.iff (hmore : ∀ steps more, steps ≤ more → (first steps).Within (first more))
    (hreaches : Reaches first world exit after) :
    Reaches first world other last ↔ other = exit ∧ last = after := by
  constructor
  · intro hother
    exact hother.unique hmore hreaches
  · rintro ⟨rfl, rfl⟩
    exact hreaches

/-- Allowed enough steps, two computations end alike and in the same world, or neither ends. -/
structure Agree (first second : Nat → Act σ α) : Prop where
  /-- What one of them reaches, so does the other. -/
  reaches : ∀ world exit after, Reaches first world exit after ↔ Reaches second world exit after
  /-- There is only one end for both to reach. -/
  unique : ∀ world exit after other last, Reaches first world exit after →
    Reaches second world other last → exit = other ∧ after = last

/-- Computations that are within each other, given enough steps, agree. -/
theorem Agree.of_within (hmore : ∀ steps more, steps ≤ more → (first steps).Within (first more))
    (hfirst : ∀ steps, ∃ more, (first steps).Within (second more))
    (hsecond : ∀ steps, ∃ more, (second steps).Within (first more)) : Agree first second where
  reaches _ _ _ := ⟨.mono hfirst, .mono hsecond⟩
  unique _ _ _ _ _ hreaches hother := hreaches.unique hmore (.mono hsecond hother)

end Act

/-! ### Stages -/

/-- An iterator over a source whose states are in `τ`: where it starts, given a state of the source,
and where it has left the source. -/
structure Pipeline (σ τ α : Type) where
  State : Type
  iter : Iter σ State α
  start : τ → State
  source : State → τ

/-- A stage of a pipeline, from elements in `α` to elements in `β`. -/
inductive Stage (ω κ : Type) : Type → Type → Type 1 where
  /-- Capture the failures of a function. -/
  | capture {ε α β : Type} (type : FailureType ω κ ε) (f : α → Run ω κ (Except ε β)) :
    Stage ω κ α (Deferred ε β)
  /-- Spread the sequences of a function, each over its elements or its one failure. -/
  | spread {ε ι α β : Type} (type : FailureType ω κ ε) (f : α → Run ω κ (Except ε ι))
    (inner : Iter (World ω κ) ι β) : Stage ω κ α (Deferred ε β)
  /-- Filter with a test of the values, lifted to deferred values. -/
  | filter {ε α : Type} (test : α → Run ω κ Bool) : Stage ω κ (Deferred ε α) (Deferred ε α)
  /-- Keep the values that pass a test, and every failure. -/
  | sift {ε α : Type} (test : α → Run ω κ Bool) : Stage ω κ (Deferred ε α) (Deferred ε α)
  /-- Transform the values. -/
  | map {ε α β : Type} (type : FailureType ω κ ε) (f : α → Run ω κ β) :
    Stage ω κ (Deferred ε α) (Deferred ε β)
  /-- Go on from the values with a computation that may fail itself. -/
  | bind {ε α β : Type} (type : FailureType ω κ ε) (f : α → Run ω κ (Deferred ε β)) :
    Stage ω κ (Deferred ε α) (Deferred ε β)
  /-- Hand the failures to a handler. -/
  | handling {ε α : Type} (handler : ε → Run ω κ Unit) : Stage ω κ (Deferred ε α) α

/-- Stages one after the other. -/
inductive Stages (ω κ : Type) : Type → Type → Type 1 where
  | nil {α : Type} : Stages ω κ α α
  | cons {α β γ : Type} (stage : Stage ω κ α β) (rest : Stages ω κ β γ) : Stages ω κ α γ

namespace Pipeline

/-- A pipeline without stages. -/
def ofSource (source : Iter σ τ α) : Pipeline σ τ α := ⟨τ, source, id, id⟩

/-- Loop over the elements of a pipeline. -/
def feed (pipeline : Pipeline σ τ α) (body : ρ → α → Act σ (Except δ ρ)) (steps : Nat) (kept : ρ) :
    Act (τ × σ) (Except δ ρ) :=
  (pipeline.iter.feed body steps kept).through pipeline.start pipeline.source

/-- Gather the elements of a pipeline. -/
def gather (pipeline : Pipeline σ τ (Deferred ε α)) (steps : Nat) :
    Act (τ × σ) (Except ε (List α)) :=
  (pipeline.iter.gather steps).through pipeline.start pipeline.source

end Pipeline

namespace Stage

/-- Put a stage onto a pipeline, by the adapter it stands for. -/
def onto (pipeline : Pipeline (World ω κ) τ α) : Stage ω κ α β → Pipeline (World ω κ) τ β
  | .capture type f => { pipeline with iter := pipeline.iter.map (Capture.function type f) }
  | .spread type f inner =>
    { State := Flat pipeline.State (Spread _ _)
      iter := pipeline.iter.flatMap (Spread.function type f) (Spread.iter inner)
      start := fun state => .start (pipeline.start state)
      source := fun flat => pipeline.source flat.source }
  | .filter test => { pipeline with iter := pipeline.iter.filter (Deferred.accepted test) }
  | .sift test => { pipeline with iter := pipeline.iter.sift test }
  | .map type f => { pipeline with iter := pipeline.iter.map (Deferred.map type f) }
  | .bind type f => { pipeline with iter := pipeline.iter.map (Deferred.bind type f) }
  | .handling handler => { pipeline with iter := pipeline.iter.handling handler }

/-- Push one element through a stage, and what becomes of it on to `body`. The elements of a
sequence are pushed on one after the other, in at most the given number of steps. -/
def push : Stage ω κ α β → (ρ → β → Run ω κ (Except δ ρ)) → Nat → ρ → α → Run ω κ (Except δ ρ)
  | .capture type f, body, _, kept, element => do body kept (← Capture.function type f element)
  | .spread type f inner, body, steps, kept, element => do
    match ← Capture.function type f element with
    | .value sequence =>
      (inner.feed (fun kept element => body kept (.value element)) steps kept).locally sequence
    | .failure failure => body kept (.failure failure)
  | .filter test, body, _, kept, element => do
    if ← Deferred.accepted test element then body kept element else pure (.ok kept)
  | .sift test, body, _, kept, element => do
    if ← Deferred.accepted test element then body kept element else pure (.ok kept)
  | .map type f, body, _, kept, element => do body kept (← Deferred.map type f element)
  | .bind type f, body, _, kept, element => do body kept (← Deferred.bind type f element)
  | .handling handler, body, _, kept, element => do
    match ← Deferred.handling handler element with
    | some value => body kept value
    | none => pure (.ok kept)

/-- The steps that suffice for a pipeline with a stage where the loop took `steps` of them, each
with at most `enough` steps through the sequences that the stage spreads. -/
def stepsFor (enough steps : Nat) : Stage ω κ α β → Nat
  | .spread _ _ _ => steps * (enough + 3)
  | _ => steps

/-- Spreads sequences, so that an element may come to any number of elements. -/
def isSpread : Stage ω κ α β → Bool
  | .spread _ _ _ => true
  | _ => false

section Spread

variable (type : FailureType ω κ ε) (f : α → Run ω κ (Except ε ι)) (inner : Iter (World ω κ) ι γ)
  (body : ρ → Deferred ε γ → Run ω κ (Except δ ρ)) (steps : Nat) (kept : ρ) (element : α)

/-- Reading a spread sequence starts with the call of the function that makes it. -/
theorem pieceBody_spread :
    Iter.pieceBody (Spread.function type f) (Spread.iter inner) body steps kept element = (do
      let captured ← Capture.function type f element
      ((Spread.iter inner).feed body steps kept).locally (.ofDeferred captured)) := by
  simp only [Iter.pieceBody, Spread.function, Deferral.spread, Capture.function, bind_assoc,
    pure_bind]

/-- Reading a spread sequence is pushing its elements, or its one failure, through the stage. -/
theorem pieceBody_within_push :
    (Iter.pieceBody (Spread.function type f) (Spread.iter inner) body steps kept element).Within
      ((Stage.spread type f inner).push body steps kept element) := by
  rw [pieceBody_spread]
  refine (Act.Within.refl _).bind fun captured => ?_
  cases captured with
  | value sequence => exact .of_eq (Spread.feed_values steps kept sequence)
  | failure failure =>
    have hmore : ((Spread.iter inner).feed body steps kept).Within
        ((Spread.iter inner).feed body (steps + 2) kept) :=
      Iter.feed_within (fun _ _ => .refl _) (Nat.le_add_right steps 2) kept
    exact (hmore.locally _).trans (.of_eq (Spread.feed_failed steps kept failure))

/-- Pushing is reading, where a sequence that failed as a whole takes two steps: one for its failure
and one for its end. -/
theorem push_within_pieceBody :
    ((Stage.spread type f inner).push body steps kept element).Within
      (Iter.pieceBody (Spread.function type f) (Spread.iter inner) body (steps + 2) kept
        element) := by
  rw [pieceBody_spread]
  refine (Act.Within.refl _).bind fun captured => ?_
  cases captured with
  | value sequence =>
    have hmore : ((Spread.iter inner).feed body steps kept).Within
        ((Spread.iter inner).feed body (steps + 2) kept) :=
      Iter.feed_within (fun _ _ => .refl _) (Nat.le_add_right steps 2) kept
    exact .trans (.of_eq (Spread.feed_values steps kept sequence).symm) (hmore.locally _)
  | failure failure => exact .of_eq (Spread.feed_failed steps kept failure).symm

end Spread

variable {pipeline : Pipeline (World ω κ) τ α} {body : ρ → β → Run ω κ (Except δ ρ)}

/-- A stage that makes at most one element of each goes into the body of a loop as it is. -/
theorem feed_onto (stage : Stage ω κ α β) (hsingle : stage.isSpread = false) (enough steps : Nat)
    (kept : ρ) : (stage.onto pipeline).feed body steps kept =
      pipeline.feed (stage.push body enough) steps kept := by
  cases stage with
  | spread type f inner => cases hsingle
  | capture type f => exact congrArg (Act.through _ _) (Iter.feed_map _ _ _ _ _)
  | filter test => exact congrArg (Act.through _ _) (Iter.feed_filter _ _ _ _ _)
  | sift test =>
    have hsift := Iter.feed_sift pipeline.iter test body steps kept
    exact congrArg (Act.through _ _) (hsift.trans (Iter.feed_filter _ _ _ _ _))
  | map type f => exact congrArg (Act.through _ _) (Iter.feed_map _ _ _ _ _)
  | bind type f => exact congrArg (Act.through _ _) (Iter.feed_map _ _ _ _ _)
  | handling handler => exact congrArg (Act.through _ _) (Iter.feed_handling _ _ _ _ _)

/-- A loop over a pipeline with one more stage ends as the loop that pushes the elements through
that stage, if it ends. -/
theorem feed_onto_within (stage : Stage ω κ α β) (steps : Nat) (kept : ρ) :
    ((stage.onto pipeline).feed body steps kept).Within
      (pipeline.feed (stage.push body steps) steps kept) := by
  cases stage with
  | spread type f inner =>
    have hbody : (pipeline.iter.feed
        (Iter.pieceBody (Spread.function type f) (Spread.iter inner) body steps) steps kept).Within
        (pipeline.iter.feed ((Stage.spread type f inner).push body steps) steps kept) :=
      Iter.feed_within (pieceBody_within_push type f inner body steps) (Nat.le_refl steps) kept
    have hflat := (Iter.feedFrom_within_feed (Nat.le_refl steps) kept).1.trans hbody
    exact hflat.through pipeline.start pipeline.source
  | _ => exact .of_eq (feed_onto _ rfl steps steps kept)

/-- The loop that pushes the elements through a stage ends as the one over the pipeline with that
stage, if it ends. -/
theorem feed_push_within (stage : Stage ω κ α β) (enough steps : Nat) (kept : ρ) :
    (pipeline.feed (stage.push body enough) steps kept).Within
      ((stage.onto pipeline).feed body (stage.stepsFor enough steps) kept) := by
  cases stage with
  | spread type f inner =>
    have hbody : (pipeline.iter.feed
        ((Stage.spread type f inner).push body enough) steps kept).Within (pipeline.iter.feed
          (Iter.pieceBody (Spread.function type f) (Spread.iter inner) body (enough + 2))
          steps kept) :=
      Iter.feed_within (push_within_pieceBody type f inner body enough) (Nat.le_refl steps) kept
    have hflat := hbody.trans (Iter.feed_within_feedFrom (enough + 2) steps kept)
    exact hflat.through pipeline.start pipeline.source
  | _ => exact .of_eq (feed_onto _ rfl enough steps kept).symm

end Stage

namespace Stages

/-- Put stages onto a pipeline, the first one first. -/
def onto : {α : Type} → Stages ω κ α β → Pipeline (World ω κ) τ α → Pipeline (World ω κ) τ β
  | _, .nil, pipeline => pipeline
  | _, .cons stage rest, pipeline => rest.onto (stage.onto pipeline)

/-- Push one element through all the stages, depth first, and what becomes of it on to `body`. -/
def push (body : ρ → β → Run ω κ (Except δ ρ)) (steps : Nat) :
    {α : Type} → Stages ω κ α β → ρ → α → Run ω κ (Except δ ρ)
  | _, .nil => body
  | _, .cons stage rest => stage.push (rest.push body steps) steps

/-- The steps that suffice for a pipeline with these stages, where the loop took `steps` of them. -/
def stepsFor (enough : Nat) : {α : Type} → Stages ω κ α β → Nat → Nat
  | _, .nil, steps => steps
  | _, .cons stage rest, steps => rest.stepsFor enough (stage.stepsFor enough steps)

variable {body : ρ → β → Run ω κ (Except δ ρ)}

/-- A loop over a pipeline ends as the loop that pushes the elements through the stages, if it
ends. -/
theorem feed_onto_within (stages : Stages ω κ α β) (pipeline : Pipeline (World ω κ) τ α)
    (steps : Nat) (kept : ρ) : ((stages.onto pipeline).feed body steps kept).Within
      (pipeline.feed (stages.push body steps) steps kept) := by
  induction stages with
  | nil => exact .refl _
  | cons stage rest ih => exact (ih (stage.onto pipeline)).trans (stage.feed_onto_within steps kept)

/-- The loop that pushes the elements through the stages ends as the one over the pipeline, if it
ends. -/
theorem feed_push_within (stages : Stages ω κ α β) (pipeline : Pipeline (World ω κ) τ α)
    (enough steps : Nat) (kept : ρ) : (pipeline.feed (stages.push body enough) steps kept).Within
      ((stages.onto pipeline).feed body (stages.stepsFor enough steps) kept) := by
  induction stages generalizing steps with
  | nil => exact .refl _
  | cons stage rest ih => exact (stage.feed_push_within enough steps kept).trans (ih _ _)

/-- Gather the values that a source comes to behind the stages, lazily. -/
def drain (stages : Stages ω κ α (Deferred ε β)) (source : Iter (World ω κ) τ α) (steps : Nat) :
    Act (τ × World ω κ) (Except ε (List β)) :=
  (stages.onto (.ofSource source)).gather steps

/-- Take the items of a source one after the other and push each through all the stages. Keep the
values that come to the end, or stop with the first failure that does. -/
def loop (stages : Stages ω κ α (Deferred ε β)) (source : Iter (World ω κ) τ α) (steps : Nat) :
    Act (τ × World ω κ) (Except ε (List β)) :=
  source.feed (stages.push Iter.keepValue steps) steps []

/-- Draining is a loop over the pipeline that keeps the values. -/
theorem drain_eq_feed (stages : Stages ω κ α (Deferred ε β)) (source : Iter (World ω κ) τ α)
    (steps : Nat) : stages.drain source steps =
      (stages.onto (.ofSource source)).feed Iter.keepValue steps [] :=
  congrArg (Act.through _ _) (Iter.gather_eq_feed _ steps)

/-- A lazy pipeline drains as the loop over single items runs. -/
theorem agree (stages : Stages ω κ α (Deferred ε β)) (source : Iter (World ω κ) τ α) :
    Act.Agree (stages.drain source) (stages.loop source) := by
  -- Each side may need more steps than the other: the pipeline counts those through the sequences
  -- it spreads, and the loop allows each sequence as many as it takes itself.
  refine .of_within ?more ?first ?second
  case more =>
    intro steps more hle
    rw [drain_eq_feed, drain_eq_feed]
    exact (Iter.feed_within (fun _ _ => .refl _) hle []).through _ _
  case first =>
    intro steps
    rw [drain_eq_feed]
    exact ⟨steps, stages.feed_onto_within (.ofSource source) steps []⟩
  case second =>
    intro steps
    refine ⟨stages.stepsFor steps steps, ?_⟩
    rw [drain_eq_feed]
    exact stages.feed_push_within (.ofSource source) steps steps []

end Stages

/-! ### Calls written down -/

/-- The events by which pulls and calls are written down. -/
structure Watch (ω : Type) where
  /-- The source is pulled. -/
  pulled : ω
  /-- The sequence that a stage is reading is pulled; the stages are numbered. -/
  read : Nat → ω
  /-- The callable of a stage is called with an argument. -/
  called : Nat → (α : Type) → α → ω

/-- Write down every pull of an iterator. -/
def Iter.watched (event : ω) (iter : Iter (World ω κ) τ α) : Iter (World ω κ) τ α where
  step := do
    (emit event).beside
    iter.step
  hint := iter.hint

/-- Write down every call of a callable. -/
def Watch.calls (watch : Watch ω) (place : Nat) (f : α → Run ω κ β) (argument : α) : Run ω κ β := do
  emit (watch.called place α argument)
  f argument

/-- Write down what a stage calls and reads. -/
def Stage.watched (watch : Watch ω) (place : Nat) : Stage ω κ α β → Stage ω κ α β
  | .capture type f => .capture type (watch.calls place f)
  | .spread type f inner => .spread type (watch.calls place f) (inner.watched (watch.read place))
  | .filter test => .filter (watch.calls place test)
  | .sift test => .sift (watch.calls place test)
  | .map type f => .map type (watch.calls place f)
  | .bind type f => .bind type (watch.calls place f)
  | .handling handler => .handling (watch.calls place handler)

/-- Write down what all the stages call and read. -/
def Stages.watched (watch : Watch ω) :
    (place : Nat) → {α : Type} → Stages ω κ α β → Stages ω κ α β
  | _, _, .nil => .nil
  | place, _, .cons stage rest => .cons (stage.watched watch place) (rest.watched watch (place + 1))

/-- A lazy pipeline is the loop over single items: for every source, all stages and all callables,
both come to the same result in the same world, with the source left at the same place; and they do
so with every pull and every call, and its argument, written down in the order in which they happen.
-/
theorem Stages.depthFirst (stages : Stages ω κ α (Deferred ε β)) (source : Iter (World ω κ) τ α) :
    Act.Agree (stages.drain source) (stages.loop source) ∧
    ∀ watch : Watch ω,
      Act.Agree ((stages.watched watch 0).drain (source.watched watch.pulled))
        ((stages.watched watch 0).loop (source.watched watch.pulled)) :=
  ⟨stages.agree source, fun watch => (stages.watched watch 0).agree (source.watched watch.pulled)⟩

end Deferral
