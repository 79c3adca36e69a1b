import Deferral.Proofs.Pipeline.Stages
import Deferral.Proofs.Tokens.Flags

/-!
# Tokens and pipelines

A step of a pipeline stores the failures that its stages capture, and those that pass through a
`map` or a `bind`. What it stores is put together stage by stage: a step of the pipeline below is
made, and if it yields an element, the stage stores what it makes of that element. A stage that
spreads sequences does so only between two of them.
-/

namespace Deferral

variable {ω κ τ ι ε α β γ : Type}

/-- What is stored in dealing with the element of a step, if the step yields one. -/
def Step.boxings (onElement : α → World ω κ → List (Boxing ω κ)) :
    Step α → World ω κ → List (Boxing ω κ)
  | .yield element, world => onElement element world
  | .skip, _ => []
  | .finish, _ => []

/-- Is the next element still to come after this step? -/
def Step.skips : Step α → Bool
  | .yield _ => false
  | .skip => true
  | .finish => false

/-- Is the end still to come after this step? -/
def Step.goesOn : Step α → Bool
  | .yield _ => true
  | .skip => true
  | .finish => false

/-- Are the end and the first failure still to come after this step? -/
def Step.succeeds : Step (Deferred ε α) → Bool
  | .yield (.value _) => true
  | .yield (.failure _) => false
  | .skip => true
  | .finish => false

namespace Iter

variable (iter : Iter (World ω κ) τ α) (below : τ × World ω κ → List (Boxing ω κ))
  (onElement : α → World ω κ → List (Boxing ω κ))

/-- What is stored in a step that is one of `iter`, which stores `below`, and then deals with the
element. -/
def boxingsWith (state : τ × World ω κ) : List (Boxing ω κ) :=
  below state ++ iter.step.thereafter (fun step after => step.boxings onElement after.2) state

/-- What is stored in a step of a flat map, given whether it is reading a piece. -/
def pieceBoxings : Option ι → Flat τ ι × World ω κ → List (Boxing ω κ)
  | some _, _ => []
  | none, (flat, world) =>
    bif flat.ended then [] else iter.boxingsWith below onElement (flat.source, world)

/-- What is stored in a step of a flat map. Between two pieces it is a step of the source, and a
piece is made of the element. -/
def flatBoxings (state : Flat τ ι × World ω κ) : List (Boxing ω κ) :=
  iter.pieceBoxings below onElement state.1.piece state

/-- What is stored in steps that each store `below`, as long as one after another `asksOn`. -/
def loopBoxings (asksOn : Step α → Bool) : Nat → τ × World ω κ → List (Boxing ω κ)
  | 0, _ => []
  | steps + 1, state => below state ++ iter.step.thereafter
    (fun step after => bif asksOn step then loopBoxings asksOn steps after else []) state

variable {iter below onElement}

/-- A step of a mapped iterator stores what the step below stores, and then what the function stores
of the element. -/
theorem boxes_map {f : α → Run ω κ β} (h : iter.step.Boxes below)
    (hf : ∀ element, (f element).Boxes (onElement element)) :
    (iter.map f).step.Boxes (iter.boxingsWith below onElement) := by
  refine Act.Guards.bind h fun step _ => ?_
  cases step with
  | yield element => exact (hf element).beside.before fun _ _ => .pure trivial
  | skip => exact .pure trivial
  | finish => exact .pure trivial

/-- A step of a filter stores what the step below stores. -/
theorem boxes_filter {test : α → Run ω κ Bool} (h : iter.step.Boxes below)
    (htest : ∀ element, (test element).Quiet) : (iter.filter test).step.Boxes below := by
  refine Act.Guards.before h fun step _ => ?_
  cases step with
  | yield element => exact (htest element).boxes.beside.before fun _ _ => .pure trivial
  | skip => exact .pure trivial
  | finish => exact .pure trivial

/-- So does a step of a filter by value. -/
theorem boxes_sift {iter : Iter (World ω κ) τ (Deferred ε α)} {test : α → Run ω κ Bool}
    (h : iter.step.Boxes below) (htest : ∀ element, (test element).Quiet) :
    (iter.sift test).step.Boxes below := by
  refine Act.Guards.before h fun step _ => ?_
  rcases step with (element | failure) | _ | _
  · exact (htest element).boxes.beside.before fun _ _ => .pure trivial
  · exact .pure trivial
  · exact .pure trivial
  · exact .pure trivial

/-- So does a step of an iterator whose failures are handled. -/
theorem boxes_handling {iter : Iter (World ω κ) τ (Deferred ε α)} {handler : ε → Run ω κ Unit}
    (h : iter.step.Boxes below) (hhandler : ∀ failure, (handler failure).Quiet) :
    (iter.handling handler).step.Boxes below := by
  refine Act.Guards.before h fun step _ => ?_
  rcases step with (element | failure) | _ | _
  · exact .pure trivial
  · exact (hhandler failure).boxes.beside.before fun _ _ => .pure trivial
  · exact .pure trivial
  · exact .pure trivial

/-- What is done to the source of a flat map stores what it does to the source alone. -/
theorem boxes_onSource {act : Act (τ × World ω κ) β} (h : act.Boxes below) :
    (Flat.onSource act : Act (Flat τ ι × World ω κ) β).Boxes
      fun state => below (state.1.source, state.2) :=
  .of_asked fun state => h.asked (state.1.source, state.2)

/-- What is done to a piece writes no token if it writes none to the piece alone. -/
theorem quiet_onPiece {act : Act (ι × World ω κ) β} (piece : ι) (h : act.Quiet) :
    (Flat.onPiece piece act : Act (Flat τ ι × World ω κ) β).Quiet :=
  fun state => h (piece, state.2)

/-- A part over the source stores afterwards what it would store with the source alone. -/
theorem thereafter_onSource {act : Act (τ × World ω κ) β}
    (rest : β → World ω κ → List (Boxing ω κ)) (state : Flat τ ι × World ω κ) :
    (Flat.onSource act).thereafter (fun b state => rest b state.2) state =
      act.thereafter (fun b state => rest b state.2) (state.1.source, state.2) := by
  rcases hact : act (state.1.source, state.2) with ⟨b | alarm | _, source, after⟩
  all_goals simp only [Act.thereafter, Flat.onSource, hact]

/-- A step of a flat map stores what is stored in making a piece, and nothing while it reads one. -/
theorem boxes_flatMap {f : α → Run ω κ ι} {inner : Iter (World ω κ) ι β} (h : iter.step.Boxes below)
    (hf : ∀ element, (f element).Boxes (onElement element)) (hinner : inner.step.Quiet) :
    (iter.flatMap f inner).step.Boxes (iter.flatBoxings below onElement) := by
  have hread {β : Type} (view : Flat τ ι × World ω κ → β) :
      (Act.read view).Boxes fun _ => ([] : List (Boxing ω κ)) := .read fun _ _ => trivial
  have hchange (f : Flat τ ι → Flat τ ι) :
      (Act.change fun state : Flat τ ι × World ω κ => (f state.1, state.2)).Boxes
        fun _ => ([] : List (Boxing ω κ)) := .change (fun _ _ => trivial) fun _ => rfl
  -- The step first looks whether there is a piece, and then whether the source has ended. What it
  -- stores is split in the same way.
  change Act.Boxes ((Act.read fun state : Flat τ ι × World ω κ => state.1.piece).thereafter
    (iter.pieceBoxings below onElement)) _
  refine (hread _).then fun found _ => ?_
  cases found with
  | some piece =>
    refine (quiet_onPiece piece hinner).boxes.before fun step _ => ?_
    cases step with
    | yield element => exact .pure trivial
    | skip => exact .pure trivial
    | finish =>
      exact (hchange fun flat => { flat with piece := none }).before fun _ _ => .pure trivial
  | none =>
    change Act.Boxes ((Act.read fun state : Flat τ ι × World ω κ => state.1.ended).thereafter
      fun ended state => bif ended then [] else
        iter.boxingsWith below onElement (state.1.source, state.2)) _
    refine (hread _).then fun ended _ => ?_
    cases ended with
    | true => exact .pure trivial
    | false =>
      refine Act.Guards.of_eq (Act.Guards.bind (boxes_onSource h) fun step _ => ?_)
        fun state => congrArg (below (state.1.source, state.2) ++ ·)
          (thereafter_onSource (Step.boxings onElement) state)
      cases step with
      | yield element =>
        refine (hf element).beside.before fun piece _ => ?_
        refine (hchange fun flat => { flat with piece := some piece }).before fun _ _ => ?_
        exact .pure trivial
      | skip => exact .pure trivial
      | finish =>
        exact (hchange fun flat => { flat with ended := true }).before fun _ _ => .pure trivial

/-- The next element is looked for as long as steps skip. -/
theorem boxes_next (h : iter.step.Boxes below) (steps : Nat) :
    (iter.next steps).Boxes (iter.loopBoxings below Step.skips steps) := by
  induction steps with
  | zero => exact .giveUp
  | succ steps ih =>
    refine Act.Guards.bind h fun step _ => ?_
    cases step with
    | yield element => exact .pure trivial
    | skip => exact ih
    | finish => exact .pure trivial

/-- All elements are taken up to the first end. -/
theorem boxes_collect (h : iter.step.Boxes below) (steps : Nat) :
    (iter.collect steps).Boxes (iter.loopBoxings below Step.goesOn steps) := by
  induction steps with
  | zero => exact .giveUp
  | succ steps ih =>
    refine Act.Guards.bind h fun step _ => ?_
    cases step with
    | yield element => exact ih.before fun _ _ => .pure trivial
    | skip => exact ih
    | finish => exact .pure trivial

/-- Values are taken up to the first end or the first failure. -/
theorem boxes_gather {iter : Iter (World ω κ) τ (Deferred ε α)} (h : iter.step.Boxes below)
    (steps : Nat) : (iter.gather steps).Boxes (iter.loopBoxings below Step.succeeds steps) := by
  induction steps with
  | zero => exact .giveUp
  | succ steps ih =>
    refine Act.Guards.bind h fun step _ => ?_
    rcases step with (element | failure) | _ | _
    · refine ih.before fun gathered _ => ?_
      cases gathered with
      | ok elements => exact .pure trivial
      | error failure => exact .pure trivial
    · exact .pure trivial
    · exact ih
    · exact .pure trivial

end Iter

/-- Reading a spread sequence writes no token, if reading the sequence does not. -/
theorem Spread.quiet_step {inner : Iter (World ω κ) ι β} (hinner : inner.step.Quiet) :
    (Spread.iter inner : Iter (World ω κ) (Spread ε ι) (Deferred ε β)).step.Quiet := by
  have hvalues : (Step.map Deferred.value <$> inner.step :
      Act (ι × World ω κ) (Step (Deferred ε β))).Quiet := by
    rw [map_eq_pure_bind]
    exact hinner.bind fun step => .pure _
  rintro ⟨sequence | ⟨_ | failure⟩, world⟩
  case values => exact hvalues (sequence, world)
  all_goals rfl

/-! ### Stages -/

namespace Stage

/-- The callables of a stage, and the hooks of its failures, write no token. -/
def Quiet : Stage ω κ α β → Prop
  | .capture type f => type.Quiet ∧ ∀ element, (f element).Quiet
  | .spread type f inner => type.Quiet ∧ (∀ element, (f element).Quiet) ∧ inner.step.Quiet
  | .filter test => ∀ element, (test element).Quiet
  | .sift test => ∀ element, (test element).Quiet
  | .map type f => type.Quiet ∧ ∀ element, (f element).Quiet
  | .bind type f => type.Quiet ∧ ∀ element, (f element).Quiet
  | .handling handler => ∀ failure, (handler failure).Quiet

/-- What is stored in a step of a pipeline with this stage, where a step of the pipeline without it
stores `below`. -/
def boxings : {α β : Type} → (stage : Stage ω κ α β) → (pipeline : Pipeline (World ω κ) τ α) →
    (pipeline.State × World ω κ → List (Boxing ω κ)) →
    (stage.onto pipeline).State × World ω κ → List (Boxing ω κ)
  | _, _, .capture type f, pipeline, below =>
    pipeline.iter.boxingsWith below fun element => type.captureBoxings (f element)
  | _, _, .spread type f _, pipeline, below =>
    pipeline.iter.flatBoxings below fun element => type.captureBoxings (f element)
  | _, _, .filter _, _, below => below
  | _, _, .sift _, _, below => below
  | _, _, .map type _, pipeline, below =>
    pipeline.iter.boxingsWith below fun element => type.boxings element.failure?
  | _, _, .bind type _, pipeline, below =>
    pipeline.iter.boxingsWith below fun element => type.boxings element.failure?
  | _, _, .handling _, _, below => below

/-- Behind one more stage, a step stores what the stage adds to it. -/
theorem boxes {stage : Stage ω κ α β} {pipeline : Pipeline (World ω κ) τ α}
    {below : pipeline.State × World ω κ → List (Boxing ω κ)} (hstage : stage.Quiet)
    (hbelow : pipeline.iter.step.Boxes below) :
    (stage.onto pipeline).iter.step.Boxes (stage.boxings pipeline below) := by
  cases stage with
  | capture type f =>
    exact Iter.boxes_map hbelow fun element => FailureType.boxes_capture hstage.1 (hstage.2 element)
  | spread type f inner =>
    obtain ⟨htype, hf, hinner⟩ := hstage
    exact Iter.boxes_flatMap hbelow (fun element => FailureType.boxes_spread htype (hf element))
      (Spread.quiet_step hinner)
  | filter test =>
    exact Iter.boxes_filter hbelow fun element => element.quiet_accepted hstage
  | sift test => exact Iter.boxes_sift hbelow hstage
  | map type f =>
    exact Iter.boxes_map hbelow fun element => FailureType.boxes_map hstage.1 hstage.2 element
  | bind type f =>
    exact Iter.boxes_map hbelow fun element => FailureType.boxes_bind hstage.1 hstage.2 element
  | handling handler => exact Iter.boxes_handling hbelow hstage

end Stage

namespace Stages

/-- The callables of all the stages write no token. -/
def Quiet : {α : Type} → Stages ω κ α β → Prop
  | _, .nil => True
  | _, .cons stage rest => stage.Quiet ∧ rest.Quiet

/-- What is stored in a step of a pipeline with these stages, where a step of the pipeline without
them stores `below`. -/
def boxingsOver : {α : Type} → (stages : Stages ω κ α β) → (pipeline : Pipeline (World ω κ) τ α) →
    (pipeline.State × World ω κ → List (Boxing ω κ)) →
    (stages.onto pipeline).State × World ω κ → List (Boxing ω κ)
  | _, .nil, _, below => below
  | _, .cons stage rest, pipeline, below =>
    rest.boxingsOver (stage.onto pipeline) (stage.boxings pipeline below)

/-- What is stored in a step of a pipeline whose source stores nothing. -/
def boxings (stages : Stages ω κ α β) (source : Iter (World ω κ) τ α) :
    (stages.onto (.ofSource source)).State × World ω κ → List (Boxing ω κ) :=
  stages.boxingsOver (.ofSource source) fun _ => []

/-- A step of stages over a pipeline stores what the stages add to what the pipeline stores. -/
theorem boxes_over (stages : Stages ω κ α β) {pipeline : Pipeline (World ω κ) τ α}
    {below : pipeline.State × World ω κ → List (Boxing ω κ)} (hstages : stages.Quiet)
    (hbelow : pipeline.iter.step.Boxes below) :
    (stages.onto pipeline).iter.step.Boxes (stages.boxingsOver pipeline below) := by
  induction stages with
  | nil => exact hbelow
  | cons stage rest ih => exact ih hstages.2 (Stage.boxes hstages.1 hbelow)

/-- A step of a pipeline stores what its stages make it store. -/
theorem boxes (stages : Stages ω κ α β) {source : Iter (World ω κ) τ α} (hstages : stages.Quiet)
    (hsource : source.step.Quiet) :
    (stages.onto (.ofSource source)).iter.step.Boxes (stages.boxings source) :=
  stages.boxes_over hstages hsource.boxes

end Stages

end Deferral
