import Deferral.Proofs.Deferred.Regrouping
import Deferral.Proofs.Pipeline.Pulls
import Deferral.Proofs.Raise.Canonical
import Deferral.Script.Source

/-!
# Spreading a fallible sequence

A supplier of a sequence is called where the sequence is spread, and its failure is stored there.
What is read afterwards is either the sequence, each of its elements as a value, or the failure that
came in its place. Reading the sequence is reading its elements: `Spread.Reads` says of a
computation that it does to the spread sequence what another does to the sequence itself, so that
every call of `next` makes one call of `next` and nothing else. The failure is given away once, and
nothing happens when it is. So draining what was spread hands out what the supplier has come to.
-/

namespace Deferral

variable {ω κ σ τ ε α β γ : Type}

/-! ### Sequences that stay at their end -/

/-- Every answer behind an end is an end. -/
def EndsForGood (answers : List (Answer γ)) : Prop :=
  answers.Pairwise fun earlier later => earlier = .ok none → later = .ok none

/-- A consumer that reads the iterator from `state` on is told ends for good, however often it asks
and whatever it does with the answers. -/
def Iter.FusedFrom (iter : Iter σ τ γ) (state : τ) : Prop :=
  ∀ receive steps calls world answers last,
    iter.asks receive steps calls (state, world) = (.done answers, last) → EndsForGood answers

/-- To turn a result into something else leaves a state of its own alone. -/
theorem Act.locally_bind_pure (act : Act (τ × σ) β) (f : β → γ) (state : τ) :
    (act >>= fun b => pure (f b)).locally state =
      act.locally state >>= fun b => pure (f b) := by
  refine Act.ext fun world => ?_
  rw [Act.locally, Act.bind_apply, Act.bind_apply, Act.locally]
  rcases act (state, world) with ⟨b | alarm | _, next, after⟩ <;> rfl

namespace Spread

/-! ### Reading the elements -/

/-- An answer about an element, as one about that element as a value. -/
def asValue (answer : Answer α) : Answer (Deferred ε α) := answer.map (Option.map .value)

/-- An answer about a value, as one about an element. -/
def ofValue (answer : Answer (Deferred ε α)) : Answer α := answer.map (·.bind Deferred.value?)

/-- What was told as a value is the element that it is. -/
theorem ofValue_asValue (answer : Answer α) :
    ofValue (asValue answer : Answer (Deferred ε α)) = answer := by
  rcases answer with alarm | _ | element <;> rfl

/-- The end is told as the end, and nothing else is. -/
theorem asValue_eq_end {answer : Answer α} :
    (asValue answer : Answer (Deferred ε α)) = .ok none ↔ answer = .ok none := by
  rcases answer with alarm | _ | element <;> simp [asValue, Except.map]

/-- Read the state of the sequence off and put it back. -/
def onValues (act : Act (τ × σ) β) (state : τ) (world : σ) : Exit β × Spread ε τ × σ :=
  let (exit, next, last) := act (state, world)
  (exit, .values next, last)

/-- On a sequence that did not fail, the first computation does what the second does to the sequence
itself. -/
def Reads (first : Act (Spread ε τ × σ) β) (second : Act (τ × σ) β) : Prop :=
  ∀ state world, first (.values state, world) = onValues second state world

namespace Reads

/-- To return a value does so on a sequence. -/
theorem pure (b : β) : Reads (Pure.pure b : Act (Spread ε τ × σ) β) (Pure.pure b) :=
  fun _ _ => rfl

/-- So does giving up. -/
theorem giveUp : Reads (Act.giveUp : Act (Spread ε τ × σ) β) Act.giveUp := fun _ _ => rfl

/-- So does what is done beside the sequence. -/
theorem beside (act : Act σ β) : Reads (act.beside : Act (Spread ε τ × σ) β) act.beside :=
  fun _ _ => rfl

/-- A sequence of computations reads a sequence of others when its parts do, where the result of the
first part is made of the result that the other's first part comes to. -/
theorem bind {δ : Type} {first : Act (Spread ε τ × σ) γ} {second : Act (τ × σ) β} {f : β → γ}
    {next : γ → Act (Spread ε τ × σ) δ} {other : β → Act (τ × σ) δ}
    (h : Reads first (f <$> second)) (hnext : ∀ b, Reads (next (f b)) (other b)) :
    Reads (first >>= next) (second >>= other) := by
  intro state world
  rw [Act.bind_apply, h state world, onValues, onValues, map_eq_pure_bind, Act.bind_apply,
    Act.bind_apply]
  rcases second (state, world) with ⟨b | alarm | _, middle, after⟩
  · exact hnext b middle after
  · rfl
  · rfl

/-- So does a computation whose panic is caught, if it does so itself. -/
theorem catchPanic {first : Act (Spread ε τ × σ) γ} {second : Act (τ × σ) β} {f : β → γ}
    (h : Reads first (f <$> second)) :
    Reads first.catchPanic (Except.map f <$> second.catchPanic) := by
  intro state world
  rw [onValues, Act.catchPanic, h state world, onValues, map_eq_pure_bind, map_eq_pure_bind,
    Act.bind_apply, Act.bind_apply, Act.catchPanic]
  rcases second (state, world) with ⟨b | alarm | _, middle, after⟩ <;> rfl

/-- With a sequence of its own, a computation does what the other does with it. -/
theorem locally {first : Act (Spread ε τ × σ) β} {second : Act (τ × σ) β} (h : Reads first second)
    (state : τ) : first.locally (.values state) = second.locally state := by
  refine Act.ext fun world => ?_
  rw [Act.locally, h state world]
  rfl

end Reads

variable (sequence : Iter σ τ α)

/-- A step on a sequence that did not fail is a step of the sequence. -/
theorem reads_step :
    Reads (iter sequence : Iter σ (Spread ε τ) (Deferred ε α)).step
      (Step.map .value <$> sequence.step) :=
  fun _ _ => rfl

/-- A call of `next` makes one call of `next` of the sequence. -/
theorem reads_next (steps : Nat) :
    Reads ((iter sequence : Iter σ (Spread ε τ) (Deferred ε α)).next steps)
      (Option.map .value <$> sequence.next steps) := by
  induction steps with
  | zero => exact .giveUp
  | succ steps ih =>
    simp only [Iter.next, map_bind]
    refine (reads_step sequence).bind fun step => ?_
    cases step with
    | yield element => exact .pure _
    | skip => exact ih
    | finish => exact .pure _

/-- What a consumer is told, it would be told by the sequence, about the elements themselves. -/
theorem reads_asks (receive : Answer (Deferred ε α) → Act σ Unit) (steps calls : Nat) :
    Reads ((iter sequence).asks receive steps calls)
      (List.map asValue <$>
        sequence.asks (fun answer => receive (asValue answer)) steps calls) := by
  induction calls with
  | zero => exact .pure _
  | succ calls ih =>
    have hcall : Reads ((iter sequence : Iter σ (Spread ε τ) (Deferred ε α)).next steps).catchPanic
        (asValue <$> (sequence.next steps).catchPanic) := (reads_next sequence steps).catchPanic
    simp only [Iter.asks, map_bind]
    refine hcall.bind fun answer => ?_
    have hreceive : Reads ((receive (asValue answer)).beside : Act (Spread ε τ × σ) Unit)
        (id <$> (receive (asValue answer)).beside) := by
      rw [id_map]
      exact .beside _
    exact hreceive.bind fun _ => ih.bind fun answers => .pure _

/-- Gathering what was spread is collecting the sequence. -/
theorem reads_gather (steps : Nat) :
    Reads ((iter sequence : Iter σ (Spread ε τ) (Deferred ε α)).gather steps)
      (.ok <$> sequence.collect steps) := by
  induction steps with
  | zero => exact .giveUp
  | succ steps ih =>
    simp only [Iter.gather, Iter.collect, map_bind]
    refine (reads_step sequence).bind fun step => ?_
    cases step with
    | yield element =>
      simp only [Step.map, map_bind]
      exact ih.bind fun elements => .pure _
    | skip => exact ih
    | finish => exact .pure _

/-- What was spread stays at its end where the sequence does. -/
theorem fusedFrom_values (state : τ) :
    (iter sequence : Iter σ (Spread ε τ) (Deferred ε α)).FusedFrom (.values state) ↔
      sequence.FusedFrom state := by
  have hpairwise (answers : List (Answer α)) :
      EndsForGood (answers.map asValue : List (Answer (Deferred ε α))) ↔ EndsForGood answers := by
    simp only [EndsForGood, List.pairwise_map, asValue_eq_end]
  constructor
  · intro hfused receive steps calls world answers last hasks
    let listen (answer : Answer (Deferred ε α)) : Act σ Unit := receive (ofValue answer)
    have htold : (iter sequence).asks listen steps calls (.values state, world) =
        (.done (answers.map asValue), .values last.1, last.2) := by
      rw [reads_asks sequence listen steps calls state world, onValues, map_eq_pure_bind]
      simp only [listen, ofValue_asValue]
      rw [Act.bind_of_done hasks]
      rfl
    exact (hpairwise answers).1 (hfused listen steps calls world _ _ htold)
  · intro hfused receive steps calls world answers last hasks
    rw [reads_asks sequence receive steps calls state world, onValues, map_eq_pure_bind,
      Act.bind_apply] at hasks
    rcases htold : sequence.asks (fun answer => receive (asValue answer)) steps calls
      (state, world) with ⟨told | alarm | _, after⟩
    all_goals rw [htold] at hasks; cases hasks
    exact (hpairwise told).2 (hfused _ steps calls world told after htold)

/-! ### Reading the failure -/

/-- The answers to so many calls, where a failure is left to be read or none is. -/
def givenAway (left : Option ε) : Nat → List (Answer (Deferred ε α))
  | 0 => []
  | calls + 1 => .ok (left.map .failure) :: givenAway none calls

/-- Where no failure is left, every call is answered with the end. -/
theorem givenAway_none (calls : Nat) :
    (givenAway none calls : List (Answer (Deferred ε α))) = List.replicate calls (.ok none) := by
  induction calls with
  | zero => rfl
  | succ calls ih => rw [givenAway, ih, List.replicate_succ, Option.map_none]

/-- A failure is given away by the first call, and every later one is answered with the end. -/
theorem givenAway_some (failure : ε) (calls : Nat) :
    (givenAway (some failure) (calls + 1) : List (Answer (Deferred ε α))) =
      .ok (some (.failure failure)) :: List.replicate calls (.ok none) := by
  rw [givenAway, givenAway_none, Option.map_some]

/-- Once the failure is given away, there are only ends. -/
theorem givenAway_endsForGood (left : Option ε) (calls : Nat) :
    EndsForGood (givenAway left calls : List (Answer (Deferred ε α))) := by
  induction calls generalizing left with
  | zero => exact .nil
  | succ calls ih =>
    refine .cons (fun later hlater _ => ?_) (ih none)
    rw [givenAway_none] at hlater
    exact List.eq_of_mem_replicate hlater

/-- A consumer that reads a failure receives the answers, and nothing else happens. -/
theorem asks_failed (left : Option ε) (receive : Answer (Deferred ε α) → Act σ Unit)
    (steps calls : Nat) :
    ((iter sequence).asks receive (steps + 1) calls).locally (.failed left) = (do
      forM (givenAway left calls) receive
      return givenAway left calls) := by
  induction calls generalizing left with
  | zero => rfl
  | succ calls ih =>
    have hcall : ((iter sequence : Iter σ (Spread ε τ) (Deferred ε α)).next
        (steps + 1)).catchPanic.held (.failed left) =
          pure (.ok (left.map .failure), .failed none) := by
      refine Act.ext fun world => ?_
      cases left <;> rfl
    rw [Iter.asks, Act.locally_bind, hcall, pure_bind]
    dsimp only
    simp only [Act.locally_beside_bind, Act.locally_bind_pure, ih, givenAway, List.forM_cons,
      bind_assoc, pure_bind]

/-- Reading a failure ends for good, and it is fused. -/
theorem fusedFrom_failed (left : Option ε) :
    (iter sequence : Iter σ (Spread ε τ) (Deferred ε α)).FusedFrom (.failed left) := by
  intro receive steps calls world answers last hasks
  cases steps with
  | zero =>
    -- A call without any step is left unfinished, so only a consumer that does not call is done.
    cases calls with
    | zero =>
      cases hasks
      exact .nil
    | succ calls => cases hasks
  | succ steps =>
    have htold := congrFun (asks_failed sequence left receive steps calls) world
    rw [Act.locally, hasks] at htold
    obtain ⟨_, after, hreceived, hanswers⟩ := Act.done_of_bind htold.symm
    cases hanswers
    exact givenAway_endsForGood left calls

/-- Gathering hands the failure out. -/
theorem gather_failed (failure : ε) (steps : Nat) :
    ((iter sequence : Iter σ (Spread ε τ) (Deferred ε α)).gather (steps + 1)).locally
      (.failed (some failure)) = pure (.error failure) := rfl

end Spread

/-! ### Spreading and draining -/

namespace Iter

/-- More steps do not change what gathering comes to. -/
theorem gather_within (iter : Iter σ τ (Deferred ε α)) {steps more : Nat} (hle : steps ≤ more) :
    (iter.gather steps).Within (iter.gather more) := by
  rw [gather_eq_feed, gather_eq_feed]
  exact feed_within (fun _ _ => .refl _) hle []

end Iter

/-- A call made in spreading a sequence: of the supplier, or of a hook. -/
inductive SpreadCall (ε : Type) where
  | supplier
  | hook (call : HookCall ε)
deriving DecidableEq, Repr

namespace FailureType

/-- The type whose hooks record that they are called in spreading. -/
def spreading (type : FailureType ω κ ε) : FailureType ω (List (SpreadCall ε) × κ) ε where
  name := type.name
  owns := type.owns
  cancellation failure := Run.noted (.hook (.cancellation failure)) (type.cancellation failure)
  copy failure := Run.noted (.hook (.copy failure)) (type.copy failure)
  slots failure := Run.noted (.hook (.slots failure)) (type.slots failure)

/-- To store a failure leaves the record as it is. -/
theorem spreading_asserted (type : FailureType ω κ ε) (reported : Option Token)
    (world : World ω κ) (record : List (SpreadCall ε)) :
    type.spreading.asserted reported (world.noting record) =
      (type.asserted reported world).noting record := by
  cases reported <;> rfl

end FailureType

namespace Spread

/-- Spread what the supplier supplies, and drain that. -/
def drained (type : FailureType ω κ ε) (supplier : Run ω κ (Except ε τ))
    (sequence : Iter (World ω κ) τ α) (steps : Nat) : Run ω κ (Except ε (List α)) := do
  let start ← spread type supplier
  ((iter sequence).gather steps).locally start

section

variable {type : FailureType ω κ ε} {supplier : Run ω κ (Except ε τ)}
  {sequence : Iter (World ω κ) τ α} {world after last : World ω κ}
  {exit other : Exit (Except ε (List α))}

/-- The end that draining reaches is the only one. -/
theorem drained_reaches_iff
    (h : Act.Reaches (drained type supplier sequence) world exit after) :
    Act.Reaches (drained type supplier sequence) world other last ↔
      other = exit ∧ last = after := by
  refine h.iff fun steps more hle => ?_
  exact (Act.Within.refl _).bind fun start => ((iter sequence).gather_within hle).locally start

end

/-- A supplier that has supplied a sequence in `state` and has left the world at `called` was
called once, for the elements to be read as values. -/
structure SpreadsValues (type : FailureType ω κ ε) (supplier : Run ω κ (Except ε τ))
    (world : World ω κ) (state : τ) (called : World ω κ) : Prop where
  /-- Spreading calls the supplier. -/
  begins : spread type supplier world = (.done (.values state), called)
  /-- It makes no other call. -/
  calls : ∀ record : List (SpreadCall ε),
    spread type.spreading (Run.noted .supplier supplier) (world.noting record) =
      (.done (.values state), called.noting (record ++ [.supplier]))
  /-- A call of `next` makes one call of `next` of the sequence, and nothing else. -/
  pulls : ∀ {α : Type} (sequence : Iter (World ω κ) τ α) (steps : Nat),
    Reads ((iter sequence : Iter (World ω κ) (Spread ε τ) (Deferred ε α)).next steps)
      (Option.map .value <$> sequence.next steps)
  /-- A consumer that asks any number of times is told the elements of the sequence as values, in
  their order, and does the same as if it asked the sequence. -/
  reads : ∀ {α : Type} (sequence : Iter (World ω κ) τ α)
    (receive : Answer (Deferred ε α) → Run ω κ Unit) (steps calls : Nat),
    Reads ((iter sequence).asks receive steps calls)
      (List.map asValue <$> sequence.asks (fun answer => receive (asValue answer)) steps calls)
  /-- It ends for good where the sequence does. -/
  fused : ∀ {α : Type} (sequence : Iter (World ω κ) τ α),
    (iter sequence : Iter (World ω κ) (Spread ε τ) (Deferred ε α)).FusedFrom (.values state) ↔
      sequence.FusedFrom state
  /-- Draining hands out the elements of a finite sequence. -/
  drains : ∀ {α : Type} (sequence : Iter (World ω κ) τ α) (elements : List α)
    (last : τ × World ω κ), Act.Reaches sequence.collect (state, called) (.done elements) last →
      ∀ exit after, Act.Reaches (drained type supplier sequence) world exit after ↔
        exit = .done (.ok elements) ∧ after = last.2

/-- A supplier that has failed was called once, and its failure was looked up and stored once, which
has left the world at `stored`. -/
structure SpreadsFailure (type : FailureType ω κ ε) (supplier : Run ω κ (Except ε τ))
    (world : World ω κ) (failure : ε) (stored : World ω κ) : Prop where
  /-- Spreading calls the supplier and stores the failure. -/
  begins : spread type supplier world = (.done (.failed (some failure)), stored)
  /-- The supplier is called, the cancellation is looked up, and no other call is made. -/
  calls : ∀ record : List (SpreadCall ε),
    spread type.spreading (Run.noted .supplier supplier) (world.noting record) =
      (.done (.failed (some failure)),
        stored.noting (record ++ [.supplier, .hook (.cancellation failure)]))
  /-- The failure is given away once, by the first call. -/
  gives : ∀ {α : Type} (calls : Nat),
    (givenAway (some failure) (calls + 1) : List (Answer (Deferred ε α))) =
      .ok (some (.failure failure)) :: List.replicate calls (.ok none)
  /-- A consumer that asks any number of times is told that, and nothing else happens. -/
  reads : ∀ {α : Type} (sequence : Iter (World ω κ) τ α)
    (receive : Answer (Deferred ε α) → Run ω κ Unit) (steps calls : Nat),
    ((iter sequence).asks receive (steps + 1) calls).locally (.failed (some failure)) = (do
      forM (givenAway (some failure) calls) receive
      return givenAway (some failure) calls)
  /-- It ends for good. -/
  fused : ∀ {α : Type} (sequence : Iter (World ω κ) τ α),
    (iter sequence : Iter (World ω κ) (Spread ε τ) (Deferred ε α)).FusedFrom
      (.failed (some failure))
  /-- Draining hands out the failure. -/
  drains : ∀ {α : Type} (sequence : Iter (World ω κ) τ α) exit after,
    Act.Reaches (drained type supplier sequence) world exit after ↔
      exit = .done (.error failure) ∧ after = stored

section

variable {type : FailureType ω κ ε} {supplier : Run ω κ (Except ε τ)}
  {world called asked : World ω κ}

/-- The sequence of a supplier is spread as it is supplied. -/
theorem spread_of_value {state : τ} (hsupplier : supplier world = (.done (.ok state), called)) :
    spread type supplier world = (.done (.values state), called) := by
  have hcaptured : capture type supplier world = (.done (.value state), called) :=
    Act.bind_of_done hsupplier _
  rw [spread, Act.bind_of_done hcaptured]
  rfl

/-- The failure of a supplier is looked up and stored where the sequence is spread. -/
theorem spread_of_failure {failure : ε} {reported : Option Token}
    (hsupplier : supplier world = (.done (.error failure), called))
    (hfound : type.cancellation failure called = (.done reported, asked)) :
    spread type supplier world =
      (.done (.failed (some failure)), type.asserted reported asked) := by
  have hcaptured : capture type supplier world =
      (.done (.failure failure), type.asserted reported asked) := by
    rw [capture, Act.bind_of_done hsupplier]
    exact FailureType.defer_of_done hfound
  rw [spread, Act.bind_of_done hcaptured]
  rfl

/-- A supplier that supplies a sequence spreads its values. -/
theorem spreadsValues {state : τ} (hsupplier : supplier world = (.done (.ok state), called)) :
    SpreadsValues type supplier world state called where
  begins := spread_of_value hsupplier
  calls record := spread_of_value (Run.noted_of_done hsupplier record)
  pulls sequence steps := reads_next sequence steps
  reads sequence receive steps calls := reads_asks sequence receive steps calls
  fused sequence := fusedFrom_values sequence state
  drains sequence elements last hcollects exit after := by
    obtain ⟨-, steps, hcollected⟩ := hcollects
    have hdrained : drained type supplier sequence steps world =
        (.done (.ok elements), last.2) := by
      rw [drained, Act.bind_of_done (spread_of_value hsupplier),
        (reads_gather sequence steps).locally, Act.locally, map_eq_pure_bind,
        Act.bind_of_done hcollected]
      rfl
    exact drained_reaches_iff ⟨by simp, steps, hdrained⟩

/-- A supplier that fails spreads its failure. -/
theorem spreadsFailure {failure : ε} {reported : Option Token}
    (hsupplier : supplier world = (.done (.error failure), called))
    (hfound : type.cancellation failure called = (.done reported, asked)) :
    SpreadsFailure type supplier world failure (type.asserted reported asked) where
  begins := spread_of_failure hsupplier hfound
  calls record := by
    have hnoted : type.spreading.cancellation failure (called.noting (record ++ [.supplier])) =
        (.done reported,
          asked.noting (record ++ [.supplier, .hook (.cancellation failure)])) :=
      Run.noted_after hfound record [.supplier]
    rw [spread_of_failure (Run.noted_of_done hsupplier record) hnoted, type.spreading_asserted]
  gives calls := givenAway_some failure calls
  reads sequence receive steps calls := asks_failed sequence (some failure) receive steps calls
  fused sequence := fusedFrom_failed sequence (some failure)
  drains sequence exit after := by
    have hdrained : drained type supplier sequence 1 world =
        (.done (.error failure), type.asserted reported asked) := by
      rw [drained, Act.bind_of_done (spread_of_failure hsupplier hfound), gather_failed]
      rfl
    exact drained_reaches_iff ⟨by simp, 1, hdrained⟩

end

/-- Whatever a supplier returns, and whatever the look-up of its failure returns, spreading calls
the supplier once and stores its failure once, and what is read afterwards is the sequence or that
failure. Drained, it is the result of the supplier again, with the elements of the sequence in the
place of the sequence. -/
theorem spread_drains_back (type : FailureType ω κ ε) {supplier : Run ω κ (Except ε τ)}
    {result : Except ε τ} {world called : World ω κ}
    (hsupplier : supplier world = (.done result, called))
    (hlookup : ∀ failure, result = .error failure →
      ∃ reported asked, type.cancellation failure called = (.done reported, asked)) :
    (∀ state, result = .ok state → SpreadsValues type supplier world state called) ∧
      ∀ failure, result = .error failure →
        ∃ reported asked, type.cancellation failure called = (.done reported, asked) ∧
          SpreadsFailure type supplier world failure (type.asserted reported asked) := by
  constructor
  · rintro state rfl
    exact spreadsValues hsupplier
  · intro failure hresult
    obtain ⟨reported, asked, hfound⟩ := hlookup failure hresult
    subst hresult
    exact ⟨reported, asked, hfound, spreadsFailure hsupplier hfound⟩

end Spread

namespace Script

/-- A supplier that fails with a cancellation, and one that supplies a sequence and sets a token. -/
theorem spread_drains_back_halt :
    let type := Kind.halt.failureType
    let late : Fault := .halt (some ⟨1⟩) "late" 0 .empty
    let world : ScriptWorld := ⟨fun _ => false, #[], fun _ => 0⟩
    let fail : ScriptRun (Except Fault (List Value)) := pure (.error late)
    let supply : ScriptRun (Except Fault (List Value)) := do
      (⟨2⟩ : Token).cancel
      return .ok [.int 3, .int 4]
    Spread.SpreadsFailure type fail world late (type.asserted (some ⟨1⟩) world) ∧
      Spread.SpreadsValues type supply world [.int 3, .int 4] (world.setFlag ⟨2⟩ true) := by
  intro type late world fail supply
  constructor
  · obtain ⟨reported, asked, hfound, hspreads⟩ := (Spread.spread_drains_back type
      (show fail world = (.done (.error late), world) from rfl)
      (by rintro _ ⟨⟩; exact ⟨some ⟨1⟩, world, rfl⟩)).2 late rfl
    cases hfound
    exact hspreads
  · exact (Spread.spread_drains_back type
      (show supply world = (.done (.ok [.int 3, .int 4]), world.setFlag ⟨2⟩ true) from rfl)
      (by rintro _ ⟨⟩)).1 _ rfl

end Script

end Deferral
