import Deferral.Proofs.Pipeline.Serving

/-!
# Catching failures

`Iter.handling` yields the values of its source and hands each failure to a handler. The journal of
a consumer that asks any number of times shows that the handler calls and the yields together are
the items of the source in their order, and that a call of `next` pulls no further than the next
value or the end. So does the journal of a call that is left unfinished, up to where it was left;
and a call is answered wherever the source comes to a value or to its end, unless the handler does
not return. The same can be written as a flat map over what `Deferred.handling` makes of the items,
and the two agree call by call, up to the first end.
-/

namespace Deferral

variable {ω κ σ τ ε α : Type}

/-! ### What a journal shows of catching -/

namespace Note

/-- What is written down of a failure that is handled. -/
def handled (failure : ε) : List (Note (Deferred ε α) ε Unit α) :=
  [.pulled (some (.failure failure)), .called failure, .answered failure ()]

/-- The failures that the handler was called with and the values that the consumer was told, in the
order in which that came about. -/
def served (journal : List (Note (Deferred ε α) ε Unit α)) : List (Deferred ε α) :=
  journal.filterMap fun
    | .called failure => some (.failure failure)
    | .told (.ok (some element)) => some (.value element)
    | _ => none

/-- What was served up to some note was served before what was served after it. -/
theorem served_append (first second : List (Note (Deferred ε α) ε Unit α)) :
    served (first ++ second) = served first ++ served second := List.filterMap_append

/-- The values that were served are those that the consumer was told. -/
theorem values_served (journal : List (Note (Deferred ε α) ε Unit α)) :
    (served journal).filterMap Deferred.value? = yields journal := by
  rw [served, yields, List.filterMap_filterMap]
  refine congrArg (List.filterMap · journal) (funext fun note => ?_)
  rcases note with _ | _ | _ | _ | _ | _ <;> rfl

/-- The failures that were served are those that the handler was called with. -/
theorem failures_served (journal : List (Note (Deferred ε α) ε Unit α)) :
    (served journal).filterMap Deferred.failure? = calls journal := by
  rw [served, calls, List.filterMap_filterMap]
  refine congrArg (List.filterMap · journal) (funext fun note => ?_)
  rcases note with _ | _ | _ | _ | _ | _ <;> rfl

end Note

/-- What is written down in one call of `next`, and what the call comes to: the source is pulled for
failures, each of which is handled at once, and then for the next value or the end. -/
inductive Catches : List (Note (Deferred ε α) ε Unit α) → Answer α → Prop where
  | value (failures : List ε) (element : α) :
    Catches (failures.flatMap Note.handled ++ [.pulled (some (.value element))])
      (.ok (some element))
  | ended (failures : List ε) :
    Catches (failures.flatMap Note.handled ++ [.pulled none]) (.ok none)
  /-- The source panics. -/
  | broken (failures : List ε) (alarm : Alarm) :
    Catches (failures.flatMap Note.handled) (.error alarm)
  /-- The handler panics. -/
  | failed (failures : List ε) (failure : ε) (alarm : Alarm) :
    Catches (failures.flatMap Note.handled ++ [.pulled (some (.failure failure)), .called failure])
      (.error alarm)

/-- What is written down in one call of `next` that is left unfinished: it is left in a pull of the
source, or in a call of the handler. -/
inductive CatchesSoFar : List (Note (Deferred ε α) ε Unit α) → Prop where
  | pulling (failures : List ε) : CatchesSoFar (failures.flatMap Note.handled)
  | calling (failures : List ε) (failure : ε) :
    CatchesSoFar (failures.flatMap Note.handled ++
      [.pulled (some (.failure failure)), .called failure])

/-- Values are yielded and failures are handled, each once and in the order of the source. -/
structure Conserves (journal : List (Note (Deferred ε α) ε Unit α)) : Prop where
  /-- The handler calls and the yields, taken together, are the items of the source in their order:
  the handler is called with a failure after every earlier value has been yielded, and before any
  later one is. -/
  served : Note.served journal = Note.pulls journal
  /-- Exactly the values are yielded, in the order of the source. -/
  yields : Note.yields journal = (Note.pulls journal).filterMap Deferred.value?
  /-- The handler is called once with each failure, in the order of the source. -/
  calls : Note.calls journal = (Note.pulls journal).filterMap Deferred.failure?

/-- What a journal shows of catching, and of the answers that its consumer was given. -/
structure Caught (journal : List (Note (Deferred ε α) ε Unit α)) (answers : List (Answer α)) :
    Prop extends Conserves journal where
  /-- A call of `next` pulls the source up to and including the next value or the end, and hands
  each failure to the handler before it pulls again. -/
  turns : Journal Catches journal answers
  /-- The consumer is told the answers, and nothing else. -/
  tellings : Note.tellings journal = answers

/-- What a journal shows of catching where a call is left unfinished, or the consumer panics. -/
structure CaughtSoFar (journal : List (Note (Deferred ε α) ε Unit α)) : Prop
    extends Conserves journal where
  /-- Each call before the last was answered as it is otherwise, and the last was left in a pull of
  the source or in a call of the handler. -/
  turns : CutShort Catches CatchesSoFar journal

/-- A turn of the handling plan handles failures up to the next value or the end. -/
theorem Turn.catches {notes : List (Note (Deferred ε α) ε Unit α)} {answer : Answer α}
    (h : Turn Plan.handle notes answer) : Catches notes answer := by
  induction h with
  | ended => exact .ended []
  | broken alarm => exact .broken [] alarm
  | @passed item made hplan =>
    cases item <;> cases hplan
    exact .value [] made
  | @granted item argument make reply made hplan hmade =>
    cases item <;> cases hplan
    cases hmade
  | @failed item argument make hplan alarm =>
    cases item <;> cases hplan
    exact .failed [] argument alarm
  | @dropped item notes answer hplan _ ih => cases item <;> cases hplan
  | @refused item failure make reply notes answer hplan hmade _ ih =>
    cases item <;> cases hplan
    cases ih with
    | value failures element => exact .value (failure :: failures) element
    | ended failures => exact .ended (failure :: failures)
    | broken failures alarm => exact .broken (failure :: failures) alarm
    | failed failures last alarm => exact .failed (failure :: failures) last alarm

/-- One that has been begun has handled failures, it may be up to one in the handler's hands. -/
theorem Begun.catches {notes : List (Note (Deferred ε α) ε Unit α)}
    (h : Begun Plan.handle notes) : CatchesSoFar notes := by
  induction h with
  | pulling => exact .pulling []
  | @calling item argument make hplan =>
    cases item <;> cases hplan
    exact .calling [] argument
  | @dropped item notes hplan _ ih => cases item <;> cases hplan
  | @refused item failure make reply notes hplan hmade _ ih =>
    cases item <;> cases hplan
    cases ih with
    | pulling failures => exact .pulling (failure :: failures)
    | calling failures last => exact .calling (failure :: failures) last

namespace Note

/-- Failures that are handled are served. -/
theorem served_handled (failures : List ε) :
    served (failures.flatMap handled : List (Note (Deferred ε α) ε Unit α)) =
      pulls (failures.flatMap handled) := by
  induction failures with
  | nil => rfl
  | cons failure failures ih =>
    rw [List.flatMap_cons, served_append, pulls_append, ih]
    rfl

end Note

/-- A call of `next` serves the items that it pulls. -/
theorem Catches.served {notes : List (Note (Deferred ε α) ε Unit α)} {answer : Answer α}
    (h : Catches notes answer) :
    Note.served (notes ++ [.told answer]) = Note.pulls (notes ++ [.told answer]) := by
  cases h
  all_goals
    simp only [Note.served_append, Note.pulls_append, Note.served_handled, List.append_assoc]
    rfl

/-- So does one that is left unfinished. -/
theorem CatchesSoFar.served {notes : List (Note (Deferred ε α) ε Unit α)}
    (h : CatchesSoFar notes) : Note.served notes = Note.pulls notes := by
  cases h with
  | pulling failures => exact Note.served_handled failures
  | calling failures failure =>
    rw [Note.served_append, Note.pulls_append, Note.served_handled]
    rfl

/-- A journal in which each call catches conserves items. -/
theorem CutShort.conserves {journal : List (Note (Deferred ε α) ε Unit α)}
    (h : CutShort Catches CatchesSoFar journal) : Conserves journal := by
  have hserved : Note.served journal = Note.pulls journal :=
    h.reads Note.served Note.pulls (fun hone htwo => congr (congrArg _ hone) htwo)
      Note.served_append Note.pulls_append (fun _ _ hturn => hturn.served)
      fun _ hbegun => hbegun.served
  refine ⟨hserved, ?yields, ?calls⟩
  case yields => rw [← hserved, Note.values_served]
  case calls => rw [← hserved, Note.failures_served]

/-- A journal of turns of the handling plan shows all that is to be shown. -/
theorem Caught.of_turns {journal : List (Note (Deferred ε α) ε Unit α)}
    {answers : List (Answer α)} (h : Journal (Turn Plan.handle) journal answers) :
    Caught journal answers := by
  have hturns : Journal Catches journal answers := h.mono fun _ _ hturn => hturn.catches
  exact ⟨(hturns.cutShort (.pulling [])).conserves, hturns, h.tellings⟩

/-- So does one that is cut short. -/
theorem CaughtSoFar.of_turns {journal : List (Note (Deferred ε α) ε Unit α)}
    (h : CutShort (Turn Plan.handle) (Begun Plan.handle) journal) : CaughtSoFar journal := by
  have hturns : CutShort Catches CatchesSoFar journal :=
    h.mono (fun _ _ hturn => hturn.catches) fun _ hbegun => hbegun.catches
  exact ⟨hturns.conserves, hturns⟩

/-- Values are yielded, and the handler is called with failures. -/
def Recipe.handle : Recipe σ (Deferred ε α) ε Unit α := ofPlan Plan.handle

namespace Iter

/-- Handling goes by its plan. -/
theorem handling_step (iter : Iter σ τ (Deferred ε α)) (handler : ε → Act σ Unit) :
    (iter.handling handler).step = (iter.planned Plan.handle handler).step := by
  refine bind_congr fun step => ?_
  rcases step with (element | failure) | _ | _
  case yield.failure =>
    simp only [Plan.handle, Plan.carry, Act.beside_bind, Act.beside_pure, bind_assoc, pure_bind]
  all_goals rfl

/-- So it goes by the recipe of its plan. -/
theorem handling_step_carry (iter : Iter σ τ (Deferred ε α)) (handler : ε → Act σ Unit) :
    (iter.handling handler).step = (iter.keepSome (Recipe.handle.carry handler)).step := by
  rw [handling_step, planned_eq, Recipe.handle]

/-- Catching with the adapter and catching item by item in a flat map, with or without pieces, tell
a consumer that stops at the first end the same, call by call, in the same world and with the source
in the same state. -/
def CatchesAlike (iter : Iter (World ω κ) τ (Deferred ε α)) (handler : ε → Run ω κ Unit)
    (receive : Answer α → Run ω κ Unit) : Prop :=
  ∀ calls,
    Act.Agree (fun steps => (iter.handling handler).asksToEnd receive steps calls)
      (fun steps => ((iter.flatMap (Deferred.handling handler) ofOption).asksToEnd receive steps
        calls).through Flat.start Flat.source) ∧
    Act.Agree (fun steps => (iter.handling handler).asksToEnd receive steps calls)
      (fun steps => ((iter.flatOption (Deferred.handling handler)).asksToEnd receive steps
        calls).through (·, false) Prod.fst)

/-- The adapter and the flat maps catch alike. -/
theorem catchesAlike (iter : Iter (World ω κ) τ (Deferred ε α)) (handler : ε → Run ω κ Unit)
    (receive : Answer α → Run ω κ Unit) : iter.CatchesAlike handler receive := by
  have hplan : ∀ item : Deferred ε α,
      (Plan.handle item).carry handler = Deferred.handling handler item := by
    rintro (element | failure) <;> rfl
  have hstep : (iter.handling handler).step =
      (iter.keepSome (Deferred.handling handler)).step := by
    rw [handling_step, planned, funext hplan]
  intro calls
  simp only [asksToEnd_congr hstep]
  exact keepSome_agrees iter (Deferred.handling handler) receive calls

/-- Catching conserves items: for every source, handler and consumer, and any number of calls of
`next`, the values are yielded and the failures are handled, each once and in the order of the
source, and no call pulls further than the next value or the end. This is so up to where a call is
left unfinished, too; and a call is answered exactly where the source comes to a value or to its
end, or where there is a panic. Up to the first end, a flat map that catches item by item agrees
with it call by call; and the two still agree with every pull and every call of the handler written
down. -/
theorem handling_conserves (iter : Iter (World ω κ) τ (Deferred ε α)) (handler : ε → Run ω κ Unit)
    (receive : Answer α → Run ω κ Unit) :
    (∀ steps calls, Act.Writes (Act.Reports Caught CaughtSoFar)
      ((iter.noted.handling (Note.calling handler)).asks (Note.telling receive) steps calls)
      ((iter.handling handler).asks receive steps calls)) ∧
    (iter.handling handler).Responds iter Recipe.handle handler ∧
    iter.CatchesAlike handler receive ∧
    ∀ watch : Watch ω,
      (iter.watched watch.pulled).CatchesAlike (watch.calls 0 handler) receive := by
  refine ⟨fun steps calls => ?_, .of_step (handling_step_carry iter handler),
    iter.catchesAlike handler receive,
    fun watch => (iter.watched watch.pulled).catchesAlike (watch.calls 0 handler) receive⟩
  rw [asks_congr (handling_step iter handler),
    asks_congr (handling_step iter.noted (Note.calling handler))]
  exact (asks_writes iter handler receive steps calls).reports (fun _ _ h => .of_turns h)
    fun _ h => .of_turns h

end Iter

end Deferral
