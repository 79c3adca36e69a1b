import Deferral.Proofs.Pipeline.Serving

/-!
# Filtering by value

`Iter.sift` keeps the values that pass a test, and every failure. It is the filter with the test
lifted to deferred values, so the two pull, test and yield alike at every call of `next`, and report
the same bounds. The journal of a consumer that asks any number of times, past ends and panics,
shows that every failure is yielded unchanged and that every value is tested once. So does the
journal of a call that is left unfinished, up to where it was left; and a call is answered wherever
the source comes to an item that is kept or to its end, unless the test does not return.
-/

namespace Deferral

variable {ω κ σ τ ε α : Type}

namespace Iter

/-- Keeping the values that pass a test is filtering with the test lifted to deferred values. -/
theorem sift_eq_filter (iter : Iter (World ω κ) τ (Deferred ε α)) (test : α → Run ω κ Bool) :
    iter.sift test = iter.filter (Deferred.accepted test) := by
  have hstep : (iter.sift test).step = (iter.filter (Deferred.accepted test)).step := by
    refine bind_congr fun step => ?_
    rcases step with (element | failure) | _ | _ <;> rfl
  exact congrArg (Iter.mk · _) hstep

/-- Sifting goes by its plan. -/
theorem sift_step (iter : Iter σ τ (Deferred ε α)) (test : α → Act σ Bool) :
    (iter.sift test).step = (iter.planned Plan.sift test).step := by
  refine bind_congr fun step => ?_
  rcases step with (element | failure) | _ | _
  case yield.value =>
    simp only [Plan.sift, Plan.carry, Act.beside_bind, Act.beside_pure, bind_assoc, pure_bind]
    refine bind_congr fun passed => ?_
    cases passed <;> rfl
  all_goals rfl

end Iter

namespace Note

/-- The failures that were pulled and the values that were accepted, in the order in which that
came about. -/
def kept (journal : List (Note (Deferred ε α) α Bool (Deferred ε α))) : List (Deferred ε α) :=
  journal.filterMap fun
    | .pulled (some (.failure e)) => some (.failure e)
    | .answered a true => some (.value a)
    | _ => none

/-- What was kept up to some note was kept before what was kept after it. -/
@[simp] theorem kept_append (first second : List (Note (Deferred ε α) α Bool (Deferred ε α))) :
    kept (first ++ second) = kept first ++ kept second := List.filterMap_append

end Note

/-- Failures and accepted values are yielded, each once and in the order of the source. -/
structure Sifts (journal : List (Note (Deferred ε α) α Bool (Deferred ε α))) : Prop where
  /-- Exactly the failures and the accepted values are yielded. -/
  yields : Note.yields journal = Note.kept journal
  /-- They are yielded unchanged and in the order of the source. -/
  unchanged : (Note.yields journal).Sublist (Note.pulls journal)
  /-- Not one failure is missing. -/
  failures : (Note.yields journal).filterMap Deferred.failure? =
    (Note.pulls journal).filterMap Deferred.failure?
  /-- The test is called once on each value, in the order of the source, and on nothing else. -/
  calls : Note.calls journal = (Note.pulls journal).filterMap Deferred.value?

/-- What a journal shows of a filter by value, and of the answers that its consumer was given. -/
structure Sifted (journal : List (Note (Deferred ε α) α Bool (Deferred ε α)))
    (answers : List (Answer (Deferred ε α))) : Prop extends Sifts journal where
  /-- Each call of `next` is a turn: values that are tested and refused, and then what is yielded,
  the end, or a panic. -/
  turns : Journal (Turn Plan.sift) journal answers
  /-- The consumer is told the answers, and nothing else. -/
  tellings : Note.tellings journal = answers

/-- What a journal shows of a filter by value where a call is left unfinished, or the consumer
panics. -/
structure SiftedSoFar (journal : List (Note (Deferred ε α) α Bool (Deferred ε α))) : Prop
    extends Sifts journal where
  /-- Each call before the last was such a turn. The last was left behind values that were tested
  and refused, in a pull of the source or in a call of the test. -/
  turns : CutShort (Turn Plan.sift) (Begun Plan.sift) journal

namespace Turn

variable {notes : List (Note (Deferred ε α) α Bool (Deferred ε α))}
  {answer : Answer (Deferred ε α)}

/-- A turn of a filter ends with what it yields, a failure as pulled or a value as accepted. -/
theorem sift_kept (h : Turn Plan.sift notes answer) :
    Note.yields (notes ++ [.told answer]) = Note.kept (notes ++ [.told answer]) := by
  induction h with
  | ended => rfl
  | broken alarm => rfl
  | @passed item made hplan =>
    cases item <;> cases hplan
    rfl
  | @granted item argument make reply made hplan hmade =>
    cases item <;> cases hplan
    cases reply <;> cases hmade
    rfl
  | @failed item argument make hplan alarm =>
    cases item <;> cases hplan
    rfl
  | @dropped item notes answer hplan _ ih => cases item <;> cases hplan
  | @refused item argument make reply notes answer hplan hmade _ ih =>
    cases item <;> cases hplan
    cases reply <;> cases hmade
    exact ih

/-- What a turn of a filter yields has been pulled in it. -/
theorem sift_sublist (h : Turn Plan.sift notes answer) :
    (Note.yields (notes ++ [.told answer])).Sublist (Note.pulls (notes ++ [.told answer])) := by
  induction h with
  | ended => exact .slnil
  | broken alarm => exact .slnil
  | @passed item made hplan =>
    cases item <;> cases hplan
    exact .refl _
  | @granted item argument make reply made hplan hmade =>
    cases item <;> cases hplan
    cases reply <;> cases hmade
    exact .refl _
  | failed hplan alarm => exact List.nil_sublist _
  | dropped hplan _ ih => exact ih.cons _
  | refused hplan _ _ ih => exact ih.cons _

end Turn

/-- A turn of a filter that has been begun has kept nothing. -/
theorem Begun.sift_kept {notes : List (Note (Deferred ε α) α Bool (Deferred ε α))}
    (h : Begun Plan.sift notes) : Note.yields notes = Note.kept notes := by
  induction h with
  | pulling => rfl
  | @calling item argument make hplan =>
    cases item <;> cases hplan
    rfl
  | @dropped item notes hplan _ ih => cases item <;> cases hplan
  | @refused item argument make reply notes hplan hmade _ ih =>
    cases item <;> cases hplan
    cases reply <;> cases hmade
    exact ih

/-- The failures among what was kept are the failures that were pulled. -/
theorem Note.failures_kept (journal : List (Note (Deferred ε α) α Bool (Deferred ε α))) :
    (Note.kept journal).filterMap Deferred.failure? =
      (Note.pulls journal).filterMap Deferred.failure? := by
  rw [Note.kept, Note.pulls, List.filterMap_filterMap, List.filterMap_filterMap]
  refine congrArg (List.filterMap · journal) (funext fun note => ?_)
  rcases note with (_ | _ | _) | _ | ⟨_, _ | _⟩ | _ <;> rfl

/-- The argument of the test is the value, if there is one. -/
theorem Plan.argument?_sift (item : Deferred ε α) : (Plan.sift item).argument? = item.value? := by
  cases item <;> rfl

/-- A journal in which each call is a turn of a filter sifts. -/
theorem CutShort.sifts {journal : List (Note (Deferred ε α) α Bool (Deferred ε α))}
    (h : CutShort (Turn Plan.sift) (Begun Plan.sift) journal) : Sifts journal := by
  have hkept : Note.yields journal = Note.kept journal :=
    h.reads Note.yields Note.kept (fun hone htwo => congr (congrArg _ hone) htwo)
      Note.yields_append Note.kept_append (fun _ _ hturn => hturn.sift_kept)
      fun _ hbegun => hbegun.sift_kept
  have hunchanged : (Note.yields journal).Sublist (Note.pulls journal) :=
    h.reads Note.yields Note.pulls (fun hone htwo => hone.append htwo)
      Note.yields_append Note.pulls_append (fun _ _ hturn => hturn.sift_sublist)
      fun notes hbegun => hbegun.yields ▸ List.nil_sublist (Note.pulls notes)
  refine ⟨hkept, hunchanged, ?failures, ?calls⟩
  case failures => rw [hkept, Note.failures_kept]
  case calls => simpa only [Plan.argument?_sift] using h.calls

/-- A journal of turns of a filter shows all that is to be shown. -/
theorem Sifted.of_turns {journal : List (Note (Deferred ε α) α Bool (Deferred ε α))}
    {answers : List (Answer (Deferred ε α))} (h : Journal (Turn Plan.sift) journal answers) :
    Sifted journal answers :=
  ⟨(h.cutShort .pulling).sifts, h, h.tellings⟩

/-- Failures are yielded, and the test is called with values. Those that it accepts are yielded. -/
def Recipe.sift : Recipe σ (Deferred ε α) α Bool (Deferred ε α) := ofPlan Plan.sift

namespace Iter

/-- Sifting goes by the recipe of its plan. -/
theorem sift_step_carry (iter : Iter σ τ (Deferred ε α)) (test : α → Act σ Bool) :
    (iter.sift test).step = (iter.keepSome (Recipe.sift.carry test)).step := by
  rw [sift_step, planned_eq, Recipe.sift]

/-- Filtering by value is the filter with the lifted test, from one call of `next` to the other. It
yields every failure unchanged, and the values that the test accepts, in the order of the source;
and it tests each value that it pulls once, in the order of the source, and nothing else. This is so
up to where a call is left unfinished, too; and a call is answered exactly where the source comes to
an item that is kept or to its end, or where there is a panic. It holds for every source, also one
that goes on after an end, and for every test and every consumer. -/
theorem sift_lossless (iter : Iter (World ω κ) τ (Deferred ε α)) (test : α → Run ω κ Bool) :
    iter.sift test = iter.filter (Deferred.accepted test) ∧
    (iter.sift test).Responds iter Recipe.sift test ∧
    ∀ (receive : Answer (Deferred ε α) → Run ω κ Unit) (steps calls : Nat),
      Act.Writes (Act.Reports Sifted SiftedSoFar)
        ((iter.noted.sift (Note.calling test)).asks (Note.telling receive) steps calls)
        ((iter.sift test).asks receive steps calls) := by
  refine ⟨sift_eq_filter iter test, .of_step (sift_step_carry iter test),
    fun receive steps calls => ?_⟩
  rw [asks_congr (sift_step iter test), asks_congr (sift_step iter.noted (Note.calling test))]
  exact (asks_writes iter test receive steps calls).reports (fun _ _ h => .of_turns h)
    fun _ h => ⟨h.sifts, h⟩

end Iter

end Deferral
