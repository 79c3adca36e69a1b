import Deferral.Proofs.Pipeline.Feed

/-!
# Journals of pipelines

An adapter that makes at most one element of each is told by its plan: what it passes on of an item,
and with what argument it calls its callable before. The source, the callable and the consumer of
such an adapter each write down what they do, in one journal and in the order in which they do it.
Writing it down changes nothing else, and what is written down in one call of `next` is a turn of
the plan: items of which nothing is passed on, each with its call if it takes one, and then the item
that is yielded, the end, or a panic. A call that is left unfinished has begun such a turn, and no
more.

The consumer asks as often as it likes. It goes on after an end and after a panic, and it may do
something of its own with each answer.
-/

namespace Deferral

variable {σ τ ν ι ε α β γ : Type}

/-- What a call of `next` comes to: an element, an end, or a panic. -/
abbrev Answer (γ : Type) : Type := Except Alarm (Option γ)

/-- An entry of a journal. -/
inductive Note (ι α β γ : Type) where
  /-- A pull of the source came to an item, or to an end. -/
  | pulled (item : Option ι)
  /-- The callable is called. -/
  | called (argument : α)
  /-- The call returned. -/
  | answered (argument : α) (answer : β)
  /-- A call of `next` came to an answer. -/
  | told (answer : Answer γ)

/-- What an adapter does with an item: it passes something on, or nothing, or it calls its callable
first and passes on what it makes of the answer. -/
inductive Plan (α β γ : Type) where
  | pass (made : Option γ)
  | consult (argument : α) (make : β → Option γ)

namespace Plan

/-- The argument of the call that an item takes, if it takes one. -/
def argument? : Plan α β γ → Option α
  | pass _ => none
  | consult argument _ => some argument

/-- Do what is planned. -/
def carry (f : α → Act σ β) : Plan α β γ → Act σ (Option γ)
  | pass made => pure made
  | consult argument make => do return make (← f argument)

/-- Values are tested, and those that pass the test go on, as every failure does. -/
def sift : Deferred ε α → Plan α Bool (Deferred ε α)
  | .value a => .consult a fun passed => if passed then some (.value a) else none
  | .failure e => .pass (some (.failure e))

/-- Values go on, and failures are handed to the handler. -/
def handle : Deferred ε α → Plan ε Unit α
  | .value a => .pass (some a)
  | .failure e => .consult e fun _ => none

end Plan

/-! ### What is read in a journal -/

namespace Note

/-- The items that the source was pulled for. -/
def pulls (journal : List (Note ι α β γ)) : List ι :=
  journal.filterMap fun
    | .pulled item => item
    | _ => none

/-- The arguments of the calls. -/
def calls (journal : List (Note ι α β γ)) : List α :=
  journal.filterMap fun
    | .called argument => some argument
    | _ => none

/-- The elements that the consumer was told. -/
def yields (journal : List (Note ι α β γ)) : List γ :=
  journal.filterMap fun
    | .told (.ok element) => element
    | _ => none

/-- The answers that the consumer was told. -/
def tellings (journal : List (Note ι α β γ)) : List (Answer γ) :=
  journal.filterMap fun
    | .told answer => some answer
    | _ => none

/-- The items of two journals are pulled one after the other. -/
@[simp] theorem pulls_append (first second : List (Note ι α β γ)) :
    pulls (first ++ second) = pulls first ++ pulls second := List.filterMap_append

/-- The calls of two journals are made one after the other. -/
@[simp] theorem calls_append (first second : List (Note ι α β γ)) :
    calls (first ++ second) = calls first ++ calls second := List.filterMap_append

/-- The elements of two journals are told one after the other. -/
@[simp] theorem yields_append (first second : List (Note ι α β γ)) :
    yields (first ++ second) = yields first ++ yields second := List.filterMap_append

end Note

/-! ### Writing a journal -/

/-- Write a note behind the others. -/
def Act.write (note : ν) : Act (List ν × σ) Unit := .change fun (journal, world) =>
  (journal ++ [note], world)

/-- What is written down of a step of a source. A step that skips is not the end of a pull. -/
def Exit.pulled : Exit (Step ι) → List (Note ι α β γ)
  | .done (.yield item) => [.pulled (some item)]
  | .done .skip => []
  | .done .finish => [.pulled none]
  | .panicked _ => []
  | .unfinished => []

/-- Write down what each pull of a source comes to. -/
def Iter.noted (iter : Iter σ τ ι) : Iter (List (Note ι α β γ) × σ) τ ι where
  step := fun (state, journal, world) =>
    let (exit, state, world) := iter.step (state, world)
    (exit, state, journal ++ exit.pulled, world)
  hint := iter.hint

/-- Write down each call of a callable, and each answer. -/
def Note.calling (f : α → Act σ β) (argument : α) : Act (List (Note ι α β γ) × σ) β := do
  Act.write (.called argument)
  let answer ← (f argument).beside
  Act.write (.answered argument answer)
  return answer

/-- Write down what the consumer is told. -/
def Note.telling (receive : Answer γ → Act σ Unit) (answer : Answer γ) :
    Act (List (Note ι α β γ) × σ) Unit := do
  Act.write (.told answer)
  (receive answer).beside

/-- Ask for the next element so many times, whatever the answers are, and hand each of them to
`receive`. -/
def Iter.asks (iter : Iter σ τ γ) (receive : Answer γ → Act σ Unit) (steps : Nat) :
    Nat → Act (τ × σ) (List (Answer γ))
  | 0 => pure []
  | calls + 1 => do
    let answer ← (iter.next steps).catchPanic
    (receive answer).beside
    return answer :: (← iter.asks receive steps calls)

/-! ### Turns of a plan -/

/-- What is written down in one call of `next`, and what the call comes to. -/
inductive Turn (plan : ι → Plan α β γ) : List (Note ι α β γ) → Answer γ → Prop where
  /-- The source reports an end. -/
  | ended : Turn plan [.pulled none] (.ok none)
  /-- The source panics. -/
  | broken (alarm : Alarm) : Turn plan [] (.error alarm)
  /-- An item is passed on at once. -/
  | passed {item : ι} {made : γ} (hplan : plan item = .pass (some made)) :
    Turn plan [.pulled (some item)] (.ok (some made))
  /-- An item is passed on after a call. -/
  | granted {item : ι} {argument : α} {make : β → Option γ} {answer : β} {made : γ}
    (hplan : plan item = .consult argument make) (hmade : make answer = some made) :
    Turn plan [.pulled (some item), .called argument, .answered argument answer] (.ok (some made))
  /-- The callable panics. -/
  | failed {item : ι} {argument : α} {make : β → Option γ}
    (hplan : plan item = .consult argument make) (alarm : Alarm) :
    Turn plan [.pulled (some item), .called argument] (.error alarm)
  /-- An item is dropped at once, and the call goes on. -/
  | dropped {item : ι} {notes : List (Note ι α β γ)} {answer : Answer γ}
    (hplan : plan item = .pass none) (hrest : Turn plan notes answer) :
    Turn plan (.pulled (some item) :: notes) answer
  /-- An item is dropped after a call, and the call goes on. -/
  | refused {item : ι} {argument : α} {make : β → Option γ} {reply : β}
    {notes : List (Note ι α β γ)} {answer : Answer γ}
    (hplan : plan item = .consult argument make) (hmade : make reply = none)
    (hrest : Turn plan notes answer) :
    Turn plan (.pulled (some item) :: .called argument :: .answered argument reply :: notes) answer

/-- What is written down in one call of `next` that is left unfinished: items that are dropped, and
it may be a last one with a call that does not return. -/
inductive Begun (plan : ι → Plan α β γ) : List (Note ι α β γ) → Prop where
  /-- It is left in a pull of the source. -/
  | pulling : Begun plan []
  /-- It is left in a call of the callable. -/
  | calling {item : ι} {argument : α} {make : β → Option γ}
    (hplan : plan item = .consult argument make) :
    Begun plan [.pulled (some item), .called argument]
  /-- An item is dropped at once, and the call goes on. -/
  | dropped {item : ι} {notes : List (Note ι α β γ)} (hplan : plan item = .pass none)
    (hrest : Begun plan notes) : Begun plan (.pulled (some item) :: notes)
  /-- An item is dropped after a call, and the call goes on. -/
  | refused {item : ι} {argument : α} {make : β → Option γ} {reply : β}
    {notes : List (Note ι α β γ)} (hplan : plan item = .consult argument make)
    (hmade : make reply = none) (hrest : Begun plan notes) :
    Begun plan (.pulled (some item) :: .called argument :: .answered argument reply :: notes)

/-- Notes that may stand before the rest of a call of `next`. -/
structure Passes (plan : ι → Plan α β γ) (notes : List (Note ι α β γ)) : Prop where
  turn : ∀ rest answer, Turn plan rest answer → Turn plan (notes ++ rest) answer
  begun : ∀ rest, Begun plan rest → Begun plan (notes ++ rest)

/-- A journal of calls of `next`, each of which writes its turn and then tells its answer. -/
inductive Journal (turn : List (Note ι α β γ) → Answer γ → Prop) :
    List (Note ι α β γ) → List (Answer γ) → Prop where
  | nil : Journal turn [] []
  | cons {notes rest : List (Note ι α β γ)} {answer : Answer γ} {answers : List (Answer γ)}
    (hturn : turn notes answer) (hrest : Journal turn rest answers) :
    Journal turn (notes ++ .told answer :: rest) (answer :: answers)

/-- A journal of such calls that is cut short: behind whole turns stands what was begun last. -/
inductive CutShort (turn : List (Note ι α β γ) → Answer γ → Prop)
    (begun : List (Note ι α β γ) → Prop) : List (Note ι α β γ) → Prop where
  | last {notes : List (Note ι α β γ)} (hbegun : begun notes) : CutShort turn begun notes
  | cons {notes rest : List (Note ι α β γ)} {answer : Answer γ} (hturn : turn notes answer)
    (hrest : CutShort turn begun rest) : CutShort turn begun (notes ++ .told answer :: rest)

section

variable {turn other : List (Note ι α β γ) → Answer γ → Prop}
  {begun outset : List (Note ι α β γ) → Prop} {journal : List (Note ι α β γ)}
  {answers : List (Answer γ)}

/-- A journal of turns is a journal of whatever the turns are. -/
theorem Journal.mono (h : Journal turn journal answers)
    (hturn : ∀ notes answer, turn notes answer → other notes answer) :
    Journal other journal answers := by
  induction h with
  | nil => exact .nil
  | cons hfirst _ ih => exact .cons (hturn _ _ hfirst) ih

/-- So is one that is cut short. -/
theorem CutShort.mono (h : CutShort turn begun journal)
    (hturn : ∀ notes answer, turn notes answer → other notes answer)
    (hbegun : ∀ notes, begun notes → outset notes) : CutShort other outset journal := by
  induction h with
  | last hlast => exact .last (hbegun _ hlast)
  | cons hfirst _ ih => exact .cons (hturn _ _ hfirst) ih

/-- A journal of whole turns is cut short where nothing has been begun. -/
theorem Journal.cutShort (h : Journal turn journal answers) (hbegun : begun []) :
    CutShort turn begun journal := by
  induction h with
  | nil => exact .last hbegun
  | cons hturn _ ih => exact .cons hturn ih

/-- Two readings that go through a journal note by note are related as they are in each turn with
its answer, and in what was begun last. -/
theorem CutShort.reads {δ : Type} {related : List δ → List δ → Prop}
    (h : CutShort turn begun journal) (first second : List (Note ι α β γ) → List δ)
    (happend : ∀ {one two three four}, related one two → related three four →
      related (one ++ three) (two ++ four))
    (hfirst : ∀ notes rest, first (notes ++ rest) = first notes ++ first rest)
    (hsecond : ∀ notes rest, second (notes ++ rest) = second notes ++ second rest)
    (hturn : ∀ notes answer, turn notes answer →
      related (first (notes ++ [.told answer])) (second (notes ++ [.told answer])))
    (hbegun : ∀ notes, begun notes → related (first notes) (second notes)) :
    related (first journal) (second journal) := by
  induction h with
  | last hlast => exact hbegun _ hlast
  | @cons notes rest answer hnotes _ ih =>
    rw [List.append_cons, hfirst, hsecond]
    exact happend (hturn notes answer hnotes) ih

end

/-- The consumer is told nothing before a turn is over. -/
theorem Turn.tellings {plan : ι → Plan α β γ} {notes : List (Note ι α β γ)} {answer : Answer γ}
    (h : Turn plan notes answer) : Note.tellings notes = [] := by
  induction h with
  | dropped _ _ ih => exact ih
  | refused _ _ _ ih => exact ih
  | _ => rfl

/-- Nothing is yielded in a turn that has only been begun. -/
theorem Begun.yields {plan : ι → Plan α β γ} {notes : List (Note ι α β γ)}
    (h : Begun plan notes) : Note.yields notes = [] := by
  induction h with
  | pulling => rfl
  | calling hplan => rfl
  | dropped _ _ ih => exact ih
  | refused _ _ _ ih => exact ih

/-- The consumer is told the answers, and nothing else. -/
theorem Journal.tellings {plan : ι → Plan α β γ} {journal : List (Note ι α β γ)}
    {answers : List (Answer γ)} (h : Journal (Turn plan) journal answers) :
    Note.tellings journal = answers := by
  induction h with
  | nil => rfl
  | @cons notes rest answer answers hturn _ ih =>
    have hnotes : Note.tellings (notes ++ .told answer :: rest) =
        Note.tellings notes ++ answer :: Note.tellings rest := List.filterMap_append
    rw [hnotes, hturn.tellings, ih, List.nil_append]

/-- Every turn calls the callable with the arguments that the items pulled in it take. -/
theorem Turn.calls {plan : ι → Plan α β γ} {notes : List (Note ι α β γ)} {answer : Answer γ}
    (h : Turn plan notes answer) :
    Note.calls notes = (Note.pulls notes).filterMap fun item => (plan item).argument? := by
  induction h with
  | ended => rfl
  | broken alarm => rfl
  | passed hplan => simp [Note.calls, Note.pulls, Plan.argument?, hplan]
  | granted hplan _ => simp [Note.calls, Note.pulls, Plan.argument?, hplan]
  | failed hplan alarm => simp [Note.calls, Note.pulls, Plan.argument?, hplan]
  | dropped hplan _ ih => simpa [Note.calls, Note.pulls, Plan.argument?, hplan] using ih
  | refused hplan _ _ ih => simpa [Note.calls, Note.pulls, Plan.argument?, hplan] using ih

/-- So does a turn that has been begun. -/
theorem Begun.calls {plan : ι → Plan α β γ} {notes : List (Note ι α β γ)}
    (h : Begun plan notes) :
    Note.calls notes = (Note.pulls notes).filterMap fun item => (plan item).argument? := by
  induction h with
  | pulling => rfl
  | calling hplan => simp [Note.calls, Note.pulls, Plan.argument?, hplan]
  | dropped hplan _ ih => simpa [Note.calls, Note.pulls, Plan.argument?, hplan] using ih
  | refused hplan _ _ ih => simpa [Note.calls, Note.pulls, Plan.argument?, hplan] using ih

/-- The callable is called once for each item that takes a call, in the order of the items, and
never otherwise. -/
theorem CutShort.calls {plan : ι → Plan α β γ} {journal : List (Note ι α β γ)}
    (h : CutShort (Turn plan) (Begun plan) journal) :
    Note.calls journal = (Note.pulls journal).filterMap fun item => (plan item).argument? := by
  refine h.reads Note.calls (fun notes => (Note.pulls notes).filterMap _) ?related
    Note.calls_append (fun notes rest => ?append) (fun notes answer hturn => ?turn)
    fun notes hbegun => hbegun.calls
  case related =>
    intro _ _ _ _ hone htwo
    rw [hone, htwo]
  case append => rw [Note.pulls_append, List.filterMap_append]
  case turn =>
    rw [Note.calls_append, Note.pulls_append, List.filterMap_append, hturn.calls]
    rfl

/-! ### Writing a journal changes nothing else -/

namespace Act

/-- In a world with a journal, a computation ends as it does without one, and writes behind the
journal what `law` says of its exit. -/
def Writes (law : Exit α → List ν → Prop) (noted : Act (τ × List ν × σ) α)
    (plain : Act (τ × σ) α) : Prop :=
  ∀ state journal world exit after last, plain (state, world) = (exit, after, last) →
    ∃ notes, noted (state, journal, world) = (exit, after, journal ++ notes, last) ∧ law exit notes

/-- To return a value writes nothing. -/
theorem Writes.pure {law : Exit α → List ν → Prop} {a : α} (h : law (.done a) []) :
    Writes law (Pure.pure a : Act (τ × List ν × σ) α) (Pure.pure a) := by
  rintro state journal world _ _ _ ⟨⟩
  exact ⟨[], by rw [List.append_nil]; rfl, h⟩

/-- A sequence writes what its first part writes, and then what its second part does. -/
theorem Writes.bind {law : Exit α → List ν → Prop} {target : Exit β → List ν → Prop}
    {noted : Act (τ × List ν × σ) α} {plain : Act (τ × σ) α} {next : α → Act (τ × List ν × σ) β}
    {other : α → Act (τ × σ) β} (h : Writes law noted plain)
    (hnext : ∀ a notes, law (.done a) notes →
      Writes (fun exit more => target exit (notes ++ more)) (next a) (other a))
    (hpanicked : ∀ alarm notes, law (.panicked alarm) notes → target (.panicked alarm) notes)
    (hunfinished : ∀ notes, law .unfinished notes → target .unfinished notes) :
    Writes target (noted >>= next) (plain >>= other) := by
  intro state journal world exit after last hends
  rcases hstart : plain (state, world) with ⟨a | alarm | _, middle, place⟩
  · obtain ⟨notes, hnotes, hlaw⟩ := h state journal world _ _ _ hstart
    rw [bind_of_done hstart] at hends
    obtain ⟨more, hmore, htarget⟩ := hnext a notes hlaw middle (journal ++ notes) place _ _ _ hends
    refine ⟨notes ++ more, ?_, htarget⟩
    rw [bind_of_done hnotes, hmore, List.append_assoc]
  · obtain ⟨notes, hnotes, hlaw⟩ := h state journal world _ _ _ hstart
    rw [bind_of_panicked hstart] at hends
    cases hends
    exact ⟨notes, bind_of_panicked hnotes next, hpanicked alarm notes hlaw⟩
  · obtain ⟨notes, hnotes, hlaw⟩ := h state journal world _ _ _ hstart
    rw [bind_of_unfinished hstart] at hends
    cases hends
    exact ⟨notes, bind_of_unfinished hnotes next, hunfinished notes hlaw⟩

/-- What is written down of a computation: a report on its result if it is done, and otherwise what
there is of one. -/
def Reports (report : List ν → α → Prop) (cut : List ν → Prop) : Exit α → List ν → Prop
  | .done a, notes => report notes a
  | .panicked _, notes => cut notes
  | .unfinished, notes => cut notes

/-- What is written down says whatever follows from it. -/
theorem Writes.reports {report other : List ν → α → Prop} {first second : List ν → Prop}
    {noted : Act (τ × List ν × σ) α} {plain : Act (τ × σ) α}
    (h : Writes (Reports report first) noted plain)
    (hreport : ∀ notes a, report notes a → other notes a)
    (hcut : ∀ notes, first notes → second notes) :
    Writes (Reports other second) noted plain := by
  intro state journal world exit after last hends
  obtain ⟨notes, hnotes, hlaw⟩ := h state journal world exit after last hends
  refine ⟨notes, hnotes, ?_⟩
  cases exit with
  | done a => exact hreport notes a hlaw
  | panicked alarm => exact hcut notes hlaw
  | unfinished => exact hcut notes hlaw

/-- A panic that is caught is a result like the others. -/
theorem Writes.catchPanic {law : Exit α → List ν → Prop} {report : List ν → Except Alarm α → Prop}
    {cut : List ν → Prop} {noted : Act (τ × List ν × σ) α} {plain : Act (τ × σ) α}
    (h : Writes law noted plain)
    (hdone : ∀ a notes, law (.done a) notes → report notes (.ok a))
    (hpanicked : ∀ alarm notes, law (.panicked alarm) notes → report notes (.error alarm))
    (hunfinished : ∀ notes, law .unfinished notes → cut notes) :
    Writes (Reports report cut) noted.catchPanic plain.catchPanic := by
  intro state journal world exit after last hends
  rcases hstart : plain (state, world) with ⟨a | alarm | _, middle, place⟩
  all_goals
    obtain ⟨notes, hnotes, hlaw⟩ := h state journal world _ _ _ hstart
    simp only [Act.catchPanic, hstart, hnotes] at hends ⊢
    cases hends
  · exact ⟨notes, rfl, hdone a notes hlaw⟩
  · exact ⟨notes, rfl, hpanicked alarm notes hlaw⟩
  · exact ⟨notes, rfl, hunfinished notes hlaw⟩

end Act

namespace Iter

variable {plan : ι → Plan α β γ}

/-- A call of `next` only sees the steps of an iterator. -/
theorem next_congr {first second : Iter σ τ γ} (hstep : first.step = second.step) (steps : Nat) :
    first.next steps = second.next steps := by
  induction steps with
  | zero => rfl
  | succ steps ih => simp only [next, hstep, ih]

/-- A consumer only sees the steps of an iterator. -/
theorem asks_congr {first second : Iter σ τ γ} (hstep : first.step = second.step)
    (receive : Answer γ → Act σ Unit) (steps calls : Nat) :
    first.asks receive steps calls = second.asks receive steps calls := by
  induction calls with
  | zero => rfl
  | succ calls ih => simp only [asks, next_congr hstep, ih]

/-- The adapter with a plan. -/
def planned (iter : Iter σ τ ι) (plan : ι → Plan α β γ) (f : α → Act σ β) : Iter σ τ γ :=
  iter.keepSome fun item => (plan item).carry f

/-- What is written down of a call, given what it comes to. -/
def Calls (argument : α) : Exit β → List (Note ι α β γ) → Prop
  | .done reply, notes => notes = [.called argument, .answered argument reply]
  | .panicked _, notes => notes = [.called argument]
  | .unfinished, notes => notes = [.called argument]

/-- What is written down in dealing with an item, given what it comes to. -/
def Treats (plan : ι → Plan α β γ) (item : ι) :
    Exit (Option γ) → List (Note ι α β γ) → Prop
  | .done (some made), notes => Turn plan (.pulled (some item) :: notes) (.ok (some made))
  | .done none, notes => Passes plan (.pulled (some item) :: notes)
  | .panicked alarm, notes => Turn plan (.pulled (some item) :: notes) (.error alarm)
  | .unfinished, notes => Begun plan (.pulled (some item) :: notes)

/-- What is written down in a step, given what it comes to. -/
def Steps (plan : ι → Plan α β γ) : Exit (Step γ) → List (Note ι α β γ) → Prop
  | .done (.yield made), notes => Turn plan notes (.ok (some made))
  | .done .skip, notes => Passes plan notes
  | .done .finish, notes => Turn plan notes (.ok none)
  | .panicked alarm, notes => Turn plan notes (.error alarm)
  | .unfinished, notes => Begun plan notes

/-- What is written down in a call of `next`, given what it comes to. -/
def Asks (plan : ι → Plan α β γ) : Exit (Option γ) → List (Note ι α β γ) → Prop
  | .done element, notes => Turn plan notes (.ok element)
  | .panicked alarm, notes => Turn plan notes (.error alarm)
  | .unfinished, notes => Begun plan notes

/-- A call is written down before it is made, and its answer after it. -/
theorem calling_writes (f : α → Act σ β) (argument : α) :
    Act.Writes (Calls argument) (Note.calling f argument : Act (List (Note ι α β γ) × σ) β).beside
      ((f argument).beside : Act (τ × σ) β) := by
  rintro state journal world exit after last hends
  rcases hcall : f argument world with ⟨reply | alarm | _, place⟩
  all_goals
    simp only [Act.beside, Act.bind_apply, Note.calling, Act.write, Act.change, hcall,
      Act.pure_apply] at hends ⊢
    cases hends
  · exact ⟨[.called argument, .answered argument reply], by simp, rfl⟩
  · exact ⟨[.called argument], rfl, rfl⟩
  · exact ⟨[.called argument], rfl, rfl⟩

/-- An item is dealt with as planned. -/
theorem carry_writes (f : α → Act σ β) (item : ι) :
    Act.Writes (Treats plan item) ((plan item).carry (Note.calling f)).beside
      (((plan item).carry f).beside : Act (τ × σ) (Option γ)) := by
  cases hplan : plan item with
  | pass made =>
    refine .pure ?_
    cases made with
    | some made => exact .passed hplan
    | none => exact ⟨fun _ _ hrest => .dropped hplan hrest, fun _ hrest => .dropped hplan hrest⟩
  | consult argument make =>
    simp only [Plan.carry, Act.beside_bind]
    refine (calling_writes f argument).bind ?next ?panicked ?unfinished
    case next =>
      rintro reply _ rfl
      refine .pure ?_
      cases hmade : make reply with
      | some made => exact .granted hplan hmade
      | none =>
        exact ⟨fun _ _ hrest => .refused hplan hmade hrest,
          fun _ hrest => .refused hplan hmade hrest⟩
    case panicked =>
      rintro alarm _ rfl
      exact .failed hplan alarm
    case unfinished =>
      rintro _ rfl
      exact .calling hplan

/-- A step of a noted source writes down what it came to. -/
theorem noted_writes (iter : Iter σ τ ι) :
    Act.Writes (fun exit notes => notes = exit.pulled)
      (iter.noted : Iter (List (Note ι α β γ) × σ) τ ι).step iter.step := by
  intro state journal world exit after last hends
  exact ⟨exit.pulled, by simp only [noted, hends], rfl⟩

/-- Every step of an adapter is according to its plan. -/
theorem planned_writes (iter : Iter σ τ ι) (f : α → Act σ β) :
    Act.Writes (Steps plan) (iter.noted.planned plan (Note.calling f)).step
      (iter.planned plan f).step := by
  refine (noted_writes iter).bind ?next ?panicked ?unfinished
  case next =>
    rintro (item | _ | _) _ rfl
    case yield =>
      refine (carry_writes f item).bind ?_ (fun _ _ hlaw => hlaw) fun _ hlaw => hlaw
      rintro (_ | made) notes hlaw
      · refine .pure ?_
        rw [List.append_nil]
        exact hlaw
      · refine .pure ?_
        rw [List.append_nil]
        exact hlaw
    case skip => exact .pure ⟨fun _ _ hrest => hrest, fun _ hrest => hrest⟩
    case finish => exact .pure .ended
  case panicked =>
    rintro alarm _ rfl
    exact .broken alarm
  case unfinished =>
    rintro _ rfl
    exact .pulling

/-- Every call of `next` writes down one turn of the plan, or has begun one. -/
theorem next_writes (iter : Iter σ τ ι) (f : α → Act σ β) (steps : Nat) :
    Act.Writes (Asks plan) ((iter.noted.planned plan (Note.calling f)).next steps)
      ((iter.planned plan f).next steps) := by
  induction steps with
  | zero =>
    rintro state journal world _ _ _ ⟨⟩
    exact ⟨[], by rw [List.append_nil]; rfl, .pulling⟩
  | succ steps ih =>
    refine (planned_writes iter f).bind ?_ (fun _ _ hlaw => hlaw) fun _ hlaw => hlaw
    rintro (made | _ | _) notes hlaw
    case yield => exact .pure (by simpa [Asks, Steps] using hlaw)
    case finish => exact .pure (by simpa [Asks, Steps] using hlaw)
    case skip =>
      intro state journal world exit after last hends
      obtain ⟨more, hmore, hasks⟩ := ih state journal world exit after last hends
      refine ⟨more, hmore, ?_⟩
      rcases exit with element | alarm | _
      · exact hlaw.turn more _ hasks
      · exact hlaw.turn more _ hasks
      · exact hlaw.begun more hasks

/-- What the consumer is told is written down before it does anything with it. -/
theorem telling_writes (receive : Answer γ → Act σ Unit) (answer : Answer γ) :
    Act.Writes (fun _ notes => notes = [.told answer])
      (Note.telling receive answer : Act (List (Note ι α β γ) × σ) Unit).beside
      ((receive answer).beside : Act (τ × σ) Unit) := by
  rintro state journal world exit after last ⟨⟩
  exact ⟨[.told answer], rfl, rfl⟩

/-- A consumer that asks any number of times leaves a journal of that many turns. One that does not
go on, because a call does not return or because it panics itself, leaves one that is cut short. -/
theorem asks_writes (iter : Iter σ τ ι) (f : α → Act σ β) (receive : Answer γ → Act σ Unit)
    (steps calls : Nat) :
    Act.Writes (Act.Reports (Journal (Turn plan)) (CutShort (Turn plan) (Begun plan)))
      ((iter.noted.planned plan (Note.calling f)).asks (Note.telling receive) steps calls)
      ((iter.planned plan f).asks receive steps calls) := by
  induction calls with
  | zero => exact .pure .nil
  | succ calls ih =>
    have hnext : Act.Writes (Act.Reports (Turn plan) (Begun plan))
        ((iter.noted.planned plan (Note.calling f)).next steps).catchPanic
        ((iter.planned plan f).next steps).catchPanic :=
      (next_writes iter f steps).catchPanic (fun _ _ hturn => hturn) (fun _ _ hturn => hturn)
        fun _ hbegun => hbegun
    refine hnext.bind ?_ (fun _ _ hbegun => .last hbegun) fun _ hbegun => .last hbegun
    intro answer notes hturn
    have htold : CutShort (Turn plan) (Begun plan) (notes ++ [.told answer]) :=
      .cons hturn (.last .pulling)
    refine (telling_writes receive answer).bind ?_ (fun _ _ h => h ▸ htold) fun _ h => h ▸ htold
    rintro _ _ rfl
    refine ih.bind ?_ (fun _ _ hrest => .cons hturn hrest) fun _ hrest => .cons hturn hrest
    intro answers rest hrest
    refine .pure ?_
    rw [List.append_nil]
    exact .cons hturn hrest

end Iter

end Deferral
