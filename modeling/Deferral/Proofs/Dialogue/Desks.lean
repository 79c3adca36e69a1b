import Deferral.Proofs.Dialogue.Likeness
import Deferral.Promise.Desk

/-!
# Likeness of desks

Two desks are alike when they keep as many promises, in the same states and with as many completers,
hold the same completers by name, and have tasks that wait for the same promises; the outcomes that
are kept are alike, and so are the listeners, wakers and tasks that wait for them. Whatever is done
at desks that are alike follows each other: the same promises are settled, the same listeners run,
and the desks are alike again.
-/

namespace Deferral

variable {ω κ ε α β : Type}

/-- Both payloads are wrapped in the same way, around values or failures that are alike. -/
inductive Payload.Alike (failures : ε → ε → Prop) (values : α → α → Prop) :
    Payload ε α → Payload ε α → Prop where
  | plain {first second : α} (h : values first second) :
    Alike failures values (.plain first) (.plain second)
  | value {first second : Payload ε α} (h : Alike failures values first second) :
    Alike failures values (.value first) (.value second)
  | failure {first second : ε} (h : failures first second) :
    Alike failures values (.failure first) (.failure second)

/-- What is made of deferred failures that are alike is alike. -/
theorem Payload.ofDeferred_alike {failures : ε → ε → Prop} {values : α → α → Prop}
    {first second : Deferred ε (Payload ε α)}
    (h : first.Alike failures (Payload.Alike failures values) second) :
    (Payload.ofDeferred first).Alike failures values (Payload.ofDeferred second) := by
  cases h with
  | value hvalue => exact .value hvalue
  | failure hfailure => exact .failure hfailure

/-- To make something else of values that are alike. -/
theorem ExceptAlike.map {ζ : Type} {errors : ζ → ζ → Prop} {values : α → α → Prop}
    {images : β → β → Prop} {first second : Except ζ α} (h : ExceptAlike errors values first second)
    {f : α → β} (hf : ∀ one other, values one other → images (f one) (f other)) :
    ExceptAlike errors images (first.map f) (second.map f) := by
  cases h with
  | error herror => exact .error herror
  | ok hvalue => exact .ok (hf _ _ hvalue)

/-- The same step with the same completers; the outcomes that it may settle with are alike. -/
inductive CompleterStep.Alike (failures : ε → ε → Prop) (values : α → α → Prop) :
    CompleterStep ε α → CompleterStep ε α → Prop where
  | settle (name : String) {first second : Outcome ε α}
    (h : OutcomeAlike failures values first second) :
    Alike failures values (.settle name first) (.settle name second)
  | isSettled (name : String) : Alike failures values (.isSettled name) (.isSettled name)
  | clone (name copy : String) : Alike failures values (.clone name copy) (.clone name copy)
  | drop (name : String) : Alike failures values (.drop name) (.drop name)

section

variable (like : Likeness ω κ ε) (values : α → α → Prop)

/-- Outcomes of promises that are alike. -/
abbrev ResultAlike : Outcome ε (Payload ε α) → Outcome ε (Payload ε α) → Prop :=
  OutcomeAlike like.failures (Payload.Alike like.failures values)

/-- Moves whose work follows each other. -/
inductive Move.Alike : Move ω κ ε α → Move ω κ ε α → Prop where
  | work {act other : Run ω κ Unit} (h : like.Follows Eq act other) :
    Alike (.work act) (.work other)
  | step {first second : CompleterStep ε α} {report account : CompleterAnswer → Run ω κ Unit}
    (hstep : first.Alike like.failures values second)
    (hreport : ∀ answer, like.Follows Eq (report answer) (account answer)) :
    Alike (.step first report) (.step second account)

/-- Observers that answer outcomes that are alike with moves that are alike, or the same bridge. -/
inductive Listener.Alike : Listener ω κ ε α → Listener ω κ ε α → Prop where
  | observer {moves others : Outcome ε (Payload ε α) → List (Move ω κ ε α)}
    (h : ∀ one other, ResultAlike like values one other →
      List.Forall₂ (Move.Alike like values) (moves one) (others other)) :
    Alike (.observer moves) (.observer others)
  | bridge {type : FailureType ω κ ε} (htype : like.Respects type) (output : Nat) :
    Alike (.bridge type output) (.bridge type output)

/-- Cells in the same state, with what they keep alike. -/
inductive DeskShared.CellAlike :
    Cell (Listener ω κ ε α) (Run ω κ Unit) (Outcome ε (Payload ε α)) →
      Cell (Listener ω κ ε α) (Run ω κ Unit) (Outcome ε (Payload ε α)) → Prop where
  | pending {listener hearer : Option (Listener ω κ ε α)} {waker rouser : Option (Run ω κ Unit)}
    (hlistener : Option.Rel (Listener.Alike like values) listener hearer)
    (hwaker : Option.Rel (like.Follows Eq) waker rouser) :
    CellAlike (.pending listener waker) (.pending hearer rouser)
  | ready {outcome result : Outcome ε (Payload ε α)} (h : ResultAlike like values outcome result) :
    CellAlike (.ready outcome) (.ready result)
  | taken : CellAlike .taken .taken

/-- As many completers, and cells that are alike. -/
structure DeskShared.Alike (first second : DeskShared ω κ ε α) : Prop where
  cell : DeskShared.CellAlike like values first.cell second.cell
  completers : first.completers = second.completers

/-- Tasks that wait for the same promise and settle the same promise, and whose work follows each
other. -/
structure Task.Alike (first second : Task ω κ ε α) : Prop where
  output : first.output = second.output
  awaited : first.awaited = second.awaited
  work : ∀ one other, Option.Rel (Payload.Alike like.failures values) one other →
    like.Follows (OutcomeAlike like.failures values) (first.work one) (second.work other)

/-- Desks that are alike. -/
structure Desk.Alike (first second : Desk ω κ ε α) : Prop where
  promises : List.Forall₂ (DeskShared.Alike like values) first.promises second.promises
  completers : first.completers = second.completers
  tasks : List.Forall₂ (Task.Alike like values) first.tasks second.tasks

end

namespace Desk

variable {like : Likeness ω κ ε} {values : α → α → Prop} {results : β → β → Prop}

/-- What is done at desks that are alike, in worlds that are alike, ends in the same way, with
results that are alike, and leaves desks and worlds that are alike. -/
abbrev Follows (like : Likeness ω κ ε) (values : α → α → Prop) (results : β → β → Prop)
    (act other : DeskRun ω κ ε α β) : Prop :=
  Act.Mirrors (Both (Desk.Alike like values) like.Worlds) results act other

/-! ### Looking at a desk and changing it -/

variable {desk other : Desk ω κ ε α}

/-- Desks that are alike keep promises that are alike under each number. -/
theorem Alike.shared (h : desk.Alike like values other) (number : Nat) :
    (desk.shared number).Alike like values (other.shared number) := by
  have hfound := (List.forall₂_iff_get.1 h.promises).2 number
  have hlength := h.promises.length_eq
  rw [Desk.shared, Desk.shared]
  by_cases hnumber : number < desk.promises.length
  · rw [List.getElem?_eq_getElem hnumber, List.getElem?_eq_getElem (hlength ▸ hnumber)]
    exact hfound hnumber (hlength ▸ hnumber)
  · rw [List.getElem?_eq_none (Nat.le_of_not_lt hnumber),
      List.getElem?_eq_none (hlength ▸ Nat.le_of_not_lt hnumber)]
    exact ⟨.taken, rfl⟩

/-- Desks stay alike when promises that are alike are put in the same place. -/
theorem Alike.put (h : desk.Alike like values other) (number : Nat)
    {first second : DeskShared ω κ ε α} (hshared : first.Alike like values second) :
    (desk.put number first).Alike like values (other.put number second) where
  promises := by
    refine List.forall₂_iff_get.2 ⟨?_, fun index hindex hlast => ?_⟩
    · simp [Desk.put, h.promises.length_eq]
    · have hfound := (List.forall₂_iff_get.1 h.promises).2 index
      simp only [Desk.put, List.length_set] at hindex hlast
      simp only [Desk.put, List.get_eq_getElem, List.getElem_set]
      by_cases hsame : number = index
      · simpa [hsame] using hshared
      · simpa [hsame] using hfound hindex hlast
  completers := h.completers
  tasks := h.tasks

/-- What desks that are alike show is alike if the views say so of all such desks. -/
theorem follows_look {view sight : Desk ω κ ε α → β}
    (h : ∀ desk other : Desk ω κ ε α, desk.Alike like values other →
      results (view desk) (sight other)) :
    Follows like values results (look view) (look sight) :=
  .read fun _ _ hwhole => h _ _ hwhole.1

/-- What desks that are alike show in the same way. -/
theorem follows_look_eq {view : Desk ω κ ε α → β}
    (h : ∀ desk other : Desk ω κ ε α, desk.Alike like values other → view desk = view other) :
    Follows like values Eq (look view) (look view) :=
  follows_look h

/-- Changes that keep desks alike follow each other. -/
theorem follows_change {f g : Desk ω κ ε α → Desk ω κ ε α}
    (h : ∀ desk other : Desk ω κ ε α, desk.Alike like values other →
      (f desk).Alike like values (g other)) :
    Follows like values Eq (change f) (change g) :=
  .change fun _ _ hwhole => ⟨h _ _ hwhole.1, hwhole.2⟩

/-- Steps on promises that are alike follow each other if they answer alike and leave them alike. -/
theorem follows_atShared {number : Nat} {step move : DeskShared ω κ ε α → β × DeskShared ω κ ε α}
    (h : ∀ first second : DeskShared ω κ ε α, first.Alike like values second →
      Both results (DeskShared.Alike like values) (step first) (move second)) :
    Follows like values results (atShared number step) (atShared number move) := by
  rintro ⟨desk, world⟩ ⟨other, place⟩ ⟨hdesk, hworlds⟩
  obtain ⟨hanswer, hnext⟩ := h _ _ (hdesk.shared number)
  exact ⟨.done hanswer, hdesk.put number hnext, hworlds⟩

/-- A new promise is given the same number at desks that are alike. -/
theorem follows_addPromise :
    Follows like values Eq (addPromise : DeskRun ω κ ε α Nat) addPromise := by
  rintro ⟨desk, world⟩ ⟨other, place⟩ ⟨hdesk, hworlds⟩
  have hfresh : DeskShared.Alike like values (Shared.fresh : DeskShared ω κ ε α) Shared.fresh :=
    ⟨.pending .none .none, rfl⟩
  refine ⟨.done hdesk.promises.length_eq, ⟨?_, hdesk.completers, hdesk.tasks⟩, hworlds⟩
  exact List.rel_append hdesk.promises (.cons hfresh .nil)

/-- A name stands for the same completer at desks that are alike. -/
theorem follows_completer? (name : String) :
    Follows like values Eq (look (·.completer? name)) (look (·.completer? name)) :=
  follows_look_eq fun desk other hdesk => by rw [completer?, completer?, hdesk.completers]

/-- A completer is held under a name at both desks. -/
theorem follows_hold (name : String) (number : Nat) :
    Follows like values Eq (change (·.hold name number)) (change (·.hold name number)) :=
  follows_change fun desk other hdesk =>
    ⟨hdesk.promises, by simp only [hold, hdesk.completers], hdesk.tasks⟩

/-- A name is given up at both desks. -/
theorem follows_release (name : String) :
    Follows like values Eq (change (·.release name)) (change (·.release name)) :=
  follows_change fun desk other hdesk =>
    ⟨hdesk.promises, by simp only [release, hdesk.completers], hdesk.tasks⟩

/-! ### One step on a cell -/

section

variable {cell twin : Cell (Listener ω κ ε α) (Run ω κ Unit) (Outcome ε (Payload ε α))}

/-- Cells that are alike are both settled or neither. -/
theorem isSettled_alike (h : DeskShared.CellAlike like values cell twin) :
    cell.isSettled = twin.isSettled := by
  cases h <;> rfl

/-- Of cells that are alike, the outcome has been taken out of both or of neither. -/
theorem isTaken_alike (h : DeskShared.CellAlike like values cell twin) :
    cell.isTaken = twin.isTaken := by
  cases h <;> rfl

end

/-- What is left to do after cells that are alike have been settled is alike. -/
inductive DutyAlike (like : Likeness ω κ ε) (values : α → α → Prop) :
    Duty (Listener ω κ ε α) (Run ω κ Unit) (Outcome ε (Payload ε α)) →
      Duty (Listener ω κ ε α) (Run ω κ Unit) (Outcome ε (Payload ε α)) → Prop where
  | notify {listener hearer : Listener ω κ ε α} {outcome result : Outcome ε (Payload ε α)}
    (hlistener : listener.Alike like values hearer) (h : ResultAlike like values outcome result) :
    DutyAlike like values (.notify listener outcome) (.notify hearer result)
  | wake {waker rouser : Run ω κ Unit} (h : like.Follows Eq waker rouser) :
    DutyAlike like values (.wake waker) (.wake rouser)
  | rest : DutyAlike like values .rest .rest

variable {outcome result : Outcome ε (Payload ε α)} {first second : DeskShared ω κ ε α}

/-- Settling cells that are alike with outcomes that are alike leaves the same to do, and cells that
are alike. -/
theorem onCell_settle (h : ResultAlike like values outcome result)
    (hshared : first.Alike like values second) :
    Both (Option.Rel (DutyAlike like values)) (DeskShared.Alike like values)
      (Shared.onCell (Cell.settle outcome) first) (Shared.onCell (Cell.settle result) second) := by
  obtain ⟨cell, completers⟩ := first
  obtain ⟨twin, count⟩ := second
  obtain ⟨hcell, hcompleters⟩ := hshared
  cases hcell with
  | pending hlistener hwaker =>
    cases hlistener with
    | some hlistener => exact ⟨.some (.notify hlistener h), .taken, hcompleters⟩
    | none =>
      cases hwaker with
      | some hwaker => exact ⟨.some (.wake hwaker), .ready h, hcompleters⟩
      | none => exact ⟨.some .rest, .ready h, hcompleters⟩
  | ready hready => exact ⟨.none, .ready hready, hcompleters⟩
  | taken => exact ⟨.none, .taken, hcompleters⟩

/-- What asking for the outcomes of cells that are alike comes to. -/
inductive PolledAlike (like : Likeness ω κ ε) (values : α → α → Prop) :
    Polled (Outcome ε (Payload ε α)) → Polled (Outcome ε (Payload ε α)) → Prop where
  | ready {outcome result : Outcome ε (Payload ε α)} (h : ResultAlike like values outcome result) :
    PolledAlike like values (.ready outcome) (.ready result)
  | pending : PolledAlike like values .pending .pending
  | spent : PolledAlike like values .spent .spent

/-- Polling cells that are alike comes to the same, and leaves cells that are alike. -/
theorem onCell_poll {waker rouser : Run ω κ Unit} (h : like.Follows Eq waker rouser)
    (hshared : first.Alike like values second) :
    Both (PolledAlike like values) (DeskShared.Alike like values)
      (Shared.onCell (Cell.poll waker) first) (Shared.onCell (Cell.poll rouser) second) := by
  obtain ⟨cell, completers⟩ := first
  obtain ⟨twin, count⟩ := second
  obtain ⟨hcell, hcompleters⟩ := hshared
  cases hcell with
  | pending hlistener _ => exact ⟨.pending, .pending hlistener (.some h), hcompleters⟩
  | ready hready => exact ⟨.ready hready, .taken, hcompleters⟩
  | taken => exact ⟨.spent, .taken, hcompleters⟩

/-- What registering listeners at cells that are alike comes to. -/
inductive ListenedAlike (like : Likeness ω κ ε) (values : α → α → Prop) :
    Listened (Outcome ε (Payload ε α)) → Listened (Outcome ε (Payload ε α)) → Prop where
  | now {outcome result : Outcome ε (Payload ε α)} (h : ResultAlike like values outcome result) :
    ListenedAlike like values (.now outcome) (.now result)
  | later : ListenedAlike like values .later .later
  | never : ListenedAlike like values .never .never

/-- Registering listeners that are alike at cells that are alike comes to the same, and leaves cells
that are alike. -/
theorem onCell_listen {listener hearer : Listener ω κ ε α} (h : listener.Alike like values hearer)
    (hshared : first.Alike like values second) :
    Both (ListenedAlike like values) (DeskShared.Alike like values)
      (Shared.onCell (Cell.listen listener) first) (Shared.onCell (Cell.listen hearer) second) := by
  obtain ⟨cell, completers⟩ := first
  obtain ⟨twin, count⟩ := second
  obtain ⟨hcell, hcompleters⟩ := hshared
  cases hcell with
  | pending _ _ => exact ⟨.later, .pending (.some h) .none, hcompleters⟩
  | ready hready => exact ⟨.now hready, .taken, hcompleters⟩
  | taken => exact ⟨.never, .taken, hcompleters⟩

/-- One more completer is counted at both desks. -/
theorem follows_retain (number : Nat) :
    Follows like values Eq (atShared number Shared.retain) (atShared number Shared.retain) :=
  follows_atShared fun _ _ hshared =>
    ⟨rfl, hshared.cell, congrArg (· + 1) hshared.completers⟩

/-- One completer less is counted at both desks, and it is the last at both or at neither. -/
theorem follows_released (number : Nat) :
    Follows like values Eq (atShared number Shared.release) (atShared number Shared.release) :=
  follows_atShared fun _ _ hshared =>
    ⟨congrArg (· == 1) hshared.completers, hshared.cell,
      congrArg (· - 1) hshared.completers⟩

/-! ### Settling, dropping and notifying -/

/-- A promise is settled with plain values. -/
theorem plain_alike {outcome result : Outcome ε α}
    (h : OutcomeAlike like.failures values outcome result) :
    ResultAlike like values (outcome.map .plain) (result.map .plain) :=
  h.map fun _ _ hvalue => .plain hvalue

/-- What bridges make of outcomes that are alike. -/
theorem ofDeferred_alike {claimed heard : Outcome ε (Deferred ε (Payload ε α))}
    (h : OutcomeAlike like.failures
      (Deferred.Alike like.failures (Payload.Alike like.failures values)) claimed heard) :
    ResultAlike like values (claimed.map .ofDeferred) (heard.map .ofDeferred) :=
  h.map fun _ _ => Payload.ofDeferred_alike

/-- Two ways to run listeners follow each other on listeners and outcomes that are alike. -/
def Notifies (like : Likeness ω κ ε) (values : α → α → Prop) (notify inform : Notify ω κ ε α) :
    Prop :=
  ∀ listener hearer outcome result, listener.Alike like values hearer →
    ResultAlike like values outcome result →
      Follows like values Eq (notify listener outcome) (inform hearer result)

variable {notify inform : Notify ω κ ε α}

/-- What is left to do after cells have been settled is done at both desks. -/
theorem Notifies.discharge (hnotify : Notifies like values notify inform)
    {duty task : Duty (Listener ω κ ε α) (Run ω κ Unit) (Outcome ε (Payload ε α))}
    (h : DutyAlike like values duty task) :
    Follows like values Eq (discharge notify duty) (discharge inform task) := by
  cases h with
  | notify hlistener houtcome => exact hnotify _ _ _ _ hlistener houtcome
  | wake hwaker => exact hwaker.beside
  | rest => exact .pure rfl

/-- Settling the same promise with outcomes that are alike follows each other. -/
theorem Notifies.settleWith (hnotify : Notifies like values notify inform) (number : Nat)
    (h : ResultAlike like values outcome result) :
    Follows like values Eq (settleWith notify number outcome)
      (settleWith inform number result) := by
  refine (follows_atShared fun _ _ hshared => onCell_settle h hshared).bind
    fun duty task hduty => ?_
  cases hduty with
  | none => exact .pure rfl
  | some hduty => exact (hnotify.discharge hduty).andThen (.pure rfl)

/-- Dropping a completer of the same promise follows each other. -/
theorem Notifies.dropWith (hnotify : Notifies like values notify inform) (number : Nat) :
    Follows like values Eq (dropWith notify number) (dropWith inform number) := by
  refine (follows_released number).bindSame fun last => ?_
  cases last with
  | false => exact .pure rfl
  | true => exact (hnotify.settleWith number (.error .abandoned)).andThen (.pure rfl)

/-- What is done at last is done after both, whether they have panicked or not. -/
theorem follows_andFinally {act move last final : DeskRun ω κ ε α Unit}
    (hact : Follows like values Eq act move) (hlast : Follows like values Eq last final) :
    Follows like values Eq (andFinally act last) (andFinally move final) := by
  refine hact.catchPanic.bind fun ended stopped hended => ?_
  cases hended with
  | ok hsame => exact hlast
  | error hsame =>
    subst hsame
    exact hlast.andThen (.panic _)

/-- Steps with the same completers follow each other. -/
theorem Notifies.stepWith (hnotify : Notifies like values notify inform)
    {step move : CompleterStep ε α} (h : step.Alike like.failures values move) :
    Follows like values Eq (stepWith notify step) (stepWith inform move) := by
  cases h with
  | settle name houtcome =>
    refine (follows_completer? name).bindSame fun found => ?_
    cases found with
    | none => exact .pure rfl
    | some number =>
      have hresult := plain_alike houtcome
      exact (hnotify.settleWith number hresult).returning fun _ _ hsame => congrArg _ hsame
  | isSettled name =>
    refine (follows_completer? name).bindSame fun found => ?_
    cases found with
    | none => exact .pure rfl
    | some number =>
      refine Act.Mirrors.returning (follows_look_eq fun desk other hdesk => ?_)
        fun _ _ hsame => congrArg _ hsame
      exact isSettled_alike (hdesk.shared number).cell
  | clone name copy =>
    refine (follows_completer? name).bindSame fun found => ?_
    cases found with
    | none => exact .pure rfl
    | some number =>
      refine (follows_retain number).andThen ((follows_completer? copy).bindSame fun former => ?_)
      refine (follows_hold copy number).andThen ?_
      cases former with
      | none => exact .pure rfl
      | some former => exact (hnotify.dropWith former).andThen (.pure rfl)
  | drop name =>
    refine (follows_completer? name).bindSame fun found => ?_
    cases found with
    | none => exact .pure rfl
    | some number =>
      exact (follows_release name).andThen ((hnotify.dropWith number).andThen (.pure rfl))

/-- Moves that are alike follow each other. -/
theorem Notifies.moveWith (hnotify : Notifies like values notify inform)
    {move other : Move ω κ ε α} (h : move.Alike like values other) :
    Follows like values Eq (moveWith notify move) (moveWith inform other) := by
  cases h with
  | work hwork => exact hwork.beside
  | step hstep hreport =>
    refine (hnotify.stepWith hstep).bindSame fun answer => ?_
    exact (hreport answer).beside

/-- Moves that are alike follow each other, one after the other. -/
theorem Notifies.movesWith (hnotify : Notifies like values notify inform)
    {moves others : List (Move ω κ ε α)} (h : List.Forall₂ (Move.Alike like values) moves others) :
    Follows like values Eq (movesWith notify moves) (movesWith inform others) := by
  induction h with
  | nil => exact .pure rfl
  | cons hmove _ ih => exact (hnotify.moveWith hmove).andThen ih

/-- Listeners inside listeners follow each other, down to any depth. -/
theorem notifies_notify (depth : Nat) :
    Notifies like values (Desk.notify depth : Notify ω κ ε α) (Desk.notify depth) := by
  -- Whatever a listener runs is run with one listener less in depth, so the depth is what the
  -- induction is on.
  induction depth with
  | zero => exact fun _ _ _ _ _ _ => .giveUp
  | succ depth ih =>
    intro listener hearer outcome result hlistener houtcome
    cases hlistener with
    | observer hmoves => exact ih.movesWith (hmoves _ _ houtcome)
    | bridge htype output =>
      refine (htype.claim houtcome).beside.bind fun claimed heard hclaimed => ?_
      have hresult := ofDeferred_alike hclaimed
      exact follows_andFinally ((ih.settleWith output hresult).andThen (.pure rfl))
        (ih.dropWith output)

/-- Operations that run listeners follow each other if they do for every way to run these. -/
theorem follows_withListeners {act move : Notify ω κ ε α → DeskRun ω κ ε α β}
    (h : ∀ notify : Notify ω κ ε α, Notifies like values notify notify →
      Follows like values results (act notify) (move notify)) :
    Follows like values results (withListeners act) (withListeners move) := by
  refine (follows_look_eq fun desk other hdesk => hdesk.promises.length_eq).bindSame fun size => ?_
  exact h _ (notifies_notify size)

/-- A promise is settled with outcomes that are alike. -/
theorem follows_settle (number : Nat) (h : ResultAlike like values outcome result) :
    Follows like values Eq (settle number outcome) (settle number result) :=
  follows_withListeners fun _ hnotify => hnotify.settleWith number h

/-- A completer is dropped at both desks. -/
theorem follows_dropCompleter (number : Nat) :
    Follows like values Eq (dropCompleter number : DeskRun ω κ ε α Unit) (dropCompleter number) :=
  follows_withListeners fun _ hnotify => hnotify.dropWith number

/-- Steps with the same completers follow each other, with all that listeners do. -/
theorem follows_step {step move : CompleterStep ε α} (h : step.Alike like.failures values move) :
    Follows like values Eq (Desk.step step) (Desk.step move) :=
  follows_withListeners fun _ hnotify => hnotify.stepWith h

/-! ### Promises -/

/-- A promise is created at both desks, and its completer is held under the name. -/
theorem follows_create (name : String) :
    Follows like values Eq (create name : DeskRun ω κ ε α Nat) (create name) := by
  refine follows_addPromise.bindSame fun number => ?_
  refine (follows_completer? name).bindSame fun former => ?_
  refine (follows_hold name number).andThen ?_
  cases former with
  | none => exact .pure rfl
  | some former => exact (follows_dropCompleter former).andThen (.pure rfl)

/-- Promises that are settled from the start are alike if their outcomes are. -/
theorem follows_settled (h : ResultAlike like values outcome result) :
    Follows like values Eq (settled outcome) (settled result) := by
  refine follows_addPromise.bindSame fun number => ?_
  exact (follows_settle number h).andThen ((follows_dropCompleter number).andThen (.pure rfl))

/-- Polling the same promise finds outcomes that are alike, or none at both desks, or panics at
both. -/
theorem follows_poll (number : Nat) {waker rouser : Run ω κ Unit}
    (h : like.Follows Eq waker rouser) :
    Follows like values (Option.Rel (ResultAlike like values)) (poll number waker)
      (poll number rouser) := by
  refine (follows_atShared fun _ _ hshared => onCell_poll h hshared).bind
    fun one other hpolled => ?_
  cases hpolled with
  | ready houtcome => exact .pure (.some houtcome)
  | pending => exact .pure .none
  | spent => exact .panic _

/-- The same promises have given away their outcomes. -/
theorem follows_isTerminated (number : Nat) :
    Follows like values Eq (isTerminated number : DeskRun ω κ ε α Bool) (isTerminated number) :=
  follows_look_eq fun _ _ hdesk => isTaken_alike (hdesk.shared number).cell

/-- Listeners that are alike are registered, or run, at both desks. -/
theorem follows_listen (number : Nat) {listener hearer : Listener ω κ ε α}
    (h : listener.Alike like values hearer) :
    Follows like values Eq (listen number listener) (listen number hearer) := by
  refine (follows_atShared fun _ _ hshared => onCell_listen h hshared).bind
    fun one other hlistened => ?_
  cases hlistened with
  | now houtcome => exact follows_withListeners fun _ hnotify => hnotify _ _ _ _ h houtcome
  | later => exact .pure rfl
  | never =>
    cases h with
    | observer hmoves => exact .pure rfl
    | bridge htype output => exact follows_dropCompleter output

/-- A bridge by a failure type that is respected is made over the same promise. -/
theorem follows_bridge {type : FailureType ω κ ε} (htype : like.Respects type) (input : Nat) :
    Follows like values Eq (bridge type input : DeskRun ω κ ε α Nat) (bridge type input) := by
  refine follows_addPromise.bindSame fun output => ?_
  exact (follows_listen input (.bridge htype output)).andThen (.pure rfl)

/-- Polling and claiming the same promise finds outcomes that are alike. -/
theorem follows_pollClaimed {type : FailureType ω κ ε} (htype : like.Respects type) (number : Nat)
    {waker rouser : Run ω κ Unit} (h : like.Follows Eq waker rouser) :
    Follows like values (Option.Rel (ResultAlike like values)) (pollClaimed type number waker)
      (pollClaimed type number rouser) := by
  refine (follows_poll number h).bind fun polled found hpolled => ?_
  cases hpolled with
  | none => exact .pure .none
  | some houtcome =>
    exact (htype.claim houtcome).beside.returning
      fun _ _ hclaimed => .some (ofDeferred_alike hclaimed)

/-! ### Tasks -/

variable {task chore : Task ω κ ε α}

/-- Tasks are spawned that wait for the same promise, and whose work follows each other. -/
theorem follows_spawn (awaited : Option Nat)
    {work toil : Option (Payload ε α) → Run ω κ (Outcome ε α)}
    (h : ∀ one other, Option.Rel (Payload.Alike like.failures values) one other →
      like.Follows (OutcomeAlike like.failures values) (work one) (toil other)) :
    Follows like values Eq (spawn awaited work) (spawn awaited toil) := by
  refine follows_addPromise.bindSame fun output => ?_
  refine Act.Mirrors.andThen (follows_change fun desk other hdesk => ?_) (.pure rfl)
  exact ⟨hdesk.promises, hdesk.completers,
    List.rel_append hdesk.tasks (.cons ⟨rfl, rfl, h⟩ .nil)⟩

/-- Tasks that are alike do their work on outcomes that are alike. -/
theorem follows_taskWork (h : task.Alike like values chore)
    {heard found : Option (Outcome ε (Payload ε α))}
    (hheard : Option.Rel (ResultAlike like values) heard found) :
    Follows like values (OutcomeAlike like.failures values) (taskWork task heard)
      (taskWork chore found) := by
  cases hheard with
  | none => exact (h.work _ _ .none).beside
  | some houtcome =>
    cases houtcome with
    | ok hpayload => exact (h.work _ _ (.some hpayload)).beside
    | error herror => exact .pure (.error herror)

/-- Tasks that are alike come to outcomes that are alike, or wait at both desks. -/
theorem follows_taskOutcome (h : task.Alike like values chore) :
    Follows like values (Option.Rel (OutcomeAlike like.failures values)) (taskOutcome task)
      (taskOutcome chore) := by
  rw [taskOutcome, taskOutcome, h.awaited]
  cases chore.awaited with
  | none => exact (follows_taskWork h .none).returning fun _ _ houtcome => .some houtcome
  | some awaited =>
    refine (follows_poll awaited (.pure rfl)).bind fun polled found hpolled => ?_
    cases hpolled with
    | none => exact .pure .none
    | some houtcome =>
      exact (follows_taskWork h (.some houtcome)).returning fun _ _ hresult => .some hresult

/-- Tasks that are alike settle their promise with outcomes that are alike. -/
theorem follows_finishTask (h : task.Alike like values chore) {outcome result : Outcome ε α}
    (houtcome : OutcomeAlike like.failures values outcome result) :
    Follows like values Eq (finishTask task outcome) (finishTask chore result) := by
  have hresult := plain_alike houtcome
  rw [finishTask, finishTask, h.output]
  exact (follows_andFinally ((follows_settle _ hresult).andThen (.pure rfl))
    (follows_dropCompleter _)).catchPanic.andThen (.pure rfl)

/-- Tasks that are alike are both finished after they have been run, or neither is. -/
theorem follows_runTask (h : task.Alike like values chore) :
    Follows like values Eq (runTask task) (runTask chore) := by
  refine (follows_taskOutcome h).catchPanic.bind fun ended stopped hended => ?_
  cases hended with
  | error hsame => exact (follows_finishTask h (.error .crashed)).andThen (.pure rfl)
  | ok hended =>
    cases hended with
    | none => exact .pure rfl
    | some houtcome => exact (follows_finishTask h houtcome).andThen (.pure rfl)

/-- A round over tasks that are alike leaves tasks that are alike. -/
theorem follows_runRound {tasks chores : List (Task ω κ ε α)}
    (h : List.Forall₂ (Task.Alike like values) tasks chores) :
    Follows like values (List.Forall₂ (Task.Alike like values)) (runRound tasks)
      (runRound chores) := by
  induction h with
  | nil => exact .pure .nil
  | cons htask _ ih =>
    refine (follows_runTask htask).bindSame fun finished => ?_
    refine ih.returning fun left rest hleft => ?_
    cases finished with
    | true => exact hleft
    | false => exact .cons htask hleft

/-- Any number of rounds follow each other. -/
theorem follows_runRounds (rounds : Nat) :
    Follows like values Eq (runRounds rounds : DeskRun ω κ ε α Unit) (runRounds rounds) := by
  induction rounds with
  | zero => exact .pure rfl
  | succ rounds ih =>
    refine (follows_look fun desk other hdesk => hdesk.tasks).bind fun tasks chores htasks => ?_
    refine (follows_runRound htasks).bind fun left rest hleft => ?_
    refine Act.Mirrors.andThen (follows_change fun desk other hdesk => ?_) ?_
    · exact ⟨hdesk.promises, hdesk.completers, hleft⟩
    · rw [hleft.length_eq, htasks.length_eq]
      split
      · exact ih
      · exact .pure rfl

/-- Running the tasks of desks that are alike follows each other. -/
theorem follows_runTasks :
    Follows like values Eq (runTasks : DeskRun ω κ ε α Unit) runTasks := by
  refine (follows_look_eq fun desk other hdesk => hdesk.tasks.length_eq).bindSame fun size => ?_
  exact follows_runRounds _

end Desk

end Deferral
