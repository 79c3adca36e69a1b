import Deferral.Proofs.Promise.Relay
import Deferral.Proofs.Tokens.Flags

/-!
# Tokens and listeners

Settling a promise may run a listener, and listeners may run further ones. The bridges among them
store the failures that they claim; nothing else at a desk writes a token, if the observers, the
wakers and the tasks do not. What a step at a desk stores is read off the desk: it is what the
listeners store that the step runs, each in the state in which it is run.
-/

namespace Deferral

variable {ω κ ε α β : Type}

/-- A bridge stores the failure that it claims. -/
theorem FailureType.boxes_claim {type : FailureType ω κ ε} (htype : type.Quiet)
    (outcome : Outcome ε α) :
    (type.claim outcome).Boxes (type.boxings (type.carried? outcome)) := by
  rcases type.outcome_cases outcome with ⟨value, rfl⟩ | ⟨failure, count, howns, rfl⟩ |
    ⟨first, count, hbare, hforeign, rfl⟩
  · exact .pure trivial
  · have hdepth : type.depth? ((DynError.leaf failure).layered count) = some count := by
      rw [depth?_layered, depth?, if_pos howns, Option.map_some, Nat.zero_add]
    rw [carried?_layered, DynError.carried?, if_pos howns]
    simp only [claim, hdepth, type.takeAt_layered howns count]
    refine (boxes_reassert htype failure).catchPanic.before fun caught _ => ?_
    rcases caught with alarm | ⟨⟩
    · exact ((quiet_log _).bind fun _ => .pure _).boxes.before fun _ _ => .pure trivial
    · exact .pure trivial
  · have hnone : type.carried? (.error (first.layered count) : Outcome ε α) = none := by
      rw [carried?_layered]
      cases first with
      | leaf failure => exact if_neg hforeign
      | layer source => exact hbare.elim
      | _ => rfl
    rw [hnone]
    exact .of_asked fun world => .nil (by rw [type.claim_foreign hbare hforeign])

/-- A failure that was claimed is the one that the outcome carries. -/
theorem FailureType.carried?_of_claim {type : FailureType ω κ ε} {outcome : Outcome ε α}
    {failure : ε} {world after : World ω κ}
    (hdone : type.claim outcome world = (.done (.ok (.failure failure)), after)) :
    type.carried? outcome = some failure := by
  rcases type.outcome_cases outcome with ⟨value, rfl⟩ | ⟨error, count, howns, rfl⟩ |
    ⟨first, count, hbare, hforeign, rfl⟩
  · cases hdone
  · rw [type.claim_layered howns] at hdone
    rw [carried?_layered, DynError.carried?, if_pos howns]
    rcases hfound : type.cancellation error world with ⟨(_ | token) | alarm | _, next⟩
    all_goals
      rw [hfound] at hdone
      cases hdone
    · rfl
    · rfl
  · rw [type.claim_foreign hbare hforeign] at hdone
    cases hdone

/-! ### What is on a desk -/

/-- The client's part of a move writes no token. -/
def Move.Quiet : Move ω κ ε α → Prop
  | .work act => act.Quiet
  | .step _ report => ∀ answer, (report answer).Quiet

/-- The client's part of a listener writes no token. -/
def Listener.Quiet : Listener ω κ ε α → Prop
  | .observer moves => ∀ outcome, ∀ move ∈ moves outcome, move.Quiet
  | .bridge type _ => type.Quiet

/-- Whoever waits for a promise writes no token. -/
def DeskCell.Quiet : DeskCell ω κ ε α → Prop
  | .pending listener waker =>
    (∀ heard, listener = some heard → heard.Quiet) ∧ ∀ woken, waker = some woken → woken.Quiet
  | .ready _ => True
  | .taken => True

/-- Nobody waits for a new promise. -/
theorem DeskCell.quiet_fresh : DeskCell.Quiet (.fresh : DeskCell ω κ ε α) := by
  constructor
  · intro heard hheard
    cases hheard
  · intro woken hwoken
    cases hwoken

/-- A listener may wait for a promise if it writes no token itself. -/
theorem DeskCell.quiet_heard {heard : Listener ω κ ε α} (h : heard.Quiet) :
    DeskCell.Quiet (.pending (some heard) none) := by
  constructor
  · intro other hother
    cases hother
    exact h
  · intro woken hwoken
    cases hwoken

/-- The work of a task writes no token. -/
def Task.Quiet (task : Task ω κ ε α) : Prop := ∀ value, (task.work value).Quiet

namespace Desk

/-- Nothing on the desk writes a token itself. -/
structure Quiet (desk : Desk ω κ ε α) : Prop where
  cells : ∀ number, DeskCell.Quiet (desk.shared number).cell
  tasks : ∀ task ∈ desk.tasks, task.Quiet

variable {desk : Desk ω κ ε α}

/-- A desk stays quiet when a promise is put on it for which only quiet callables wait. -/
theorem Quiet.put (h : desk.Quiet) (number : Nat) {shared : DeskShared ω κ ε α}
    (hshared : DeskCell.Quiet shared.cell) : (desk.put number shared).Quiet := by
  refine ⟨fun other => ?_, h.tasks⟩
  by_cases hother : other = number
  · subst hother
    by_cases hnumber : other < desk.promises.length
    · rwa [shared_put hnumber]
    · have hsame : desk.put other shared = desk := by
        rw [Desk.put, List.set_eq_of_length_le (Nat.le_of_not_lt hnumber)]
      rw [hsame]
      exact h.cells other
  · rw [shared_put_of_ne hother]
    exact h.cells other

/-- A desk stays quiet when a promise is added. -/
theorem Quiet.grown (h : desk.Quiet) : desk.grown.Quiet := by
  refine ⟨fun number => ?_, h.tasks⟩
  rcases Nat.lt_trichotomy number desk.promises.length with hless | rfl | hmore
  · rw [shared_grown_of_lt hless]
    exact h.cells number
  · rw [shared_grown]
    exact DeskCell.quiet_fresh
  · have hspent : desk.grown.shared number = .spent := by
      rw [Desk.shared, List.getElem?_eq_none (by rw [length_grown]; exact hmore)]
      rfl
    rw [hspent]
    trivial

/-- A desk stays quiet when a completer is held under a name. -/
theorem Quiet.hold (h : desk.Quiet) (name : String) (number : Nat) :
    (desk.hold name number).Quiet :=
  ⟨h.cells, h.tasks⟩

/-- A desk stays quiet when a name is given up. -/
theorem Quiet.release (h : desk.Quiet) (name : String) : (desk.release name).Quiet :=
  ⟨h.cells, h.tasks⟩

/-- A desk stays quiet when only quiet tasks are kept. -/
theorem Quiet.keepTasks (h : desk.Quiet) {tasks : List (Task ω κ ε α)}
    (htasks : ∀ task ∈ tasks, task.Quiet) : ({ desk with tasks := tasks } : Desk ω κ ε α).Quiet :=
  ⟨h.cells, htasks⟩

/-! ### What steps at a desk store -/

/-- What is stored from a state of the desk and the world on. -/
abbrev Boxings (ω κ ε α : Type) : Type 1 := Desk ω κ ε α × World ω κ → List (Boxing ω κ)

/-- What is stored when a listener is run. -/
abbrev Hearing (ω κ ε α : Type) : Type 1 :=
  Listener ω κ ε α → Outcome ε (Payload ε α) → Boxings ω κ ε α

/-- Settling a promise stores what the listener that waits for it stores. -/
def settleBoxings (hearing : Hearing ω κ ε α) (number : Nat) (outcome : Outcome ε (Payload ε α)) :
    Boxings ω κ ε α := fun whole =>
  match (whole.1.shared number).cell with
  | .pending (some listener) _ =>
    hearing listener outcome
      (whole.1.put number { whole.1.shared number with cell := .taken }, whole.2)
  | .pending none _ => []
  | .ready _ => []
  | .taken => []

/-- Dropping the last completer of a promise settles it. -/
def dropBoxings (hearing : Hearing ω κ ε α) (number : Nat) : Boxings ω κ ε α := fun whole =>
  if (whole.1.shared number).completers = 1 then
    settleBoxings hearing number (.error .abandoned)
      (whole.1.put number (whole.1.shared number).release.2, whole.2)
  else []

/-- What is stored in a last part as well, which comes also after a panic. -/
def finallyBoxings (act : DeskRun ω κ ε α Unit) (first last : Boxings ω κ ε α) : Boxings ω κ ε α :=
  fun whole => first whole ++ act.catchPanic.thereafter (fun _ => last) whole

/-- A step with a completer stores what the settle or the drop stores that it comes to. -/
def stepBoxings (hearing : Hearing ω κ ε α) : CompleterStep ε α → Boxings ω κ ε α
  | .settle name outcome, whole =>
    (whole.1.completer? name).elim [] fun number =>
      settleBoxings hearing number (outcome.map .plain) whole
  | .isSettled _, _ => []
  | .clone name copy, whole =>
    (whole.1.completer? name).elim [] fun number =>
      (whole.1.completer? copy).elim [] fun former => dropBoxings hearing former
        ((whole.1.put number (whole.1.shared number).retain.2).hold copy number, whole.2)
  | .drop name, whole =>
    (whole.1.completer? name).elim [] fun number =>
      dropBoxings hearing number (whole.1.release name, whole.2)

/-- Of a move only the step with a completer may store anything. -/
def moveBoxings (hearing : Hearing ω κ ε α) : Move ω κ ε α → Boxings ω κ ε α
  | .work _, _ => []
  | .step step _, whole => stepBoxings hearing step whole

/-- Moves store what each of them does. -/
def movesBoxings (notify : Notify ω κ ε α) (hearing : Hearing ω κ ε α) :
    List (Move ω κ ε α) → Boxings ω κ ε α
  | [], _ => []
  | move :: moves, whole => moveBoxings hearing move whole ++
    (moveWith notify move).thereafter (fun _ => movesBoxings notify hearing moves) whole

/-- A listener stores what its moves store, or, if it is a bridge, the failure that it claims, and
then what settling its output stores. -/
def hearing : Nat → Hearing ω κ ε α
  | 0, _, _, _ => []
  | depth + 1, .observer moves, outcome, whole =>
    movesBoxings (notify depth) (hearing depth) (moves outcome) whole
  | depth + 1, .bridge type output, outcome, whole =>
    type.boxings (type.carried? outcome) whole.2 ++
      (type.claim outcome).beside.thereafter (fun claimed =>
        finallyBoxings (do let _ ← settleWith (notify depth) output (claimed.map .ofDeferred))
          (settleBoxings (hearing depth) output (claimed.map .ofDeferred))
          (dropBoxings (hearing depth) output)) whole

/-- What is stored in work with room for one listener of each promise on the desk. -/
def heardIn (boxings : Hearing ω κ ε α → Boxings ω κ ε α) : Boxings ω κ ε α := fun whole =>
  boxings (hearing whole.1.promises.length) whole

/-! ### Steps at a quiet desk -/

/-- Started at a quiet desk, the computation leaves it quiet, and sets the flags of exactly the
tokens that these failures report. -/
abbrev Boxes (boxings : Boxings ω κ ε α) (act : DeskRun ω κ ε α β) : Prop :=
  act.Guards (fun whole => whole.1.Quiet) boxings fun _ => True

/-- However listeners are run, a quiet one stores what it is said to store. -/
def Notify.Boxes (notify : Notify ω κ ε α) (hearing : Hearing ω κ ε α) : Prop :=
  ∀ listener outcome, listener.Quiet →
    Desk.Boxes (hearing listener outcome) (notify listener outcome)

/-- What is done beside a desk stores what it does without one, and leaves the desk quiet. -/
theorem boxes_beside {boxings : World ω κ → List (Boxing ω κ)} {act : Run ω κ β}
    (h : act.Boxes boxings) :
    Desk.Boxes (fun whole => boxings whole.2) (act.beside : DeskRun ω κ ε α β) :=
  Act.Guards.beside h

/-- To look at a desk stores nothing. -/
theorem boxes_look {γ : Type} (view : Desk ω κ ε α → γ) :
    Desk.Boxes (fun _ => []) (look view : DeskRun ω κ ε α γ) :=
  .read fun _ _ => trivial

/-- Work that depends on what may be found on the desk. -/
theorem boxes_found {γ : Type} (view : Desk ω κ ε α → Option γ) (boxings : γ → Boxings ω κ ε α)
    {next : Option γ → DeskRun ω κ ε α β} (hnone : Desk.Boxes (fun _ => []) (next none))
    (hsome : ∀ found, Desk.Boxes (boxings found) (next (some found))) :
    Desk.Boxes (fun whole => (view whole.1).elim [] fun found => boxings found whole)
      (look view >>= next) := by
  intro whole hdesk
  have hlook : look view whole = (.done (view whole.1), whole) := rfl
  rw [Act.bind_of_done hlook]
  dsimp only
  cases view whole.1 with
  | none => exact hnone whole hdesk
  | some found => exact hsome found whole hdesk

/-- Work at a desk that has been changed before. -/
theorem boxes_changed (f : Desk ω κ ε α → Desk ω κ ε α) (hf : ∀ desk, desk.Quiet → (f desk).Quiet)
    (boxings : Boxings ω κ ε α) {next : Unit → DeskRun ω κ ε α β}
    (hnext : Desk.Boxes boxings (next ())) :
    Desk.Boxes (fun whole => boxings (f whole.1, whole.2)) (change f >>= next) :=
  fun whole hdesk => hnext (f whole.1, whole.2) (hf whole.1 hdesk)

section

variable {notify : Notify ω κ ε α} {hearing : Hearing ω κ ε α}

/-- To settle a promise stores what its listener stores. -/
theorem boxes_settleWith (hnotify : Notify.Boxes notify hearing) (number : Nat)
    (outcome : Outcome ε (Payload ε α)) :
    Desk.Boxes (settleBoxings hearing number outcome) (settleWith notify number outcome) := by
  rintro ⟨desk, world⟩ hdesk
  have hcell := hdesk.cells number
  rcases hshared : (desk.shared number).cell with ⟨_ | listener, waker⟩ | first | _
  all_goals
    rw [hshared] at hcell
    simp only [settleBoxings, hshared]
  case pending.none =>
    have hwaker : (waker.getD (pure ())).Quiet := by
      cases waker with
      | none => exact .pure _
      | some waker => exact hcell.2 waker rfl
    have hwoken : Desk.Boxes (fun _ => []) ((waker.getD (pure ())).beside >>= fun _ => pure true :
        DeskRun ω κ ε α Bool) :=
      (boxes_beside hwaker.boxes).before fun _ _ => .pure trivial
    rw [settleWith_of_unheard waker hshared]
    exact hwoken _ (hdesk.put number trivial)
  case pending.some =>
    have hheard : Desk.Boxes (hearing listener outcome)
        (notify listener outcome >>= fun _ => pure true : DeskRun ω κ ε α Bool) :=
      (hnotify listener outcome (hcell.1 listener rfl)).before fun _ _ => .pure trivial
    rw [settleWith_of_heard hshared]
    exact hheard _ (hdesk.put number trivial)
  all_goals
    rw [settleWith_of_isSettled (by rw [hshared]; rfl)]
    exact ⟨hdesk, .nil rfl, fun _ _ => trivial⟩

/-- To drop a completer stores what a listener stores that hears of a broken promise. -/
theorem boxes_dropWith (hnotify : Notify.Boxes notify hearing) (number : Nat) :
    Desk.Boxes (dropBoxings hearing number) (dropWith notify number) := by
  rintro ⟨desk, world⟩ hdesk
  have hput : (desk.put number (desk.shared number).release.2).Quiet :=
    hdesk.put number (hdesk.cells number)
  by_cases hone : (desk.shared number).completers = 1
  · have hsettle : Desk.Boxes (settleBoxings hearing number (.error .abandoned))
        (settleWith notify number (.error .abandoned) >>= fun _ => pure () :
          DeskRun ω κ ε α Unit) :=
      (boxes_settleWith hnotify number (.error .abandoned)).before fun _ _ => .pure trivial
    rw [dropWith_of_one hone, dropBoxings, if_pos hone]
    exact hsettle _ hput
  · rw [dropWith_of_ne_one hone, dropBoxings, if_neg hone]
    exact ⟨hput, .nil rfl, fun _ _ => trivial⟩

/-- What is done at last stores as much whether the part before it has panicked or not. -/
theorem boxes_andFinally {act last : DeskRun ω κ ε α Unit} {first rest : Boxings ω κ ε α}
    (hact : Desk.Boxes first act) (hlast : Desk.Boxes rest last) :
    Desk.Boxes (finallyBoxings act first rest) (andFinally act last) := by
  refine hact.catchPanic.bind fun caught _ => ?_
  rcases caught with alarm | ⟨⟩
  · exact hlast.before fun _ _ => .panic alarm
  · exact hlast

/-- A step with a completer stores what the listeners store that it runs. -/
theorem boxes_stepWith (hnotify : Notify.Boxes notify hearing) (step : CompleterStep ε α) :
    Desk.Boxes (stepBoxings hearing step) (stepWith notify step) := by
  cases step with
  | settle name outcome =>
    refine boxes_found (·.completer? name)
      (fun number => settleBoxings hearing number (outcome.map .plain)) (.pure trivial) ?_
    exact fun number => (boxes_settleWith hnotify number _).before fun _ _ => .pure trivial
  | isSettled name =>
    refine (boxes_look _).before fun found _ => ?_
    cases found with
    | none => exact .pure trivial
    | some number => exact (boxes_look _).before fun _ _ => .pure trivial
  | clone name copy =>
    refine boxes_found (·.completer? name) (fun number whole =>
      (whole.1.completer? copy).elim [] fun former => dropBoxings hearing former
        ((whole.1.put number (whole.1.shared number).retain.2).hold copy number, whole.2))
      (.pure trivial) fun number => ?_
    refine boxes_changed (fun desk => desk.put number (desk.shared number).retain.2)
      (fun desk hdesk => hdesk.put number (hdesk.cells number))
      (fun whole => (whole.1.completer? copy).elim [] fun former =>
        dropBoxings hearing former (whole.1.hold copy number, whole.2)) ?_
    have hhold (desk : Desk ω κ ε α) (hdesk : desk.Quiet) : (desk.hold copy number).Quiet :=
      hdesk.hold copy number
    refine boxes_found (·.completer? copy) (fun former whole =>
      dropBoxings hearing former (whole.1.hold copy number, whole.2)) ?_ fun former => ?_
    · exact boxes_changed _ hhold (fun _ => []) (.pure trivial)
    · refine boxes_changed _ hhold (dropBoxings hearing former) ?_
      exact (boxes_dropWith hnotify former).before fun _ _ => .pure trivial
  | drop name =>
    refine boxes_found (·.completer? name) (fun number whole =>
      dropBoxings hearing number (whole.1.release name, whole.2)) (.pure trivial) fun number => ?_
    refine boxes_changed _ (fun desk hdesk => hdesk.release name) (dropBoxings hearing number) ?_
    exact (boxes_dropWith hnotify number).before fun _ _ => .pure trivial

/-- A move of an observer stores what the listeners store that it runs. -/
theorem boxes_moveWith (hnotify : Notify.Boxes notify hearing) {move : Move ω κ ε α}
    (hmove : move.Quiet) : Desk.Boxes (moveBoxings hearing move) (moveWith notify move) := by
  cases move with
  | work act => exact boxes_beside (Act.Quiet.boxes hmove)
  | step step report =>
    exact (boxes_stepWith hnotify step).before fun answer _ => boxes_beside (hmove answer).boxes

/-- The moves of an observer store what they store one after the other, up to a panic. -/
theorem boxes_movesWith (hnotify : Notify.Boxes notify hearing) {moves : List (Move ω κ ε α)}
    (hmoves : ∀ move ∈ moves, move.Quiet) :
    Desk.Boxes (movesBoxings notify hearing moves) (movesWith notify moves) := by
  induction moves with
  | nil => exact .pure trivial
  | cons move moves ih =>
    obtain ⟨hfirst, hrest⟩ := List.forall_mem_cons.1 hmoves
    exact (boxes_moveWith hnotify hfirst).bind fun _ _ => ih hrest

end

/-- Down to any depth, a quiet listener stores what it is said to store. -/
theorem boxes_notify (depth : Nat) :
    Notify.Boxes (notify depth : Notify ω κ ε α) (hearing depth) := by
  induction depth with
  | zero => exact fun _ _ _ => .giveUp
  | succ depth ih =>
    intro listener outcome hlistener
    cases listener with
    | observer moves => exact boxes_movesWith ih (hlistener outcome)
    | bridge type output =>
      refine (boxes_beside (FailureType.boxes_claim hlistener outcome)).bind fun claimed _ => ?_
      refine boxes_andFinally ?_ (boxes_dropWith ih output)
      exact (boxes_settleWith ih output (claimed.map .ofDeferred)).before fun _ _ => .pure trivial

/-- What is stored in running listeners is found by running them down to the depth that the desk
allows. -/
theorem boxes_withListeners {act : Notify ω κ ε α → DeskRun ω κ ε α β}
    {boxings : Hearing ω κ ε α → Boxings ω κ ε α}
    (hact : ∀ notify hearing, Notify.Boxes notify hearing →
      Desk.Boxes (boxings hearing) (act notify)) :
    Desk.Boxes (heardIn boxings) (withListeners act) :=
  fun whole hdesk => hact _ _ (boxes_notify whole.1.promises.length) whole hdesk

/-- To settle a promise of a desk stores what the listeners of the desk store. -/
theorem boxes_settle (number : Nat) (outcome : Outcome ε (Payload ε α)) :
    Desk.Boxes (heardIn fun hearing => settleBoxings hearing number outcome)
      (settle number outcome : DeskRun ω κ ε α Bool) :=
  boxes_withListeners fun _ _ hnotify => boxes_settleWith hnotify number outcome

/-- So does dropping a completer. -/
theorem boxes_dropCompleter (number : Nat) :
    Desk.Boxes (heardIn fun hearing => dropBoxings hearing number)
      (dropCompleter number : DeskRun ω κ ε α Unit) :=
  boxes_withListeners fun _ _ hnotify => boxes_dropWith hnotify number

/-- So does a step with a completer. -/
theorem boxes_step (step : CompleterStep ε α) :
    Desk.Boxes (heardIn fun hearing => stepBoxings hearing step)
      (Desk.step step : DeskRun ω κ ε α CompleterAnswer) :=
  boxes_withListeners fun _ _ hnotify => boxes_stepWith hnotify step

end Desk

end Deferral
