import Deferral.Proofs.Tokens.Listeners

/-!
# Tokens and promises

A bridge over an outcome that is there stores the failure that it claims at once, and so does a poll
that claims what it is handed. Everything else that a program does with promises, settling them,
dropping their completers, observing them and running tasks, stores what the listeners store that it
runs.
-/

namespace Deferral

variable {ω κ ε α β : Type}

namespace Desk

variable {desk : Desk ω κ ε α}

/-! ### Polls and bridges -/

/-- A poll writes no token. -/
theorem boxes_poll (number : Nat) {waker : Run ω κ Unit} (hwaker : waker.Quiet) :
    Desk.Boxes (fun _ => []) (poll number waker : DeskRun ω κ ε α _) := by
  rintro ⟨desk, world⟩ hdesk
  have hcell := hdesk.cells number
  cases hshared : (desk.shared number).cell with
  | pending listener former =>
    rw [hshared] at hcell
    rw [poll_of_pending waker hshared]
    refine ⟨hdesk.put number ⟨hcell.1, fun woken hwoken => ?_⟩, .nil rfl, fun _ _ => trivial⟩
    cases hwoken
    exact hwaker
  | ready outcome =>
    rw [poll_of_ready waker hshared]
    exact ⟨hdesk.put number trivial, .nil rfl, fun _ _ => trivial⟩
  | taken =>
    rw [poll_of_taken waker hshared]
    exact ⟨hdesk, .nil rfl, nofun⟩

/-- What a bridge over a promise stores at once: the failure of its type that the outcome carries,
if the outcome is there. -/
def bridgeBoxings (type : FailureType ω κ ε) (number : Nat) : Boxings ω κ ε α := fun whole =>
  match (whole.1.shared number).cell with
  | .pending _ _ => []
  | .ready outcome => type.boxings (type.carried? outcome) whole.2
  | .taken => []

/-- A poll that claims at once stores the failure that it finds. -/
theorem boxes_pollClaimed {type : FailureType ω κ ε} (htype : type.Quiet) (number : Nat)
    {waker : Run ω κ Unit} (hwaker : waker.Quiet) :
    Desk.Boxes (bridgeBoxings type number) (pollClaimed type number waker : DeskRun ω κ ε α _) := by
  rintro ⟨desk, world⟩ hdesk
  have hpoll := boxes_poll number hwaker (desk, world) hdesk
  cases hcell : (desk.shared number).cell with
  | pending listener former =>
    rw [poll_of_pending waker hcell] at hpoll
    rw [pollClaimed, Act.bind_of_done (poll_of_pending waker hcell), bridgeBoxings, hcell]
    exact ⟨hpoll.1, .nil rfl, fun _ _ => trivial⟩
  | ready outcome =>
    rw [poll_of_ready waker hcell] at hpoll
    rw [pollClaimed, Act.bind_of_done (poll_of_ready waker hcell), bridgeBoxings, hcell]
    refine Act.Guards.before (boxes_beside (FailureType.boxes_claim htype outcome)) ?_ _ hpoll.1
    exact fun _ _ => .pure trivial
  | taken =>
    rw [pollClaimed, Act.bind_of_panicked (poll_of_taken waker hcell), bridgeBoxings, hcell]
    exact ⟨hdesk, .nil rfl, nofun⟩

/-- What a bridge makes of an outcome is a failure only if it claimed that failure. -/
theorem claimed_of_failure {claimed : Outcome ε (Deferred ε (Payload ε α))} {failure : ε}
    (h : claimed.map Payload.ofDeferred = .ok (.failure failure)) :
    claimed = .ok (.failure failure) := by
  rcases claimed with error | ⟨value | error⟩
  · cases h
  · cases h
  · cases h
    rfl

/-- A failure that a poll has claimed was in the outcome of the promise. -/
theorem mem_bridgeBoxings_of_pollClaimed {type : FailureType ω κ ε} {number : Nat}
    {waker : Run ω κ Unit} {failure : ε} {world : World ω κ} {after : Desk ω κ ε α × World ω κ}
    (hdone : pollClaimed type number waker (desk, world) =
      (.done (some (.ok (.failure failure))), after)) :
    ⟨type, failure, world⟩ ∈ bridgeBoxings type number (desk, world) := by
  cases hcell : (desk.shared number).cell with
  | pending listener former =>
    rw [pollClaimed, Act.bind_of_done (poll_of_pending waker hcell)] at hdone
    cases hdone
  | ready outcome =>
    rw [pollClaimed, Act.bind_of_done (poll_of_ready waker hcell)] at hdone
    obtain ⟨claimed, last, hclaim, hpure⟩ := Act.done_of_bind hdone
    obtain ⟨hexit, rfl⟩ := Prod.mk.inj hpure
    have hclaimed : claimed = .ok (.failure failure) :=
      claimed_of_failure (Option.some.inj (Exit.done.inj hexit))
    rw [hclaimed] at hclaim
    rw [bridgeBoxings, hcell]
    dsimp only
    rw [FailureType.carried?_of_claim (Act.of_beside hclaim).1]
    exact List.mem_singleton_self _
  | taken =>
    rw [pollClaimed, Act.bind_of_panicked (poll_of_taken waker hcell)] at hdone
    cases hdone

/-- A bridge to a new promise keeps there what it claims. -/
theorem notify_bridge_of_claim {type : FailureType ω κ ε} {output depth : Nat}
    {outcome : Outcome ε (Payload ε α)} {claimed : Outcome ε (Deferred ε (Payload ε α))}
    {world next : World ω κ} (hnew : desk.shared output = .fresh)
    (hclaim : type.claim outcome world = (.done claimed, next)) :
    notify (depth + 1) (.bridge type output) outcome (desk, world) =
      (.done (), desk.put output ⟨.ready (claimed.map .ofDeferred), 0⟩, next) := by
  have houtput : output < desk.promises.length := lt_of_not_isSettled (by rw [hnew]; rfl)
  have hsettle : settleWith (notify depth) output (claimed.map .ofDeferred) (desk, next) =
      (.done true, desk.put output ⟨.ready (claimed.map .ofDeferred), 1⟩, next) := by
    rw [settleWith_of_unheard none (by rw [hnew]; rfl), hnew]
    rfl
  have hdrop : dropWith (notify depth) output
      (desk.put output ⟨.ready (claimed.map .ofDeferred), 1⟩, next) =
      (.done (), desk.put output ⟨.ready (claimed.map .ofDeferred), 0⟩, next) := by
    rw [dropWith_of_isSettled (by rw [shared_put houtput]; rfl) (by rwa [length_put]),
      shared_put houtput, put_put]
    rfl
  rw [notify, Act.bind_of_done (Act.beside_eq hclaim desk), andFinally_apply,
    Act.bind_of_done hsettle]
  exact hdrop

/-- A bridge that is made over an outcome keeps in its output what it claims of it. -/
theorem bridge_of_claim {type : FailureType ω κ ε} {input : Nat} {world next : World ω κ}
    {outcome : Outcome ε (Payload ε α)} {claimed : Outcome ε (Deferred ε (Payload ε α))}
    (hinput : input < desk.promises.length) (hcell : (desk.shared input).cell = .ready outcome)
    (hclaim : type.claim outcome world = (.done claimed, next)) :
    bridge type input (desk, world) =
      (.done desk.promises.length,
        (desk.grown.put input { desk.shared input with cell := .taken }).put desk.promises.length
          ⟨.ready (claimed.map .ofDeferred), 0⟩,
        next) := by
  have hnew : (desk.grown.put input { desk.shared input with cell := .taken }).shared
      desk.promises.length = .fresh := by
    rw [shared_put_of_ne (Nat.ne_of_gt hinput), shared_grown]
  rw [bridge_of_ready type hinput hcell, Act.bind_of_done (notify_bridge_of_claim hnew hclaim)]
  rfl

/-- A bridge whose look-up is left unfinished is left unfinished. -/
theorem bridge_of_unfinished {type : FailureType ω κ ε} {input : Nat} {world next : World ω κ}
    {outcome : Outcome ε (Payload ε α)} (hinput : input < desk.promises.length)
    (hcell : (desk.shared input).cell = .ready outcome)
    (hclaim : type.claim outcome world = (.unfinished, next)) :
    bridge type input (desk, world) =
      (.unfinished, desk.grown.put input { desk.shared input with cell := .taken }, next) := by
  rw [bridge_of_ready type hinput hcell]
  exact Act.bind_of_unfinished (Act.bind_of_unfinished (Act.beside_eq hclaim _) _) _

/-- A bridge that is made over an outcome stores the failure that it finds. It leaves a quiet desk
quiet. -/
theorem boxes_bridge {type : FailureType ω κ ε} (htype : type.Quiet) {input : Nat}
    (hdesk : desk.Quiet) (hinput : input < desk.promises.length) (world : World ω κ) :
    (bridge type input (desk, world)).2.1.Quiet ∧
      Asked (bridgeBoxings type input (desk, world)) world.cancelled
        (bridge type input (desk, world)).2.2.cancelled := by
  cases hcell : (desk.shared input).cell with
  | pending listener former =>
    have hbridge : (Listener.bridge type desk.promises.length : Listener ω κ ε α).Quiet := htype
    rw [bridge_of_pending type hinput hcell, bridgeBoxings, hcell]
    exact ⟨hdesk.grown.put input (DeskCell.quiet_heard hbridge), .nil rfl⟩
  | ready outcome =>
    have hasked := (FailureType.boxes_claim htype outcome).asked world
    have hput : (desk.grown.put input { desk.shared input with cell := .taken }).Quiet :=
      hdesk.grown.put input trivial
    rw [bridgeBoxings, hcell]
    rcases type.claim_returns outcome world with ⟨claimed, hclaim⟩ | ⟨hclaim, -⟩
    · rw [bridge_of_claim hinput hcell (Prod.ext hclaim rfl)]
      exact ⟨hput.put _ trivial, hasked⟩
    · rw [bridge_of_unfinished hinput hcell (Prod.ext hclaim rfl)]
      exact ⟨hput, hasked⟩
  | taken =>
    rw [bridge_of_taken type hinput hcell, bridgeBoxings, hcell]
    exact ⟨hdesk.grown.put _ trivial, .nil rfl⟩

/-- A failure that a bridge has put into its output at once was in the outcome of its input. -/
theorem mem_bridgeBoxings_of_bridge {type : FailureType ω κ ε} {input output : Nat} {failure : ε}
    {world last : World ω κ} {after : Desk ω κ ε α} (hinput : input < desk.promises.length)
    (hdone : bridge type input (desk, world) = (.done output, after, last))
    (hready : (after.shared output).cell = .ready (.ok (.failure failure))) :
    ⟨type, failure, world⟩ ∈ bridgeBoxings type input (desk, world) := by
  cases hcell : (desk.shared input).cell with
  | pending listener former =>
    rw [bridge_of_pending type hinput hcell] at hdone
    cases hdone
    rw [shared_put_of_ne (Nat.ne_of_gt hinput), shared_grown] at hready
    cases hready
  | ready outcome =>
    rcases type.claim_returns outcome world with ⟨claimed, hclaim⟩ | ⟨hclaim, -⟩
    · rw [bridge_of_claim hinput hcell (Prod.ext hclaim rfl)] at hdone
      cases hdone
      rw [shared_put (by simp)] at hready
      have hclaimed : claimed = .ok (.failure failure) :=
        claimed_of_failure (Cell.ready.inj hready)
      rw [bridgeBoxings, hcell]
      dsimp only
      rw [FailureType.carried?_of_claim (Prod.ext (hclaim.trans (congrArg _ hclaimed)) rfl)]
      exact List.mem_singleton_self _
    · rw [bridge_of_unfinished hinput hcell (Prod.ext hclaim rfl)] at hdone
      cases hdone
  | taken =>
    rw [bridge_of_taken type hinput hcell] at hdone
    cases hdone
    rw [shared_put (by simp)] at hready
    cases hready

/-! ### Making and observing promises -/

/-- What is stored when a promise gets a completer by this name: whoever had the name is dropped. -/
def createBoxings (name : String) : Boxings ω κ ε α := fun whole =>
  (whole.1.completer? name).elim [] fun former =>
    heardIn (fun hearing => dropBoxings hearing former)
      (whole.1.grown.hold name whole.1.promises.length, whole.2)

/-- To create a promise stores what is stored in dropping the completer that had the name. -/
theorem boxes_create (name : String) :
    Desk.Boxes (createBoxings name) (create name : DeskRun ω κ ε α Nat) := by
  rintro ⟨desk, world⟩ hdesk
  have hhold (other : Desk ω κ ε α) (hother : other.Quiet) :
      (other.hold name desk.promises.length).Quiet := hother.hold name _
  rw [create, Act.bind_of_done (addPromise_apply desk world)]
  refine boxes_found (·.completer? name) (fun former whole =>
    heardIn (fun hearing => dropBoxings hearing former)
      (whole.1.hold name desk.promises.length, whole.2)) ?_ (fun former => ?_)
    (desk.grown, world) hdesk.grown
  · exact boxes_changed _ hhold (fun _ => []) (.pure trivial)
  · refine boxes_changed _ hhold (heardIn fun hearing => dropBoxings hearing former) ?_
    exact (boxes_dropCompleter former).before fun _ _ => .pure trivial

/-- A promise that is settled from the start stores nothing, since nobody waits for it. -/
theorem boxes_settled (outcome : Outcome ε (Payload ε α)) :
    Desk.Boxes (fun _ => []) (settled outcome : DeskRun ω κ ε α Nat) := by
  rintro ⟨desk, world⟩ hdesk
  rw [settled_apply]
  exact ⟨hdesk.grown.put _ trivial, .nil rfl, fun _ _ => trivial⟩

/-- An observer that comes to an outcome runs at once. -/
def observeBoxings (number : Nat) (moves : Outcome ε (Payload ε α) → List (Move ω κ ε α)) :
    Boxings ω κ ε α := fun whole =>
  match (whole.1.shared number).cell with
  | .pending _ _ => []
  | .ready outcome => heardIn (fun hearing => hearing (.observer moves) outcome)
    (whole.1.put number { whole.1.shared number with cell := .taken }, whole.2)
  | .taken => []

/-- To observe a promise that is ready stores what the observer stores, and else nothing. -/
theorem boxes_observe (number : Nat) {moves : Outcome ε (Payload ε α) → List (Move ω κ ε α)}
    (hmoves : (Listener.observer moves).Quiet) :
    Desk.Boxes (observeBoxings number moves)
      (listen number (.observer moves) : DeskRun ω κ ε α Unit) := by
  rintro ⟨desk, world⟩ hdesk
  cases hcell : (desk.shared number).cell with
  | pending former waker =>
    have hlisten : listen number (.observer moves) (desk, world) =
        (.done (), desk.put number { desk.shared number with
          cell := .pending (some (.observer moves)) none }, world) := by
      simp only [listen, Act.bind_apply, atShared, Shared.onCell, hcell, Cell.listen,
        Act.pure_apply]
    rw [hlisten, observeBoxings, hcell]
    exact ⟨hdesk.put number (DeskCell.quiet_heard hmoves), .nil rfl, fun _ _ => trivial⟩
  | ready outcome =>
    have hnotify : Desk.Boxes (heardIn fun hearing => hearing (.observer moves) outcome)
        (withListeners fun notify => notify (.observer moves) outcome : DeskRun ω κ ε α Unit) :=
      boxes_withListeners fun _ _ hnotify => hnotify (.observer moves) outcome hmoves
    have hlisten : listen number (.observer moves) (desk, world) =
        withListeners (fun notify => notify (.observer moves) outcome)
          (desk.put number { desk.shared number with cell := .taken }, world) := by
      simp only [listen, Act.bind_apply, atShared, Shared.onCell, hcell, Cell.listen]
    rw [hlisten, observeBoxings, hcell]
    exact hnotify _ (hdesk.put number trivial)
  | taken =>
    have hlisten : listen number (.observer moves) (desk, world) =
        (.done (), desk.put number { desk.shared number with cell := .taken }, world) := by
      simp only [listen, Act.bind_apply, atShared, Shared.onCell, hcell, Cell.listen,
        Act.pure_apply]
    rw [hlisten, observeBoxings, hcell]
    exact ⟨hdesk.put number trivial, .nil rfl, fun _ _ => trivial⟩

/-! ### Tasks -/

/-- To spawn a task stores nothing. -/
theorem boxes_spawn (awaited : Option Nat) {work : Option (Payload ε α) → Run ω κ (Outcome ε α)}
    (hwork : ∀ value, (work value).Quiet) :
    Desk.Boxes (fun _ => []) (spawn awaited work : DeskRun ω κ ε α Nat) := by
  intro whole hdesk
  refine ⟨hdesk.grown.keepTasks fun task htask => ?_, .nil rfl, fun _ _ => trivial⟩
  rcases List.mem_append.1 htask with hformer | hnew
  · exact hdesk.tasks task hformer
  · rw [List.mem_singleton.1 hnew]
    exact hwork

/-- The work of a quiet task stores nothing. -/
theorem boxes_taskWork {task : Task ω κ ε α} (htask : task.Quiet)
    (awaited : Option (Outcome ε (Payload ε α))) :
    Desk.Boxes (fun _ => []) (taskWork task awaited) := by
  rcases awaited with _ | error | value
  · exact boxes_beside (htask none).boxes
  · exact .pure trivial
  · exact boxes_beside (htask (some value)).boxes

/-- A task that runs as far as it goes writes no token. -/
theorem boxes_taskOutcome {task : Task ω κ ε α} (htask : task.Quiet) :
    Desk.Boxes (fun _ => []) (taskOutcome task) := by
  unfold taskOutcome
  cases task.awaited with
  | none => exact (boxes_taskWork htask none).before fun _ _ => .pure trivial
  | some awaited =>
    refine (boxes_poll awaited (.pure _)).before fun answer _ => ?_
    cases answer with
    | none => exact .pure trivial
    | some outcome => exact (boxes_taskWork htask (some outcome)).before fun _ _ => .pure trivial

/-- What is stored when the promise of a task is settled and its completer dropped. -/
def finishBoxings (task : Task ω κ ε α) (outcome : Outcome ε α) : Boxings ω κ ε α :=
  finallyBoxings (do let _ ← settle task.output (outcome.map .plain))
    (heardIn fun hearing => settleBoxings hearing task.output (outcome.map .plain))
    (heardIn fun hearing => dropBoxings hearing task.output)

/-- To finish a task stores what the listener of its promise stores. -/
theorem boxes_finishTask (task : Task ω κ ε α) (outcome : Outcome ε α) :
    Desk.Boxes (finishBoxings task outcome) (finishTask task outcome) := by
  have hsettle : Desk.Boxes
      (heardIn fun hearing => settleBoxings hearing task.output (outcome.map .plain))
      (do let _ ← settle task.output (outcome.map .plain) : DeskRun ω κ ε α Unit) :=
    (boxes_settle task.output (outcome.map .plain)).before fun _ _ => .pure trivial
  refine (boxes_andFinally hsettle (boxes_dropCompleter task.output)).catchPanic.before ?_
  exact fun _ _ => .pure trivial

/-- What is stored at the end of a task, if it has come to one. -/
def endBoxings (task : Task ω κ ε α) : Except Alarm (Option (Outcome ε α)) → Boxings ω κ ε α
  | .ok none => fun _ => []
  | .ok (some outcome) => finishBoxings task outcome
  | .error _ => finishBoxings task (.error .crashed)

/-- What is stored in a run of a task: nothing, as long as it does not end. -/
def taskBoxings (task : Task ω κ ε α) : Boxings ω κ ε α :=
  (taskOutcome task).catchPanic.thereafter (endBoxings task)

/-- To run a task stores what is stored in finishing it, if it is finished. -/
theorem boxes_runTask {task : Task ω κ ε α} (htask : task.Quiet) :
    Desk.Boxes (taskBoxings task) (runTask task) := by
  refine (boxes_taskOutcome htask).catchPanic.then fun caught _ => ?_
  rcases caught with alarm | _ | outcome
  · exact (boxes_finishTask task (.error .crashed)).before fun _ _ => .pure trivial
  · exact .pure trivial
  · exact (boxes_finishTask task outcome).before fun _ _ => .pure trivial

/-- What is stored when tasks run one after the other. -/
def roundBoxings : List (Task ω κ ε α) → Boxings ω κ ε α
  | [], _ => []
  | task :: tasks, whole =>
    taskBoxings task whole ++ (runTask task).thereafter (fun _ => roundBoxings tasks) whole

/-- A round stores what its tasks do, and leaves tasks that write no token. -/
theorem guards_runRound {tasks : List (Task ω κ ε α)} (htasks : ∀ task ∈ tasks, task.Quiet) :
    Act.Guards (fun whole => whole.1.Quiet) (roundBoxings tasks)
      (fun left => ∀ task ∈ left, task.Quiet) (runRound tasks) := by
  induction tasks with
  | nil => exact .pure nofun
  | cons task tasks ih =>
    obtain ⟨hfirst, hrest⟩ := List.forall_mem_cons.1 htasks
    refine (boxes_runTask hfirst).bind fun finished _ => ?_
    refine (ih hrest).before fun left hleft => .pure ?_
    cases finished with
    | true => exact hleft
    | false => exact List.forall_mem_cons.2 ⟨hfirst, hleft⟩

/-- What is stored in rounds of the tasks on the desk, up to one in which none finishes. -/
def roundsBoxings : Nat → Boxings ω κ ε α
  | 0, _ => []
  | rounds + 1, whole => roundBoxings whole.1.tasks whole ++
    (runRound whole.1.tasks).thereafter (fun left after =>
      if left.length < whole.1.tasks.length then
        roundsBoxings rounds ({ after.1 with tasks := left }, after.2)
      else []) whole

/-- Any number of rounds store what they store one after the other. -/
theorem boxes_runRounds (rounds : Nat) :
    Desk.Boxes (roundsBoxings rounds) (runRounds rounds : DeskRun ω κ ε α Unit) := by
  induction rounds with
  | zero => exact .pure trivial
  | succ rounds ih =>
    -- The tasks of the round are the ones on the desk, so the argument is made at one state of it.
    intro whole hdesk
    have htasks : look (·.tasks) whole = (.done whole.1.tasks, whole) := rfl
    rw [runRounds, Act.bind_of_done htasks]
    refine (guards_runRound hdesk.tasks).bind (fun left hleft => ?_) whole hdesk
    intro after hafter
    have hkeep : change (fun desk => { desk with tasks := left }) after =
        (.done (), { after.1 with tasks := left }, after.2) := rfl
    rw [Act.bind_of_done hkeep]
    split
    · exact ih _ (hafter.keepTasks hleft)
    · exact ⟨hafter.keepTasks hleft, .nil rfl, fun _ _ => trivial⟩

/-- What is stored when every task runs that can go on. -/
def tasksBoxings : Boxings ω κ ε α := fun whole =>
  roundsBoxings (whole.1.tasks.length + 1) whole

/-- To run the tasks of a desk stores what the rounds store that this takes. -/
theorem boxes_runTasks :
    Desk.Boxes tasksBoxings (runTasks : DeskRun ω κ ε α Unit) :=
  fun whole hdesk => boxes_runRounds (whole.1.tasks.length + 1) whole hdesk

end Desk

/-! ### Errands -/

/-- What a program does with promises besides making bridges and claiming what it polls, with the
type of the answer. -/
inductive Errand (ω κ ε α : Type) : Type → Type 1 where
  | settle (number : Nat) (outcome : Outcome ε (Payload ε α)) : Errand ω κ ε α Bool
  | dropCompleter (number : Nat) : Errand ω κ ε α Unit
  | completerStep (step : CompleterStep ε α) : Errand ω κ ε α CompleterAnswer
  | create (name : String) : Errand ω κ ε α Nat
  | settled (outcome : Outcome ε (Payload ε α)) : Errand ω κ ε α Nat
  | poll (number : Nat) (waker : Run ω κ Unit) : Errand ω κ ε α (Option (Outcome ε (Payload ε α)))
  | observe (number : Nat) (moves : Outcome ε (Payload ε α) → List (Move ω κ ε α)) :
    Errand ω κ ε α Unit
  | spawn (awaited : Option Nat) (work : Option (Payload ε α) → Run ω κ (Outcome ε α)) :
    Errand ω κ ε α Nat
  | runTasks : Errand ω κ ε α Unit

namespace Errand

/-- What the program does on an errand. -/
def perform : Errand ω κ ε α β → DeskRun ω κ ε α β
  | .settle number outcome => Desk.settle number outcome
  | .dropCompleter number => Desk.dropCompleter number
  | .completerStep step => Desk.step step
  | .create name => Desk.create name
  | .settled outcome => Desk.settled outcome
  | .poll number waker => Desk.poll number waker
  | .observe number moves => Desk.listen number (.observer moves)
  | .spawn awaited work => Desk.spawn awaited work
  | .runTasks => Desk.runTasks

/-- The callables that come with an errand write no token. -/
def Quiet : Errand ω κ ε α β → Prop
  | .poll _ waker => waker.Quiet
  | .observe _ moves => (Listener.observer moves).Quiet
  | .spawn _ work => ∀ value, (work value).Quiet
  | _ => True

/-- What an errand stores. -/
def boxings : Errand ω κ ε α β → Desk.Boxings ω κ ε α
  | .settle number outcome => Desk.heardIn fun hearing => Desk.settleBoxings hearing number outcome
  | .dropCompleter number => Desk.heardIn fun hearing => Desk.dropBoxings hearing number
  | .completerStep step => Desk.heardIn fun hearing => Desk.stepBoxings hearing step
  | .create name => Desk.createBoxings name
  | .settled _ => fun _ => []
  | .poll _ _ => fun _ => []
  | .observe number moves => Desk.observeBoxings number moves
  | .spawn _ _ => fun _ => []
  | .runTasks => Desk.tasksBoxings

/-- An errand leaves a quiet desk quiet, and stores what the listeners store that it runs. -/
theorem boxes {errand : Errand ω κ ε α β} (hquiet : errand.Quiet) :
    Desk.Boxes errand.boxings errand.perform := by
  cases errand with
  | settle number outcome => exact Desk.boxes_settle number outcome
  | dropCompleter number => exact Desk.boxes_dropCompleter number
  | completerStep step => exact Desk.boxes_step step
  | create name => exact Desk.boxes_create name
  | settled outcome => exact Desk.boxes_settled outcome
  | poll number waker => exact Desk.boxes_poll number hquiet
  | observe number moves => exact Desk.boxes_observe number hquiet
  | spawn awaited work => exact Desk.boxes_spawn awaited hquiet
  | runTasks => exact Desk.boxes_runTasks

end Errand

end Deferral
