import Deferral.Proofs.Computation
import Deferral.Proofs.Effects
import Deferral.Proofs.Promise.DeskSteps

/-!
# Schedules of a promise

A schedule says what happens to one promise, moment by moment: what is offered to it, by a
completer, by the drop of the last one or by the task that was spawned for it, when completers are
cloned and dropped, when whoever awaits the promise polls in vain, and what others do in between.
The same schedule may be followed at different desks, by different ways of awaiting the promise.

A `Way` of awaiting says what is so while the promise is pending and once it is settled, and what
the settle itself visibly does. All of that is kept by a single moment, and so by every schedule.
-/

namespace Deferral

variable {ω κ ν ε α : Type}

/-! ### Moments -/

/-- What happens to a promise, and beside it. -/
inductive Moment (ε α : Type) where
  /-- A completer offers an outcome. -/
  | settle (outcome : Outcome ε (Payload ε α))
  /-- A completer is cloned. -/
  | clone
  /-- A completer is dropped. -/
  | drop
  /-- The task that was spawned for the promise hands over what its work has come to, which is
  `none` after a panic, and drops its completer. -/
  | handOver (result : Option (Outcome ε α))
  /-- Whoever awaits the promise polls, and is told that it is pending. -/
  | poll
  /-- Something else happens. -/
  | elsewhere (effect : Effect)

namespace Moment

/-- What others visibly do. -/
def effect : Moment ε α → Effect
  | elsewhere effect => effect
  | settle _ | clone | drop | handOver _ | poll => .nothing

/-- What others visibly do, one after the other. -/
def effects (moments : List (Moment ε α)) : Effect :=
  moments.foldr (fun moment => moment.effect.andThen) .nothing

/-- The effect of moments is that of the first, and then that of the others. -/
@[simp] theorem effects_cons (moment : Moment ε α) (moments : List (Moment ε α)) :
    effects (moment :: moments) = moment.effect.andThen (effects moments) := rfl

/-- What each of the moments leaves alone, all of them do. -/
theorem apart_effects {moments : List (Moment ε α)} {other : Effect}
    (h : ∀ moment ∈ moments, moment.effect.Apart other) : (effects moments).Apart other := by
  induction moments with
  | nil => exact fun _ => .inl rfl
  | cons moment moments ih =>
    exact (h moment List.mem_cons_self).andThen
      (ih fun other hother => h other (List.mem_cons_of_mem _ hother))

/-- What none of the moments logs, all of them do not log. -/
theorem notices_effects {moments : List (Moment ε α)}
    (h : ∀ moment ∈ moments, moment.effect.notices = []) : (effects moments).notices = [] := by
  induction moments with
  | nil => rfl
  | cons moment moments ih =>
    rw [effects_cons, Effect.notices_andThen, h moment List.mem_cons_self,
      ih fun other hother => h other (List.mem_cons_of_mem _ hother), List.append_nil]

/-- The outcome of a task, given what its work has come to: that of a panic is an error of its
own. -/
def finished (result : Option (Outcome ε α)) : Outcome ε α := result.getD (.error .crashed)

/-- What is offered to the promise, given the number of its completers. -/
def offer? (completers : Nat) : Moment ε α → Option (Outcome ε (Payload ε α))
  | settle outcome => some outcome
  | drop => if completers = 1 then some (.error .abandoned) else none
  | handOver result => some ((finished result).map .plain)
  | clone | poll | elsewhere _ => none

/-- The number of completers afterwards, when nothing is offered. -/
def completers (count : Nat) : Moment ε α → Nat
  | clone => count + 1
  | drop => count - 1
  | settle _ | handOver _ | poll | elsewhere _ => count

end Moment

/-- How a schedule settles a promise: what happens earlier, the moment that does it, if the promise
had not been settled before, the outcome that counts, and what happens later. -/
structure Settlement (ε α : Type) where
  earlier : List (Moment ε α)
  moment? : Option (Moment ε α)
  winner : Outcome ε (Payload ε α)
  later : List (Moment ε α)

namespace Settlement

/-- The settlement with more moments before it. -/
def precededBy (moments : List (Moment ε α)) (settlement : Settlement ε α) : Settlement ε α :=
  { settlement with earlier := moments ++ settlement.earlier }

/-- The settlement with more moments after it. -/
def followedBy (moments : List (Moment ε α)) (settlement : Settlement ε α) : Settlement ε α :=
  { settlement with later := settlement.later ++ moments }

/-- What is visibly done in all, when settling the promise has an effect of its own. -/
def total (settlement : Settlement ε α) (spent : Effect) : Effect :=
  (Moment.effects settlement.earlier).andThen
    (spent.andThen (Moment.effects settlement.later))

/-- Where nothing happened before the settlement, the effect is that of the settlement and of what
comes later. -/
theorem total_of_nil (moment? : Option (Moment ε α)) (winner : Outcome ε (Payload ε α))
    (later : List (Moment ε α)) (spent : Effect) :
    (⟨[], moment?, winner, later⟩ : Settlement ε α).total spent =
      spent.andThen (Moment.effects later) :=
  Effect.nothing_andThen _

end Settlement

namespace Moment

/-- How these moments settle a pending promise: by the first offer. -/
def settlement? : Nat → List (Moment ε α) → Option (Settlement ε α)
  | _, [] => none
  | count, moment :: moments =>
    match moment.offer? count with
    | some outcome => some ⟨[], some moment, outcome, moments⟩
    | none => (settlement? (moment.completers count) moments).map (.precededBy [moment])

/-- The number of completers after these moments, when none of them offers anything. -/
def left (count : Nat) (moments : List (Moment ε α)) : Nat :=
  moments.foldl (fun count moment => moment.completers count) count

/-- What the first moments do not settle, the other ones may. -/
theorem settlement?_append (count : Nat) (moments later : List (Moment ε α)) :
    settlement? count (moments ++ later) =
      match settlement? count moments with
      | some settlement => some (settlement.followedBy later)
      | none => (settlement? (left count moments) later).map (.precededBy moments) := by
  induction moments generalizing count with
  | nil =>
    rw [List.nil_append, settlement?]
    exact Option.map_id'.symm
  | cons moment moments ih =>
    rw [List.cons_append, settlement?, settlement?]
    cases moment.offer? count with
    | some outcome => rfl
    | none =>
      simp only [ih, left, List.foldl_cons]
      cases settlement? (moment.completers count) moments with
      | some settlement => rfl
      | none =>
        rw [Option.map_map]
        rfl

/-- A promise that a task has settled has the outcome of that task. -/
theorem winner_of_handOver {count : Nat} {moments : List (Moment ε α)}
    {settlement : Settlement ε α} {result : Option (Outcome ε α)}
    (h : settlement? count moments = some settlement)
    (hmoment : settlement.moment? = some (.handOver result)) :
    settlement.winner = (finished result).map .plain := by
  induction moments generalizing count settlement with
  | nil => cases h
  | cons moment moments ih =>
    rw [settlement?] at h
    cases hoffer : moment.offer? count with
    | some outcome =>
      rw [hoffer] at h
      cases h
      cases hmoment
      cases hoffer
      rfl
    | none =>
      rw [hoffer] at h
      obtain ⟨rest, hrest, rfl⟩ := Option.map_eq_some_iff.1 h
      have hwinner := ih hrest
      exact hwinner hmoment

end Moment

/-- How these moments settle a promise, if it has not been settled before. -/
def DeskShared.settlement? (shared : DeskShared ω κ ε α) (moments : List (Moment ε α)) :
    Option (Settlement ε α) :=
  match shared.cell with
  | .pending _ _ => Moment.settlement? shared.completers moments
  | .ready outcome => some ⟨[], none, outcome, moments⟩
  | .taken => none

/-- A promise that a task has settled has the outcome of that task. -/
theorem DeskShared.winner_of_handOver {shared : DeskShared ω κ ε α} {moments : List (Moment ε α)}
    {settlement : Settlement ε α} {result : Option (Outcome ε α)}
    (h : shared.settlement? moments = some settlement)
    (hmoment : settlement.moment? = some (.handOver result)) :
    settlement.winner = (Moment.finished result).map .plain := by
  obtain ⟨_ | _ | _, completers⟩ := shared
  · exact Moment.winner_of_handOver h hmoment
  · cases h
    cases hmoment
  · cases h

/-! ### What happens at a desk -/

/-- A waker does nothing that a bystander or a failure type could see. It may do with the client's
state what it likes, and it may panic. -/
structure Act.Idle (view : World ω κ → ν) (waker : Run ω κ Unit) : Prop where
  turns : ∀ world, Effect.nothing.Turns world (waker world).2
  view : ∀ world, view (waker world).2 = view world

/-- Something happens that leaves the promises in `kept` alone and has the given effect. -/
structure Elsewhere (view : World ω κ → ν) (kept : List Nat) (effect : Effect)
    (state after : Desk ω κ ε α × World ω κ) : Prop where
  kept : ∀ number ∈ kept, after.1.shared number = state.1.shared number
  size : state.1.promises.length ≤ after.1.promises.length
  turns : effect.Turns state.2 after.2
  view : view after.2 = view state.2

/-- What happens beside a desk leaves its promises alone. -/
theorem Elsewhere.beside {view : World ω κ → ν} {desk : Desk ω κ ε α} {world later : World ω κ}
    {effect : Effect} (hturns : effect.Turns world later) (hview : view later = view world)
    (kept : List Nat) : Elsewhere view kept effect (desk, world) (desk, later) :=
  ⟨fun _ _ => rfl, Nat.le_refl _, hturns, hview⟩

/-- At some time the work of the task has come to this: it has returned an outcome, or panicked. -/
inductive Task.ComesTo (task : Task ω κ ε α) : Option (Outcome ε α) → Prop where
  | returned {state after : Desk ω κ ε α × World ω κ} {outcome : Outcome ε α}
    (hwork : Desk.taskOutcome task state = (.done (some outcome), after)) :
    task.ComesTo (some outcome)
  | panicked {state after : Desk ω κ ε α × World ω κ} {alarm : Alarm}
    (hwork : Desk.taskOutcome task state = (.panicked alarm, after)) : task.ComesTo none

/-- How those who await a promise ask for its outcome, with a waker. -/
abbrev Ask (ω κ ε α : Type) : Type :=
  Run ω κ Unit → DeskRun ω κ ε α (Option (Outcome ε (Payload ε α)))

/-- A moment of the promise `input`, which is awaited by `ask`, at a desk. -/
inductive Happens (view : World ω κ → ν) (input : Nat) (kept : List Nat) (ask : Ask ω κ ε α) :
    Moment ε α → Desk ω κ ε α × World ω κ → Desk ω κ ε α × World ω κ → Prop
  | settle {state : Desk ω κ ε α × World ω κ} (room : Nat) (outcome : Outcome ε (Payload ε α))
    (hends : (Desk.settleWith (Desk.notify room) input outcome state).1 ≠ .unfinished) :
    Happens view input kept ask (.settle outcome) state
      (Desk.settleWith (Desk.notify room) input outcome state).2
  | clone {state : Desk ω κ ε α × World ω κ} :
    Happens view input kept ask .clone state (Desk.atShared input Shared.retain state).2
  | drop {state : Desk ω κ ε α × World ω κ} (room : Nat)
    (hends : (Desk.dropWith (Desk.notify room) input state).1 ≠ .unfinished) :
    Happens view input kept ask .drop state (Desk.dropWith (Desk.notify room) input state).2
  | handOver {state : Desk ω κ ε α × World ω κ} {result : Option (Outcome ε α)}
    (task : Task ω κ ε α) (houtput : task.output = input) (hwork : task.ComesTo result)
    (hends : (Desk.finishTask task (Moment.finished result) state).1 ≠ .unfinished) :
    Happens view input kept ask (.handOver result) state
      (Desk.finishTask task (Moment.finished result) state).2
  | poll {state : Desk ω κ ε α × World ω κ} (waker : Run ω κ Unit) (hidle : waker.Idle view)
    (hpending : (ask waker state).1 = .done none) :
    Happens view input kept ask .poll state (ask waker state).2
  | elsewhere {state after : Desk ω κ ε α × World ω κ} (effect : Effect)
    (hothers : Elsewhere view kept effect state after) :
    Happens view input kept ask (.elsewhere effect) state after

/-- The moments of a schedule, one after the other. -/
inductive Unfolds (view : World ω κ → ν) (input : Nat) (kept : List Nat) (ask : Ask ω κ ε α) :
    List (Moment ε α) → Desk ω κ ε α × World ω κ → Desk ω κ ε α × World ω κ → Prop
  | nil (state : Desk ω κ ε α × World ω κ) : Unfolds view input kept ask [] state state
  | cons {moment : Moment ε α} {moments : List (Moment ε α)}
    {state middle after : Desk ω κ ε α × World ω κ}
    (hmoment : Happens view input kept ask moment state middle)
    (hrest : Unfolds view input kept ask moments middle after) :
    Unfolds view input kept ask (moment :: moments) state after

section

variable {view : World ω κ → ν} {input : Nat} {kept : List Nat} {ask : Ask ω κ ε α}

/-- To run a task whose work is over is two moments: the work, which happens elsewhere, and handing
over what it has come to. A schedule may have other moments between the two. -/
theorem Unfolds.runTask {state middle : Desk ω κ ε α × World ω κ} {task : Task ω κ ε α}
    {effect : Effect} {exit : Exit (Option (Outcome ε α))} (houtput : task.output = input)
    (hwork : Desk.taskOutcome task state = (exit, middle)) (hready : exit ≠ .done none)
    (hothers : Elsewhere view kept effect state middle)
    (hends : (Desk.runTask task state).1 ≠ .unfinished) :
    ∃ result, task.ComesTo result ∧ Unfolds view input kept ask
      [.elsewhere effect, .handOver result] state (Desk.runTask task state).2 := by
  have hhands : ∀ result, task.ComesTo result →
      Desk.runTask task state =
        (Desk.finishTask task (Moment.finished result) >>= fun _ => pure true :
          DeskRun ω κ ε α Bool) middle →
      Unfolds view input kept ask [.elsewhere effect, .handOver result] state
        (Desk.runTask task state).2 := by
    intro result hcomes hrun
    rw [hrun, Act.after_bind_pure _ (fun _ => true)]
    refine .cons (.elsewhere effect hothers) (.cons (.handOver task houtput hcomes ?_) (.nil _))
    intro hunfinished
    rw [hrun, Act.bind_of_unfinished (Prod.ext hunfinished rfl)] at hends
    exact hends rfl
  rcases exit with (_ | outcome) | alarm | _
  · exact absurd rfl hready
  · refine ⟨some outcome, .returned hwork, hhands _ (.returned hwork) ?_⟩
    rw [Desk.runTask, Act.bind_apply, Act.catchPanic, hwork]
    rfl
  · refine ⟨none, .panicked hwork, hhands _ (.panicked hwork) ?_⟩
    rw [Desk.runTask, Act.bind_apply, Act.catchPanic, hwork]
    rfl
  · rw [Desk.runTask, Act.bind_apply, Act.catchPanic, hwork] at hends
    exact absurd rfl hends

end

/-! ### Handing over -/

namespace Desk

variable {task : Task ω κ ε α} {outcome : Outcome ε α} {state after : Desk ω κ ε α × World ω κ}

/-- A finished task settles its promise and drops its completer, also after a panic of the
settle. -/
theorem finishTask_of_drop
    (hends : (settle task.output (outcome.map .plain) state).1 ≠ .unfinished)
    (hdrop : dropCompleter task.output (settle task.output (outcome.map .plain) state).2 =
      (.done (), after)) :
    finishTask task outcome state = (.done (), after) := by
  simp only [finishTask, Act.bind_apply, Act.catchPanic, andFinally_apply]
  rcases hsettle : settle task.output (outcome.map .plain) state with ⟨_ | alarm | _, middle⟩
  all_goals rw [hsettle] at hends hdrop
  case unfinished => exact absurd rfl hends
  all_goals simp only [Act.pure_apply, hdrop, Act.panic]

/-- A finished task whose settle is left unfinished is left unfinished. -/
theorem finishTask_of_unfinished
    (hends : (settle task.output (outcome.map .plain) state).1 = .unfinished) :
    (finishTask task outcome state).1 = .unfinished := by
  simp only [finishTask, Act.bind_apply, Act.catchPanic, andFinally_apply]
  rcases hsettle : settle task.output (outcome.map .plain) state with ⟨exit, middle⟩
  rw [hsettle] at hends
  obtain rfl : exit = .unfinished := hends
  rfl

end Desk

/-! ### Ways to await a promise -/

/-- How a promise stands: it is pending and has this many completers, or it has been settled with
this outcome. -/
inductive Standing (ε α : Type) where
  | pending (completers : Nat)
  | settled (winner : Outcome ε (Payload ε α))

/-- The same with another number of completers. -/
def Standing.recount (completers : Nat) : Standing ε α → Standing ε α
  | pending _ => pending completers
  | settled winner => settled winner

/-- A way to await the promise `input` by `ask`: what is so of a desk and its world depends on how
the promise stands, and settling it has the effect `spent`, next to that of the settle itself. -/
structure Way (view : World ω κ → ν) (input : Nat) (kept : List Nat) (ask : Ask ω κ ε α)
    (stands : Standing ε α → Desk ω κ ε α × World ω κ → Prop)
    (spent : Outcome ε (Payload ε α) → Effect) : Prop where
  completers : ∀ {count state}, stands (.pending count) state →
    (state.1.shared input).completers = count
  isSettled : ∀ {winner state}, stands (.settled winner) state →
    (state.1.shared input).cell.isSettled = true
  placed : ∀ {standing state}, stands standing state → input < state.1.promises.length
  recount : ∀ {standing desk world}, stands standing (desk, world) → ∀ count,
    stands (standing.recount count)
      (desk.put input { desk.shared input with completers := count }, world)
  settle : ∀ {count state}, stands (.pending count) state → ∀ room outcome,
    (Desk.settleWith (Desk.notify room) input outcome state).1 ≠ .unfinished →
    stands (.settled outcome) (Desk.settleWith (Desk.notify room) input outcome state).2 ∧
      (spent outcome).Turns state.2
        (Desk.settleWith (Desk.notify room) input outcome state).2.2
  poll : ∀ {count state}, stands (.pending count) state → ∀ {waker}, waker.Idle view →
    stands (.pending count) (ask waker state).2 ∧ (ask waker state).2.2 = state.2
  answers : ∀ {winner state}, stands (.settled winner) state → ∀ waker,
    (ask waker state).1 ≠ .done none
  elsewhere : ∀ {standing state after effect}, stands standing state →
    Elsewhere view kept effect state after → stands standing after

namespace Way

variable {view : World ω κ → ν} {input : Nat} {kept : List Nat} {ask : Ask ω κ ε α}
  {stands : Standing ε α → Desk ω κ ε α × World ω κ → Prop}
  {spent : Outcome ε (Payload ε α) → Effect} {state after : Desk ω κ ε α × World ω κ}
  {moment : Moment ε α} {moments : List (Moment ε α)} {count : Nat}
  {outcome winner : Outcome ε (Payload ε α)}

/-- To count a completer of a pending promise out leaves it pending. -/
theorem released (hway : Way view input kept ask stands spent)
    (hstands : stands (.pending count) state) :
    stands (.pending (count - 1))
      (state.1.put input (state.1.shared input).release.2, state.2) := by
  obtain rfl := hway.completers hstands
  exact hway.recount hstands _

/-- A drop of a completer of a settled promise counts it out. -/
theorem dropWith (hway : Way view input kept ask stands spent)
    (hstands : stands (.settled winner) state) (room : Nat) :
    ∃ after, Desk.dropWith (Desk.notify room) input state = (.done (), after) ∧
      stands (.settled winner) after ∧ after.2 = state.2 := by
  obtain ⟨desk, world⟩ := state
  exact ⟨_, Desk.dropWith_of_isSettled (hway.isSettled hstands) (hway.placed hstands),
    hway.recount hstands _, rfl⟩

/-- A moment of a settled promise leaves it settled. -/
theorem late (hway : Way view input kept ask stands spent)
    (hstands : stands (.settled winner) state)
    (hmoment : Happens view input kept ask moment state after) :
    stands (.settled winner) after ∧ moment.effect.Turns state.2 after.2 := by
  cases hmoment with
  | settle room outcome hends =>
    rw [Desk.settleWith_of_isSettled (hway.isSettled hstands)]
    exact ⟨hstands, .refl _⟩
  | clone => exact ⟨hway.recount hstands _, .refl _⟩
  | drop room hends =>
    obtain ⟨after, hdrop, hafter, hworld⟩ := hway.dropWith hstands room
    rw [hdrop]
    exact ⟨hafter, hworld ▸ .refl _⟩
  | @handOver _ result task houtput hwork hends =>
    obtain ⟨after, hdrop, hafter, hworld⟩ := hway.dropWith hstands state.1.promises.length
    have hsettle : Desk.settle task.output ((Moment.finished result).map .plain) state =
        (.done false, state) := by
      rw [houtput]
      exact Desk.settleWith_of_isSettled (hway.isSettled hstands)
    rw [Desk.finishTask_of_drop (by simp [hsettle]) (by rw [hsettle, houtput]; exact hdrop)]
    exact ⟨hafter, hworld ▸ .refl _⟩
  | poll waker hidle hpending => exact absurd hpending (hway.answers hstands waker)
  | elsewhere effect hothers => exact ⟨hway.elsewhere hstands hothers, hothers.turns⟩

/-- A moment of a pending promise that offers nothing leaves it pending. -/
theorem waits (hway : Way view input kept ask stands spent)
    (hstands : stands (.pending count) state)
    (hmoment : Happens view input kept ask moment state after)
    (hoffer : moment.offer? count = none) :
    stands (.pending (moment.completers count)) after ∧ moment.effect.Turns state.2 after.2 := by
  cases hmoment with
  | settle room outcome hends => cases hoffer
  | clone =>
    obtain rfl := hway.completers hstands
    exact ⟨hway.recount hstands _, .refl _⟩
  | drop room hends =>
    have hmany : (state.1.shared input).completers ≠ 1 := by
      rw [hway.completers hstands]
      intro hone
      simp [Moment.offer?, hone] at hoffer
    rw [Desk.dropWith_of_ne_one hmany]
    exact ⟨hway.released hstands, .refl _⟩
  | handOver task houtput hwork hends => cases hoffer
  | poll waker hidle hpending =>
    obtain ⟨hafter, hworld⟩ := hway.poll hstands hidle
    exact ⟨hafter, hworld ▸ .refl _⟩
  | elsewhere effect hothers => exact ⟨hway.elsewhere hstands hothers, hothers.turns⟩

/-- The first offer settles a pending promise. -/
theorem offered (hway : Way view input kept ask stands spent)
    (hstands : stands (.pending count) state)
    (hmoment : Happens view input kept ask moment state after)
    (hoffer : moment.offer? count = some outcome) :
    stands (.settled outcome) after ∧ (spent outcome).Turns state.2 after.2 := by
  cases hmoment with
  | settle room _ hends =>
    cases hoffer
    exact hway.settle hstands room _ hends
  | clone => cases hoffer
  | drop room hends =>
    obtain ⟨hone, rfl⟩ : count = 1 ∧ .error .abandoned = outcome := by
      simpa [Moment.offer?] using hoffer
    -- The completer is counted out before the promise is broken.
    have hlast : (state.1.shared input).completers = 1 := (hway.completers hstands).trans hone
    rw [Desk.dropWith_of_one hlast] at hends ⊢
    rw [Act.after_bind_pure _ (fun _ => ())]
    refine hway.settle (hway.released hstands) room _ fun hunfinished => hends ?_
    rw [Act.bind_of_unfinished (Prod.ext hunfinished rfl)]
  | @handOver _ result task houtput hwork hends =>
    cases hoffer
    have hfinishes : (Desk.settle input ((Moment.finished result).map .plain) state).1 ≠
        .unfinished :=
      fun hunfinished => hends (Desk.finishTask_of_unfinished (houtput ▸ hunfinished))
    obtain ⟨hsettled, hturns⟩ := hway.settle hstands state.1.promises.length _ hfinishes
    obtain ⟨after, hdrop, hafter, hworld⟩ :=
      hway.dropWith hsettled (Desk.settle input ((Moment.finished result).map .plain)
        state).2.1.promises.length
    rw [Desk.finishTask_of_drop (houtput ▸ hfinishes) (by rw [houtput]; exact hdrop)]
    exact ⟨hafter, hworld ▸ hturns⟩
  | poll waker hidle hpending => cases hoffer
  | elsewhere effect hothers => cases hoffer

/-- A schedule leaves a settled promise settled. -/
theorem late_run (hway : Way view input kept ask stands spent)
    (hstands : stands (.settled winner) state)
    (hunfolds : Unfolds view input kept ask moments state after) :
    stands (.settled winner) after ∧ (Moment.effects moments).Turns state.2 after.2 := by
  induction hunfolds with
  | nil state => exact ⟨hstands, .refl _⟩
  | cons hmoment _ ih =>
    obtain ⟨hmiddle, hturns⟩ := hway.late hstands hmoment
    obtain ⟨hafter, hlater⟩ := ih hmiddle
    exact ⟨hafter, hturns.andThen hlater⟩

/-- A schedule leaves a pending promise pending when it offers nothing, and otherwise the first
offer settles it. -/
theorem run (hway : Way view input kept ask stands spent) (hstands : stands (.pending count) state)
    (hunfolds : Unfolds view input kept ask moments state after) :
    match Moment.settlement? count moments with
    | none =>
      stands (.pending (Moment.left count moments)) after ∧
        (Moment.effects moments).Turns state.2 after.2
    | some settlement =>
      stands (.settled settlement.winner) after ∧
        (settlement.total (spent settlement.winner)).Turns state.2 after.2 := by
  induction hunfolds generalizing count with
  | nil state => exact ⟨hstands, .refl _⟩
  | @cons moment moments state middle after hmoment hrest ih =>
    rw [Moment.settlement?]
    cases hoffer : moment.offer? count with
    | some outcome =>
      -- The first offer cuts the schedule in two: from here on the promise is settled.
      obtain ⟨hmiddle, hturns⟩ := hway.offered hstands hmoment hoffer
      obtain ⟨hafter, hlater⟩ := hway.late_run hmiddle hrest
      refine ⟨hafter, ?_⟩
      rw [Settlement.total_of_nil]
      exact hturns.andThen hlater
    | none =>
      obtain ⟨hmiddle, hturns⟩ := hway.waits hstands hmoment hoffer
      specialize ih hmiddle
      cases hsettlement : Moment.settlement? (moment.completers count) moments with
      | none =>
        rw [hsettlement] at ih
        exact ⟨ih.1, hturns.andThen ih.2⟩
      | some settlement =>
        rw [hsettlement] at ih
        refine ⟨ih.1, ?_⟩
        simp only [Settlement.total, Settlement.precededBy, List.cons_append, List.nil_append,
          Moment.effects_cons, Effect.andThen_assoc]
        exact hturns.andThen ih.2

end Way

end Deferral
