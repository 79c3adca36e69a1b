import Deferral.DynError
import Deferral.Promise.Cell
import Mathlib.Data.Finset.Card

/-!
# Interleavings around one promise

Threads share a promise through its cell and the count of its completers. Every access is a single
step: one pass through the cell's lock, or one atomic change of the count. An arena is a promise
with all that the threads around it hold, and `Arena.Leads` is any sequence of steps, in any order.

Nothing ties a step to a thread. While a listener runs, any step may be the listener's own, and a
listener that panics ends its call like one that returns. Only what ownership rules out is left out:
a completer that has been dropped takes no more steps, one that is in the middle of a settle is not
dropped, and the promise side is gone once a listener has been registered.

What a run has shown is its history. The views at the end of this file read off a history which
outcomes were offered to the promise and which were handed out by it.
-/

namespace Deferral

variable {ο ν β ε α : Type}

/-- Who does what a settled cell asks for: the completer that settled it, the completer whose drop
broke the promise, or the promise side, when it registers a listener on a settled promise. -/
inductive Caller where
  | settling (handle : Nat)
  | dropping (handle : Nat)
  | registering
deriving DecidableEq

/-- A call of a listener outside the lock, from the step that asked for it to its end. -/
structure Call (ο β : Type) where
  caller : Caller
  listener : ο
  outcome : β
  started : Bool
deriving DecidableEq

/-- A waker that has been taken out of the cell and has not been woken yet. -/
structure Wake (ν : Type) where
  caller : Caller
  waker : ν
deriving DecidableEq

/-- The listener call that a settled cell asks for. -/
def Duty.calls (caller : Caller) : Option (Duty ο ν β) → List (Call ο β)
  | some (.notify listener outcome) => [⟨caller, listener, outcome, false⟩]
  | some (.wake _) => []
  | some .rest => []
  | none => []

/-- The wake that a settled cell asks for. -/
def Duty.wakes (caller : Caller) : Option (Duty ο ν β) → List (Wake ν)
  | some (.notify _ _) => []
  | some (.wake waker) => [⟨caller, waker⟩]
  | some .rest => []
  | none => []

/-- The listener call that registering on a cell asks for. -/
def Listened.calls (listener : ο) : Listened β → List (Call ο β)
  | .now outcome => [⟨.registering, listener, outcome, false⟩]
  | .later => []
  | .never => []

/-- A duty is done by the one it falls to. -/
theorem Duty.caller_of_mem_calls {caller : Caller} {duty : Option (Duty ο ν β)} {call : Call ο β}
    (hcall : call ∈ Duty.calls caller duty) : call.caller = caller := by
  rcases duty with _ | ⟨listener, outcome⟩ | waker | _
  · cases hcall
  · rw [List.mem_singleton.1 hcall]
  · cases hcall
  · cases hcall

/-- A listener that runs at once is called by the promise side. -/
theorem Listened.caller_of_mem_calls {listener : ο} {answer : Listened β} {call : Call ο β}
    (hcall : call ∈ answer.calls listener) : call.caller = .registering := by
  cases answer with
  | now outcome => rw [List.mem_singleton.1 hcall]
  | later => cases hcall
  | never => cases hcall

/-- A promise and what the threads around it hold. Completers are told apart by the order in which
they were made. -/
structure Arena (ο ν ε α : Type) where
  /-- What the promise shares with its completers. -/
  shared : Shared ο ν (Outcome ε α)
  /-- The live completers. -/
  handles : Finset Nat
  /-- How many completers have been made. -/
  made : Nat
  /-- The completers whose drop was the last and has not broken the promise yet. -/
  breaking : Finset Nat
  /-- Is the promise side still held? -/
  held : Bool
  /-- The listener calls that have not ended. -/
  calls : List (Call ο (Outcome ε α))
  /-- The wakers that are still to be woken. -/
  wakes : List (Wake ν)

/-- A step of a thread. To complete a promise, with a value or with an error, is to settle it. -/
inductive Action (ο ν ε α : Type) where
  | settle (handle : Nat) (outcome : Outcome ε α)
  | isSettled (handle : Nat)
  | clone (handle : Nat)
  /-- The first half of a drop counts the completer out. -/
  | release (handle : Nat)
  /-- The second half of the last drop breaks the promise. -/
  | abandon (handle : Nat)
  | poll (waker : ν)
  | isTerminated
  | listen (listener : ο)
  /-- The promise side is dropped. -/
  | discard
  /-- A listener call begins. -/
  | start (position : Nat)
  /-- A listener call ends, by a return or by a panic. -/
  | finish (position : Nat) (panics : Bool)
  | wake (position : Nat)

/-- What a step shows to the thread that makes it. -/
inductive Report (ο ν ε α : Type) where
  /-- A settle either counted, and left this duty, or came too late. -/
  | settled (duty : Option (Duty ο ν (Outcome ε α)))
  | flag (flag : Bool)
  | released (last : Bool)
  | polled (answer : Polled (Outcome ε α))
  | listened (answer : Listened (Outcome ε α))
  | called (listener : ο) (outcome : Outcome ε α)
  | woken (waker : ν)
  | silent

/-- A step with what it showed. -/
structure Event (ο ν ε α : Type) where
  action : Action ο ν ε α
  report : Report ο ν ε α

namespace Arena

/-- A new promise has one completer, and its promise side is held. -/
def fresh : Arena ο ν ε α := ⟨.fresh, {0}, 1, ∅, true, [], []⟩

/-- Settle the promise for `caller`, who has to call the listener or to wake the waker next. -/
def settle (arena : Arena ο ν ε α) (caller : Caller) (outcome : Outcome ε α) :
    Report ο ν ε α × Arena ο ν ε α :=
  let (duty, shared) := arena.shared.onCell (Cell.settle outcome)
  (.settled duty,
    { arena with
      shared
      calls := arena.calls ++ Duty.calls caller duty
      wakes := arena.wakes ++ Duty.wakes caller duty })

/-- Is a settle with this completer still calling a listener or waking a waker? -/
def Busy (arena : Arena ο ν ε α) (handle : Nat) : Prop :=
  (∃ call ∈ arena.calls, call.caller = .settling handle) ∨
    ∃ wake ∈ arena.wakes, wake.caller = .settling handle

/-- The steps that are possible in an arena. -/
def Allows (arena : Arena ο ν ε α) : Action ο ν ε α → Prop
  | .settle handle _ | .isSettled handle | .clone handle => handle ∈ arena.handles
  | .release handle => handle ∈ arena.handles ∧ ¬arena.Busy handle
  | .abandon handle => handle ∈ arena.breaking
  | .poll _ | .isTerminated | .listen _ | .discard => arena.held = true
  | .start position => (arena.calls[position]?).map Call.started = some false
  | .finish position _ => (arena.calls[position]?).map Call.started = some true
  | .wake position => position < arena.wakes.length

instance (arena : Arena ο ν ε α) (handle : Nat) : Decidable (arena.Busy handle) :=
  inferInstanceAs (Decidable (_ ∨ _))

instance (arena : Arena ο ν ε α) : (action : Action ο ν ε α) → Decidable (arena.Allows action)
  | .settle _ _ | .isSettled _ | .clone _ | .abandon _ => inferInstanceAs (Decidable (_ ∈ _))
  | .release _ => inferInstanceAs (Decidable (_ ∧ _))
  | .poll _ | .isTerminated | .listen _ | .discard | .start _ | .finish _ _ =>
    inferInstanceAs (Decidable (_ = _))
  | .wake _ => inferInstanceAs (Decidable (_ < _))

/-- What a step shows, and the arena after it. -/
def perform (arena : Arena ο ν ε α) : Action ο ν ε α → Report ο ν ε α × Arena ο ν ε α
  | .settle handle outcome => arena.settle (.settling handle) outcome
  | .isSettled _ => (.flag arena.shared.cell.isSettled, arena)
  | .clone _ =>
    (.silent,
      { arena with
        shared := arena.shared.retain.2
        handles := insert arena.made arena.handles
        made := arena.made + 1 })
  | .release handle =>
    let (last, shared) := arena.shared.release
    (.released last,
      { arena with
        shared
        handles := arena.handles.erase handle
        breaking := if last then insert handle arena.breaking else arena.breaking })
  | .abandon handle =>
    { arena with breaking := arena.breaking.erase handle }.settle (.dropping handle)
      (.error .abandoned)
  | .poll waker =>
    let (answer, shared) := arena.shared.onCell (Cell.poll waker)
    (.polled answer, { arena with shared })
  | .isTerminated => (.flag arena.shared.cell.isTaken, arena)
  | .listen listener =>
    let (answer, shared) := arena.shared.onCell (Cell.listen listener)
    (.listened answer,
      { arena with shared, held := false, calls := arena.calls ++ answer.calls listener })
  | .discard => (.silent, { arena with held := false })
  | .start position =>
    match arena.calls[position]? with
    | some call =>
      (.called call.listener call.outcome,
        { arena with calls := arena.calls.set position { call with started := true } })
    | none => (.silent, arena)
  | .finish position _ => (.silent, { arena with calls := arena.calls.eraseIdx position })
  | .wake position =>
    match arena.wakes[position]? with
    | some wake => (.woken wake.waker, { arena with wakes := arena.wakes.eraseIdx position })
    | none => (.silent, arena)

/-! ### Steps by the state of the cell -/

variable {arena : Arena ο ν ε α} {outcome : Outcome ε α}

/-- A settle comes too late for a settled cell, and changes nothing. -/
theorem settle_of_isSettled (caller : Caller) (outcome : Outcome ε α)
    (h : arena.shared.cell.isSettled = true) :
    arena.settle caller outcome = (.settled none, arena) := by
  obtain ⟨⟨cell, completers⟩, handles, made, breaking, held, calls, wakes⟩ := arena
  cases cell with
  | pending listener waker => simp [Cell.isSettled] at h
  | ready first => simp [settle, Shared.onCell, Cell.settle, Duty.calls, Duty.wakes]
  | taken => simp [settle, Shared.onCell, Cell.settle, Duty.calls, Duty.wakes]

/-- Without a listener the cell keeps the outcome, and nobody is called. -/
theorem settle_of_unheard {waker : Option ν} (caller : Caller) (outcome : Outcome ε α)
    (h : arena.shared.cell = .pending none waker) :
    ∃ duty wakes, arena.settle caller outcome =
      (.settled (some duty),
        { arena with shared := { arena.shared with cell := .ready outcome }, wakes }) := by
  cases waker <;>
    simp [settle, Shared.onCell, h, Cell.settle, Duty.calls, Duty.wakes]

/-- With a listener the outcome is handed on, and the listener has to be called. -/
theorem settle_of_heard {listener : ο} {waker : Option ν} (caller : Caller)
    (outcome : Outcome ε α) (h : arena.shared.cell = .pending (some listener) waker) :
    arena.settle caller outcome =
      (.settled (some (.notify listener outcome)),
        { arena with
          shared := { arena.shared with cell := .taken }
          calls := arena.calls ++ [⟨caller, listener, outcome, false⟩] }) := by
  simp [settle, Shared.onCell, h, Cell.settle, Duty.calls, Duty.wakes]

/-- A poll of a pending cell leaves its waker there. -/
theorem perform_poll_of_pending {listener : Option ο} {former : Option ν} (waker : ν)
    (h : arena.shared.cell = .pending listener former) :
    arena.perform (.poll waker) =
      (.polled .pending,
        { arena with
          shared := { arena.shared with cell := .pending listener (some waker) } }) := by
  simp only [perform, Shared.onCell, h, Cell.poll]

/-- A poll of a cell that is ready takes the outcome. -/
theorem perform_poll_of_ready (waker : ν) (h : arena.shared.cell = .ready outcome) :
    arena.perform (.poll waker) =
      (.polled (.ready outcome),
        { arena with shared := { arena.shared with cell := .taken } }) := by
  simp only [perform, Shared.onCell, h, Cell.poll]

/-- A poll changes nothing when the outcome is gone. -/
theorem perform_poll_of_taken (waker : ν) (h : arena.shared.cell = .taken) :
    arena.perform (.poll waker) = (.polled .spent, arena) := by
  obtain ⟨⟨cell, completers⟩, handles, made, breaking, held, calls, wakes⟩ := arena
  subst h
  rfl

/-- A listener on a pending cell waits, in the place of a waker. -/
theorem perform_listen_of_pending {former : Option ο} {waker : Option ν} (listener : ο)
    (h : arena.shared.cell = .pending former waker) :
    arena.perform (.listen listener) =
      (.listened .later,
        { arena with
          shared := { arena.shared with cell := .pending (some listener) none }
          held := false }) := by
  simp only [perform, Shared.onCell, h, Cell.listen, Listened.calls, List.append_nil]

/-- A listener on a cell that is ready has to be called at once. -/
theorem perform_listen_of_ready (listener : ο) (h : arena.shared.cell = .ready outcome) :
    arena.perform (.listen listener) =
      (.listened (.now outcome),
        { arena with
          shared := { arena.shared with cell := .taken }
          held := false
          calls := arena.calls ++ [⟨.registering, listener, outcome, false⟩] }) := by
  simp only [perform, Shared.onCell, h, Cell.listen, Listened.calls]

/-- A listener never runs when the outcome is gone. -/
theorem perform_listen_of_taken (listener : ο) (h : arena.shared.cell = .taken) :
    arena.perform (.listen listener) = (.listened .never, { arena with held := false }) := by
  obtain ⟨⟨cell, completers⟩, handles, made, breaking, held, calls, wakes⟩ := arena
  subst h
  simp only [perform, Shared.onCell, Cell.listen, Listened.calls, List.append_nil]

/-- A call that begins shows its listener and its outcome. -/
theorem perform_start {position : Nat} {call : Call ο (Outcome ε α)}
    (h : arena.calls[position]? = some call) :
    arena.perform (.start position) =
      (.called call.listener call.outcome,
        { arena with calls := arena.calls.set position { call with started := true } }) := by
  simp only [perform, h]

/-- A waker that is woken leaves the arena. -/
theorem perform_wake {position : Nat} {wake : Wake ν} (h : arena.wakes[position]? = some wake) :
    arena.perform (.wake position) =
      (.woken wake.waker, { arena with wakes := arena.wakes.eraseIdx position }) := by
  simp only [perform, h]

end Arena

namespace Event

/-- The outcome that a step tries to settle the promise with. The last drop offers the error of a
broken promise. -/
def offer? (event : Event ο ν ε α) : Option (Outcome ε α) :=
  match event.action with
  | .settle _ outcome => some outcome
  | .abandon _ => some (.error .abandoned)
  | _ => none

/-- Did the offer of a step count? -/
def verdict? (event : Event ο ν ε α) : Option Bool :=
  match event.report with
  | .settled duty => some duty.isSome
  | _ => none

/-- The listener that a step registered, unless the outcome was gone. -/
def registration? (event : Event ο ν ε α) : Option ο :=
  match event.action, event.report with
  | .listen _, .listened .never => none
  | .listen listener, _ => some listener
  | _, _ => none

/-- The outcome that a step calls a listener with. -/
def hearing? (event : Event ο ν ε α) : Option (ο × Outcome ε α) :=
  match event.report with
  | .called listener outcome => some (listener, outcome)
  | _ => none

/-- The outcome that a step hands out: by a poll that is ready, or to a listener. -/
def delivery? (event : Event ο ν ε α) : Option (Outcome ε α) :=
  match event.report with
  | .polled (.ready outcome) => some outcome
  | .called _ outcome => some outcome
  | _ => none

end Event

/-- The steps of a run with what they showed, in their order. -/
abbrev History (ο ν ε α : Type) : Type := List (Event ο ν ε α)

/-- A run leads from one arena to another and leaves a history. -/
inductive Arena.Leads (start : Arena ο ν ε α) : History ο ν ε α → Arena ο ν ε α → Prop
  | refl : Leads start [] start
  | step {history : History ο ν ε α} {arena : Arena ο ν ε α} (action : Action ο ν ε α) :
      Leads start history arena → arena.Allows action →
      Leads start (history ++ [⟨action, (arena.perform action).1⟩]) (arena.perform action).2

/-- A run leads through every arena on its way. -/
theorem Arena.Leads.split {start arena : Arena ο ν ε α} {before after : History ο ν ε α}
    (hleads : start.Leads (before ++ after) arena) :
    ∃ middle, start.Leads before middle ∧ middle.Leads after arena := by
  generalize hwhole : before ++ after = history at hleads
  induction hleads generalizing after with
  | refl =>
    obtain ⟨rfl, rfl⟩ := List.append_eq_nil_iff.1 hwhole
    exact ⟨start, .refl, .refl⟩
  | @step history arena action hearlier hallows ih =>
    rcases List.eq_nil_or_concat after with rfl | ⟨most, last, rfl⟩
    · rw [List.append_nil] at hwhole
      subst hwhole
      exact ⟨_, hearlier.step action hallows, .refl⟩
    · rw [List.concat_eq_append, ← List.append_assoc] at hwhole
      obtain ⟨hmost, hlast⟩ := List.append_inj' hwhole rfl
      obtain ⟨middle, hbefore, hafter⟩ := ih hmost
      rw [List.concat_eq_append, hlast]
      exact ⟨middle, hbefore, hafter.step action hallows⟩

/-- Every event of a run is a possible step in the arena where it happened. -/
theorem Arena.Leads.split_cons {start arena : Arena ο ν ε α} {before after : History ο ν ε α}
    {event : Event ο ν ε α} (hleads : start.Leads (before ++ event :: after) arena) :
    ∃ middle, start.Leads before middle ∧ middle.Allows event.action ∧
      event.report = (middle.perform event.action).1 ∧
        (middle.perform event.action).2.Leads after arena := by
  rw [List.append_cons] at hleads
  obtain ⟨next, hnext, hafter⟩ := hleads.split
  generalize hwhole : before ++ [event] = history at hnext
  cases hnext with
  | refl => simp at hwhole
  | step action hbefore hallows =>
    obtain ⟨rfl, hevent⟩ := List.append_inj' hwhole rfl
    obtain rfl := List.singleton_inj.1 hevent
    exact ⟨_, hbefore, hallows, rfl, hafter⟩

namespace History

/-- What the last event shows comes last in a view of the history. -/
theorem filterMap_concat {γ : Type} (view : Event ο ν ε α → Option γ) (history : History ο ν ε α)
    (event : Event ο ν ε α) :
    (history ++ [event]).filterMap view = history.filterMap view ++ (view event).toList := by
  rw [List.filterMap_append, List.filterMap_cons]
  cases view event <;> rfl

/-- The outcomes offered to the promise, in the order of the settles. -/
def offers (history : History ο ν ε α) : List (Outcome ε α) := history.filterMap Event.offer?

/-- What the settles of a run answered, in their order. -/
def verdicts (history : History ο ν ε α) : List Bool := history.filterMap Event.verdict?

/-- The listeners registered before the outcome was gone. -/
def registrations (history : History ο ν ε α) : List ο := history.filterMap Event.registration?

/-- The listener calls of a run, each with the outcome that the listener heard. -/
def hearings (history : History ο ν ε α) : List (ο × Outcome ε α) :=
  history.filterMap Event.hearing?

/-- The outcomes that the promise handed out, to polls and to listeners. -/
def deliveries (history : History ο ν ε α) : List (Outcome ε α) :=
  history.filterMap Event.delivery?

end History

end Deferral
