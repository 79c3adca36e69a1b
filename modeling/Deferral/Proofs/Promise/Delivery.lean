import Deferral.Proofs.Promise.Arena

/-!
# One-shot delivery

The outcome of a promise passes through six phases, however the threads around it interleave: it is
awaited, kept, and then either collected by a poll or due to a listener, which hears it and ends.
Each step keeps the phase or moves it forward, so the first settle decides the outcome, and the
outcome is handed out at most once.
-/

namespace Deferral

variable {ο ν β ε α : Type}

/-- How far a cell has come. -/
def Cell.stage : Cell ο ν β → Nat
  | pending _ _ => 0
  | ready _ => 1
  | taken => 2

/-- A pending cell has come no further than any other. -/
theorem Cell.stage_le_of_pending (listener : Option ο) (waker : Option ν) (cell : Cell ο ν β) :
    (pending listener waker : Cell ο ν β).stage ≤ cell.stage :=
  Nat.zero_le _

/-- No cell has come further than one whose outcome is gone. -/
theorem Cell.stage_le_taken (cell : Cell ο ν β) : cell.stage ≤ (taken : Cell ο ν β).stage := by
  cases cell <;> simp [stage]

/-- Where the outcome of a promise is. -/
inductive Phase (ο ν ε α : Type) where
  | awaited (listener : Option ο) (waker : Option ν)
  | kept (outcome : Outcome ε α)
  | collected (outcome : Outcome ε α)
  | due (caller : Caller) (listener : ο) (outcome : Outcome ε α)
  | heard (caller : Caller) (listener : ο) (outcome : Outcome ε α)
  | ended (listener : ο) (outcome : Outcome ε α)

namespace Phase

/-- The cell of a promise in a phase. -/
@[simp] def cell : Phase ο ν ε α → Cell ο ν (Outcome ε α)
  | awaited listener waker => .pending listener waker
  | kept outcome => .ready outcome
  | collected _ | due _ _ _ | heard _ _ _ | ended _ _ => .taken

/-- The listener calls under way in a phase. -/
@[simp] def calls : Phase ο ν ε α → List (Call ο (Outcome ε α))
  | due caller listener outcome => [⟨caller, listener, outcome, false⟩]
  | heard caller listener outcome => [⟨caller, listener, outcome, true⟩]
  | awaited _ _ | kept _ | collected _ | ended _ _ => []

/-- The outcome that the first settle decided. -/
@[simp] def outcome? : Phase ο ν ε α → Option (Outcome ε α)
  | awaited _ _ => none
  | kept outcome | collected outcome | due _ _ outcome | heard _ _ outcome | ended _ outcome =>
    some outcome

/-- What has been handed out up to a phase. -/
@[simp] def deliveries : Phase ο ν ε α → List (Outcome ε α)
  | collected outcome | heard _ _ outcome | ended _ outcome => [outcome]
  | awaited _ _ | kept _ | due _ _ _ => []

/-- What listeners have heard up to a phase. -/
@[simp] def hearings : Phase ο ν ε α → List (ο × Outcome ε α)
  | heard _ listener outcome | ended listener outcome => [(listener, outcome)]
  | awaited _ _ | kept _ | collected _ | due _ _ _ => []

/-- The listeners registered up to a phase. -/
@[simp] def registrations : Phase ο ν ε α → List ο
  | awaited listener _ => listener.toList
  | due _ listener _ | heard _ listener _ | ended listener _ => [listener]
  | kept _ | collected _ => []

/-- At most one listener call is under way, and it tells the phase. -/
theorem eq_of_mem_calls {phase : Phase ο ν ε α} {position : Nat} {call : Call ο (Outcome ε α)}
    (h : phase.calls[position]? = some call) :
    position = 0 ∧
      (call.started = false ∧ phase = .due call.caller call.listener call.outcome ∨
        call.started = true ∧ phase = .heard call.caller call.listener call.outcome) := by
  cases phase with
  | due caller listener outcome =>
    simp only [calls, List.getElem?_singleton] at h
    split at h
    · cases h
      exact ⟨‹_›, .inl ⟨rfl, rfl⟩⟩
    · cases h
  | heard caller listener outcome =>
    simp only [calls, List.getElem?_singleton] at h
    split at h
    · cases h
      exact ⟨‹_›, .inr ⟨rfl, rfl⟩⟩
    · cases h
  | awaited _ _ | kept _ | collected _ | ended _ _ => simp at h

end Phase

/-- After `history`, the promise of `arena` is in `phase`, and the history tells the same. -/
structure Arena.At (arena : Arena ο ν ε α) (history : History ο ν ε α) (phase : Phase ο ν ε α) :
    Prop where
  cell : arena.shared.cell = phase.cell
  calls : arena.calls = phase.calls
  unregistered : arena.held = true → phase.registrations = []
  offers : history.offers.head? = phase.outcome?
  verdicts : history.verdicts = history.offers.mapIdx fun index _ => decide (index = 0)
  deliveries : history.deliveries = phase.deliveries
  hearings : history.hearings = phase.hearings
  registrations : history.registrations = phase.registrations

namespace Arena

variable {arena : Arena ο ν ε α} {history : History ο ν ε α} {phase : Phase ο ν ε α}

/-- A new promise is awaited. -/
theorem fresh_at : (fresh : Arena ο ν ε α).At [] (.awaited none none) :=
  ⟨rfl, rfl, fun _ => rfl, rfl, rfl, rfl, rfl, rfl⟩

/-- What a step adds to the history, and what it makes of the cell and the calls, has to lead from
one phase to the other. -/
theorem At.append {next : Arena ο ν ε α} {event : Event ο ν ε α} {after : Phase ο ν ε α}
    (hat : arena.At history phase) (hcell : next.shared.cell = after.cell)
    (hcalls : next.calls = after.calls)
    (hunregistered : next.held = true → after.registrations = [])
    (houtcome : phase.outcome?.or event.offer? = after.outcome?)
    (hverdict : event.verdict? = event.offer?.map fun _ => phase.outcome?.isNone)
    (hdelivery : phase.deliveries ++ event.delivery?.toList = after.deliveries)
    (hhearing : phase.hearings ++ event.hearing?.toList = after.hearings)
    (hregistration : phase.registrations ++ event.registration?.toList = after.registrations) :
    next.At (history ++ [event]) after where
  cell := hcell
  calls := hcalls
  unregistered := hunregistered
  offers := by
    rw [History.offers, History.filterMap_concat, List.head?_append, ← houtcome, ← hat.offers]
    cases event.offer? <;> rfl
  verdicts := by
    have hearlier := hat.verdicts
    have hnone : phase.outcome?.isNone = decide (history.offers.length = 0) := by
      rw [← hat.offers]
      cases history.offers <;> rfl
    rw [History.verdicts, History.offers, History.filterMap_concat, History.filterMap_concat,
      hverdict, hnone]
    unfold History.verdicts History.offers at hearlier
    cases event.offer? <;> simp [hearlier, History.offers]
  deliveries := by
    rw [History.deliveries, History.filterMap_concat, ← hdelivery, ← hat.deliveries]
    rfl
  hearings := by
    rw [History.hearings, History.filterMap_concat, ← hhearing, ← hat.hearings]
    rfl
  registrations := by
    rw [History.registrations, History.filterMap_concat, ← hregistration, ← hat.registrations]
    rfl

/-- A step that leaves the cell and the calls alone, and shows nothing of the outcome, keeps the
phase. -/
theorem At.quiet {next : Arena ο ν ε α} {event : Event ο ν ε α} (hat : arena.At history phase)
    (hcell : next.shared.cell = arena.shared.cell) (hcalls : next.calls = arena.calls)
    (hheld : next.held = true → arena.held = true) (hoffer : event.offer? = none)
    (hverdict : event.verdict? = none) (hdelivery : event.delivery? = none)
    (hhearing : event.hearing? = none) (hregistration : event.registration? = none) :
    ∃ after, phase.cell.stage ≤ after.cell.stage ∧ next.At (history ++ [event]) after := by
  refine ⟨phase, le_rfl, hat.append (hcell.trans hat.cell) (hcalls.trans hat.calls)
    (fun h => hat.unregistered (hheld h)) ?_ ?_ ?_ ?_ ?_⟩
  · rw [hoffer, Option.or_none]
  · rw [hverdict, hoffer, Option.map_none]
  · rw [hdelivery, Option.toList_none, List.append_nil]
  · rw [hhearing, Option.toList_none, List.append_nil]
  · rw [hregistration, Option.toList_none, List.append_nil]

/-- A settle decides the outcome of a promise that is awaited, and of no other. -/
theorem At.settle (hat : arena.At history phase) (caller : Caller) {outcome : Outcome ε α}
    {event : Event ο ν ε α} (hoffer : event.offer? = some outcome)
    (hreport : event.report = (arena.settle caller outcome).1)
    (hregistration : event.registration? = none) :
    ∃ after, phase.cell.stage ≤ after.cell.stage ∧
      (arena.settle caller outcome).2.At (history ++ [event]) after := by
  have hcell := hat.cell
  have hcalls := hat.calls
  cases phase with
  | awaited listener waker =>
    cases listener with
    | none =>
      obtain ⟨duty, wakes, hsettle⟩ := settle_of_unheard caller outcome hcell
      rw [hsettle] at hreport ⊢
      refine ⟨.kept outcome, Cell.stage_le_of_pending _ _ _,
        hat.append rfl hcalls (fun _ => rfl) ?_ ?_ ?_ ?_ ?_⟩
      · rw [hoffer]
        rfl
      · rw [hoffer, Event.verdict?, hreport]
        rfl
      · rw [Event.delivery?, hreport]
        rfl
      · rw [Event.hearing?, hreport]
        rfl
      · rw [hregistration]
        rfl
    | some listener =>
      rw [settle_of_heard caller outcome hcell] at hreport ⊢
      refine ⟨.due caller listener outcome, Cell.stage_le_of_pending _ _ _,
        hat.append rfl ?_ hat.unregistered ?_ ?_ ?_ ?_ ?_⟩
      · rw [hcalls]
        rfl
      · rw [hoffer]
        rfl
      · rw [hoffer, Event.verdict?, hreport]
        rfl
      · rw [Event.delivery?, hreport]
        rfl
      · rw [Event.hearing?, hreport]
        rfl
      · rw [hregistration]
        rfl
  | kept _ | collected _ | due _ _ _ | heard _ _ _ | ended _ _ =>
    -- Too late: the arena and the phase stay as they are.
    rw [settle_of_isSettled caller outcome (by rw [hcell]; rfl)] at hreport ⊢
    refine ⟨_, le_rfl, hat.append hcell hcalls hat.unregistered rfl ?_ ?_ ?_ ?_⟩
    · rw [hoffer, Event.verdict?, hreport]
      rfl
    · rw [Event.delivery?, hreport]
      exact List.append_nil _
    · rw [Event.hearing?, hreport]
      exact List.append_nil _
    · rw [hregistration]
      exact List.append_nil _

/-- A poll collects an outcome that is kept. -/
theorem At.poll (hat : arena.At history phase) (waker : ν) :
    ∃ after, phase.cell.stage ≤ after.cell.stage ∧
      (arena.perform (.poll waker)).2.At
        (history ++ [⟨.poll waker, (arena.perform (.poll waker)).1⟩]) after := by
  have hcell := hat.cell
  have hcalls := hat.calls
  have hheld := hat.unregistered
  cases phase with
  | awaited listener former =>
    rw [perform_poll_of_pending waker hcell]
    exact ⟨.awaited listener (some waker), le_rfl,
      hat.append rfl hcalls hheld rfl rfl rfl rfl (List.append_nil _)⟩
  | kept outcome =>
    rw [perform_poll_of_ready waker hcell]
    exact ⟨.collected outcome, Cell.stage_le_taken _,
      hat.append rfl hcalls hheld rfl rfl rfl rfl rfl⟩
  | collected _ | due _ _ _ | heard _ _ _ | ended _ _ =>
    rw [perform_poll_of_taken waker hcell]
    exact hat.quiet rfl rfl id rfl rfl rfl rfl rfl

/-- A listener is registered on a promise that is awaited or kept. One that comes later never
runs. -/
theorem At.listen (hat : arena.At history phase) (hheld : arena.held = true) (listener : ο) :
    ∃ after, phase.cell.stage ≤ after.cell.stage ∧
      (arena.perform (.listen listener)).2.At
        (history ++ [⟨.listen listener, (arena.perform (.listen listener)).1⟩]) after := by
  have hcell := hat.cell
  have hcalls := hat.calls
  have hunregistered := hat.unregistered hheld
  cases phase with
  | awaited former waker =>
    -- The promise side is still held, so this is the first listener.
    obtain rfl : former = none := Option.toList_eq_nil_iff.1 hunregistered
    rw [perform_listen_of_pending listener hcell]
    exact ⟨.awaited (some listener) none, le_rfl,
      hat.append rfl hcalls (fun h => by cases h) rfl rfl rfl rfl rfl⟩
  | kept outcome =>
    rw [perform_listen_of_ready listener hcell]
    refine ⟨.due .registering listener outcome, Cell.stage_le_taken _,
      hat.append rfl ?_ (fun h => by cases h) rfl rfl rfl rfl rfl⟩
    rw [hcalls]
    rfl
  | collected _ | due _ _ _ | heard _ _ _ | ended _ _ =>
    rw [perform_listen_of_taken listener hcell]
    exact hat.quiet rfl rfl (fun h => by cases h) rfl rfl rfl rfl rfl

/-- The call that is due begins, and its listener hears the outcome. -/
theorem At.start (hat : arena.At history phase) {position : Nat}
    (hstarted : (arena.calls[position]?).map Call.started = some false) :
    ∃ after, phase.cell.stage ≤ after.cell.stage ∧
      (arena.perform (.start position)).2.At
        (history ++ [⟨.start position, (arena.perform (.start position)).1⟩]) after := by
  obtain ⟨call, hcall, hidle⟩ := Option.map_eq_some_iff.1 hstarted
  rw [perform_start hcall]
  rw [hat.calls] at hcall
  obtain ⟨rfl, ⟨-, rfl⟩ | ⟨hbusy, -⟩⟩ := Phase.eq_of_mem_calls hcall
  · refine ⟨.heard call.caller call.listener call.outcome, le_rfl,
      hat.append hat.cell ?_ hat.unregistered rfl rfl rfl rfl rfl⟩
    rw [hat.calls]
    rfl
  · rw [hbusy] at hidle
    cases hidle

/-- The call that has begun ends. Whether its listener panics makes no difference. -/
theorem At.finish (hat : arena.At history phase) {position : Nat} (panics : Bool)
    (hstarted : (arena.calls[position]?).map Call.started = some true) :
    ∃ after, phase.cell.stage ≤ after.cell.stage ∧
      (arena.perform (.finish position panics)).2.At
        (history ++ [⟨.finish position panics, (arena.perform (.finish position panics)).1⟩])
        after := by
  obtain ⟨call, hcall, hbusy⟩ := Option.map_eq_some_iff.1 hstarted
  rw [hat.calls] at hcall
  obtain ⟨rfl, ⟨hidle, -⟩ | ⟨-, rfl⟩⟩ := Phase.eq_of_mem_calls hcall
  · rw [hidle] at hbusy
    cases hbusy
  · refine ⟨.ended call.listener call.outcome, le_rfl,
      hat.append hat.cell ?_ hat.unregistered rfl rfl rfl rfl rfl⟩
    rw [perform, hat.calls]
    rfl

/-- Every possible step leads from a phase to the same phase or to a later one. -/
theorem At.step (hat : arena.At history phase) {action : Action ο ν ε α}
    (hallows : arena.Allows action) :
    ∃ after, phase.cell.stage ≤ after.cell.stage ∧
      (arena.perform action).2.At (history ++ [⟨action, (arena.perform action).1⟩]) after := by
  cases action with
  | settle handle outcome => exact hat.settle (.settling handle) rfl rfl rfl
  | abandon handle =>
    have hsame : ({ arena with breaking := arena.breaking.erase handle }).At history phase :=
      ⟨hat.cell, hat.calls, hat.unregistered, hat.offers, hat.verdicts, hat.deliveries,
        hat.hearings, hat.registrations⟩
    exact hsame.settle (.dropping handle) rfl rfl rfl
  | poll waker => exact hat.poll waker
  | listen listener => exact hat.listen hallows listener
  | start position => exact hat.start hallows
  | finish position panics => exact hat.finish panics hallows
  | isSettled handle => exact hat.quiet rfl rfl id rfl rfl rfl rfl rfl
  | clone handle => exact hat.quiet rfl rfl id rfl rfl rfl rfl rfl
  | release handle => exact hat.quiet rfl rfl id rfl rfl rfl rfl rfl
  | isTerminated => exact hat.quiet rfl rfl id rfl rfl rfl rfl rfl
  | discard => exact hat.quiet rfl rfl (fun h => by cases h) rfl rfl rfl rfl rfl
  | wake position =>
    have hposition : position < arena.wakes.length := hallows
    rw [perform_wake (List.getElem?_eq_getElem hposition)]
    exact hat.quiet rfl rfl id rfl rfl rfl rfl rfl

/-- A run never goes back to an earlier phase. -/
theorem At.leads (hat : arena.At history phase) {later : History ο ν ε α} {next : Arena ο ν ε α}
    (hleads : arena.Leads later next) :
    ∃ after, phase.cell.stage ≤ after.cell.stage ∧ next.At (history ++ later) after := by
  induction hleads with
  | refl => exact ⟨phase, le_rfl, by simpa using hat⟩
  | step action _ hallows ih =>
    obtain ⟨middle, hstage, hmiddle⟩ := ih
    obtain ⟨after, hmore, hafter⟩ := hmiddle.step hallows
    exact ⟨after, hstage.trans hmore, by simpa [List.append_assoc] using hafter⟩

/-- What one-shot delivery means for a run that has left `history` and has led to `arena`. -/
structure OneShot (history : History ο ν ε α) (arena : Arena ο ν ε α) : Prop where
  /-- The first settle counts, and every later one is told that it came too late. -/
  verdicts : history.verdicts = history.offers.mapIdx fun index _ => decide (index = 0)
  /-- A settle that comes too late changes nothing. -/
  late : history.offers ≠ [] → ∀ handle outcome,
    arena.perform (.settle handle outcome) = (.settled none, arena)
  /-- A last drop that comes too late changes nothing but that it is over. -/
  lateDrop : history.offers ≠ [] → ∀ handle,
    arena.perform (.abandon handle) =
      (.settled none, { arena with breaking := arena.breaking.erase handle })
  /-- Nothing is handed out before the first settle. -/
  patient : ∀ before : History ο ν ε α, before <+: history → before.offers = [] →
    before.deliveries = []
  /-- At most one outcome is handed out, and it is the one that was offered first. -/
  deliveries : history.deliveries <+: history.offers.take 1
  /-- The promise is pending until something is offered to it. -/
  pending : arena.shared.cell.isSettled = false ↔ history.offers = []
  /-- A promise that is ready keeps what was offered first, and has handed out nothing. -/
  ready : ∀ outcome, arena.shared.cell = .ready outcome →
    history.offers.head? = some outcome ∧ history.deliveries = []
  /-- An outcome that has been handed out is gone. -/
  gone : history.deliveries ≠ [] → arena.shared.cell = .taken
  /-- An outcome that is gone has been handed out, or a listener call with it has not begun. -/
  taken : arena.shared.cell = .taken → ∃ outcome, history.offers.head? = some outcome ∧
    (history.deliveries = [outcome] ∨
      ∃ caller listener, arena.calls = [⟨caller, listener, outcome, false⟩])
  /-- The promise moves from pending over ready to taken, or from pending to taken. -/
  forward : ∀ later next, arena.Leads later next →
    arena.shared.cell.stage ≤ next.shared.cell.stage
  /-- What a promise keeps, it keeps until it is handed out. -/
  kept : ∀ later next outcome, arena.Leads later next → arena.shared.cell = .ready outcome →
    next.shared.cell = .ready outcome ∨ next.shared.cell = .taken

/-- The phase of an outcome tells whether the promise is settled. -/
theorem At.isSettled_iff (hat : arena.At history phase) :
    arena.shared.cell.isSettled = true ↔ history.offers ≠ [] := by
  rw [Ne, ← List.head?_eq_none_iff, hat.offers, hat.cell]
  cases phase <;> simp [Cell.isSettled]

/-- What has been handed out is the outcome that was offered first. -/
theorem At.deliveries_prefix (hat : arena.At history phase) :
    history.deliveries <+: history.offers.take 1 := by
  have hfirst : history.offers.take 1 = phase.outcome?.toList := by
    rw [← hat.offers]
    cases history.offers <;> rfl
  rw [hat.deliveries, hfirst]
  cases phase <;> simp

/-- However the threads around a promise interleave, its outcome is delivered at most once, and it
is the outcome of the first settle. -/
theorem Leads.oneShot (hleads : (fresh : Arena ο ν ε α).Leads history arena) :
    OneShot history arena := by
  obtain ⟨phase, -, hat⟩ := fresh_at.leads hleads
  rw [List.nil_append] at hat
  have hcell := hat.cell
  have hoffers := hat.offers
  refine ⟨hat.verdicts, ?late, ?lateDrop, ?patient, hat.deliveries_prefix, ?pending, ?ready, ?gone,
    ?taken, ?forward, ?kept⟩
  case late =>
    intro hoffered handle outcome
    exact settle_of_isSettled _ _ (hat.isSettled_iff.2 hoffered)
  case lateDrop =>
    intro hoffered handle
    exact settle_of_isSettled _ _ (hat.isSettled_iff.2 hoffered)
  case patient =>
    rintro before ⟨rest, rfl⟩ hnone
    obtain ⟨middle, hbefore, -⟩ := hleads.split
    obtain ⟨earlier, -, hearlier⟩ := fresh_at.leads hbefore
    have hprefix := hearlier.deliveries_prefix
    rw [List.nil_append, hnone] at hprefix
    exact List.prefix_nil.1 hprefix
  case pending =>
    rw [← Bool.not_eq_true, hat.isSettled_iff, not_not]
  case ready =>
    intro outcome hready
    rw [hoffers, hat.deliveries]
    cases phase <;> simp_all
  case gone =>
    intro hdelivered
    rw [hat.deliveries] at hdelivered
    cases phase <;> simp_all
  case taken =>
    intro htaken
    rw [hoffers, hat.deliveries, hat.calls]
    cases phase <;> simp_all
  case forward =>
    intro later next hlater
    obtain ⟨after, hstage, hafter⟩ := hat.leads hlater
    rwa [hcell, hafter.cell]
  case kept =>
    intro later next outcome hlater hready
    obtain ⟨after, hstage, hafter⟩ := hat.leads hlater
    have hsame : (history ++ later).offers.head? = some outcome := by
      cases phase <;> simp_all [History.offers]
    rw [hafter.cell]
    rw [hafter.offers] at hsame
    cases phase <;> cases after <;> simp_all [Cell.stage]

/-- Two completers race while a listener waits, and the listener settles again and panics: it has
heard the first outcome, once. -/
theorem oneShot_of_race :
    ∃ (history : History Unit Unit Unit Nat) (arena : Arena Unit Unit Unit Nat),
      fresh.Leads history arena ∧ history.verdicts = [true, false, false] ∧
        history.hearings = [((), .ok 7)] ∧ OneShot history arena := by
  have hnew : (fresh : Arena Unit Unit Unit Nat).Leads [] fresh := .refl
  have hclone := hnew.step (.clone 0) (by decide)
  have hlisten := hclone.step (.listen ()) (by decide)
  have hfirst := hlisten.step (.settle 1 (.ok 7)) (by decide)
  have hsecond := hfirst.step (.settle 0 (.error .crashed)) (by decide)
  have hstart := hsecond.step (.start 0) (by decide)
  have hagain := hstart.step (.settle 0 (.ok 8)) (by decide)
  have hfinish := hagain.step (.finish 0 true) (by decide)
  exact ⟨_, _, hfinish, rfl, rfl, hfinish.oneShot⟩

end Arena

end Deferral
