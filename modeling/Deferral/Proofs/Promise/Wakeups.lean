import Deferral.Proofs.Promise.Completers

/-!
# Wakeups

A poll of a pending promise leaves its waker in the cell, in the place of the one before. The settle
that counts takes the waker out, stores the outcome and only then wakes, unless a listener hears the
outcome instead. No pending cell ever holds a listener beside a waker, so no waker is forgotten
there, and whoever polled last is woken when there is something to poll for.
-/

namespace Deferral

variable {ο ν ε α : Type}

namespace Event

/-- The waker that a step wakes. -/
def waking? (event : Event ο ν ε α) : Option ν :=
  match event.report with
  | .woken waker => some waker
  | _ => none

/-- The step asks for the outcome, by a poll or for a listener. -/
def asks (event : Event ο ν ε α) : Bool :=
  match event.action with
  | .poll _ | .listen _ => true
  | _ => false

/-- Who tries to settle the promise by a step. -/
def settler? (event : Event ο ν ε α) : Option Caller :=
  match event.action with
  | .settle handle _ => some (.settling handle)
  | .abandon handle => some (.dropping handle)
  | _ => none

end Event

namespace History

/-- The wakers that were woken, in their order. -/
def wakings (history : History ο ν ε α) : List ν := history.filterMap Event.waking?

/-- The latest poll left this waker behind, and no listener has been registered since. -/
def Awaits (history : History ο ν ε α) (waker : ν) : Prop :=
  ∃ before after, history = before ++ ⟨.poll waker, .polled .pending⟩ :: after ∧
    ∀ event ∈ after, event.asks = false

/-- The settle that counted is the first step that offered an outcome; `before` and `after` are what
happened before it and after it. -/
structure SettledBy (history before : History ο ν ε α) (event : Event ο ν ε α)
    (after : History ο ν ε α) (outcome : Outcome ε α) : Prop where
  whole : history = before ++ event :: after
  offer : event.offer? = some outcome
  first : before.offers = []

variable {history : History ο ν ε α} {event : Event ο ν ε α} {waker : ν}

/-- Some settle counted, if anything was offered. -/
theorem exists_settledBy (hoffers : history.offers ≠ []) :
    ∃ before event after outcome, history.SettledBy before event after outcome := by
  obtain ⟨outcome, rest, hrest⟩ := List.exists_cons_of_ne_nil hoffers
  obtain ⟨before, event, after, hwhole, hfirst, hoffer, -⟩ := List.filterMap_eq_cons_iff.1 hrest
  exact ⟨before, event, after, outcome, hwhole, hoffer, List.filterMap_eq_nil_iff.2 hfirst⟩

/-- Nobody waits before the first poll. -/
theorem not_awaits_nil : ¬History.Awaits ([] : History ο ν ε α) waker := by
  rintro ⟨before, after, hnil, -⟩
  simp at hnil

/-- A step that does not ask for the outcome changes nothing about who waits for it. -/
theorem awaits_concat (hasks : event.asks = false) :
    (history ++ [event]).Awaits waker ↔ history.Awaits waker := by
  constructor
  · rintro ⟨before, after, hwhole, hafter⟩
    rcases List.eq_nil_or_concat after with rfl | ⟨most, last, rfl⟩
    · obtain ⟨-, hevent⟩ := List.append_inj' hwhole rfl
      rw [List.singleton_inj.1 hevent] at hasks
      cases hasks
    · rw [List.concat_eq_append] at hwhole hafter
      rw [← List.cons_append, ← List.append_assoc] at hwhole
      obtain ⟨rfl, -⟩ := List.append_inj' hwhole rfl
      exact ⟨before, most, rfl, fun event hevent => hafter event (List.mem_append_left _ hevent)⟩
  · rintro ⟨before, after, rfl, hafter⟩
    refine ⟨before, after ++ [event], by simp, fun other hother => ?_⟩
    rcases List.mem_append.1 hother with hother | hother
    · exact hafter other hother
    · rwa [List.mem_singleton.1 hother]

/-- After a step that asks for the outcome, only the waker that it left behind waits. -/
theorem awaits_concat_of_asks (hasks : event.asks = true) :
    (history ++ [event]).Awaits waker ↔ event = ⟨.poll waker, .polled .pending⟩ := by
  constructor
  · rintro ⟨before, after, hwhole, hafter⟩
    rcases List.eq_nil_or_concat after with rfl | ⟨most, last, rfl⟩
    · exact List.singleton_inj.1 (List.append_inj' hwhole rfl).2
    · rw [List.concat_eq_append] at hwhole hafter
      rw [← List.cons_append, ← List.append_assoc] at hwhole
      obtain ⟨-, hlast⟩ := List.append_inj' hwhole rfl
      rw [List.singleton_inj.1 hlast, hafter last (by simp)] at hasks
      cases hasks
  · rintro rfl
    exact ⟨history, [], rfl, by simp⟩

end History

namespace Arena

variable {arena next : Arena ο ν ε α} {history : History ο ν ε α}

/-! ### While the promise is pending -/

/-- The invariant of the wakers: a pending promise keeps the waker of the latest poll, or a listener
instead of it, and nobody is woken before the promise is settled. -/
structure Watchful (arena : Arena ο ν ε α) (history : History ο ν ε α) : Prop where
  listener : ∀ listener waker, arena.shared.cell = .pending (some listener) waker →
    waker = none ∧ ¬arena.held = true
  waker : ∀ listener kept, arena.shared.cell = .pending listener kept →
    ∀ waker, kept = some waker ↔ history.Awaits waker
  patient : arena.shared.cell.isSettled = false → history.wakings = [] ∧ arena.wakes = []

/-- Nobody has polled a new promise. -/
theorem fresh_watchful : (fresh : Arena ο ν ε α).Watchful [] where
  listener := by
    intro listener waker hcell
    cases hcell
  waker := by
    intro listener kept hcell waker
    cases hcell
    simp [History.not_awaits_nil]
  patient := fun _ => ⟨rfl, rfl⟩

/-- On a settled promise there is nothing to watch. -/
theorem Watchful.of_isSettled (hsettled : arena.shared.cell.isSettled = true) :
    arena.Watchful history where
  listener := by
    intro listener waker hcell
    rw [hcell] at hsettled
    cases hsettled
  waker := by
    intro listener kept hcell
    rw [hcell] at hsettled
    cases hsettled
  patient := by
    intro hpending
    rw [hpending] at hsettled
    cases hsettled

/-- A step that leaves the cell and the wakers alone, and does not ask for the outcome, keeps
watch. -/
theorem Watchful.quiet {event : Event ο ν ε α} (hwatchful : arena.Watchful history)
    (hcell : next.shared.cell = arena.shared.cell) (hwakes : next.wakes = arena.wakes)
    (hheld : next.held = true → arena.held = true) (hasks : event.asks = false)
    (hwaking : event.waking? = none) : next.Watchful (history ++ [event]) where
  listener := by
    intro listener waker hnext
    rw [hcell] at hnext
    obtain ⟨hnone, hgone⟩ := hwatchful.listener listener waker hnext
    exact ⟨hnone, fun hyes => hgone (hheld hyes)⟩
  waker := by
    intro listener kept hnext waker
    rw [hcell] at hnext
    rw [History.awaits_concat hasks]
    exact hwatchful.waker listener kept hnext waker
  patient := by
    intro hpending
    rw [hcell] at hpending
    obtain ⟨hwakings, hnone⟩ := hwatchful.patient hpending
    rw [hwakes, History.wakings, History.filterMap_concat, hwaking]
    exact ⟨by rw [← hwakings]; exact List.append_nil _, hnone⟩

/-- A poll of a pending promise leaves its waker there. The promise side is still held, so no
listener has been registered. -/
theorem Watchful.poll (hwatchful : arena.Watchful history) (hheld : arena.held = true)
    (waker : ν) :
    (arena.perform (.poll waker)).2.Watchful
      (history ++ [⟨.poll waker, (arena.perform (.poll waker)).1⟩]) := by
  cases hcell : arena.shared.cell with
  | pending listener former =>
    obtain rfl : listener = none := by
      cases listener with
      | none => rfl
      | some listener => exact absurd hheld (hwatchful.listener listener former hcell).2
    obtain ⟨hwakings, hnone⟩ := hwatchful.patient (by rw [hcell]; rfl)
    rw [perform_poll_of_pending waker hcell]
    refine ⟨?_, ?_, fun _ => ⟨?_, hnone⟩⟩
    · intro listener kept hnext
      cases hnext
    · intro listener kept hnext other
      cases hnext
      rw [History.awaits_concat_of_asks rfl]
      simp
    · rw [History.wakings, History.filterMap_concat]
      exact (List.append_nil _).trans hwakings
  | ready outcome =>
    rw [perform_poll_of_ready waker hcell]
    exact .of_isSettled rfl
  | taken =>
    rw [perform_poll_of_taken waker hcell]
    exact .of_isSettled (by rw [hcell]; rfl)

/-- A listener takes the place of a waker. -/
theorem Watchful.listen (hwatchful : arena.Watchful history) (listener : ο) :
    (arena.perform (.listen listener)).2.Watchful
      (history ++ [⟨.listen listener, (arena.perform (.listen listener)).1⟩]) := by
  cases hcell : arena.shared.cell with
  | pending former waker =>
    obtain ⟨hwakings, hnone⟩ := hwatchful.patient (by rw [hcell]; rfl)
    rw [perform_listen_of_pending listener hcell]
    refine ⟨fun _ _ hnext => ?_, ?_, fun _ => ⟨?_, hnone⟩⟩
    · cases hnext
      exact ⟨rfl, Bool.false_ne_true⟩
    · intro other kept hnext waker
      cases hnext
      rw [History.awaits_concat_of_asks rfl]
      simp
    · rw [History.wakings, History.filterMap_concat]
      exact (List.append_nil _).trans hwakings
  | ready outcome =>
    rw [perform_listen_of_ready listener hcell]
    exact .of_isSettled rfl
  | taken =>
    rw [perform_listen_of_taken listener hcell]
    exact .of_isSettled (by change arena.shared.cell.isSettled = true; rw [hcell]; rfl)

/-- Every possible step keeps watch. -/
theorem Watchful.step (hwatchful : arena.Watchful history) {action : Action ο ν ε α}
    (hallows : arena.Allows action) :
    (arena.perform action).2.Watchful (history ++ [⟨action, (arena.perform action).1⟩]) := by
  cases action with
  | settle handle outcome => exact .of_isSettled (settle_isSettled _ _ _)
  | abandon handle => exact .of_isSettled (settle_isSettled _ _ _)
  | poll waker => exact hwatchful.poll hallows waker
  | listen listener => exact hwatchful.listen listener
  | isSettled handle => exact hwatchful.quiet rfl rfl id rfl rfl
  | clone handle => exact hwatchful.quiet rfl rfl id rfl rfl
  | release handle => exact hwatchful.quiet rfl rfl id rfl rfl
  | isTerminated => exact hwatchful.quiet rfl rfl id rfl rfl
  | discard => exact hwatchful.quiet rfl rfl (fun h => by cases h) rfl rfl
  | finish position panics => exact hwatchful.quiet rfl rfl id rfl rfl
  | start position =>
    obtain ⟨call, hcall, -⟩ := Option.map_eq_some_iff.1 hallows
    rw [perform_start hcall]
    exact hwatchful.quiet rfl rfl id rfl rfl
  | wake position =>
    have hposition : position < arena.wakes.length := hallows
    rw [perform_wake (List.getElem?_eq_getElem hposition)]
    refine .of_isSettled ((Bool.eq_false_or_eq_true _).resolve_right fun hpending => ?_)
    rw [(hwatchful.patient hpending).2] at hposition
    cases hposition

/-- The watch is kept throughout a run. -/
theorem Leads.watchful (hleads : (fresh : Arena ο ν ε α).Leads history arena) :
    arena.Watchful history := by
  induction hleads with
  | refl => exact fresh_watchful
  | step action _ hallows ih => exact ih.step hallows

/-! ### From the settle that counts on -/

/-- A settle wakes the waker that the cell keeps, when no listener takes the outcome. -/
theorem settle_of_waker {waker : ν} (caller : Caller) (outcome : Outcome ε α)
    (h : arena.shared.cell = .pending none (some waker)) :
    arena.settle caller outcome =
      (.settled (some (.wake waker)),
        { arena with
          shared := { arena.shared with cell := .ready outcome }
          wakes := arena.wakes ++ [⟨caller, waker⟩] }) := by
  simp [settle, Shared.onCell, h, Cell.settle, Duty.calls, Duty.wakes]

/-- A settle wakes nobody when the cell keeps no waker. -/
theorem settle_wakes_of_none {listener : Option ο} (caller : Caller) (outcome : Outcome ε α)
    (h : arena.shared.cell = .pending listener none) :
    (arena.settle caller outcome).2.wakes = arena.wakes := by
  cases listener <;> simp [settle, Shared.onCell, h, Cell.settle, Duty.wakes]

/-- A step that offers an outcome is a settle, whether it is an explicit one or the end of a last
drop. -/
theorem perform_of_offer {event : Event ο ν ε α} {outcome : Outcome ε α}
    (hoffer : event.offer? = some outcome) (arena : Arena ο ν ε α) :
    ∃ caller breaking, event.settler? = some caller ∧
      arena.perform event.action = { arena with breaking }.settle caller outcome := by
  obtain ⟨action, report⟩ := event
  cases action with
  | settle handle offered =>
    cases hoffer
    exact ⟨.settling handle, arena.breaking, rfl, rfl⟩
  | abandon handle =>
    cases hoffer
    exact ⟨.dropping handle, arena.breaking.erase handle, rfl, rfl⟩
  | isSettled _ | clone _ | release _ | poll _ | isTerminated | listen _ | discard | start _
  | finish _ _ | wake _ => cases hoffer

/-- A step in a settled arena leaves it settled, and leaves the cell alone unless it asks for the
outcome. It may wake one of those who are to be woken, and adds nobody to them. -/
theorem step_of_isSettled {action : Action ο ν ε α} (hsettled : arena.shared.cell.isSettled = true)
    (hallows : arena.Allows action) :
    let event : Event ο ν ε α := ⟨action, (arena.perform action).1⟩
    let next := (arena.perform action).2
    next.shared.cell.isSettled = true ∧
      (event.asks = false → next.shared.cell = arena.shared.cell) ∧ next.wakes ⊆ arena.wakes ∧
      (event.waking?.toList ++ next.wakes.map Wake.waker).Perm (arena.wakes.map Wake.waker) := by
  cases action with
  | settle handle outcome =>
    rw [perform, settle_of_isSettled _ _ hsettled]
    exact ⟨hsettled, fun _ => rfl, List.Subset.refl _, .refl _⟩
  | abandon handle =>
    have hbreaking : ({ arena with breaking := arena.breaking.erase handle } :
        Arena ο ν ε α).shared.cell.isSettled = true := hsettled
    rw [perform, settle_of_isSettled _ _ hbreaking]
    exact ⟨hsettled, fun _ => rfl, List.Subset.refl _, .refl _⟩
  | poll waker =>
    refine ⟨Cell.isSettled_poll waker hsettled, fun hasks => ?_, List.Subset.refl _, .refl _⟩
    cases hasks
  | listen listener =>
    refine ⟨Cell.isSettled_listen listener hsettled, fun hasks => ?_, List.Subset.refl _, .refl _⟩
    cases hasks
  | isSettled _ | clone _ | release _ | isTerminated | discard | finish _ _ =>
    exact ⟨hsettled, fun _ => rfl, List.Subset.refl _, .refl _⟩
  | start position =>
    obtain ⟨call, hcall, -⟩ := Option.map_eq_some_iff.1 hallows
    rw [perform_start hcall]
    exact ⟨hsettled, fun _ => rfl, List.Subset.refl _, .refl _⟩
  | wake position =>
    have hposition : position < arena.wakes.length := hallows
    rw [perform_wake (List.getElem?_eq_getElem hposition)]
    refine ⟨hsettled, fun _ => rfl, List.eraseIdx_subset, ?_⟩
    exact (List.getElem_cons_eraseIdx_perm hposition).map Wake.waker

/-- Once the promise is settled, nobody is woken but those whose wakers have been taken out of the
cell, and each of them once. -/
theorem Leads.wakings (hleads : arena.Leads history next)
    (hsettled : arena.shared.cell.isSettled = true) :
    next.shared.cell.isSettled = true ∧ next.wakes ⊆ arena.wakes ∧
      (history.wakings ++ next.wakes.map Wake.waker).Perm (arena.wakes.map Wake.waker) := by
  induction hleads with
  | refl => exact ⟨hsettled, List.Subset.refl _, .refl _⟩
  | @step earlier middle action _ hallows ih =>
    obtain ⟨hmiddle, hsubset, hperm⟩ := ih
    obtain ⟨hnext, -, hless, hone⟩ := step_of_isSettled hmiddle hallows
    refine ⟨hnext, fun wake hwake => hsubset (hless hwake), ?_⟩
    rw [History.wakings, History.filterMap_concat, List.append_assoc]
    exact (hone.append_left _).trans hperm

/-- An outcome that is ready stays there until somebody asks for it. -/
theorem Leads.ready (hleads : arena.Leads history next) {outcome : Outcome ε α}
    (hready : arena.shared.cell = .ready outcome) (hasks : ∀ event ∈ history, event.asks = false) :
    next.shared.cell = .ready outcome := by
  induction hleads with
  | refl => exact hready
  | @step earlier middle action _ hallows ih =>
    have hmiddle := ih fun event hevent => hasks event (List.mem_append_left _ hevent)
    have hsettled : middle.shared.cell.isSettled = true := by rw [hmiddle]; rfl
    exact ((step_of_isSettled hsettled hallows).2.1 (hasks _ (by simp))).trans hmiddle

/-! ### The settle that counts -/

variable {before after : History ο ν ε α} {event : Event ο ν ε α} {outcome : Outcome ε α}

/-- The settle that counts finds the promise pending. `middle` is the arena in which it is made, but
for the last drop that it may be the end of. -/
theorem Leads.settles (hleads : (fresh : Arena ο ν ε α).Leads history arena)
    (hsettled : history.SettledBy before event after outcome) :
    ∃ (middle : Arena ο ν ε α) (listener : Option ο) (kept : Option ν) (caller : Caller),
      middle.Watchful before ∧ middle.shared.cell = .pending listener kept ∧
      event.settler? = some caller ∧ event.report = (middle.settle caller outcome).1 ∧
      (middle.settle caller outcome).2.Leads after arena := by
  obtain ⟨rfl, hoffer, hfirst⟩ := hsettled
  obtain ⟨earlier, hbefore, -, hreport, hafter⟩ := hleads.split_cons
  have hwatchful := hbefore.watchful
  obtain ⟨caller, breaking, hcaller, hsettle⟩ := perform_of_offer hoffer earlier
  rw [hsettle] at hreport hafter
  have hpending : earlier.shared.cell.isSettled = false := hbefore.oneShot.pending.2 hfirst
  cases hcell : earlier.shared.cell with
  | pending listener kept =>
    refine ⟨{ earlier with breaking }, listener, kept, caller, ?_, hcell, hcaller, hreport, hafter⟩
    exact ⟨hwatchful.listener, hwatchful.waker, hwatchful.patient⟩
  | ready first =>
    rw [hcell] at hpending
    cases hpending
  | taken =>
    rw [hcell] at hpending
    cases hpending

/-- What it means, for the waker of the latest poll, that it is not lost: the settle takes it out of
the cell and stores the outcome, where the next poll finds it; then this waker is woken, and no
other one, once, by the one who settled and before that settle is over. -/
structure Rouses (arena : Arena ο ν ε α) (before : History ο ν ε α) (event : Event ο ν ε α)
    (after : History ο ν ε α) (outcome : Outcome ε α) (waker : ν) : Prop where
  taken : event.report = .settled (some (.wake waker))
  stored : ∃ middle : Arena ο ν ε α, middle.shared.cell = .ready outcome ∧ middle.Leads after arena
  patient : before.wakings = []
  once : after.wakings ++ arena.wakes.map Wake.waker = [waker]
  caller : ∀ wake ∈ arena.wakes, event.settler? = some wake.caller
  finished : (∀ wake ∈ arena.wakes, event.settler? ≠ some wake.caller) → after.wakings = [waker]
  found : ∀ (between rest : History ο ν ε α) (other : ν) (report : Report ο ν ε α),
    after = between ++ ⟨.poll other, report⟩ :: rest → (∀ event ∈ between, event.asks = false) →
      report = .polled (.ready outcome)

/-- The waker of the latest poll before the settle that counts is not lost. -/
theorem Leads.rouses (hleads : (fresh : Arena ο ν ε α).Leads history arena)
    (hsettled : history.SettledBy before event after outcome) {waker : ν}
    (hawaits : before.Awaits waker) : arena.Rouses before event after outcome waker := by
  obtain ⟨middle, listener, kept, caller, hwatchful, hcell, hcaller, hreport, hafter⟩ :=
    hleads.settles hsettled
  obtain ⟨hwakings, hnone⟩ := hwatchful.patient (by rw [hcell]; rfl)
  obtain rfl : kept = some waker := (hwatchful.waker listener kept hcell waker).2 hawaits
  obtain rfl : listener = none := by
    cases listener with
    | none => rfl
    | some listener => cases (hwatchful.listener listener _ hcell).1
  rw [settle_of_waker caller outcome hcell, hnone] at hreport hafter
  obtain ⟨-, hsubset, hperm⟩ := hafter.wakings rfl
  have honce : after.wakings ++ arena.wakes.map Wake.waker = [waker] := List.perm_singleton.1 hperm
  have hown : ∀ wake ∈ arena.wakes, event.settler? = some wake.caller := by
    intro wake hwake
    rw [hcaller, List.mem_singleton.1 (hsubset hwake)]
  refine ⟨hreport, ⟨_, rfl, hafter⟩, hwakings, honce, hown, ?finished, ?found⟩
  case finished =>
    intro hover
    have hidle : arena.wakes = [] :=
      List.eq_nil_iff_forall_not_mem.2 fun wake hwake => hover wake hwake (hown wake hwake)
    rwa [hidle, List.map_nil, List.append_nil] at honce
  case found =>
    rintro between rest other report rfl hasks
    obtain ⟨last, hbetween, -, hpolled, -⟩ := hafter.split_cons
    have hready := hbetween.ready rfl hasks
    exact hpolled.trans (by rw [perform_poll_of_ready other hready])

/-- Whoever is woken had polled last before the settle that counts. -/
theorem Leads.awaits_of_mem (hleads : (fresh : Arena ο ν ε α).Leads history arena) {waker : ν}
    (hwoken : waker ∈ history.wakings ++ arena.wakes.map Wake.waker) :
    ∃ before event after outcome, history.SettledBy before event after outcome ∧
      before.Awaits waker := by
  have hoffers : history.offers ≠ [] := by
    intro hnothing
    obtain ⟨hwakings, hnone⟩ := hleads.watchful.patient (hleads.oneShot.pending.2 hnothing)
    rw [hwakings, hnone] at hwoken
    cases hwoken
  obtain ⟨before, event, after, outcome, hsettled⟩ := History.exists_settledBy hoffers
  refine ⟨before, event, after, outcome, hsettled, ?_⟩
  obtain ⟨middle, listener, kept, caller, hwatchful, hcell, -, hreport, hafter⟩ :=
    hleads.settles hsettled
  obtain ⟨hwakings, hnone⟩ := hwatchful.patient (by rw [hcell]; rfl)
  have hwhole : history.wakings = after.wakings := by
    rw [hsettled.whole, History.wakings, List.filterMap_append, List.filterMap_cons,
      Event.waking?, hreport]
    exact congrArg (· ++ after.wakings) hwakings
  rw [hwhole] at hwoken
  cases kept with
  | none =>
    obtain ⟨-, -, hperm⟩ := hafter.wakings (settle_isSettled _ _ _)
    rw [settle_wakes_of_none caller outcome hcell, hnone] at hperm
    rw [hperm.eq_nil] at hwoken
    cases hwoken
  | some other =>
    have hawaits := (hwatchful.waker listener _ hcell other).1 rfl
    rw [(hleads.rouses hsettled hawaits).once] at hwoken
    rwa [List.mem_singleton.1 hwoken]

/-- What it means, for a run that has left `history` and has led to `arena`, that no wakeup is lost
and that all views of the promise agree. -/
structure Wakeful (history : History ο ν ε α) (arena : Arena ο ν ε α) : Prop where
  /-- A pending promise never holds both a listener and a waker. -/
  exclusive : ∀ listener waker, arena.shared.cell ≠ .pending (some listener) (some waker)
  /-- The waker of the latest poll before the settle that counts is not lost, unless a listener was
  registered after that poll. -/
  rouses : ∀ before event after outcome waker, history.SettledBy before event after outcome →
    before.Awaits waker → arena.Rouses before event after outcome waker
  /-- No waker is woken in any other way. -/
  only : ∀ waker ∈ history.wakings ++ arena.wakes.map Wake.waker,
    ∃ before event after outcome, history.SettledBy before event after outcome ∧
      before.Awaits waker
  /-- A poll panics exactly when the promise says that it is terminated. -/
  panics : ∀ waker, (arena.perform (.poll waker)).1 = .polled .spent ↔
    (arena.perform .isTerminated).1 = .flag true
  /-- A poll that panics changes nothing. -/
  unchanged : ∀ waker, (arena.perform (.poll waker)).1 = .polled .spent →
    (arena.perform (.poll waker)).2 = arena
  /-- As long as the promise side is held, the promise is terminated exactly when its outcome has
  been handed out. -/
  collected : arena.held = true →
    ((arena.perform .isTerminated).1 = .flag true ↔ history.deliveries ≠ [])
  /-- In any case it is terminated exactly when its outcome has been handed out, or the call of the
  listener that takes it has not begun yet. -/
  terminated : (arena.perform .isTerminated).1 = .flag true ↔
    history.deliveries ≠ [] ∨ ∃ call ∈ arena.calls, call.started = false
  /-- A completer says that the promise is settled exactly from the settle that counts on. -/
  settled : ∀ handle, (arena.perform (.isSettled handle)).1 = .flag true ↔ history.offers ≠ []

/-- However the threads around a promise interleave, the settle that counts wakes whoever polled the
promise last, and the promise side and the completers are told the same about it. -/
theorem Leads.noLostWakeup (hleads : (fresh : Arena ο ν ε α).Leads history arena) :
    Wakeful history arena := by
  have hwatchful := hleads.watchful
  obtain ⟨phase, -, hat⟩ := fresh_at.leads hleads
  rw [List.nil_append] at hat
  have hcell := hat.cell
  refine ⟨?exclusive, fun _ _ _ _ _ hsettled hawaits => hleads.rouses hsettled hawaits,
    fun _ hwoken => hleads.awaits_of_mem hwoken, ?panics, ?unchanged, ?collected, ?terminated,
    ?settled⟩
  case exclusive =>
    intro listener waker hboth
    cases (hwatchful.listener listener _ hboth).1
  case panics =>
    intro waker
    simp only [perform, Shared.onCell]
    cases arena.shared.cell <;> simp [Cell.poll, Cell.isTaken]
  case unchanged =>
    intro waker hspent
    cases hkept : arena.shared.cell with
    | pending listener former =>
      rw [perform_poll_of_pending waker hkept] at hspent
      cases hspent
    | ready outcome =>
      rw [perform_poll_of_ready waker hkept] at hspent
      cases hspent
    | taken => rw [perform_poll_of_taken waker hkept]
  case collected =>
    intro hheld
    have hunregistered := hat.unregistered hheld
    simp only [perform, hcell, hat.deliveries]
    cases phase <;> simp_all [Cell.isTaken]
  case terminated =>
    simp only [perform, hcell, hat.deliveries, hat.calls]
    cases phase <;> simp [Cell.isTaken]
  case settled =>
    intro handle
    rw [← hat.isSettled_iff]
    simp [perform]

/-- The promise is polled twice and a completer is cloned; the other completer settles, and the
second waker is woken, before the next poll finds the outcome. -/
theorem noLostWakeup_of_repoll :
    ∃ (history : History Unit Nat Unit Nat) (arena : Arena Unit Nat Unit Nat),
      fresh.Leads history arena ∧ history.wakings = [2] ∧ history.deliveries = [.ok 7] ∧
        Wakeful history arena := by
  have hnew : (fresh : Arena Unit Nat Unit Nat).Leads [] fresh := .refl
  have hclone := hnew.step (.clone 0) (by decide)
  have hpoll := hclone.step (.poll 1) (by decide)
  have hagain := hpoll.step (.poll 2) (by decide)
  have hsettle := hagain.step (.settle 1 (.ok 7)) (by decide)
  have hwake := hsettle.step (.wake 0) (by decide)
  have hlast := hwake.step (.poll 3) (by decide)
  exact ⟨_, _, hlast, rfl, rfl, hlast.noLostWakeup⟩

end Arena

end Deferral
