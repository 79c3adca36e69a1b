import Deferral.Proofs.Promise.Delivery

/-!
# The completers of a promise

The counter beside a cell is the number of live completers, however they are cloned and dropped. The
drop that brings it to zero breaks the promise in a step of its own. No completer is left to come
between its two steps, so a promise is broken exactly when nobody has settled it, and no promise is
left pending with nobody to settle it.
-/

namespace Deferral

variable {ο ν β ε α : Type}

/-- A poll makes no settled cell pending again. -/
theorem Cell.isSettled_poll {cell : Cell ο ν β} (waker : ν) (h : cell.isSettled = true) :
    (cell.poll waker).2.isSettled = true := by
  cases cell with
  | pending listener former => cases h
  | ready outcome => rfl
  | taken => rfl

/-- A listener makes no settled cell pending again. -/
theorem Cell.isSettled_listen {cell : Cell ο ν β} (listener : ο) (h : cell.isSettled = true) :
    (cell.listen listener).2.isSettled = true := by
  cases cell with
  | pending former waker => cases h
  | ready outcome => rfl
  | taken => rfl

namespace Arena

/-- Is the drop of a last completer still under way, to its last call or wake? -/
def Dropping (arena : Arena ο ν ε α) : Prop :=
  arena.breaking ≠ ∅ ∨
    (∃ call ∈ arena.calls, ∃ handle, call.caller = .dropping handle) ∨
      ∃ wake ∈ arena.wakes, ∃ handle, wake.caller = .dropping handle

/-- Is the promise side about to call the listener that it has just registered? -/
def Registering (arena : Arena ο ν ε α) : Prop :=
  ∃ call ∈ arena.calls, call.caller = .registering ∧ call.started = false

/-- The invariant of the completers: they are counted, the drop of the last leaves nobody behind,
and who is in the middle of a settle is alive. -/
structure Counted (arena : Arena ο ν ε α) : Prop where
  counter : arena.shared.completers = arena.handles.card
  made : ∀ handle ∈ arena.handles, handle < arena.made
  alone : ∀ handle ∈ arena.breaking, arena.handles = ∅ ∧ arena.breaking = {handle}
  settled : arena.handles = ∅ → arena.breaking = ∅ → arena.shared.cell.isSettled = true
  callers : ∀ call ∈ arena.calls, ∀ handle, call.caller = .settling handle →
    handle ∈ arena.handles

variable {arena next : Arena ο ν ε α} {history : History ο ν ε α}

/-- A new promise has one completer, which is counted. -/
theorem fresh_counted : (fresh : Arena ο ν ε α).Counted where
  counter := rfl
  made := by simp [fresh]
  alone := by simp [fresh]
  settled := by simp [fresh]
  callers := by simp [fresh]

/-- No drop is under way while a completer is alive. -/
theorem Counted.breaking_eq (hcounted : arena.Counted) {handle : Nat}
    (hlive : handle ∈ arena.handles) : arena.breaking = ∅ := by
  refine Finset.eq_empty_of_forall_notMem fun other hother => ?_
  rw [(hcounted.alone other hother).1] at hlive
  exact Finset.notMem_empty handle hlive

/-- After a settle, the promise is settled. -/
theorem settle_isSettled (arena : Arena ο ν ε α) (caller : Caller) (outcome : Outcome ε α) :
    (arena.settle caller outcome).2.shared.cell.isSettled = true := by
  obtain ⟨⟨cell, completers⟩, handles, made, breaking, held, calls, wakes⟩ := arena
  rcases cell with ⟨_ | listener, _ | waker⟩ | first | _ <;> rfl

/-- The only calls that a settle adds are its own. -/
theorem caller_of_mem_settle {caller : Caller} {outcome : Outcome ε α}
    {call : Call ο (Outcome ε α)} (hcall : call ∈ (arena.settle caller outcome).2.calls) :
    call ∈ arena.calls ∨ call.caller = caller := by
  rcases List.mem_append.1 hcall with hcall | hcall
  · exact .inl hcall
  · exact .inr (Duty.caller_of_mem_calls hcall)

/-- A settle keeps the count, whoever is in the middle of it. -/
theorem Counted.settle (hcounted : arena.Counted) {caller : Caller} (outcome : Outcome ε α)
    (hcaller : ∀ handle, caller = .settling handle → handle ∈ arena.handles) :
    (arena.settle caller outcome).2.Counted where
  counter := hcounted.counter
  made := hcounted.made
  alone := hcounted.alone
  settled := fun _ _ => settle_isSettled arena caller outcome
  callers := by
    intro call hcall handle hhandle
    rcases caller_of_mem_settle hcall with hold | hnew
    · exact hcounted.callers call hold handle hhandle
    · exact hcaller handle (hnew.symm.trans hhandle)

/-- A clone is one more completer. -/
theorem Counted.clone (hcounted : arena.Counted) {handle : Nat} (hlive : handle ∈ arena.handles) :
    (arena.perform (.clone handle)).2.Counted := by
  have hnew : arena.made ∉ arena.handles := fun hold =>
    Nat.lt_irrefl _ (hcounted.made _ hold)
  have hbreaking := hcounted.breaking_eq hlive
  refine ⟨?_, ?_, ?_, ?_, ?_⟩
  · simp [perform, Shared.retain, Finset.card_insert_of_notMem hnew, hcounted.counter]
  · intro other hother
    simp only [perform, Finset.mem_insert] at hother ⊢
    rcases hother with rfl | hother
    · omega
    · exact Nat.lt_succ_of_lt (hcounted.made other hother)
  · intro other hother
    simp [perform, hbreaking] at hother
  · intro hempty
    exact absurd hempty (Finset.insert_ne_empty _ _)
  · intro call hcall other hother
    exact Finset.mem_insert_of_mem (hcounted.callers call hcall other hother)

/-- A drop is the last exactly when it is the drop of the only live completer. -/
theorem Counted.release_last (hcounted : arena.Counted) {handle : Nat}
    (hlive : handle ∈ arena.handles) :
    arena.shared.release.1 = decide (arena.handles = {handle}) := by
  rw [Bool.eq_iff_iff, decide_eq_true_iff]
  simp only [Shared.release, hcounted.counter, beq_iff_eq]
  constructor
  · intro hone
    obtain ⟨only, honly⟩ := Finset.card_eq_one.1 hone
    rw [honly, Finset.mem_singleton] at hlive
    rw [honly, hlive]
  · intro hsingle
    rw [hsingle, Finset.card_singleton]

/-- A drop is one completer less, and the last one leaves the promise to be broken. -/
theorem Counted.release (hcounted : arena.Counted) {handle : Nat} (hlive : handle ∈ arena.handles)
    (hidle : ¬arena.Busy handle) : (arena.perform (.release handle)).2.Counted := by
  have hlast := hcounted.release_last hlive
  have hbreaking := hcounted.breaking_eq hlive
  have hcallers : ∀ call ∈ arena.calls, ∀ other, call.caller = .settling other →
      other ∈ arena.handles.erase handle := by
    intro call hcall other hother
    refine Finset.mem_erase.2 ⟨?_, hcounted.callers call hcall other hother⟩
    rintro rfl
    exact hidle (.inl ⟨call, hcall, hother⟩)
  by_cases hsingle : arena.handles = {handle}
  · have htrue : arena.shared.release.1 = true := by rw [hlast, decide_eq_true hsingle]
    refine ⟨?_, ?_, ?_, ?_, hcallers⟩
    · simp [perform, Shared.release, hcounted.counter, hsingle]
    · simp [perform, hsingle]
    · simp [perform, htrue, hbreaking, hsingle]
    · intro _ hnone
      simp [perform, htrue] at hnone
  · have hfalse : arena.shared.release.1 = false := by rw [hlast, decide_eq_false hsingle]
    refine ⟨?_, ?_, ?_, ?_, hcallers⟩
    · simp [perform, Shared.release, hcounted.counter, Finset.card_erase_of_mem hlive]
    · intro other hother
      exact hcounted.made other (Finset.mem_of_mem_erase hother)
    · simp [perform, hfalse, hbreaking]
    · intro hempty
      rcases Finset.erase_eq_empty_iff _ _ |>.1 hempty with hnone | hone
      · rw [hnone] at hlive
        exact absurd hlive (Finset.notMem_empty handle)
      · exact absurd hone hsingle

/-- The second half of the last drop settles the promise, so that it is not missed. -/
theorem Counted.abandon (hcounted : arena.Counted) {handle : Nat}
    (hbreaking : handle ∈ arena.breaking) : (arena.perform (.abandon handle)).2.Counted := by
  obtain ⟨hnone, honly⟩ := hcounted.alone handle hbreaking
  refine ⟨hcounted.counter, hcounted.made, ?_, fun _ _ => settle_isSettled _ _ _, ?_⟩
  · intro other hother
    simp [perform, Arena.settle, honly] at hother
  · intro call hcall other hother
    rcases caller_of_mem_settle hcall with hold | hnew
    · exact hcounted.callers call hold other hother
    · rw [hnew] at hother
      cases hother

/-- A step that leaves the completers alone, and makes no settled promise pending again, keeps the
count. -/
theorem Counted.quiet (hcounted : arena.Counted)
    (hcounter : next.shared.completers = arena.shared.completers)
    (hhandles : next.handles = arena.handles) (hmade : next.made = arena.made)
    (hbreaking : next.breaking = arena.breaking)
    (hcell : arena.shared.cell.isSettled = true → next.shared.cell.isSettled = true)
    (hcalls : ∀ call ∈ next.calls,
      (∃ former ∈ arena.calls, former.caller = call.caller) ∨ call.caller = .registering) :
    next.Counted where
  counter := by rw [hcounter, hhandles, hcounted.counter]
  made := by rw [hhandles, hmade]; exact hcounted.made
  alone := by rw [hhandles, hbreaking]; exact hcounted.alone
  settled := by
    rw [hhandles, hbreaking]
    exact fun hnone hidle => hcell (hcounted.settled hnone hidle)
  callers := by
    intro call hcall handle hhandle
    rw [hhandles]
    rcases hcalls call hcall with ⟨former, hformer, hsame⟩ | hregistering
    · exact hcounted.callers former hformer handle (hsame.trans hhandle)
    · rw [hregistering] at hhandle
      cases hhandle

/-- Every possible step keeps the count. -/
theorem Counted.step (hcounted : arena.Counted) {action : Action ο ν ε α}
    (hallows : arena.Allows action) : (arena.perform action).2.Counted := by
  have hsame : ∀ call ∈ arena.calls,
      (∃ former ∈ arena.calls, former.caller = call.caller) ∨ call.caller = .registering :=
    fun call hcall => .inl ⟨call, hcall, rfl⟩
  cases action with
  | settle handle outcome =>
    refine hcounted.settle outcome fun other hother => ?_
    cases hother
    exact hallows
  | clone handle => exact hcounted.clone hallows
  | release handle => exact hcounted.release hallows.1 hallows.2
  | abandon handle => exact hcounted.abandon hallows
  | isSettled handle => exact hcounted
  | isTerminated => exact hcounted
  | discard => exact hcounted.quiet rfl rfl rfl rfl id hsame
  | poll waker =>
    exact hcounted.quiet rfl rfl rfl rfl (fun hsettled => Cell.isSettled_poll waker hsettled) hsame
  | listen listener =>
    refine hcounted.quiet rfl rfl rfl rfl (fun hsettled => Cell.isSettled_listen listener hsettled)
      fun call hcall => ?_
    rcases List.mem_append.1 hcall with hcall | hcall
    · exact hsame call hcall
    · exact .inr (Listened.caller_of_mem_calls hcall)
  | start position =>
    obtain ⟨call, hcall, -⟩ := Option.map_eq_some_iff.1 hallows
    rw [perform_start hcall]
    refine hcounted.quiet rfl rfl rfl rfl id fun other hother => ?_
    rcases List.mem_or_eq_of_mem_set hother with hother | rfl
    · exact hsame other hother
    · exact .inl ⟨call, List.mem_of_getElem? hcall, rfl⟩
  | finish position panics =>
    exact hcounted.quiet rfl rfl rfl rfl id fun call hcall =>
      hsame call (List.mem_of_mem_eraseIdx hcall)
  | wake position =>
    have hposition : position < arena.wakes.length := hallows
    rw [perform_wake (List.getElem?_eq_getElem hposition)]
    exact hcounted.quiet rfl rfl rfl rfl id hsame

/-- The completers are counted throughout a run. -/
theorem Counted.leads (hcounted : arena.Counted) (hleads : arena.Leads history next) :
    next.Counted := by
  induction hleads with
  | refl => exact hcounted
  | step action _ hallows ih => exact ih.step hallows

/-- Between the two halves of a last drop nothing is offered to the promise, and no completer is
made. -/
theorem Counted.leads_of_breaking (hcounted : arena.Counted) {handle : Nat}
    (hbreaking : handle ∈ arena.breaking) (hleads : arena.Leads history next) :
    next.handles = ∅ ∧ next.breaking ⊆ {handle} ∧
      (handle ∈ next.breaking → history.offers = []) := by
  obtain ⟨hnone, honly⟩ := hcounted.alone handle hbreaking
  induction hleads with
  | refl => exact ⟨hnone, honly.subset, fun _ => rfl⟩
  | @step earlier middle action _ hallows ih =>
    obtain ⟨hgone, hsubset, hquiet⟩ := ih
    cases action with
    | settle other outcome | isSettled other | clone other =>
      have hlive : other ∈ middle.handles := hallows
      simp [hgone] at hlive
    | release other =>
      have hlive : other ∈ middle.handles := hallows.1
      simp [hgone] at hlive
    | abandon other =>
      have hother : other = handle := Finset.mem_singleton.1 (hsubset hallows)
      subst hother
      refine ⟨hgone, (Finset.erase_subset _ _).trans hsubset, fun hstill => ?_⟩
      exact absurd hstill (Finset.notMem_erase _ _)
    | poll _ | isTerminated | listen _ | discard | finish _ _ =>
      refine ⟨hgone, hsubset, fun hstill => ?_⟩
      rw [History.offers, History.filterMap_concat]
      exact (List.append_nil _).trans (hquiet hstill)
    | start position =>
      obtain ⟨call, hcall, -⟩ := Option.map_eq_some_iff.1 hallows
      rw [perform_start hcall, History.offers, History.filterMap_concat]
      exact ⟨hgone, hsubset, fun hstill => (List.append_nil _).trans (hquiet hstill)⟩
    | wake position =>
      have hposition : position < middle.wakes.length := hallows
      rw [perform_wake (List.getElem?_eq_getElem hposition), History.offers,
        History.filterMap_concat]
      exact ⟨hgone, hsubset, fun hstill => (List.append_nil _).trans (hquiet hstill)⟩

/-- What it means, for a run that has left `history` and has led to `arena`, that no promise is left
hanging and that a broken promise hides no outcome. -/
structure NeverHangs (history : History ο ν ε α) (arena : Arena ο ν ε α) : Prop where
  /-- The counter is the number of live completers. -/
  counter : arena.shared.completers = arena.handles.card
  /-- With no completer left, and none halfway through its drop, the promise is settled. -/
  settled : arena.handles = ∅ → arena.breaking = ∅ → arena.shared.cell.isSettled = true
  /-- A drop is the last when it is the drop of the only live completer. Its first half leaves the
  cell alone. -/
  last : ∀ handle ∈ arena.handles,
    (arena.perform (.release handle)).1 = .released (decide (arena.handles = {handle})) ∧
      (arena.perform (.release handle)).2.shared.cell = arena.shared.cell
  /-- A last drop leaves no live completer, and is the only one. -/
  alone : ∀ handle ∈ arena.breaking, arena.handles = ∅ ∧ arena.breaking = {handle}
  /-- Nobody settles the promise between the two halves of a last drop. -/
  undisturbed : ∀ (before middle : History ο ν ε α) (handle : Nat),
    history = before ++ ⟨.release handle, .released true⟩ :: middle → handle ∈ arena.breaking →
      middle.offers = []
  /-- A promise that was never settled is broken by the last drop: it keeps the error, or its
  listener is called with it. -/
  broken : history.offers = [] → ∀ handle ∈ arena.breaking,
    (history.registrations = [] →
        (arena.perform (.abandon handle)).2.shared.cell = .ready (.error .abandoned)) ∧
      ∀ listener ∈ history.registrations,
        (arena.perform (.abandon handle)).2.shared.cell = .taken ∧
          (arena.perform (.abandon handle)).2.calls =
            [⟨.dropping handle, listener, .error .abandoned, false⟩]
  /-- A promise that was settled is left as it is by the last drop. -/
  untouched : history.offers ≠ [] → ∀ handle ∈ arena.breaking,
    arena.perform (.abandon handle) = (.settled none, { arena with breaking := ∅ })
  /-- A listener that was registered before the outcome was gone has been called exactly once, with
  the outcome of the first settle, when the completers are gone and who had to call it has done
  so. -/
  heard : ∀ (before after : History ο ν ε α) (listener : ο) (report : Report ο ν ε α),
    history = before ++ ⟨.listen listener, report⟩ :: after → before.deliveries = [] →
      arena.handles = ∅ → ¬arena.Dropping → ¬arena.Registering →
        ∃ winner, history.offers.head? = some winner ∧ history.hearings = [(listener, winner)]

/-- A listener is registered unless something has been handed out before. -/
theorem Leads.mem_registrations {before after : History ο ν ε α} {listener : ο}
    {report : Report ο ν ε α}
    (hleads : (fresh : Arena ο ν ε α).Leads (before ++ ⟨.listen listener, report⟩ :: after) arena)
    (hnone : before.deliveries = []) :
    listener ∈ History.registrations (before ++ ⟨.listen listener, report⟩ :: after) := by
  obtain ⟨middle, hbefore, hheld, hreport, -⟩ := hleads.split_cons
  obtain ⟨phase, -, hat⟩ := fresh_at.leads hbefore
  have hcell := hat.cell
  have hunregistered := hat.unregistered hheld
  have hwaiting := hat.deliveries
  rw [List.nil_append, hnone] at hwaiting
  refine List.mem_filterMap.2 ⟨⟨.listen listener, report⟩, by simp, ?_⟩
  obtain rfl : report = (middle.perform (.listen listener)).1 := hreport
  cases phase with
  | awaited former waker => simp [perform, Shared.onCell, hcell, Cell.listen, Event.registration?]
  | kept outcome => simp [perform, Shared.onCell, hcell, Cell.listen, Event.registration?]
  | collected outcome => simp at hwaiting
  | due _ _ _ | heard _ _ _ | ended _ _ => simp at hunregistered

/-- When the completers are gone and nobody has to call a listener any more, every call that is
under way has begun. -/
theorem Counted.started (hcounted : arena.Counted) (hgone : arena.handles = ∅)
    (hidle : ¬arena.Dropping) (hregistered : ¬arena.Registering) :
    ∀ call ∈ arena.calls, call.started = true := by
  intro call hcall
  obtain ⟨caller, listener, outcome, started⟩ := call
  cases started with
  | true => rfl
  | false =>
    cases caller with
    | settling handle =>
      have hlive := hcounted.callers _ hcall handle rfl
      rw [hgone] at hlive
      exact absurd hlive (Finset.notMem_empty handle)
    | dropping handle => exact absurd (.inr (.inl ⟨_, hcall, handle, rfl⟩)) hidle
    | registering => exact absurd ⟨_, hcall, rfl, rfl⟩ hregistered

/-- A listener that has been registered on a settled promise, and is not waiting to be called, has
heard the outcome of the first settle. -/
theorem At.heard {phase : Phase ο ν ε α} {listener : ο} (hat : arena.At history phase)
    (hmember : listener ∈ history.registrations) (hsettled : arena.shared.cell.isSettled = true)
    (hstarted : ∀ call ∈ arena.calls, call.started = true) :
    ∃ winner, history.offers.head? = some winner ∧ history.hearings = [(listener, winner)] := by
  rw [hat.registrations] at hmember
  rw [hat.cell] at hsettled
  rw [hat.calls] at hstarted
  rw [hat.offers, hat.hearings]
  cases phase with
  | awaited former waker => cases hsettled
  | kept outcome => cases hmember
  | collected outcome => cases hmember
  | due caller former outcome => cases hstarted _ (List.mem_singleton_self _)
  | heard caller former outcome => exact ⟨outcome, rfl, by rw [List.mem_singleton.1 hmember]; rfl⟩
  | ended former outcome => exact ⟨outcome, rfl, by rw [List.mem_singleton.1 hmember]; rfl⟩

/-- A promise that nothing has been offered to is broken by the second half of the last drop. -/
theorem At.abandon {phase : Phase ο ν ε α} (hat : arena.At history phase)
    (hnone : history.offers = []) (handle : Nat) :
    (history.registrations = [] →
        (arena.perform (.abandon handle)).2.shared.cell = .ready (.error .abandoned)) ∧
      ∀ listener ∈ history.registrations,
        (arena.perform (.abandon handle)).2.shared.cell = .taken ∧
          (arena.perform (.abandon handle)).2.calls =
            [⟨.dropping handle, listener, .error .abandoned, false⟩] := by
  have houtcome := hat.offers
  rw [hnone] at houtcome
  rw [hat.registrations, perform]
  generalize hlast : { arena with breaking := arena.breaking.erase handle } = last
  have hcell : last.shared.cell = phase.cell := by rw [← hlast, hat.cell]
  have hcalls : last.calls = phase.calls := by rw [← hlast, hat.calls]
  cases phase with
  | awaited listener waker =>
    cases listener with
    | none =>
      obtain ⟨duty, wakes, hsettle⟩ := settle_of_unheard (.dropping handle) (.error .abandoned)
        hcell
      rw [hsettle]
      exact ⟨fun _ => rfl, fun listener hlistener => by cases hlistener⟩
    | some listener =>
      rw [settle_of_heard (.dropping handle) (.error .abandoned) hcell, hcalls]
      refine ⟨fun hregistered => absurd hregistered (List.cons_ne_nil _ _),
        fun other hother => ?_⟩
      rw [List.mem_singleton.1 hother]
      exact ⟨rfl, rfl⟩
  | kept _ | collected _ | due _ _ _ | heard _ _ _ | ended _ _ => cases houtcome

/-- However the completers of a promise are cloned, used and dropped, the promise is settled when
they are gone, and it is broken only when none of them has settled it. -/
theorem Leads.neverHangs (hleads : (fresh : Arena ο ν ε α).Leads history arena) :
    NeverHangs history arena := by
  have hcounted := fresh_counted.leads hleads
  obtain ⟨phase, -, hat⟩ := fresh_at.leads hleads
  rw [List.nil_append] at hat
  refine ⟨hcounted.counter, hcounted.settled, ?last, hcounted.alone, ?undisturbed,
    fun hnone handle _ => hat.abandon hnone handle, ?untouched, ?heard⟩
  case last =>
    intro handle hlive
    refine ⟨?_, rfl⟩
    rw [← hcounted.release_last hlive]
    rfl
  case undisturbed =>
    rintro before middle handle rfl hbreaking
    obtain ⟨earlier, hbefore, hallows, hreport, hafter⟩ := hleads.split_cons
    have hlast : earlier.shared.release.1 = true := by
      simp only [perform, Report.released.injEq] at hreport
      exact hreport.symm
    have hstarted : handle ∈ (earlier.perform (.release handle)).2.breaking := by
      simp [perform, hlast]
    have hearlier := fresh_counted.leads hbefore
    exact ((hearlier.step hallows).leads_of_breaking hstarted hafter).2.2 hbreaking
  case untouched =>
    intro hoffered handle hbreaking
    have honly := (hcounted.alone handle hbreaking).2
    rw [perform, honly, Finset.erase_singleton]
    exact settle_of_isSettled _ _ (hat.isSettled_iff.2 hoffered)
  case heard =>
    rintro before after listener report rfl hnone hgone hidle hregistered
    have hsettled := hcounted.settled hgone (not_not.1 fun hbreaking => hidle (.inl hbreaking))
    exact hat.heard (hleads.mem_registrations hnone) hsettled
      (hcounted.started hgone hidle hregistered)

/-- A listener waits, and one of two completers settles before both are dropped: the last drop comes
too late to break the promise. -/
theorem neverHangs_of_drops :
    ∃ (history : History Unit Unit Unit Nat) (arena : Arena Unit Unit Unit Nat),
      fresh.Leads history arena ∧ history.offers = [.ok 7, .error .abandoned] ∧
        arena.handles = ∅ ∧ NeverHangs history arena := by
  have hnew : (fresh : Arena Unit Unit Unit Nat).Leads [] fresh := .refl
  have hclone := hnew.step (.clone 0) (by decide)
  have hlisten := hclone.step (.listen ()) (by decide)
  have hfirst := hlisten.step (.release 0) (by decide)
  have hsettle := hfirst.step (.settle 1 (.ok 7)) (by decide)
  have hstart := hsettle.step (.start 0) (by decide)
  have hfinish := hstart.step (.finish 0 false) (by decide)
  have hsecond := hfinish.step (.release 1) (by decide)
  have hlast := hsecond.step (.abandon 1) (by decide)
  exact ⟨_, _, hlast, rfl, by decide, hlast.neverHangs⟩

end Arena

end Deferral
