import Deferral.Proofs.Promise.Chain
import Deferral.Proofs.Tokens.Bridging
import Deferral.Script.Event

/-!
# Bridges of two types

The bridges over a promise may be made before it is settled, after it is settled, or some before and
some after. Either way the promise at the end, and the world, are those that the types make of the
outcome one after the other: `Desk.caught_carries`. So two bridges of distinct types can be compared
on outcomes alone. The first of them that owns the failure of an outcome claims it, the other looks
at what has become of it and finds nothing, and hence the order of the two makes no difference but
for the layer of values in which the result is wrapped.
-/

namespace Deferral

variable {ω κ ε α β γ δ ρ : Type}

/-! ### Claiming one after the other -/

/-- To claim the failures of some types and then those of others is to claim all of them. -/
theorem relay_append (types more : List (FailureType ω κ ε)) (outcome : Outcome ε (Payload ε α)) :
    relay (types ++ more) outcome = relay types outcome >>= relay more := by
  induction types generalizing outcome with
  | nil => rfl
  | cons type types ih =>
    simp only [List.cons_append, relay, bind_assoc, ih]

/-- Claiming first goes on with what has been claimed. -/
theorem relay_of_done {type : FailureType ω κ ε} {types : List (FailureType ω κ ε)}
    {outcome : Outcome ε (Payload ε α)} {claimed : Outcome ε (Deferred ε (Payload ε α))}
    {world after : World ω κ} (h : type.claim outcome world = (.done claimed, after)) :
    relay (type :: types) outcome world = relay types (claimed.map .ofDeferred) after := by
  rw [relay, Act.bind_of_done h]

/-- A look-up that never ends stops all claiming. -/
theorem relay_of_unfinished {type : FailureType ω κ ε} {types : List (FailureType ω κ ε)}
    {outcome : Outcome ε (Payload ε α)} {world after : World ω κ}
    (h : type.claim outcome world = (.unfinished, after)) :
    relay (type :: types) outcome world = (.unfinished, after) := by
  rw [relay, Act.bind_of_unfinished h]

/-- A chain waits as long as nothing has been offered to its first promise. -/
theorem Story.Holds.open_of_offers {story : Story ω κ ε α} {desk : Desk ω κ ε α}
    (hholds : story.Holds desk) (hoffers : story.offers = []) : story.Open desk := by
  refine hholds.shape.resolve_right ?_
  rintro ⟨winner, result, last, hclosed⟩
  have hnone := hclosed.offers
  rw [hoffers] at hnone
  cases hnone

/-! ### At a desk as by itself -/

namespace Desk

/-- A run at a desk does what a computation by itself does: it is done when the computation is, in
the same world and with results that fit each other on the desk, and unfinished otherwise. -/
inductive Carries (fit : β → γ → Desk ω κ ε α → Prop) :
    Exit β × Desk ω κ ε α × World ω κ → Exit γ × World ω κ → Prop where
  | done {b : β} {c : γ} {after : Desk ω κ ε α} {world : World ω κ} (hfit : fit b c after) :
    Carries fit (.done b, after, world) (.done c, world)
  | unfinished {after : Desk ω κ ε α} {world : World ω κ} :
    Carries fit (.unfinished, after, world) (.unfinished, world)

variable {desk after : Desk ω κ ε α} {world : World ω κ}

/-- Sequences carry sequences. -/
theorem Carries.bind {fit : β → γ → Desk ω κ ε α → Prop} {later : δ → ρ → Desk ω κ ε α → Prop}
    {run : DeskRun ω κ ε α β} {act : Run ω κ γ} {next : β → DeskRun ω κ ε α δ}
    {rest : γ → Run ω κ ρ} (h : Carries fit (run (desk, world)) (act world))
    (hnext : ∀ b c after world, fit b c after →
      Carries later (next b (after, world)) (rest c world)) :
    Carries later ((run >>= next) (desk, world)) ((act >>= rest) world) := by
  rw [Act.bind_apply, Act.bind_apply]
  generalize run (desk, world) = ended at h ⊢
  generalize act world = result at h ⊢
  cases h with
  | done hfit => exact hnext _ _ _ _ hfit
  | unfinished => exact .unfinished

/-- Settling the first promise of a waiting chain claims along the whole chain, in the world in
which it is settled. -/
theorem settleWith_carries {first depth : Nat} {links : Links ω κ ε}
    (hwaiting : desk.Waiting first links) (hnodup : (first :: links.outputs).Nodup)
    (hlast : (desk.shared (links.final first)).cell = .fresh) (hroom : links.length ≤ depth)
    (outcome : Outcome ε (Payload ε α)) (world : World ω κ) :
    Carries (fun _ result after => Cascaded desk after first links result)
      (settleWith (notify depth) first outcome (desk, world))
      (relay links.types outcome world) := by
  induction links generalizing desk first depth outcome world with
  | nil =>
    have hcell : (desk.shared first).cell = .pending none none := hlast
    have hends : Ends (settleWith (notify depth) first outcome (desk, world)) (desk.Stuck first [])
        fun after => Cascaded desk after first [] outcome :=
      settle_unheard hwaiting outcome world
    rw [settleWith_of_unheard none hcell] at hends ⊢
    obtain ⟨hstuck, -⟩ | ⟨-, hcascaded⟩ := hends
    · cases hstuck
    · exact .done hcascaded
  | cons link links ih =>
    obtain ⟨type, output⟩ := link
    obtain ⟨hinput, hone, hrest⟩ := hwaiting
    have hfirst : first < desk.promises.length := lt_of_not_isSettled (by rw [hinput]; rfl)
    obtain ⟨hfresh, hnodup⟩ := List.nodup_cons.1 hnodup
    have hhanded : (desk.handedOn first).Waiting output links := Along.handedOn hrest hfresh
    have hplaced : output < (desk.handedOn first).promises.length :=
      lt_of_not_isSettled (hhanded.isSettled output List.mem_cons_self)
    have hend : ((desk.handedOn first).shared (Links.final output links)).cell = .fresh := by
      rw [shared_handedOn hfresh (Links.final_mem output links)]
      exact hlast
    obtain ⟨depth, rfl⟩ : ∃ room, depth = room + 1 := ⟨depth - 1, by
      simp only [List.length_cons] at hroom
      omega⟩
    rw [settleWith_of_heard hinput]
    change Carries _ ((notify (depth + 1) (.bridge type output) outcome >>= fun _ => pure true :
      DeskRun ω κ ε α Bool) (desk.handedOn first, world))
      (relay (type :: Links.types links) outcome world)
    rcases type.claim_returns outcome world with ⟨claimed, hclaim⟩ | ⟨hclaim, -⟩
    · generalize hlater : (type.claim outcome world).2 = later
      have hdone : type.claim outcome world = (.done claimed, later) := Prod.ext hclaim hlater
      have hcarried := ih hhanded hnodup hend (Nat.le_of_succ_le_succ hroom)
        (claimed.map .ofDeferred) later
      rw [relay_of_done hdone]
      generalize hrun : settleWith (notify depth) output (claimed.map .ofDeferred)
        (desk.handedOn first, later) = run at hcarried
      generalize relay (Links.types links) (claimed.map .ofDeferred) later = result at hcarried ⊢
      cases hcarried with
      | @done _ result settled last hcascaded =>
        obtain ⟨next, hdrop, hbridged⟩ := hcascaded.drop hnodup hplaced
          (by rw [shared_handedOn hfresh List.mem_cons_self, hone]) (notify depth) last
        have hbridge : notify (depth + 1) (.bridge type output) outcome
            (desk.handedOn first, world) = (.done (), next, last) := by
          rw [notify_bridge_of_done hdone, andFinally_apply, Act.bind_of_done hrun]
          exact hdrop
        rw [Act.bind_of_done hbridge]
        exact .done (hbridged.cascaded hfirst hfresh)
      | @unfinished settled last =>
        have hbridge : notify (depth + 1) (.bridge type output) outcome
            (desk.handedOn first, world) = (.unfinished, settled, last) := by
          rw [notify_bridge_of_done hdone, andFinally_apply, Act.bind_of_unfinished hrun]
        rw [Act.bind_of_unfinished hbridge]
        exact .unfinished
    · have hstuck : type.claim outcome world = (.unfinished, (type.claim outcome world).2) :=
        Prod.ext hclaim rfl
      rw [relay_of_unfinished hstuck, Act.bind_of_unfinished (notify_bridge_of_unfinished hstuck)]
      exact .unfinished

/-! ### Bridges before and after the settle -/

/-- Make bridges of these types over a promise, each over the output of the one before it. -/
def bridgeAll : List (FailureType ω κ ε) → Nat → DeskRun ω κ ε α Nat
  | [], input => pure input
  | type :: types, input => do bridgeAll types (← bridge type input)

/-- Bridge a promise with the types in `early`, settle it, bridge on with the types in `late`, and
poll the promise at the end. -/
def caught (early late : List (FailureType ω κ ε)) (outcome : Outcome ε (Payload ε α)) :
    DeskRun ω κ ε α (Option (Outcome ε (Payload ε α))) := do
  let input ← addPromise
  let middle ← bridgeAll early input
  let _ ← settle input outcome
  let output ← bridgeAll late middle
  poll output (pure ())

/-- Bridges over the end of a chain that waits make it longer, and leave the world alone. -/
theorem bridgeAll_of_open {story : Story ω κ ε α} (types : List (FailureType ω κ ε))
    (hholds : story.Holds desk) (hoffers : story.offers = [])
    (hlast : (desk.shared story.final).cell = .fresh) (world : World ω κ) :
    ∃ (longer : Story ω κ ε α) (after : Desk ω κ ε α),
      bridgeAll types story.final (desk, world) = (.done longer.final, after, world) ∧
      longer.Holds after ∧ longer.offers = [] ∧ longer.first = story.first ∧
      longer.links.types = story.links.types ++ types ∧
      (after.shared longer.final).cell = .fresh := by
  induction types generalizing story desk with
  | nil => exact ⟨story, desk, rfl, hholds, hoffers, rfl, by simp, hlast⟩
  | cons type types ih =>
    have hopen := hholds.open_of_offers hoffers
    have hnew : desk.promises.length ≠ story.final := (hholds.ne_length story.final_mem).symm
    have hend : (story.extend type desk.promises.length).final = desk.promises.length := by
      have hfinal : ∀ (links : Links ω κ ε) (first : Nat),
          Links.final first (links ++ [(type, desk.promises.length)]) = desk.promises.length := by
        intro links
        induction links with
        | nil => exact fun _ => rfl
        | cons link links ih => exact fun _ => ih link.2
      exact hfinal _ _
    have hfresh : ((desk.grown.put story.final
        { desk.shared story.final with
          cell := .pending (some (.bridge type desk.promises.length)) none }).shared
        (story.extend type desk.promises.length).final).cell = .fresh := by
      rw [hend, shared_put_of_ne hnew, shared_grown]
      rfl
    obtain ⟨longer, after, hrun, hlonger, hnothing, hfirst, htypes, hfinal⟩ :=
      ih (hholds.bridge_open hopen type) hoffers hfresh
    refine ⟨longer, after, ?_, hlonger, hnothing, hfirst, ?_, hfinal⟩
    · rw [bridgeAll, Act.bind_of_done (bridge_of_pending type hholds.final_lt hlast), ← hrun, hend]
    · rw [htypes]
      simp [Story.extend, Links.types]

/-- Bridges over a promise that is ready claim its outcome at once. -/
theorem bridgeAll_of_ready {input : Nat} (types : List (FailureType ω κ ε))
    {outcome : Outcome ε (Payload ε α)} (hinput : input < desk.promises.length)
    (hcell : (desk.shared input).cell = .ready outcome) (world : World ω κ) :
    Carries (fun output result after => (after.shared output).cell = .ready result)
      (bridgeAll types input (desk, world)) (relay types outcome world) := by
  induction types generalizing desk input outcome world with
  | nil => exact .done hcell
  | cons type types ih =>
    rcases type.claim_returns outcome world with ⟨claimed, hclaim⟩ | ⟨hclaim, -⟩
    · have hdone : type.claim outcome world = (.done claimed, (type.claim outcome world).2) :=
        Prod.ext hclaim rfl
      rw [bridgeAll, Act.bind_of_done (bridge_of_claim hinput hcell hdone), relay_of_done hdone]
      refine ih ?_ ?_ _
      · simp
      · rw [shared_put (by simp)]
    · have hstuck : type.claim outcome world = (.unfinished, (type.claim outcome world).2) :=
        Prod.ext hclaim rfl
      rw [bridgeAll, Act.bind_of_unfinished (bridge_of_unfinished hinput hcell hstuck),
        relay_of_unfinished hstuck]
      exact .unfinished

/-- Whichever of the bridges are made before the promise is settled, what is polled at the end, and
the world, are what the types make of the outcome one after the other. -/
theorem caught_carries (early late : List (FailureType ω κ ε)) (outcome : Outcome ε (Payload ε α))
    (desk : Desk ω κ ε α) (world : World ω κ) :
    Carries (fun polled result _ => polled = some result)
      (caught early late outcome (desk, world)) (relay (early ++ late) outcome world) := by
  have hnew : (desk.grown.shared
      (⟨desk.promises.length, [], [], [], true⟩ : Story ω κ ε α).final).cell = .fresh := by
    change (desk.grown.shared desk.promises.length).cell = .fresh
    rw [shared_grown]
    rfl
  obtain ⟨story, waiting, hbridged, hholds, hoffers, hfirst, htypes, hlast⟩ :=
    bridgeAll_of_open early (Story.holds_create desk) rfl hnew world
  have hopen := hholds.open_of_offers hoffers
  have hsettled : Carries (fun _ result after => Cascaded waiting after desk.promises.length
      story.links result) (settle desk.promises.length outcome (waiting, world))
      (relay early outcome world) := by
    have hwhole := settleWith_carries hopen.waiting hholds.nodup hlast hholds.room outcome world
    rwa [hfirst, htypes] at hwhole
  change bridgeAll early desk.promises.length (desk.grown, world) = _ at hbridged
  rw [relay_append, caught, Act.bind_of_done (addPromise_apply desk world),
    Act.bind_of_done hbridged]
  refine Carries.bind hsettled fun _ middle after later hcascaded => ?_
  have hcell : (after.shared story.final).cell = .ready middle := by
    rw [Story.final, hfirst]
    exact hcascaded.passed.at_final
  have hplaced : story.final < after.promises.length := by
    rw [hcascaded.size]
    exact hholds.final_lt
  have hbridges := bridgeAll_of_ready late hplaced hcell later
  rw [Act.bind_apply]
  generalize bridgeAll late story.final (after, later) = run at hbridges ⊢
  generalize relay late middle later = result at hbridges ⊢
  cases hbridges with
  | done hready =>
    simp only [poll_of_ready (pure ()) hready]
    exact .done rfl
  | unfinished => exact .unfinished

end Desk

/-! ### Two distinct types -/

namespace FailureType

/-- No error is a failure of both types. -/
def Distinct (first second : FailureType ω κ ε) : Prop :=
  ∀ failure, first.owns failure = true → second.owns failure = false

/-- Two types are distinct in either order. -/
theorem Distinct.symm {first second : FailureType ω κ ε} (h : first.Distinct second) :
    second.Distinct first := by
  intro failure hsecond
  cases hfirst : first.owns failure with
  | false => rfl
  | true =>
    rw [h failure hfirst] at hsecond
    cases hsecond

/-- The outcome fails with this failure, which one of the types owns, under some layers. -/
def Carried (first second : FailureType ω κ ε) (outcome : Outcome ε (Payload ε α))
    (owner : FailureType ω κ ε) (failure : ε) : Prop :=
  (owner = first ∨ owner = second) ∧ owner.owns failure = true ∧
    ∃ count, outcome = .error ((DynError.leaf failure).layered count)

/-- What the two orders make of an outcome in a world: `result` is what claiming for the first type
and then for the second comes to, and `counterpart` what the other order comes to. -/
inductive Corresponds (first second : FailureType ω κ ε) (outcome : Outcome ε (Payload ε α))
    (world : World ω κ) : Outcome ε (Payload ε α) → Outcome ε (Payload ε α) → Prop where
  /-- A value is wrapped twice. -/
  | value (payload : Payload ε α) (houtcome : outcome = .ok payload) :
    Corresponds first second outcome world (.ok (.value (.value payload)))
      (.ok (.value (.value payload)))
  /-- A failure of the first type becomes the failure of the bridge for it, and the bridge for the
  second type wraps it when it is the outer one. -/
  | first {failure : ε} (hcarried : first.Carried second outcome first failure) :
    Corresponds first second outcome world (.ok (.value (.failure failure)))
      (.ok (.failure failure))
  /-- A failure of the second type becomes the failure of the bridge for it, and the bridge for the
  first type wraps it when it is the outer one. -/
  | second {failure : ε} (hcarried : first.Carried second outcome second failure) :
    Corresponds first second outcome world (.ok (.failure failure))
      (.ok (.value (.failure failure)))
  /-- An error that is neither passes through with its layers. -/
  | neither {error : DynError ε} (count : Nat) (hbare : error.Bare) (hfirst : ¬first.Owns error)
    (hsecond : ¬second.Owns error) (houtcome : outcome = .error (error.layered count)) :
    Corresponds first second outcome world outcome outcome
  /-- A failure whose look-up panics is kept as the source of the same error. -/
  | interrupted {owner : FailureType ω κ ε} {failure : ε} {alarm : Alarm}
    (hcarried : first.Carried second outcome owner failure)
    (hlookup : (owner.cancellation failure world).1 = .panicked alarm) :
    Corresponds first second outcome world (.error (.interrupted alarm.text (.leaf failure)))
      (.error (.interrupted alarm.text (.leaf failure)))

variable {first second : FailureType ω κ ε} {outcome : Outcome ε (Payload ε α)}
  {world : World ω κ}

/-- The correspondence may be read from either order. -/
theorem Corresponds.symm {result counterpart : Outcome ε (Payload ε α)}
    (h : second.Corresponds first outcome world counterpart result) :
    first.Corresponds second outcome world result counterpart := by
  have hswap : ∀ {owner : FailureType ω κ ε} {failure : ε},
      second.Carried first outcome owner failure → first.Carried second outcome owner failure :=
    fun hcarried => ⟨hcarried.1.symm, hcarried.2⟩
  cases h with
  | value payload houtcome => exact .value payload houtcome
  | first hcarried => exact .second (hswap hcarried)
  | second hcarried => exact .first (hswap hcarried)
  | neither count hbare hsecond hfirst houtcome =>
    exact .neither count hbare hfirst hsecond houtcome
  | interrupted hcarried hlookup => exact .interrupted (hswap hcarried) hlookup

/-- What the two orders come to, each with its exit and its world: corresponding results in one
world, or both are left unfinished, by the look-up of the failure. -/
def Agree (first second : FailureType ω κ ε) (outcome : Outcome ε (Payload ε α))
    (world : World ω κ) (one other : Exit (Outcome ε (Payload ε α)) × World ω κ) : Prop :=
  one.2 = other.2 ∧
    ((∃ result counterpart, one.1 = .done result ∧ other.1 = .done counterpart ∧
        first.Corresponds second outcome world result counterpart) ∨
      ∃ owner failure, first.Carried second outcome owner failure ∧
        (owner.cancellation failure world).1 = .unfinished ∧
        one.1 = .unfinished ∧ other.1 = .unfinished)

/-- What the two orders come to agrees in either order. -/
theorem Agree.symm {one other : Exit (Outcome ε (Payload ε α)) × World ω κ}
    (h : second.Agree first outcome world other one) :
    first.Agree second outcome world one other := by
  obtain ⟨hworlds, hends⟩ := h
  refine ⟨hworlds.symm, ?_⟩
  rcases hends with ⟨result, counterpart, hone, hother, hcorresponds⟩ |
    ⟨owner, failure, hcarried, hlookup, hone, hother⟩
  · exact .inl ⟨counterpart, result, hother, hone, hcorresponds.symm⟩
  · exact .inr ⟨owner, failure, ⟨hcarried.1.symm, hcarried.2⟩, hlookup, hother, hone⟩

/-- A failure of the first type: the claim for the first type finds it in either order, and the one
for the second type finds nothing, before or after. -/
theorem relay_of_first (hdistinct : first.Distinct second) {failure : ε} {count : Nat}
    (howns : first.owns failure = true)
    (houtcome : outcome = .error ((DynError.leaf failure).layered count)) :
    first.Agree second outcome world (relay [first, second] outcome world)
      (relay [second, first] outcome world) := by
  have hcarried : first.Carried second outcome first failure := ⟨.inl rfl, howns, count, houtcome⟩
  have hforeign : ¬second.Owns (.leaf failure) := by
    change ¬second.owns failure = true
    rw [hdistinct failure howns]
    exact Bool.false_ne_true
  have hbare : (DynError.leaf failure).Bare := trivial
  have hpasses : relay [second, first] outcome world = relay [first] outcome world := by
    rw [houtcome]
    exact relay_of_done (second.claim_foreign hbare hforeign count world)
  have hclaim : first.claim outcome world =
      first.resolved failure (first.cancellation failure world) := by
    rw [houtcome]
    exact first.claim_layered howns count world
  rw [hpasses]
  rcases hlookup : first.cancellation failure world with ⟨token | alarm | _, asked⟩
  · -- The failure is claimed, and the bridge for the second type wraps it as a value.
    obtain ⟨after, hdone⟩ : ∃ after, first.claim outcome world =
        (.done (.ok (.failure failure)), after) := by
      rw [hclaim, hlookup]
      cases token <;> exact ⟨_, rfl⟩
    rw [relay_of_done hdone, relay_of_done hdone]
    exact ⟨rfl, .inl ⟨_, _, rfl, rfl, .first hcarried⟩⟩
  · have hdone : first.claim outcome world =
        (.done (.error (.interrupted alarm.text (.leaf failure))),
          asked.push (.notice (.bridgeInterrupted alarm.text))) := by
      rw [hclaim, hlookup]
      rfl
    rw [relay_of_done hdone, relay_of_done hdone]
    exact ⟨rfl, .inl ⟨_, _, rfl, rfl, .interrupted hcarried (by rw [hlookup])⟩⟩
  · have hstuck : first.claim outcome world = (.unfinished, asked) := by
      rw [hclaim, hlookup]
      rfl
    rw [relay_of_unfinished hstuck, relay_of_unfinished hstuck]
    exact ⟨rfl, .inr ⟨first, failure, hcarried, by rw [hlookup], rfl, rfl⟩⟩

/-- Claiming for two distinct types comes to corresponding results in either order. -/
theorem Distinct.relay (hdistinct : first.Distinct second) (outcome : Outcome ε (Payload ε α))
    (world : World ω κ) :
    first.Agree second outcome world (relay [first, second] outcome world)
      (relay [second, first] outcome world) := by
  rcases first.outcome_cases outcome with ⟨payload, rfl⟩ | ⟨failure, count, howns, houtcome⟩ |
    ⟨error, count, hbare, hfirst, houtcome⟩
  · exact ⟨rfl, .inl ⟨_, _, rfl, rfl, .value payload rfl⟩⟩
  · exact relay_of_first hdistinct howns houtcome
  · by_cases hsecond : second.Owns error
    · cases error with
      | leaf failure => exact (relay_of_first hdistinct.symm hsecond houtcome).symm
      | layer source => exact hbare.elim
      | interrupted message suppressed => exact hsecond.elim
      | abandoned => exact hsecond.elim
      | crashed => exact hsecond.elim
    · have hone : Deferral.relay [first, second] outcome world = (.done outcome, world) := by
        rw [houtcome, relay_of_done (first.claim_foreign hbare hfirst count world)]
        exact relay_of_done (second.claim_foreign hbare hsecond count world)
      have hother : Deferral.relay [second, first] outcome world = (.done outcome, world) := by
        rw [houtcome, relay_of_done (second.claim_foreign hbare hsecond count world)]
        exact relay_of_done (first.claim_foreign hbare hfirst count world)
      rw [hone, hother]
      exact ⟨rfl, .inl ⟨_, _, rfl, rfl, .neither count hbare hfirst hsecond houtcome⟩⟩

/-- Catching two distinct types of failure commutes. Whatever the outcome of a promise, and
whichever of the two bridges are made before it is settled, bridging for the first type and then for
the second and bridging for the second and then for the first give corresponding results, in worlds
with the same flags, the same trace and the same state of the client. -/
theorem Distinct.catching_commutes (hdistinct : first.Distinct second)
    (outcome : Outcome ε (Payload ε α)) (desk : Desk ω κ ε α) (world : World ω κ)
    {early late sooner later : List (FailureType ω κ ε)} (hone : early ++ late = [first, second])
    (hother : sooner ++ later = [second, first]) :
    let one := Desk.caught early late outcome (desk, world)
    let other := Desk.caught sooner later outcome (desk, world)
    one.2.2 = other.2.2 ∧
      ((∃ result counterpart, one.1 = .done (some result) ∧ other.1 = .done (some counterpart) ∧
          first.Corresponds second outcome world result counterpart) ∨
        ∃ owner failure, first.Carried second outcome owner failure ∧
          (owner.cancellation failure world).1 = .unfinished ∧
          one.1 = .unfinished ∧ other.1 = .unfinished) := by
  intro one other
  have hagree := hdistinct.relay outcome world
  have hfirst := Desk.caught_carries early late outcome desk world
  have hsecond := Desk.caught_carries sooner later outcome desk world
  rw [hone] at hfirst
  rw [hother] at hsecond
  change Desk.Carries _ one _ at hfirst
  change Desk.Carries _ other _ at hsecond
  generalize Deferral.relay [first, second] outcome world = claimed at hagree hfirst
  generalize Deferral.relay [second, first] outcome world = reclaimed at hagree hsecond
  clear_value one other
  obtain ⟨hworlds, ⟨result, counterpart, hresult, hcounterpart, hcorresponds⟩ |
    ⟨owner, failure, hcarried, hlookup, hresult, hcounterpart⟩⟩ := hagree
  · cases hfirst with
    | done hpolled =>
      cases hsecond with
      | done hrepolled =>
        obtain rfl := Exit.done.inj hresult
        obtain rfl := Exit.done.inj hcounterpart
        subst hpolled hrepolled
        exact ⟨hworlds, .inl ⟨_, _, rfl, rfl, hcorresponds⟩⟩
      | unfinished => cases hcounterpart
    | unfinished => cases hresult
  · cases hfirst with
    | done hpolled => cases hresult
    | unfinished =>
      cases hsecond with
      | done hrepolled => cases hcounterpart
      | unfinished => exact ⟨hworlds, .inr ⟨owner, failure, hcarried, hlookup, rfl, rfl⟩⟩

end FailureType

/-! ### Failures of scripts -/

namespace Script

/-- Different kinds of failure have no failure in common. -/
theorem Kind.distinct {first second : Kind} (h : first ≠ second) :
    first.failureType.Distinct second.failureType := by
  intro failure hfirst
  have hkind : failure.kind? = some first := by simpa [Kind.failureType] using hfirst
  simpa [Kind.failureType, hkind] using h

/-- A cancellation under two layers is caught by two bridges, one made before the promise is settled
and one after, and, in the other order, by two that are made over the settled promise. -/
theorem Kind.catching_commutes_halt :
    let world : ScriptWorld := ⟨fun _ => false, #[], fun _ => 0⟩
    let outcome : Result :=
      .error ((DynError.leaf (Fault.halt (some ⟨3⟩) "closing" 0 .empty)).layered 2)
    let desk : Desk Event Calls Fault Value := .empty
    let one := Desk.caught [Kind.halt.failureType] [Kind.fetch.failureType] outcome (desk, world)
    let other :=
      Desk.caught [] [Kind.fetch.failureType, Kind.halt.failureType] outcome (desk, world)
    Kind.halt.failureType.Distinct Kind.fetch.failureType ∧
      one.2.2 = other.2.2 ∧
        ((∃ result counterpart, one.1 = .done (some result) ∧ other.1 = .done (some counterpart) ∧
            Kind.halt.failureType.Corresponds Kind.fetch.failureType outcome world result
              counterpart) ∨
          ∃ owner failure,
            Kind.halt.failureType.Carried Kind.fetch.failureType outcome owner failure ∧
              (owner.cancellation failure world).1 = .unfinished ∧
              one.1 = .unfinished ∧ other.1 = .unfinished) :=
  have hdistinct := Kind.distinct (by decide : Kind.halt ≠ Kind.fetch)
  ⟨hdistinct, hdistinct.catching_commutes _ _ _ rfl rfl⟩

end Script

end Deferral
