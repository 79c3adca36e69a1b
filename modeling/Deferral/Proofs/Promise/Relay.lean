import Deferral.Proofs.Computation
import Deferral.Proofs.Promise.DeskSteps

/-!
# Cascades of bridges

Settling a promise that a chain of bridges hangs on runs the bridges one inside the other: each one
claims the failures of the outcome it hears, settles its output, whose own listener is the next
bridge, and drops the only completer of its output. The cascade leaves the whole chain settled, and
its end holds the outcome that the types of the chain make of the first one, one after the other.
-/

namespace Deferral

variable {ω κ ε α : Type}

/-! ## What a chain makes of an outcome -/

/-- Claim the failures of one type after the other. -/
def relay : List (FailureType ω κ ε) → Outcome ε (Payload ε α) →
    Run ω κ (Outcome ε (Payload ε α))
  | [], outcome => pure outcome
  | type :: types, outcome => do
    let claimed ← type.claim outcome
    relay types (claimed.map .ofDeferred)

/-- The types turn one outcome into another, each in a world of its own: a bridge claims when its
input is settled, or later, when it is made. -/
inductive Relayed : List (FailureType ω κ ε) → Outcome ε (Payload ε α) →
    Outcome ε (Payload ε α) → Prop
  | nil (outcome : Outcome ε (Payload ε α)) : Relayed [] outcome outcome
  | cons {type : FailureType ω κ ε} {types : List (FailureType ω κ ε)}
      {outcome result : Outcome ε (Payload ε α)} {claimed : Outcome ε (Deferred ε (Payload ε α))}
      (world : World ω κ) (hclaim : (type.claim outcome world).1 = .done claimed)
      (hrest : Relayed types (claimed.map .ofDeferred) result) :
      Relayed (type :: types) outcome result

/-- A chain may be cut in two. -/
theorem Relayed.append {types more : List (FailureType ω κ ε)}
    {outcome middle result : Outcome ε (Payload ε α)} (hrelayed : Relayed types outcome middle)
    (hmore : Relayed more middle result) : Relayed (types ++ more) outcome result := by
  induction hrelayed with
  | nil outcome => exact hmore
  | cons earlier hclaim _ ih => exact .cons earlier hclaim (ih hmore)

/-- What looking up a cancellation comes to depends on the failure alone, and not on the world. -/
def FailureType.Steady (type : FailureType ω κ ε) : Prop :=
  ∀ failure first second, (type.cancellation failure first).1 = (type.cancellation failure second).1

/-- When the look-ups of a type depend on the failure alone, so does claiming. -/
theorem FailureType.Steady.claim {type : FailureType ω κ ε} (hsteady : type.Steady)
    (outcome : Outcome ε α) (first second : World ω κ) :
    (type.claim outcome first).1 = (type.claim outcome second).1 := by
  rcases type.outcome_cases outcome with ⟨value, rfl⟩ | ⟨failure, count, howns, rfl⟩ |
    ⟨bare, count, hbare, hforeign, rfl⟩
  · rfl
  · have hsame := hsteady failure first second
    rw [type.claim_layered howns, type.claim_layered howns]
    generalize type.cancellation failure first = lookup at hsame ⊢
    generalize type.cancellation failure second = other at hsame ⊢
    obtain ⟨exit, after⟩ := lookup
    obtain ⟨_, later⟩ := other
    subst hsame
    rcases exit with _ | _ | _
    · next token => cases token <;> rfl
    · rfl
    · rfl
  · rw [type.claim_foreign hbare hforeign, type.claim_foreign hbare hforeign]

/-- With such types it does not matter when each of them claims. -/
theorem Relayed.relay_eq {types : List (FailureType ω κ ε)}
    {outcome result : Outcome ε (Payload ε α)} (hrelayed : Relayed types outcome result)
    (hsteady : ∀ type ∈ types, type.Steady) (world : World ω κ) :
    (relay types outcome world).1 = .done result := by
  induction hrelayed generalizing world with
  | nil outcome => rfl
  | @cons type types outcome result claimed earlier hclaim _ ih =>
    rw [hsteady type List.mem_cons_self |>.claim outcome earlier world] at hclaim
    rw [relay, Act.bind_apply]
    rcases hrun : type.claim outcome world with ⟨exit, after⟩
    rw [hrun] at hclaim
    obtain rfl : exit = .done claimed := hclaim
    exact ih (fun other hother => hsteady other (List.mem_cons_of_mem _ hother)) after

/-! ## Chains on a desk -/

/-- The links of a chain after its first promise: the type of each bridge and its output. -/
abbrev Links (ω κ ε : Type) : Type := List (FailureType ω κ ε × Nat)

namespace Links

/-- The outputs of the bridges. -/
def outputs (links : Links ω κ ε) : List Nat := links.map Prod.snd

/-- The types of the bridges. -/
def types (links : Links ω κ ε) : List (FailureType ω κ ε) := links.map Prod.fst

/-- The promise at the end of a chain. -/
def final (first : Nat) : Links ω κ ε → Nat
  | [] => first
  | (_, output) :: links => final output links

/-- The end of a chain is one of its promises. -/
theorem final_mem (first : Nat) (links : Links ω κ ε) :
    final first links ∈ first :: links.outputs := by
  induction links generalizing first with
  | nil => exact List.mem_singleton_self _
  | cons link links ih => exact List.mem_cons_of_mem _ (ih link.2)

end Links

/-- The cell of a promise on a desk. -/
abbrev DeskCell (ω κ ε α : Type) : Type :=
  Cell (Listener ω κ ε α) (Run ω κ Unit) (Outcome ε (Payload ε α))

namespace Desk

/-- Along a chain, the cell of each input is told by its link, each output has this many completers,
and the cell at the end is as asked for. -/
def Along (desk : Desk ω κ ε α) (input : FailureType ω κ ε → Nat → DeskCell ω κ ε α)
    (completers : Nat) (last : DeskCell ω κ ε α → Prop) : Nat → Links ω κ ε → Prop
  | number, [] => last (desk.shared number).cell
  | number, (type, output) :: links =>
    (desk.shared number).cell = input type output ∧
      (desk.shared output).completers = completers ∧
        desk.Along input completers last output links

/-- The cell of a promise that a bridge waits for. -/
def awaitedBy (type : FailureType ω κ ε) (output : Nat) : DeskCell ω κ ε α :=
  .pending (some (.bridge type output)) none

/-- A pending cell that nobody listens to. -/
def Unheard (cell : DeskCell ω κ ε α) : Prop := ∃ waker, cell = .pending none waker

/-- The chain waits for its first promise: every promise is pending, and the only completer of each
output is held by the bridge that waits for its input. -/
def Waiting (desk : Desk ω κ ε α) (first : Nat) (links : Links ω κ ε) : Prop :=
  desk.Along awaitedBy 1 Unheard first links

/-- The outcome has passed through the chain: it is gone from every promise but the last, and no
completer of an output is left. -/
def Passed (desk : Desk ω κ ε α) (last : DeskCell ω κ ε α) (first : Nat)
    (links : Links ω κ ε) : Prop :=
  desk.Along (fun _ _ => .taken) 0 (· = last) first links

/-- Some callback that a chain may have to run never ends: the look-up of a cancellation, or the
waker at its end. -/
def Stuck (desk : Desk ω κ ε α) : Nat → Links ω κ ε → Prop
  | number, [] => ∃ waker world,
    (desk.shared number).cell = .pending none (some waker) ∧ (waker world).1 = .unfinished
  | _, (type, output) :: links =>
    (∃ failure world, (type.cancellation failure world).1 = .unfinished) ∨ desk.Stuck output links

section Along

variable {desk after : Desk ω κ ε α} {input : FailureType ω κ ε → Nat → DeskCell ω κ ε α}
  {completers : Nat} {last next : DeskCell ω κ ε α → Prop} {first : Nat} {links : Links ω κ ε}

/-- What is along a chain depends on the promises of the chain alone, and not on the number of
completers of the first. -/
theorem Along.congr (halong : desk.Along input completers last first links)
    (hcells : ∀ number ∈ first :: links.outputs,
      (after.shared number).cell = (desk.shared number).cell)
    (hcompleters : ∀ number ∈ links.outputs,
      (after.shared number).completers = (desk.shared number).completers) :
    after.Along input completers last first links := by
  induction links generalizing first with
  | nil =>
    unfold Along at halong ⊢
    rwa [hcells first List.mem_cons_self]
  | cons link links ih =>
    obtain ⟨hinput, houtput, hrest⟩ := halong
    refine ⟨?_, ?_, ih hrest ?_ ?_⟩
    · rw [hcells first List.mem_cons_self, hinput]
    · rw [hcompleters link.2 List.mem_cons_self, houtput]
    · exact fun number hnumber => hcells number (List.mem_cons_of_mem _ hnumber)
    · exact fun number hnumber => hcompleters number (List.mem_cons_of_mem _ hnumber)

/-- The cell at the end of a chain. -/
theorem Along.at_final (halong : desk.Along input completers last first links) :
    last (desk.shared (links.final first)).cell := by
  induction links generalizing first with
  | nil => exact halong
  | cons link links ih => exact ih halong.2.2

/-- A property of the inputs and of the end is one of every promise of the chain. -/
theorem Along.forall_mem {P : DeskCell ω κ ε α → Prop}
    (halong : desk.Along input completers last first links)
    (hinput : ∀ type output, P (input type output)) (hlast : ∀ cell, last cell → P cell) :
    ∀ number ∈ first :: links.outputs, P (desk.shared number).cell := by
  induction links generalizing first with
  | nil =>
    intro number hnumber
    rw [List.mem_singleton.1 hnumber]
    exact hlast _ halong
  | cons link links ih =>
    intro number hnumber
    rcases List.mem_cons.1 hnumber with rfl | hnumber
    · rw [halong.1]
      exact hinput _ _
    · exact ih halong.2.2 number hnumber

/-- A step on the end of a chain may change its cell. -/
theorem Along.of_last (halong : desk.Along input completers last first links)
    (hnodup : (first :: links.outputs).Nodup)
    (hcells : ∀ number ∈ first :: links.outputs, number ≠ links.final first →
      (after.shared number).cell = (desk.shared number).cell)
    (hcompleters : ∀ number ∈ links.outputs,
      (after.shared number).completers = (desk.shared number).completers)
    (hlast : next (after.shared (links.final first)).cell) :
    after.Along input completers next first links := by
  induction links generalizing first with
  | nil => exact hlast
  | cons link links ih =>
    obtain ⟨hinput, houtput, hrest⟩ := halong
    obtain ⟨hfresh, hnodup⟩ := List.nodup_cons.1 hnodup
    have hne : first ≠ Links.final link.2 links := by
      rintro rfl
      exact hfresh (Links.final_mem _ _)
    refine ⟨?_, ?_, ih hrest hnodup ?_ ?_ hlast⟩
    · rw [hcells first List.mem_cons_self hne, hinput]
    · rw [hcompleters link.2 List.mem_cons_self, houtput]
    · exact fun number hnumber => hcells number (List.mem_cons_of_mem _ hnumber)
    · exact fun number hnumber => hcompleters number (List.mem_cons_of_mem _ hnumber)

/-- A bridge over the end of a chain makes it longer by one link. -/
theorem Along.concat {type : FailureType ω κ ε} {output : Nat}
    (halong : desk.Along input completers (· = input type output) first links)
    (houtput : (desk.shared output).completers = completers)
    (hlast : last (desk.shared output).cell) :
    desk.Along input completers last first (links ++ [(type, output)]) := by
  induction links generalizing first with
  | nil => exact ⟨halong, houtput, hlast⟩
  | cons link links ih => exact ⟨halong.1, halong.2.1, ih halong.2.2⟩

/-- Whether a chain is stuck depends on the promises of the chain alone. -/
theorem Stuck.congr (hstuck : after.Stuck first links)
    (hcells : ∀ number ∈ first :: links.outputs,
      (after.shared number).cell = (desk.shared number).cell) :
    desk.Stuck first links := by
  induction links generalizing first with
  | nil =>
    obtain ⟨waker, world, hcell, hends⟩ := hstuck
    exact ⟨waker, world, (hcells first List.mem_cons_self).symm.trans hcell, hends⟩
  | cons link links ih =>
    rcases hstuck with hlookup | hstuck
    · exact .inl hlookup
    · exact .inr (ih hstuck fun number hnumber => hcells number (List.mem_cons_of_mem _ hnumber))

end Along

/-! ## The cascade -/

variable {β γ : Type}

/-- A run is left unfinished only by a callback that never ends. Otherwise it leaves a good desk,
also when it panics. -/
def Ends (run : Exit β × Desk ω κ ε α × World ω κ) (stuck : Prop) (good : Desk ω κ ε α → Prop) :
    Prop :=
  run.1 = .unfinished ∧ stuck ∨ run.1 ≠ .unfinished ∧ good run.2.1

/-- Forgetting a result for another one makes no difference to the desk. -/
theorem Ends.replace {act : DeskRun ω κ ε α β} {whole : Desk ω κ ε α × World ω κ} {stuck : Prop}
    {good : Desk ω κ ε α → Prop} (h : Ends (act whole) stuck good) (value : γ) :
    Ends ((act >>= fun _ => pure value : DeskRun ω κ ε α γ) whole) stuck good := by
  rw [Act.bind_apply]
  unfold Ends at h ⊢
  generalize act whole = run at h ⊢
  obtain ⟨_ | _ | _, after⟩ := run
  · exact .inr ⟨by simp, (h.resolve_left (by simp)).2⟩
  · exact .inr ⟨by simp, (h.resolve_left (by simp)).2⟩
  · exact .inl ⟨rfl, (h.resolve_right (by simp)).2⟩

/-- A run that ends well enough for one purpose may do for another. -/
theorem Ends.mono {run : Exit β × Desk ω κ ε α × World ω κ} {stuck caught : Prop}
    {good better : Desk ω κ ε α → Prop} (h : Ends run stuck good) (hstuck : stuck → caught)
    (hgood : ∀ after, good after → better after) : Ends run caught better :=
  h.imp (fun h => ⟨h.1, hstuck h.2⟩) fun h => ⟨h.1, hgood _ h.2⟩

/-- When its last part always succeeds, a run ends as its first part does. -/
theorem Ends.andFinally {act last : DeskRun ω κ ε α Unit} {whole : Desk ω κ ε α × World ω κ}
    {stuck : Prop} {good better : Desk ω κ ε α → Prop} (h : Ends (act whole) stuck good)
    (hlast : ∀ after world, good after →
      ∃ next, last (after, world) = (.done (), next, world) ∧ better next) :
    Ends (andFinally act last whole) stuck better := by
  rw [andFinally_apply]
  unfold Ends at h ⊢
  generalize act whole = run at h ⊢
  obtain ⟨_ | alarm | _, after, world⟩ := run
  · obtain ⟨next, hnext, hbetter⟩ := hlast after world (h.resolve_left (by simp)).2
    simp only [hnext]
    exact .inr ⟨by simp, hbetter⟩
  · obtain ⟨next, hnext, hbetter⟩ := hlast after world (h.resolve_left (by simp)).2
    simp only [Act.bind_apply, hnext, Act.panic]
    exact .inr ⟨by simp, hbetter⟩
  · exact .inl ⟨rfl, (h.resolve_right (by simp)).2⟩

/-- What a cascade that starts on `desk` at the promise `first` leaves behind. -/
structure Cascaded (desk after : Desk ω κ ε α) (first : Nat) (links : Links ω κ ε)
    (result : Outcome ε (Payload ε α)) : Prop where
  passed : after.Passed (.ready result) first links
  others : ∀ number ∉ first :: links.outputs, after.shared number = desk.shared number
  counter : (after.shared first).completers = (desk.shared first).completers
  size : after.promises.length = desk.promises.length

variable {desk after : Desk ω κ ε α} {first output depth : Nat} {links : Links ω κ ε}
  {type : FailureType ω κ ε} {result outcome : Outcome ε (Payload ε α)}

/-- Every promise of a waiting chain is pending. -/
theorem Waiting.isSettled (hwaiting : desk.Waiting first links) :
    ∀ number ∈ first :: links.outputs, (desk.shared number).cell.isSettled = false :=
  hwaiting.forall_mem (P := fun cell => cell.isSettled = false) (fun _ _ => rfl)
    fun _ ⟨_, hcell⟩ => hcell ▸ rfl

/-- Every promise of a chain that the outcome has passed through is settled. -/
theorem Passed.isSettled {last : DeskCell ω κ ε α} (hpassed : desk.Passed last first links)
    (hlast : last.isSettled = true) :
    ∀ number ∈ first :: links.outputs, (desk.shared number).cell.isSettled = true :=
  hpassed.forall_mem (P := fun cell => cell.isSettled = true) (fun _ _ => rfl)
    fun _ hcell => hcell ▸ hlast

/-- A promise without a listener keeps the outcome it is settled with, whatever its waker does. -/
theorem settle_unheard {notify : Notify ω κ ε α} (hunheard : Unheard (desk.shared first).cell)
    (outcome : Outcome ε (Payload ε α)) (world : World ω κ) :
    Ends (settleWith notify first outcome (desk, world)) (desk.Stuck first []) fun after =>
      Cascaded desk after first [] outcome := by
  obtain ⟨waker, hcell⟩ := hunheard
  have hfirst : first < desk.promises.length := lt_of_not_isSettled (by rw [hcell]; rfl)
  rw [settleWith_of_unheard waker hcell]
  refine Ends.replace ?_ true
  have hkept : Cascaded desk
      (desk.put first { desk.shared first with cell := .ready outcome }) first [] outcome := by
    refine ⟨?_, fun number hnumber => ?_, ?_, length_put ..⟩
    · simp [Passed, Along, hfirst]
    · exact shared_put_of_ne (List.ne_of_not_mem_cons hnumber) _
    · rw [shared_put hfirst]
  cases waker with
  | none => exact .inr ⟨by simp [Act.beside], hkept⟩
  | some waker =>
    unfold Ends
    simp only [Option.getD_some, Act.beside]
    rcases hwake : waker world with ⟨_ | _ | _, after⟩
    · exact .inr ⟨by simp, hkept⟩
    · exact .inr ⟨by simp, hkept⟩
    · exact .inl ⟨rfl, waker, world, hcell, by rw [hwake]⟩

/-- What a bridge leaves behind after it has handed on its outcome: its output and what hangs on the
output are settled, and no completer of the output is left. -/
structure Bridged (desk after : Desk ω κ ε α) (output : Nat) (links : Links ω κ ε)
    (result : Outcome ε (Payload ε α)) : Prop where
  passed : after.Passed (.ready result) output links
  others : ∀ number ∉ output :: links.outputs, after.shared number = desk.shared number
  counter : (after.shared output).completers = 0
  size : after.promises.length = desk.promises.length

/-- Dropping the only completer of an output after the cascade leaves the cascade as it is. -/
theorem Cascaded.drop (hcascaded : Cascaded desk after output links result)
    (hnodup : (output :: links.outputs).Nodup) (houtput : output < desk.promises.length)
    (hone : (desk.shared output).completers = 1) (notify : Notify ω κ ε α) (world : World ω κ) :
    ∃ next, dropWith notify output (after, world) = (.done (), next, world) ∧
      Bridged desk next output links result := by
  have hsettled := hcascaded.passed.isSettled rfl output List.mem_cons_self
  have hnumber : output < after.promises.length := hcascaded.size ▸ houtput
  have hne : ∀ number ∈ links.outputs, number ≠ output := by
    intro number hmember hsame
    exact (List.nodup_cons.1 hnodup).1 (hsame ▸ hmember)
  refine ⟨_, dropWith_of_isSettled hsettled hnumber, ⟨?_, ?_, ?_, ?_⟩⟩
  · refine hcascaded.passed.congr (fun number hmember => ?_) fun number hmember => ?_
    · rcases List.mem_cons.1 hmember with rfl | hmember
      · rw [shared_put hnumber]
        rfl
      · rw [shared_put_of_ne (hne number hmember)]
    · rw [shared_put_of_ne (hne number hmember)]
  · intro number hmember
    rw [shared_put_of_ne (List.ne_of_not_mem_cons hmember), hcascaded.others number hmember]
  · rw [shared_put hnumber, Shared.release, hcascaded.counter, hone]
  · rw [length_put, hcascaded.size]

/-- A bridge whose claim is done settles its output with what it claimed, and then drops the only
completer of its output. -/
theorem notify_bridge_of_done {claimed : Outcome ε (Deferred ε (Payload ε α))}
    {world later : World ω κ} (hclaim : type.claim outcome world = (.done claimed, later)) :
    notify (depth + 1) (.bridge type output) outcome (desk, world) =
      andFinally
        (settleWith (notify depth) output (claimed.map .ofDeferred) >>= fun _ => pure ())
        (dropWith (notify depth) output) (desk, later) := by
  rw [notify, Act.bind_of_done (Act.beside_eq hclaim desk)]

/-- A bridge whose claim is left unfinished is left unfinished. -/
theorem notify_bridge_of_unfinished {world later : World ω κ}
    (hclaim : type.claim outcome world = (.unfinished, later)) :
    notify (depth + 1) (.bridge type output) outcome (desk, world) =
      (.unfinished, desk, later) :=
  Act.bind_of_unfinished (Act.beside_eq hclaim desk) _

/-- A bridge hands what it claims to its output, and then drops the only completer of its output,
provided that settling the output works. -/
theorem notify_bridge {stuck : Prop} (hsettle : ∀ claimed world,
      Ends (settleWith (notify depth) output claimed (desk, world)) stuck
        fun after => ∃ result, Relayed links.types claimed result ∧
          Cascaded desk after output links result)
    (hnodup : (output :: links.outputs).Nodup) (houtput : output < desk.promises.length)
    (hone : (desk.shared output).completers = 1) (outcome : Outcome ε (Payload ε α))
    (world : World ω κ) :
    Ends (notify (depth + 1) (.bridge type output) outcome (desk, world))
      ((∃ failure world, (type.cancellation failure world).1 = .unfinished) ∨ stuck)
      fun after => ∃ result, Relayed (type :: links.types) outcome result ∧
        Bridged desk after output links result := by
  rcases type.claim_returns outcome world with ⟨claimed, hclaim⟩ | ⟨hclaim, failure, -, hlookup⟩
  · rw [notify_bridge_of_done (Prod.ext hclaim rfl)]
    refine Ends.mono (Ends.andFinally ((hsettle _ _).replace ()) ?_) .inr fun _ h => h
    rintro after later ⟨result, hrelayed, hcascaded⟩
    obtain ⟨next, hnext, hbridged⟩ := hcascaded.drop hnodup houtput hone (notify depth) later
    exact ⟨next, hnext, result, .cons world hclaim hrelayed, hbridged⟩
  · rw [notify_bridge_of_unfinished (Prod.ext hclaim rfl)]
    exact .inl ⟨rfl, .inl ⟨failure, world, hlookup⟩⟩

/-- The desk on which the bridge of a promise runs: the promise has handed its outcome on. -/
def handedOn (desk : Desk ω κ ε α) (first : Nat) : Desk ω κ ε α :=
  desk.put first { desk.shared first with cell := .taken }

/-- The other promises of a chain are as they were when the first has handed its outcome on. -/
theorem shared_handedOn {number : Nat} {numbers : List Nat} (hfresh : first ∉ numbers)
    (hnumber : number ∈ numbers) : (desk.handedOn first).shared number = desk.shared number := by
  refine shared_put_of_ne ?_ _
  rintro rfl
  exact hfresh hnumber

/-- The rest of a chain still waits when the first promise has handed its outcome on. -/
theorem Along.handedOn {input : FailureType ω κ ε → Nat → DeskCell ω κ ε α} {completers : Nat}
    {last : DeskCell ω κ ε α → Prop} (halong : desk.Along input completers last output links)
    (hfresh : first ∉ output :: links.outputs) :
    (desk.handedOn first).Along input completers last output links :=
  halong.congr (fun number hnumber => by rw [shared_handedOn hfresh hnumber])
    fun number hnumber => by rw [shared_handedOn hfresh (List.mem_cons_of_mem _ hnumber)]

/-- What the first bridge of a chain leaves behind is what the cascade of the whole chain does. -/
theorem Bridged.cascaded (hbridged : Bridged (desk.handedOn first) after output links result)
    (hfirst : first < desk.promises.length) (hfresh : first ∉ output :: links.outputs) :
    Cascaded desk after first ((type, output) :: links) result := by
  have hinput : after.shared first = { desk.shared first with cell := .taken } := by
    rw [hbridged.others first hfresh, handedOn, shared_put hfirst]
  refine ⟨⟨?_, hbridged.counter, hbridged.passed⟩, ?_, ?_, ?_⟩
  · rw [hinput]
  · intro number hnumber
    rw [hbridged.others number (List.not_mem_of_not_mem_cons hnumber), handedOn,
      shared_put_of_ne (List.ne_of_not_mem_cons hnumber)]
  · rw [hinput]
  · rw [hbridged.size, handedOn, length_put]

/-- Settling the first promise of a waiting chain settles the whole chain, when there is room for
one listener of each bridge. -/
theorem settleWith_waiting (hwaiting : desk.Waiting first links)
    (hnodup : (first :: links.outputs).Nodup) (depth : Nat) (outcome : Outcome ε (Payload ε α))
    (world : World ω κ) :
    Ends (settleWith (notify depth) first outcome (desk, world))
      (depth < links.length ∨ desk.Stuck first links)
      fun after => ∃ result, Relayed links.types outcome result ∧
        Cascaded desk after first links result := by
  induction links generalizing desk first depth outcome world with
  | nil =>
    refine (settle_unheard hwaiting outcome world).mono .inr fun after hafter => ?_
    exact ⟨outcome, .nil outcome, hafter⟩
  | cons link links ih =>
    obtain ⟨type, output⟩ := link
    obtain ⟨hinput, hone, hrest⟩ := hwaiting
    cases depth with
    | zero =>
      rw [settleWith_of_heard hinput]
      exact .inl ⟨rfl, .inl (Nat.succ_pos _)⟩
    | succ depth =>
      have hfirst : first < desk.promises.length := lt_of_not_isSettled (by rw [hinput]; rfl)
      obtain ⟨hfresh, hnodup⟩ := List.nodup_cons.1 hnodup
      have hwaiting : (desk.handedOn first).Waiting output links := Along.handedOn hrest hfresh
      have hplaced : output < (desk.handedOn first).promises.length :=
        lt_of_not_isSettled (hwaiting.isSettled output List.mem_cons_self)
      have hsettle := fun claimed world => ih hwaiting hnodup depth claimed world
      rw [settleWith_of_heard hinput]
      refine Ends.mono ((notify_bridge hsettle hnodup hplaced
        (by rw [shared_handedOn hfresh List.mem_cons_self, hone]) outcome world).replace true) ?_ ?_
      · rintro (hlookup | hdepth | hstuck)
        · exact .inr (.inl hlookup)
        · exact .inl (Nat.succ_lt_succ hdepth)
        · exact .inr (.inr (hstuck.congr fun number hnumber => by
            rw [shared_handedOn hfresh hnumber]))
      · rintro after ⟨result, hrelayed, hbridged⟩
        exact ⟨result, hrelayed, hbridged.cascaded hfirst hfresh⟩

/-- A bridge that is made over an outcome hands it on to a new promise. -/
theorem notify_bridge_of_fresh (hnew : desk.shared output = .fresh)
    (outcome : Outcome ε (Payload ε α)) (world : World ω κ) :
    Ends (notify (depth + 1) (.bridge type output) outcome (desk, world))
      (∃ failure world, (type.cancellation failure world).1 = .unfinished)
      fun after => ∃ result, Relayed [type] outcome result ∧
        Bridged desk after output [] result := by
  have hunheard : Unheard (desk.shared output).cell := ⟨none, by rw [hnew]; rfl⟩
  have hsettle : ∀ (claimed : Outcome ε (Payload ε α)) (world : World ω κ),
      Ends (settleWith (notify depth) output claimed (desk, world)) (desk.Stuck output [])
        fun after => ∃ result, Relayed (Links.types ([] : Links ω κ ε)) claimed result ∧
          Cascaded desk after output [] result :=
    fun claimed world => (settle_unheard hunheard claimed world).mono id
      fun _ hafter => ⟨claimed, .nil claimed, hafter⟩
  have houtput : output < desk.promises.length := lt_of_not_isSettled (by rw [hnew]; rfl)
  refine (notify_bridge hsettle (by simp [Links.outputs]) houtput (by rw [hnew]; rfl) outcome
    world).mono ?_ fun _ h => h
  rintro (hlookup | ⟨waker, _, hcell, -⟩)
  · exact hlookup
  · rw [hnew] at hcell
    cases hcell

end Desk

end Deferral
