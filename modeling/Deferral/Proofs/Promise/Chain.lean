import Deferral.Proofs.Promise.Relay
import Mathlib.Data.List.Perm.Subperm

/-!
# Chains of bridges

Bridges may be made over a promise, and over the output of a bridge, before or after the promise is
settled. A story tells what has been done to such a chain, in whatever order, and what is known of
it. However the story goes, neighbours in the chain are pending together, and the outcome that comes
out at the end does not depend on when the bridges were made.
-/

namespace Deferral

variable {ω κ ε α : Type}

/-- What has happened to a chain of bridges. -/
structure Story (ω κ ε α : Type) where
  /-- The number of its first promise. -/
  first : Nat
  /-- The bridges that have been made, in their order. -/
  links : Links ω κ ε
  /-- What has been offered to the first promise. -/
  offers : List (Outcome ε (Payload ε α))
  /-- What polls have taken from the promise at the end. -/
  collected : List (Outcome ε (Payload ε α))
  /-- Was every bridge made before a poll had taken the outcome of its input? -/
  whole : Bool

namespace Story

/-- The promises of the chain. -/
def numbers (story : Story ω κ ε α) : List Nat := story.first :: story.links.outputs

/-- The promise at the end of the chain. -/
def final (story : Story ω κ ε α) : Nat := story.links.final story.first

/-- The end of a chain is one of its promises. -/
theorem final_mem (story : Story ω κ ε α) : story.final ∈ story.numbers :=
  Links.final_mem _ _

/-- One more outcome is offered to the first promise. -/
def offer (story : Story ω κ ε α) (outcome : Outcome ε (Payload ε α)) : Story ω κ ε α :=
  { story with offers := story.offers ++ [outcome] }

/-- A completer of the first promise is dropped. The last one offers the error of a broken
promise. -/
def drop (story : Story ω κ ε α) (desk : Desk ω κ ε α) : Story ω κ ε α :=
  if (desk.shared story.first).completers = 1 then story.offer (.error .abandoned) else story

/-- A poll of the promise at the end gives this answer. -/
def collect (story : Story ω κ ε α) : Exit (Option (Outcome ε (Payload ε α))) → Story ω κ ε α
  | .done (some outcome) => { story with collected := story.collected ++ [outcome] }
  | .done none | .panicked _ | .unfinished => story

/-- A bridge is made over the promise at the end. -/
def extend (story : Story ω κ ε α) (type : FailureType ω κ ε) (output : Nat) : Story ω κ ε α :=
  { story with
    links := story.links ++ [(type, output)]
    collected := []
    whole := story.whole && story.collected.isEmpty }

end Story

/-- The steps at a desk that tell a story. A step that is left unfinished has no story after it, and
one that panics has.

A completer of the first promise may be used at the desk, as `Desk.settle` and `Desk.dropCompleter`
do, or by a listener of some promise elsewhere, with less room for further listeners. -/
inductive Tells : Story ω κ ε α → Desk ω κ ε α × World ω κ → Prop
  /-- The first promise is made with a completer. -/
  | create (desk : Desk ω κ ε α) (world : World ω κ) :
    Tells ⟨desk.promises.length, [], [], [], true⟩ (Desk.addPromise (desk, world)).2
  /-- The first promise is settled from the start. -/
  | settled (outcome : Outcome ε (Payload ε α)) (desk : Desk ω κ ε α) (world : World ω κ) :
    Tells ⟨desk.promises.length, [], [outcome, .error .abandoned], [], true⟩
      (Desk.settled outcome (desk, world)).2
  /-- A completer settles the first promise, or comes too late. -/
  | settle {story : Story ω κ ε α} {desk : Desk ω κ ε α} {world : World ω κ} (room : Nat)
      (outcome : Outcome ε (Payload ε α)) : Tells story (desk, world) →
    (Desk.settleWith (Desk.notify room) story.first outcome (desk, world)).1 ≠ .unfinished →
    Tells (story.offer outcome)
      (Desk.settleWith (Desk.notify room) story.first outcome (desk, world)).2
  /-- A completer of the first promise is cloned. -/
  | clone {story : Story ω κ ε α} {desk : Desk ω κ ε α} {world : World ω κ} :
    Tells story (desk, world) →
    Tells story (Desk.atShared story.first Shared.retain (desk, world)).2
  /-- A completer of the first promise is dropped. -/
  | drop {story : Story ω κ ε α} {desk : Desk ω κ ε α} {world : World ω κ} (room : Nat) :
    Tells story (desk, world) →
    (Desk.dropWith (Desk.notify room) story.first (desk, world)).1 ≠ .unfinished →
    Tells (story.drop desk) (Desk.dropWith (Desk.notify room) story.first (desk, world)).2
  /-- The promise at the end is polled. -/
  | poll {story : Story ω κ ε α} {desk : Desk ω κ ε α} {world : World ω κ}
      (waker : Run ω κ Unit) : Tells story (desk, world) →
    Tells (story.collect (Desk.poll story.final waker (desk, world)).1)
      (Desk.poll story.final waker (desk, world)).2
  /-- A bridge is made over the promise at the end. -/
  | bridge {story : Story ω κ ε α} {desk : Desk ω κ ε α} {world : World ω κ}
      (type : FailureType ω κ ε) : Tells story (desk, world) →
    (Desk.bridge type story.final (desk, world)).1 ≠ .unfinished →
    Tells (story.extend type desk.promises.length)
      (Desk.bridge type story.final (desk, world)).2
  /-- Anything else happens that leaves the promises of the chain alone. -/
  | elsewhere {story : Story ω κ ε α} {desk after : Desk ω κ ε α} {world : World ω κ}
      (later : World ω κ) : Tells story (desk, world) →
    (∀ number ∈ story.numbers, after.shared number = desk.shared number) →
    desk.promises.length ≤ after.promises.length → Tells story (after, later)

namespace Story

/-- Nothing has been offered to the first promise, and the chain waits for it. -/
structure Open (story : Story ω κ ε α) (desk : Desk ω κ ε α) : Prop where
  offers : story.offers = []
  collected : story.collected = []
  whole : story.whole = true
  waiting : desk.Waiting story.first story.links

/-- The first outcome offered has passed through the chain. What has come out at the end is kept
there, or has been taken by a poll. -/
structure Closed (story : Story ω κ ε α) (desk : Desk ω κ ε α)
    (winner result : Outcome ε (Payload ε α)) (last : DeskCell ω κ ε α) : Prop where
  offers : story.offers.head? = some winner
  relayed : story.whole = true → Relayed story.links.types winner result
  passed : desk.Passed last story.first story.links
  last : last = .ready result ∧ story.collected = [] ∨ last = .taken ∧ story.collected = [result]

/-- The invariant of a story: its promises are on the desk, each of them once, and the chain is
either open or closed. -/
structure Holds (story : Story ω κ ε α) (desk : Desk ω κ ε α) : Prop where
  nodup : story.numbers.Nodup
  placed : ∀ number ∈ story.numbers, number < desk.promises.length
  shape : story.Open desk ∨ ∃ winner result last, story.Closed desk winner result last

variable {story : Story ω κ ε α} {desk after : Desk ω κ ε α}
  {winner result outcome : Outcome ε (Payload ε α)} {last : DeskCell ω κ ε α}

/-- Nobody listens to the end of an open chain. -/
theorem Open.cell (hopen : story.Open desk) : Desk.Unheard (desk.shared story.final).cell :=
  hopen.waiting.at_final

/-- A closed chain is settled from end to end. -/
theorem Closed.isSettled (hclosed : story.Closed desk winner result last) :
    ∀ number ∈ story.numbers, (desk.shared number).cell.isSettled = true := by
  refine hclosed.passed.isSettled ?_
  rcases hclosed.last with ⟨rfl, -⟩ | ⟨rfl, -⟩ <;> rfl

/-- The end of a closed chain. -/
theorem Closed.cell (hclosed : story.Closed desk winner result last) :
    (desk.shared story.final).cell = last :=
  hclosed.passed.at_final

/-- There is room for one listener of each bridge. -/
theorem Holds.room (hholds : story.Holds desk) : story.links.length ≤ desk.promises.length := by
  have hsubset : story.numbers ⊆ List.range desk.promises.length := fun number hnumber =>
    List.mem_range.2 (hholds.placed number hnumber)
  have hle := (hholds.nodup.subperm hsubset).length_le
  simp only [numbers, Links.outputs, List.length_cons, List.length_map, List.length_range] at hle
  omega

/-- Steps that leave the cells of the chain and the completers of its outputs alone change nothing
in its story. -/
theorem Holds.congr (hholds : story.Holds desk)
    (hcells : ∀ number ∈ story.numbers, (after.shared number).cell = (desk.shared number).cell)
    (hcompleters : ∀ number ∈ story.links.outputs,
      (after.shared number).completers = (desk.shared number).completers)
    (hsize : desk.promises.length ≤ after.promises.length) : story.Holds after where
  nodup := hholds.nodup
  placed := fun number hnumber => Nat.lt_of_lt_of_le (hholds.placed number hnumber) hsize
  shape := by
    rcases hholds.shape with hopen | ⟨winner, result, last, hclosed⟩
    · exact .inl { hopen with waiting := hopen.waiting.congr hcells hcompleters }
    · exact .inr ⟨winner, result, last,
        { hclosed with passed := hclosed.passed.congr hcells hcompleters }⟩

/-- The first promise is not an output. -/
theorem Holds.first_ne (hholds : story.Holds desk) {number : Nat}
    (hnumber : number ∈ story.links.outputs) : number ≠ story.first := by
  intro hsame
  exact (List.nodup_cons.1 hholds.nodup).1 (hsame ▸ hnumber)

/-- Completers of the first promise come and go without a change in the story. -/
theorem Holds.recount (hholds : story.Holds desk) (completers : Nat) :
    story.Holds (desk.put story.first { desk.shared story.first with completers }) := by
  have hfirst := hholds.placed story.first List.mem_cons_self
  refine hholds.congr (fun number hnumber => ?_) (fun number hnumber => ?_) (by simp)
  · by_cases hsame : number = story.first
    · subst hsame
      rw [Desk.shared_put hfirst]
    · rw [Desk.shared_put_of_ne hsame]
  · rw [Desk.shared_put_of_ne (hholds.first_ne hnumber)]

/-- A settle of the first promise closes the chain, or comes too late. -/
theorem Holds.settleWith (hholds : story.Holds desk) (room : Nat)
    (outcome : Outcome ε (Payload ε α)) (world : World ω κ) :
    Desk.Ends (Desk.settleWith (Desk.notify room) story.first outcome (desk, world))
      (room < story.links.length ∨ desk.Stuck story.first story.links)
      (story.offer outcome).Holds := by
  rcases hholds.shape with hopen | ⟨winner, result, last, hclosed⟩
  · refine (Desk.settleWith_waiting hopen.waiting hholds.nodup room outcome world).mono id ?_
    rintro after ⟨result, hrelayed, hcascaded⟩
    refine ⟨hholds.nodup, fun number hnumber => ?_, .inr ⟨outcome, result, .ready result, ?_⟩⟩
    · rw [hcascaded.size]
      exact hholds.placed number hnumber
    · exact ⟨by simp [offer, hopen.offers], fun _ => hrelayed, hcascaded.passed,
        .inl ⟨rfl, hopen.collected⟩⟩
  · rw [Desk.settleWith_of_isSettled (hclosed.isSettled story.first List.mem_cons_self)]
    refine .inr ⟨by simp, hholds.nodup, hholds.placed, .inr ⟨winner, result, last, ?_⟩⟩
    exact { hclosed with offers := by simp [offer, hclosed.offers] }

/-- A drop of a completer of the first promise closes the chain when it is the last, and otherwise
only counts. -/
theorem Holds.dropWith (hholds : story.Holds desk) (room : Nat) (world : World ω κ) :
    Desk.Ends (Desk.dropWith (Desk.notify room) story.first (desk, world))
      (room < story.links.length ∨ desk.Stuck story.first story.links)
      (story.drop desk).Holds := by
  have hcounted := hholds.recount ((desk.shared story.first).completers - 1)
  by_cases hone : (desk.shared story.first).completers = 1
  · rw [Desk.dropWith_of_one hone, drop, if_pos hone]
    refine ((hcounted.settleWith room (.error .abandoned) world).replace ()).mono
      (Or.imp_right fun hstuck => hstuck.congr fun number hnumber => ?_) fun _ h => h
    by_cases hsame : number = story.first
    · subst hsame
      rw [Desk.shared_put (hholds.placed _ List.mem_cons_self)]
    · rw [Desk.shared_put_of_ne hsame]
  · rw [Desk.dropWith_of_ne_one hone, drop, if_neg hone]
    exact .inr ⟨by simp, hcounted⟩

/-- The end of the chain is on the desk. -/
theorem Holds.final_lt (hholds : story.Holds desk) : story.final < desk.promises.length :=
  hholds.placed _ story.final_mem

/-- It stays there when the desk grows. -/
theorem Holds.final_lt_grown (hholds : story.Holds desk) :
    story.final < desk.grown.promises.length := by
  rw [Desk.length_grown]
  exact Nat.lt_succ_of_lt hholds.final_lt

/-- The new number of an output is none of the chain's. -/
theorem Holds.ne_length (hholds : story.Holds desk) {number : Nat}
    (hnumber : number ∈ story.numbers) : number ≠ desk.promises.length :=
  Nat.ne_of_lt (hholds.placed number hnumber)

/-- What a step on the end of the chain does to the promises of the chain. -/
theorem Holds.along_of_final (hholds : story.Holds desk)
    {input : FailureType ω κ ε → Nat → DeskCell ω κ ε α} {completers : Nat}
    {former next : DeskCell ω κ ε α → Prop} {cell : DeskCell ω κ ε α}
    (halong : desk.Along input completers former story.first story.links) (hnext : next cell)
    (hother : ∀ number ∈ story.numbers, number ≠ story.final →
      after.shared number = desk.shared number)
    (hfinal : after.shared story.final = { desk.shared story.final with cell }) :
    after.Along input completers next story.first story.links := by
  refine halong.of_last hholds.nodup (fun number hnumber hne => ?_) (fun number hnumber => ?_) ?_
  · rw [hother number hnumber hne]
  · by_cases hsame : number = story.final
    · rw [hsame, hfinal]
    · rw [hother number (List.mem_cons_of_mem _ hnumber) hsame]
  · have hcell : (after.shared story.final).cell = cell := by rw [hfinal]
    exact hcell ▸ hnext

/-- A poll of the end takes an outcome that is kept there, once. -/
theorem Holds.poll (hholds : story.Holds desk) (waker : Run ω κ Unit) (world : World ω κ) :
    (story.collect (Desk.poll story.final waker (desk, world)).1).Holds
      (Desk.poll story.final waker (desk, world)).2.1 := by
  have hfinal := hholds.final_lt
  have hplaced : ∀ shared : DeskShared ω κ ε α, ∀ number ∈ story.numbers,
      number < (desk.put story.final shared).promises.length := by
    intro shared number hnumber
    rw [Desk.length_put]
    exact hholds.placed number hnumber
  rcases hholds.shape with hopen | ⟨winner, result, last, hclosed⟩
  · obtain ⟨former, hcell⟩ := hopen.cell
    rw [Desk.poll_of_pending waker hcell]
    refine ⟨hholds.nodup, hplaced _, .inl ⟨hopen.offers, hopen.collected, hopen.whole, ?_⟩⟩
    exact hholds.along_of_final hopen.waiting ⟨some waker, rfl⟩
      (fun number _ hne => Desk.shared_put_of_ne hne _) (Desk.shared_put hfinal _)
  · have hcell := hclosed.cell
    rcases hclosed.last with ⟨rfl, hcollected⟩ | ⟨rfl, hcollected⟩
    · rw [Desk.poll_of_ready waker hcell]
      refine ⟨hholds.nodup, hplaced _, .inr ⟨winner, result, .taken, hclosed.offers,
        hclosed.relayed, ?_, .inr ⟨rfl, by simp [collect, hcollected]⟩⟩⟩
      exact hholds.along_of_final hclosed.passed rfl
        (fun number _ hne => Desk.shared_put_of_ne hne _) (Desk.shared_put hfinal _)
    · rw [Desk.poll_of_taken waker hcell]
      exact hholds

/-- The promises of a longer chain. -/
theorem numbers_extend (story : Story ω κ ε α) (type : FailureType ω κ ε) (output : Nat) :
    (story.extend type output).numbers = story.numbers ++ [output] := by
  simp [numbers, Story.extend, Links.outputs]

/-- A bridge adds a promise of its own to the chain. -/
theorem Holds.extend (hholds : story.Holds desk) (type : FailureType ω κ ε)
    (hsize : after.promises.length = desk.promises.length + 1)
    (hshape : (story.extend type desk.promises.length).Open after ∨
      ∃ winner result last,
        (story.extend type desk.promises.length).Closed after winner result last) :
    (story.extend type desk.promises.length).Holds after where
  nodup := by
    rw [numbers_extend]
    refine List.nodup_append.2 ⟨hholds.nodup, by simp, ?_⟩
    intro number hnumber other hother
    rw [List.mem_singleton.1 hother]
    exact hholds.ne_length hnumber
  placed := by
    intro number hnumber
    rw [numbers_extend, List.mem_append, List.mem_singleton] at hnumber
    rcases hnumber with hnumber | rfl
    · have hlt := hholds.placed number hnumber
      omega
    · omega
  shape := hshape

/-- A bridge over an end that is still pending waits for it. -/
theorem Holds.bridge_open (hholds : story.Holds desk) (hopen : story.Open desk)
    (type : FailureType ω κ ε) :
    (story.extend type desk.promises.length).Holds
      (desk.grown.put story.final
        { desk.shared story.final with
          cell := .pending (some (.bridge type desk.promises.length)) none }) := by
  have hfinal := hholds.final_lt_grown
  have hnew : desk.promises.length ≠ story.final :=
    (hholds.ne_length story.final_mem).symm
  refine hholds.extend type (by simp) (.inl ⟨hopen.offers, rfl, ?_, ?_⟩)
  · simp [Story.extend, hopen.whole, hopen.collected]
  · refine Desk.Along.concat (hholds.along_of_final hopen.waiting rfl ?_ ?_) ?_ ?_
    · intro number hnumber hne
      rw [Desk.shared_put_of_ne hne, Desk.shared_grown_of_lt (hholds.placed number hnumber)]
    · rw [Desk.shared_put hfinal]
      rfl
    · rw [Desk.shared_put_of_ne hnew, Desk.shared_grown]
      rfl
    · rw [Desk.shared_put_of_ne hnew, Desk.shared_grown]
      exact ⟨none, rfl⟩

/-- A bridge over an end that keeps an outcome claims it. -/
theorem Holds.bridge_ready (hholds : story.Holds desk)
    (hclosed : story.Closed desk winner result (.ready result)) (hcollected : story.collected = [])
    (type : FailureType ω κ ε) (world : World ω κ) :
    Desk.Ends
      (Desk.notify (desk.promises.length + 1) (.bridge type desk.promises.length) result
        (desk.grown.put story.final { desk.shared story.final with cell := .taken }, world))
      (∃ failure world, (type.cancellation failure world).1 = .unfinished)
      (story.extend type desk.promises.length).Holds := by
  generalize htaken : desk.grown.put story.final { desk.shared story.final with cell := .taken } =
    taken
  have hfinal := hholds.final_lt_grown
  have hsize : taken.promises.length = desk.promises.length + 1 := by
    rw [← htaken, Desk.length_put, Desk.length_grown]
  have hnew : taken.shared desk.promises.length = .fresh := by
    rw [← htaken, Desk.shared_put_of_ne (hholds.ne_length story.final_mem).symm,
      Desk.shared_grown]
  have hpassed : taken.Passed .taken story.first story.links := by
    refine hholds.along_of_final hclosed.passed rfl (fun number hnumber hne => ?_) ?_
    · rw [← htaken, Desk.shared_put_of_ne hne,
        Desk.shared_grown_of_lt (hholds.placed number hnumber)]
    · rw [← htaken, Desk.shared_put hfinal]
  refine (Desk.notify_bridge_of_fresh hnew result world).mono id ?_
  rintro after ⟨claimed, hrelayed, hbridged⟩
  have hsame : ∀ number ∈ story.numbers, after.shared number = taken.shared number :=
    fun number hnumber => hbridged.others number
      (by simpa [Links.outputs] using hholds.ne_length hnumber)
  refine hholds.extend type (hbridged.size.trans hsize)
    (.inr ⟨winner, claimed, .ready claimed, hclosed.offers, fun hwhole => ?_, ?_,
      .inl ⟨rfl, rfl⟩⟩)
  · simp only [Story.extend, hcollected, List.isEmpty_nil, Bool.and_true] at hwhole
    simpa [Story.extend, Links.types] using (hclosed.relayed hwhole).append hrelayed
  · refine Desk.Along.concat (hpassed.congr (fun number hnumber => ?_) fun number hnumber => ?_)
      hbridged.counter hbridged.passed
    · rw [hsame number hnumber]
    · rw [hsame number (List.mem_cons_of_mem _ hnumber)]

/-- A bridge over an end whose outcome is gone fails its output. -/
theorem Holds.bridge_taken (hholds : story.Holds desk)
    (hclosed : story.Closed desk winner result .taken) (hcollected : story.collected = [result])
    (type : FailureType ω κ ε) :
    (story.extend type desk.promises.length).Holds
      (desk.grown.put desk.promises.length ⟨.ready (.error .abandoned), 0⟩) := by
  have hnew : desk.promises.length < desk.grown.promises.length := by simp
  have hsame : ∀ number ∈ story.numbers,
      (desk.grown.put desk.promises.length ⟨.ready (.error .abandoned), 0⟩).shared number =
        desk.shared number := by
    intro number hnumber
    rw [Desk.shared_put_of_ne (hholds.ne_length hnumber),
      Desk.shared_grown_of_lt (hholds.placed number hnumber)]
  refine hholds.extend type (by simp)
    (.inr ⟨winner, .error .abandoned, .ready (.error .abandoned), hclosed.offers,
      fun hwhole => ?_, ?_, .inl ⟨rfl, rfl⟩⟩)
  · simp [Story.extend, hcollected] at hwhole
  · refine Desk.Along.concat (hclosed.passed.congr (fun number hnumber => ?_)
      fun number hnumber => ?_) ?_ ?_
    · rw [hsame number hnumber]
    · rw [hsame number (List.mem_cons_of_mem _ hnumber)]
    · rw [Desk.shared_put hnew]
    · rw [Desk.shared_put hnew]

/-- A bridge over the end of a chain keeps its story, whether the end is pending, keeps an outcome
or has handed it out. -/
theorem Holds.bridge (hholds : story.Holds desk) (type : FailureType ω κ ε) (world : World ω κ) :
    Desk.Ends (Desk.bridge type story.final (desk, world))
      (∃ failure world, (type.cancellation failure world).1 = .unfinished)
      (story.extend type desk.promises.length).Holds := by
  rcases hholds.shape with hopen | ⟨winner, result, last, hclosed⟩
  · obtain ⟨former, hcell⟩ := hopen.cell
    rw [Desk.bridge_of_pending type hholds.final_lt hcell]
    exact .inr ⟨by simp, hholds.bridge_open hopen type⟩
  · have hcell := hclosed.cell
    rcases hclosed.last with ⟨rfl, hcollected⟩ | ⟨rfl, hcollected⟩
    · rw [Desk.bridge_of_ready type hholds.final_lt hcell]
      exact (hholds.bridge_ready hclosed hcollected type world).replace _
    · rw [Desk.bridge_of_taken type hholds.final_lt hcell]
      exact .inr ⟨by simp, hholds.bridge_taken hclosed hcollected type⟩

/-- A new promise starts a story. -/
theorem holds_create (desk : Desk ω κ ε α) :
    (⟨desk.promises.length, [], [], [], true⟩ : Story ω κ ε α).Holds desk.grown := by
  refine ⟨by simp [numbers, Links.outputs], by simp [numbers, Links.outputs],
    .inl ⟨rfl, rfl, rfl, none, ?_⟩⟩
  rw [Desk.shared_grown]
  rfl

/-- A promise that is settled from the start starts a story. -/
theorem holds_settled (outcome : Outcome ε (Payload ε α)) (desk : Desk ω κ ε α) :
    (⟨desk.promises.length, [], [outcome, .error .abandoned], [], true⟩ : Story ω κ ε α).Holds
      (desk.grown.put desk.promises.length ⟨.ready outcome, 0⟩) := by
  refine ⟨by simp [numbers, Links.outputs], by simp [numbers, Links.outputs],
    .inr ⟨outcome, outcome, .ready outcome, rfl, fun _ => .nil outcome, ?_, .inl ⟨rfl, rfl⟩⟩⟩
  simp [Desk.Passed, Desk.Along]

/-- What the story of a chain comes to, whatever the order of its steps. -/
structure TimingFree (story : Story ω κ ε α) (desk : Desk ω κ ε α) (world : World ω κ) : Prop where
  /-- Neighbours in the chain are pending together. -/
  together : ∀ (position : Nat) (hposition : position + 1 < story.numbers.length),
    (desk.shared story.numbers[position]).cell.isSettled =
      (desk.shared story.numbers[position + 1]).cell.isSettled
  /-- The first promise is settled when something has been offered to it. -/
  settled : (desk.shared story.first).cell.isSettled = true ↔ story.offers ≠ []
  /-- When no outcome was polled away from under a bridge, what has come out at the end is what the
  types make of the first outcome offered, once. When their look-ups depend on the failure alone, it
  is what they make of it at any other time. -/
  outcome : story.whole = true → ∀ winner, story.offers.head? = some winner →
    ∃ result, Relayed story.links.types winner result ∧
      ((desk.shared story.final).cell = .ready result ∧ story.collected = [] ∨
        (desk.shared story.final).cell = .taken ∧ story.collected = [result]) ∧
      ((∀ type ∈ story.links.types, type.Steady) →
        ∀ later, (relay story.links.types winner later).1 = .done result)
  /-- A bridge over an outcome that was polled away is not left pending. -/
  broken : story.collected ≠ [] → ∀ type, ∃ after,
    Desk.bridge type story.final (desk, world) = (.done desk.promises.length, after, world) ∧
      after.shared desk.promises.length = ⟨.ready (.error .abandoned), 0⟩
  /-- Every step comes to its end, unless a callback of the client does not. -/
  ends : ¬desk.Stuck story.first story.links →
    (∀ outcome, (Desk.settle story.first outcome (desk, world)).1 ≠ .unfinished) ∧
      (Desk.dropCompleter story.first (desk, world)).1 ≠ .unfinished ∧
        ∀ type : FailureType ω κ ε,
          (∀ failure later, (type.cancellation failure later).1 ≠ .unfinished) →
            (Desk.bridge type story.final (desk, world)).1 ≠ .unfinished

/-- All promises of a chain are in the state of the first. -/
theorem Holds.isSettled_iff (hholds : story.Holds desk) {number : Nat}
    (hnumber : number ∈ story.numbers) :
    (desk.shared number).cell.isSettled = true ↔ story.offers ≠ [] := by
  rcases hholds.shape with hopen | ⟨winner, result, last, hclosed⟩
  · rw [hopen.waiting.isSettled number hnumber, hopen.offers]
    simp
  · rw [hclosed.isSettled number hnumber]
    refine ⟨fun _ hnone => ?_, fun _ => rfl⟩
    have hoffers := hclosed.offers
    rw [hnone] at hoffers
    cases hoffers

/-- Once something has been polled from the end, the end is taken. -/
theorem Holds.cell_of_collected (hholds : story.Holds desk) (hcollected : story.collected ≠ []) :
    (desk.shared story.final).cell = .taken := by
  rcases hholds.shape with hopen | ⟨winner, result, last, hclosed⟩
  · exact absurd hopen.collected hcollected
  · rcases hclosed.last with ⟨-, hnone⟩ | ⟨rfl, -⟩
    · exact absurd hnone hcollected
    · exact hclosed.cell

end Story

namespace Tells

variable {story : Story ω κ ε α} {desk : Desk ω κ ε α} {world : World ω κ}

/-- The invariant holds throughout a story. -/
theorem holds {state : Desk ω κ ε α × World ω κ} (htells : Tells story state) :
    story.Holds state.1 := by
  induction htells with
  | create desk world => exact Story.holds_create desk
  | settled outcome desk world =>
    rw [Desk.settled_apply]
    exact Story.holds_settled outcome desk
  | settle room outcome _ hends ih =>
    exact ((ih.settleWith room outcome _).resolve_left fun h => hends h.1).2
  | clone _ ih => exact ih.recount _
  | drop room _ hends ih => exact ((ih.dropWith room _).resolve_left fun h => hends h.1).2
  | poll waker _ ih => exact ih.poll waker _
  | bridge type _ hends ih => exact ((ih.bridge type _).resolve_left fun h => hends h.1).2
  | elsewhere later _ hsame hsize ih =>
    refine ih.congr (fun number hnumber => ?_) (fun number hnumber => ?_) hsize
    · rw [hsame number hnumber]
    · rw [hsame number (List.mem_cons_of_mem _ hnumber)]

/-- The bridges of a chain may be made before or after its first promise is settled, in any order
with the steps of its completers: the promises of the chain are settled together, and what comes out
at the end is the same. -/
theorem timingFree (htells : Tells story (desk, world)) : story.TimingFree desk world := by
  have hholds : story.Holds desk := htells.holds
  refine ⟨?together, hholds.isSettled_iff List.mem_cons_self, ?outcome, ?broken, ?ends⟩
  case together =>
    intro position hposition
    rw [Bool.eq_iff_iff, hholds.isSettled_iff (List.getElem_mem _),
      hholds.isSettled_iff (List.getElem_mem _)]
  case outcome =>
    intro hwhole winner hwinner
    rcases hholds.shape with hopen | ⟨first, result, last, hclosed⟩
    · rw [hopen.offers] at hwinner
      cases hwinner
    · obtain rfl : first = winner := Option.some.inj (hclosed.offers.symm.trans hwinner)
      have hrelayed := hclosed.relayed hwhole
      refine ⟨result, hrelayed, ?_, fun hsteady later => hrelayed.relay_eq hsteady later⟩
      rw [hclosed.cell]
      exact hclosed.last
  case broken =>
    intro hcollected type
    have hcell := hholds.cell_of_collected hcollected
    refine ⟨_, Desk.bridge_of_taken type hholds.final_lt hcell, ?_⟩
    exact Desk.shared_put (by simp) _
  case ends =>
    intro hfree
    refine ⟨fun outcome => ?_, ?_, fun type hlookup => ?_⟩
    · rcases hholds.settleWith desk.promises.length outcome world with ⟨-, hstuck⟩ | ⟨hends, -⟩
      · exact absurd hstuck (not_or.2 ⟨Nat.not_lt.2 hholds.room, hfree⟩)
      · exact hends
    · rcases hholds.dropWith desk.promises.length world with ⟨-, hstuck⟩ | ⟨hends, -⟩
      · exact absurd hstuck (not_or.2 ⟨Nat.not_lt.2 hholds.room, hfree⟩)
      · exact hends
    · rcases hholds.bridge type world with ⟨-, failure, later, hstuck⟩ | ⟨hends, -⟩
      · exact absurd hstuck (hlookup failure later)
      · exact hends

/-- One bridge is made before the first promise fails with a failure under a layer, and one after:
the failure has come out at the end, and a poll takes it. -/
theorem timingFree_of_lamps :
    ∃ (story : Story Unit Unit Bool Nat) (desk : Desk Unit Unit Bool Nat)
      (world : World Unit Unit),
      Tells story (desk, world) ∧ story.links.outputs = [1, 2] ∧
        story.collected = [.ok (.value (.failure true))] ∧ story.TimingFree desk world := by
  have hnew := Tells.create (Desk.empty : Desk Unit Unit Bool Nat) ⟨fun _ => false, #[], ()⟩
  have hearly := hnew.bridge FailureType.lamps (by decide)
  have hfails := hearly.settle 2 (.error (.layer (.leaf true))) (by decide)
  have hlate := hfails.bridge FailureType.lamps (by decide)
  have hpolled := hlate.poll (pure ())
  exact ⟨_, _, _, hpolled, rfl, rfl, hpolled.timingFree⟩

end Tells

end Deferral
