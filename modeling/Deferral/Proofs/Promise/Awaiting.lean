import Deferral.Proofs.Promise.Relay
import Deferral.Proofs.Promise.Schedules
import Deferral.Proofs.Promise.Verdict
import Deferral.Proofs.Tokens.Bridging

/-!
# Two ways to await a bridged promise

A promise can be awaited through a bridge, whose output is polled, or by itself, with the outcome
claimed by the poll that finds it. A bridge claims when the promise is settled, inside the settle;
the other way claims later. Between the two anything may happen that leaves the promise alone and
writes no token that claiming writes.

Along one schedule the two ways come to the same outcome, leave the same tokens cancelled and log
the same notices.
-/

namespace Deferral

variable {ω κ ν ε α : Type}

namespace Desk

/-- A waker that may be kept is idle. -/
def Drowsy (view : World ω κ → ν) (waker : Option (Run ω κ Unit)) : Prop :=
  ∀ kept, waker = some kept → kept.Idle view

/-- The promise has not been listened to, and its outcome has not been taken. -/
def Untaken (view : World ω κ → ν) (cell : DeskCell ω κ ε α) : Prop :=
  (∃ waker, cell = .pending none waker ∧ Drowsy view waker) ∨ ∃ outcome, cell = .ready outcome

variable {desk : Desk ω κ ε α} {world : World ω κ} {number input output count room : Nat}
  {outcome winner : Outcome ε (Payload ε α)} {waker : Option (Run ω κ Unit)}
  {type : FailureType ω κ ε} {view : World ω κ → ν} {shown : ε → ν → Exit (Option Token) × Effect}
  {seen : ν}

/-- A pending promise is on the desk. -/
theorem lt_of_pending {listener : Option (Listener ω κ ε α)}
    (h : desk.shared number = ⟨.pending listener waker, count⟩) : number < desk.promises.length :=
  lt_of_not_isSettled (by rw [h]; rfl)

/-! ### Settling -/

/-- What a waker does, if there is one. -/
def woken (waker : Option (Run ω κ Unit)) : Run ω κ Unit := waker.getD (pure ())

/-- To wake whoever waits is idle when every waker that may be kept is. -/
theorem woken_idle (hidle : Drowsy view waker) : (woken waker).Idle view := by
  cases waker with
  | none => exact ⟨fun world => .refl world, fun _ => rfl⟩
  | some kept => exact hidle kept rfl

/-- Nobody listens: the promise keeps the outcome, and the waker is woken. -/
theorem settleWith_kept {notify : Notify ω κ ε α}
    (h : desk.shared number = ⟨.pending none waker, count⟩) :
    (settleWith notify number outcome (desk, world)).2 =
      (desk.put number ⟨.ready outcome, count⟩, (woken waker world).2) := by
  rw [settleWith_of_unheard waker (by rw [h]), h]
  exact Act.after_bind_pure (woken waker).beside (fun _ => true) _

/-- A bridge that has claimed an outcome leaves what it claimed in its output, wakes whoever waits
there, and drops its completer, also when the waker panics. -/
theorem notify_bridge_kept {claimed : Outcome ε (Deferred ε (Payload ε α))} {later : World ω κ}
    (houtput : desk.shared output = ⟨.pending none waker, 1⟩)
    (hclaim : type.claim outcome world = (.done claimed, later))
    (hends : (notify (room + 1) (.bridge type output) outcome (desk, world)).1 ≠ .unfinished) :
    (notify (room + 1) (.bridge type output) outcome (desk, world)).2 =
      (desk.put output ⟨.ready (claimed.map .ofDeferred), 0⟩, (woken waker later).2) := by
  have hplaced : output < desk.promises.length := lt_of_pending houtput
  have hkept : (settleWith (notify room) output (claimed.map .ofDeferred) (desk, later)).2 =
      (desk.put output ⟨.ready (claimed.map .ofDeferred), 1⟩, (woken waker later).2) :=
    settleWith_kept houtput
  have hdrop : ∀ place, dropWith (notify room) output
      (desk.put output ⟨.ready (claimed.map .ofDeferred), 1⟩, place) =
        (.done (), desk.put output ⟨.ready (claimed.map .ofDeferred), 0⟩, place) := by
    intro place
    rw [dropWith_of_isSettled (by rw [shared_put hplaced]; rfl) (by rwa [length_put]),
      shared_put hplaced, put_put]
    rfl
  rw [notify_bridge_of_done hclaim, andFinally_apply, Act.bind_apply] at hends ⊢
  rcases hsettle : settleWith (notify room) output (claimed.map .ofDeferred) (desk, later) with
    ⟨_ | alarm | _, after⟩
  all_goals
    rw [hsettle] at hends hkept
    obtain rfl := hkept
  case unfinished => exact absurd rfl hends
  all_goals simp only [Act.pure_apply, Act.bind_apply, hdrop, Act.panic]

/-- A bridge listens: it claims the outcome, and its output keeps what was claimed. -/
theorem settleWith_bridged (hinput : desk.shared input = ⟨awaitedBy type output, count⟩)
    (houtput : desk.shared output = ⟨.pending none waker, 1⟩) (hne : output ≠ input)
    (hends : (settleWith (notify room) input outcome (desk, world)).1 ≠ .unfinished) :
    ∃ claimed later, type.claim outcome world = (.done claimed, later) ∧
      (settleWith (notify room) input outcome (desk, world)).2 =
        ((desk.put input ⟨.taken, count⟩).put output ⟨.ready (claimed.map .ofDeferred), 0⟩,
          (woken waker later).2) := by
  rw [settleWith_of_heard (by rw [hinput]; rfl), hinput] at hends ⊢
  rw [Act.after_bind_pure _ (fun _ => true)]
  have hnotifies : (notify room (.bridge type output) outcome
      (desk.put input ⟨.taken, count⟩, world)).1 ≠ .unfinished :=
    fun hstuck => hends (by rw [Act.bind_of_unfinished (Prod.ext hstuck rfl)])
  cases room with
  | zero => exact absurd rfl hnotifies
  | succ room =>
    rcases type.claim_returns outcome world with ⟨claimed, hclaim⟩ | ⟨hclaim, -⟩
    · refine ⟨claimed, _, Prod.ext hclaim rfl, ?_⟩
      refine notify_bridge_kept ?_ (Prod.ext hclaim rfl) hnotifies
      rw [shared_put_of_ne hne, houtput]
    · exact absurd (congrArg Prod.fst (notify_bridge_of_unfinished (Prod.ext hclaim rfl))) hnotifies

/-- A poll that claims at once comes to what it claims of the outcome that it finds. -/
theorem pollClaimed_of_claim {claimed : Outcome ε (Deferred ε (Payload ε α))} {later : World ω κ}
    (waker : Run ω κ Unit) (h : (desk.shared number).cell = .ready outcome)
    (hclaim : type.claim outcome world = (.done claimed, later)) :
    pollClaimed type number waker (desk, world) =
      (.done (some (claimed.map .ofDeferred)),
        desk.put number { desk.shared number with cell := .taken }, later) := by
  rw [pollClaimed, Act.bind_of_done (poll_of_ready waker h)]
  exact Act.bind_of_done (Act.beside_eq hclaim _) _

/-! ### The two ways -/

/-- How a promise stands that is awaited through a bridge. Once it is settled, the output has what
claiming the outcome comes to. -/
def BridgeStands (type : FailureType ω κ ε) (shown : ε → ν → Exit (Option Token) × Effect)
    (view : World ω κ → ν) (seen : ν) (input output : Nat) :
    Standing ε α → Desk ω κ ε α × World ω κ → Prop
  | .pending count, (desk, world) =>
    desk.shared input = ⟨awaitedBy type output, count⟩ ∧
      (∃ waker, desk.shared output = ⟨.pending none waker, 1⟩ ∧ Drowsy view waker) ∧
        view world = seen
  | .settled winner, (desk, _) =>
    input < desk.promises.length ∧ (desk.shared input).cell = .taken ∧
      ∃ claimed, (type.verdict shown seen winner).1 = .done claimed ∧
        (desk.shared output).cell = .ready (claimed.map .ofDeferred)

/-- How a promise stands that is awaited by itself. Once it is settled, it has the outcome. -/
def DirectStands (view : World ω κ → ν) (seen : ν) (input : Nat) :
    Standing ε α → Desk ω κ ε α × World ω κ → Prop
  | .pending count, (desk, world) =>
    (∃ waker, desk.shared input = ⟨.pending none waker, count⟩ ∧ Drowsy view waker) ∧
      view world = seen
  | .settled winner, (desk, world) =>
    input < desk.promises.length ∧ (desk.shared input).cell = .ready winner ∧ view world = seen

/-- To await a promise by itself, and then to do something with the outcome that comes to an answer,
is a way to await it. Settling the promise has no effect of its own. -/
theorem directWay (view : World ω κ → ν) (seen : ν) (input : Nat)
    (next : Option (Outcome ε (Payload ε α)) →
      DeskRun ω κ ε α (Option (Outcome ε (Payload ε α))))
    (hpending : next none = pure none)
    (hanswers : ∀ outcome state, (next (some outcome) state).1 ≠ .done none) :
    Way view input [input] (fun waker => poll input waker >>= next)
      (DirectStands view seen input : Standing ε α → Desk ω κ ε α × World ω κ → Prop)
      fun _ => .nothing where
  completers := by
    rintro count state ⟨⟨waker, hinput, -⟩, -⟩
    rw [hinput]
  isSettled := by
    rintro winner state ⟨-, hinput, -⟩
    rw [hinput]
    rfl
  placed := by
    rintro (count | winner) state hstands
    · obtain ⟨⟨waker, hinput, -⟩, -⟩ := hstands
      exact lt_of_pending hinput
    · exact hstands.1
  recount := by
    rintro (_ | winner) desk world hstands count
    · obtain ⟨⟨waker, hinput, hidle⟩, hseen⟩ := hstands
      have hplaced : input < desk.promises.length := lt_of_pending hinput
      exact ⟨⟨waker, by rw [shared_put hplaced, hinput], hidle⟩, hseen⟩
    · obtain ⟨hplaced, hinput, hseen⟩ := hstands
      exact ⟨by rwa [length_put], by rw [shared_put hplaced, hinput], hseen⟩
  settle := by
    rintro count ⟨desk, world⟩ ⟨⟨waker, hinput, hidle⟩, hseen⟩ room outcome -
    have hplaced : input < desk.promises.length := lt_of_pending hinput
    have hwoken := woken_idle hidle
    rw [settleWith_kept hinput]
    exact ⟨⟨by rwa [length_put], by rw [shared_put hplaced], (hwoken.view world).trans hseen⟩,
      hwoken.turns world⟩
  poll := by
    rintro count ⟨desk, world⟩ ⟨⟨former, hinput, -⟩, hseen⟩ waker hidle
    have hplaced : input < desk.promises.length := lt_of_pending hinput
    rw [Act.bind_of_done (poll_of_pending waker (by rw [hinput])), hpending]
    refine ⟨⟨⟨some waker, by rw [shared_put hplaced, hinput], ?_⟩, hseen⟩, rfl⟩
    rintro _ ⟨⟩
    exact hidle
  answers := by
    rintro winner ⟨desk, world⟩ ⟨-, hinput, -⟩ waker hnone
    rw [Act.bind_of_done (poll_of_ready waker hinput)] at hnone
    exact hanswers winner _ hnone
  elsewhere := by
    rintro (count | winner) state after effect hstands hothers
    · obtain ⟨⟨waker, hinput, hidle⟩, hseen⟩ := hstands
      exact ⟨⟨waker, by rw [hothers.kept input (by simp), hinput], hidle⟩, hothers.view.trans hseen⟩
    · obtain ⟨hplaced, hinput, hseen⟩ := hstands
      exact ⟨Nat.lt_of_lt_of_le hplaced hothers.size, by rw [hothers.kept input (by simp), hinput],
        hothers.view.trans hseen⟩

/-- To poll a promise is a way to await it. -/
theorem pollWay (view : World ω κ → ν) (seen : ν) (input : Nat) :
    Way view input [input] (poll input)
      (DirectStands view seen input : Standing ε α → Desk ω κ ε α × World ω κ → Prop)
      fun _ => .nothing := by
  have hanswers : ∀ (outcome : Outcome ε (Payload ε α)) (state : Desk ω κ ε α × World ω κ),
      ((pure (some outcome) : DeskRun ω κ ε α _) state).1 ≠ .done none := by
    intro outcome state hnone
    cases hnone
  have hway := directWay view seen input pure rfl hanswers
  simpa only [bind_pure] using hway

/-- To poll a promise and claim its outcome at once is a way to await it. -/
theorem pollClaimedWay (type : FailureType ω κ ε) (view : World ω κ → ν) (seen : ν) (input : Nat) :
    Way view input [input] (pollClaimed type input)
      (DirectStands view seen input : Standing ε α → Desk ω κ ε α × World ω κ → Prop)
      fun _ => .nothing := by
  refine directWay view seen input _ rfl fun outcome state hnone => ?_
  obtain ⟨claimed, later, -, hpure⟩ := Act.done_of_bind (Prod.ext hnone rfl)
  cases hpure

/-- To await the output of a bridge is a way to await its input, and settling the input has the
effect of claiming. -/
theorem bridgeWay (hshows : type.Shows view shown) (seen : ν) (hne : output ≠ input) :
    Way view input [input, output] (poll output)
      (BridgeStands type shown view seen input output :
        Standing ε α → Desk ω κ ε α × World ω κ → Prop)
      fun outcome => (type.verdict shown seen outcome).2 where
  completers := by
    rintro count state ⟨hinput, -⟩
    rw [hinput]
  isSettled := by
    rintro winner state ⟨-, hinput, -⟩
    rw [hinput]
    rfl
  placed := by
    rintro (count | winner) state hstands
    · exact lt_of_pending hstands.1
    · exact hstands.1
  recount := by
    rintro (_ | winner) desk world hstands count
    · obtain ⟨hinput, houtput, hseen⟩ := hstands
      have hplaced : input < desk.promises.length := lt_of_pending hinput
      exact ⟨by rw [shared_put hplaced, hinput], by rwa [shared_put_of_ne hne], hseen⟩
    · obtain ⟨hplaced, hinput, houtput⟩ := hstands
      exact ⟨by rwa [length_put], by rw [shared_put hplaced, hinput],
        by rwa [shared_put_of_ne hne]⟩
  settle := by
    rintro count ⟨desk, world⟩ ⟨hinput, ⟨waker, houtput, hidle⟩, rfl⟩ room outcome hends
    obtain ⟨claimed, later, hclaim, hafter⟩ := settleWith_bridged hinput houtput hne hends
    obtain ⟨hexit, hturns⟩ := hshows.claim outcome world
    rw [hclaim] at hexit hturns
    have hplaced : input < desk.promises.length := lt_of_pending hinput
    have hreceiver : output < desk.promises.length := lt_of_pending houtput
    rw [hafter]
    refine ⟨⟨by rwa [length_put, length_put], ?_, claimed, hexit.symm, ?_⟩, ?_⟩
    · rw [shared_put_of_ne hne.symm, shared_put hplaced]
    · rw [shared_put (by rwa [length_put])]
    · have hall := hturns.andThen ((woken_idle hidle).turns later)
      rwa [Effect.andThen_nothing] at hall
  poll := by
    rintro count ⟨desk, world⟩ ⟨hinput, ⟨former, houtput, -⟩, hseen⟩ waker hidle
    have hreceiver : output < desk.promises.length := lt_of_pending houtput
    rw [poll_of_pending waker (by rw [houtput])]
    refine ⟨⟨by rw [shared_put_of_ne hne.symm, hinput],
      ⟨some waker, by rw [shared_put hreceiver, houtput], ?_⟩, hseen⟩, rfl⟩
    rintro _ ⟨⟩
    exact hidle
  answers := by
    rintro winner ⟨desk, world⟩ ⟨-, -, claimed, -, houtput⟩ waker hnone
    rw [poll_of_ready waker houtput] at hnone
    cases hnone
  elsewhere := by
    rintro (count | winner) state after effect hstands hothers
    · obtain ⟨hinput, houtput, hseen⟩ := hstands
      exact ⟨by rw [hothers.kept input (by simp), hinput],
        by rwa [hothers.kept output (by simp)], hothers.view.trans hseen⟩
    · obtain ⟨hplaced, hinput, houtput⟩ := hstands
      exact ⟨Nat.lt_of_lt_of_le hplaced hothers.size, by rw [hothers.kept input (by simp), hinput],
        by rwa [hothers.kept output (by simp)]⟩

/-! ### Bridging -/

/-- A promise that has not been taken is on the desk, pending or settled. -/
theorem directStands_of_untaken (world : World ω κ)
    (huntaken : Untaken view (desk.shared input).cell) :
    (∃ waker count, desk.shared input = ⟨.pending none waker, count⟩ ∧
      DirectStands view (view world) input (.pending count : Standing ε α) (desk, world)) ∨
    ∃ winner count, desk.shared input = ⟨.ready winner, count⟩ ∧
      DirectStands view (view world) input (.settled winner) (desk, world) := by
  have hplaced : input < desk.promises.length := by
    refine Nat.lt_of_not_le fun habsent => ?_
    rw [Desk.shared, List.getElem?_eq_none habsent] at huntaken
    rcases huntaken with ⟨waker, hcell, -⟩ | ⟨winner, hcell⟩ <;> cases hcell
  rcases hshared : desk.shared input with ⟨cell, count⟩
  rw [hshared] at huntaken
  rcases huntaken with ⟨waker, rfl, hidle⟩ | ⟨winner, rfl⟩
  · exact .inl ⟨waker, count, rfl, ⟨waker, hshared, hidle⟩, rfl⟩
  · exact .inr ⟨winner, count, rfl, hplaced, by rw [hshared], rfl⟩

/-- To bridge a pending promise does nothing that is seen. -/
theorem bridgeStands_of_pending {bridged : Desk ω κ ε α × World ω κ}
    (hstands : DirectStands view seen input (.pending count) (desk, world))
    (hbridge : bridge type input (desk, world) = (.done output, bridged)) :
    output ≠ input ∧ BridgeStands type shown view seen input output (.pending count) bridged ∧
      bridged.2 = world := by
  obtain ⟨⟨waker, hinput, -⟩, hseen⟩ := hstands
  have hplaced : input < desk.promises.length := lt_of_pending hinput
  rw [bridge_of_pending type hplaced (by rw [hinput]), hinput] at hbridge
  cases hbridge
  have hne : desk.promises.length ≠ input := Nat.ne_of_gt hplaced
  refine ⟨hne, ⟨?_, ⟨none, ?_, fun _ hkept => by cases hkept⟩, hseen⟩, rfl⟩
  · rw [shared_put (by rw [length_grown]; omega)]
    rfl
  · rw [shared_put_of_ne hne, shared_grown]
    rfl

/-- To bridge a promise that is ready claims its outcome. -/
theorem bridgeStands_of_settled {bridged : Desk ω κ ε α × World ω κ}
    (hshows : type.Shows view shown)
    (hstands : DirectStands view seen input (.settled winner) (desk, world))
    (hbridge : bridge type input (desk, world) = (.done output, bridged)) :
    output ≠ input ∧ BridgeStands type shown view seen input output (.settled winner) bridged ∧
      (type.verdict shown seen winner).2.Turns world bridged.2 := by
  obtain ⟨hplaced, hinput, rfl⟩ := hstands
  obtain ⟨hexit, hturns⟩ := hshows.claim winner world
  rcases type.claim_returns winner world with ⟨claimed, hclaim⟩ | ⟨hclaim, -⟩
  · rw [bridge_of_claim hplaced hinput (Prod.ext hclaim rfl)] at hbridge
    cases hbridge
    have hne : desk.promises.length ≠ input := Nat.ne_of_gt hplaced
    refine ⟨hne, ⟨by simp; omega, ?_, claimed, hexit ▸ hclaim, ?_⟩, hturns⟩
    · rw [shared_put_of_ne hne.symm, shared_put (by simp; omega)]
    · rw [shared_put (by simp)]
  · rw [bridge_of_unfinished hplaced hinput (Prod.ext hclaim rfl)] at hbridge
    cases hbridge

/-! ### The agreement -/

/-- Both ways to await a promise have come to `claimed`, after this settlement: `bridged` is how the
poll of the output of the bridge ends, and `direct` how the poll of the promise itself ends. -/
structure Concur (type : FailureType ω κ ε) (view : World ω κ → ν) (seen : ν)
    (settlement : Settlement ε α) (claimed : Outcome ε (Deferred ε (Payload ε α)))
    (bridged direct : Exit (Option (Outcome ε (Payload ε α))) × Desk ω κ ε α × World ω κ) :
    Prop where
  bridged_done : bridged.1 = .done (some (claimed.map .ofDeferred))
  direct_done : direct.1 = .done (some (claimed.map .ofDeferred))
  /-- It is what the outcome that counts is classified as, whenever it is. -/
  classified : ∀ world, view world = seen →
    (type.claim settlement.winner world).1 = .done claimed
  cancelled : bridged.2.2.cancelled = direct.2.2.cancelled
  notices : bridged.2.2.notices.Perm direct.2.2.notices
  /-- When others log nothing after the settlement, the order is the same as well. -/
  notices_eq : (∀ moment ∈ settlement.later, moment.effect.notices = []) →
    bridged.2.2.notices = direct.2.2.notices
  /-- The outcome that the work of a task has returned is classified. -/
  returned : ∀ outcome, settlement.moment? = some (.handOver (some outcome)) →
    ∀ world, view world = seen → (type.claim (outcome.map .plain) world).1 = .done claimed
  /-- The error of a task whose work has panicked stays as it is, and no failure is found in it. -/
  panicked : settlement.moment? = some (.handOver none) →
    claimed = .error .crashed ∧ type.depth? (.crashed : DynError ε) = none

/-- What has come of awaiting a promise in both ways: where a schedule has settled it they concur,
and otherwise both have found it pending. -/
def AwaitsAlike (type : FailureType ω κ ε) (view : World ω κ → ν) (seen : ν)
    (bridged direct : Exit (Option (Outcome ε (Payload ε α))) × Desk ω κ ε α × World ω κ) :
    Option (Settlement ε α) → Prop
  | none =>
    bridged.1 = .done none ∧ direct.1 = .done none ∧
      bridged.2.2.cancelled = direct.2.2.cancelled ∧ bridged.2.2.notices = direct.2.2.notices
  | some settlement => ∃ claimed, Concur type view seen settlement claimed bridged direct

/-- What claiming visibly does may come before or after what others do, when these write other
tokens. -/
theorem turns_swap {settlement : Settlement ε α} {spent : Effect}
    {start one middle other : World ω κ}
    (hapart : (Moment.effects settlement.later).Apart spent)
    (hone : (settlement.total spent).Turns start one)
    (hmiddle : (settlement.total .nothing).Turns start middle) (hother : spent.Turns middle other) :
    one.cancelled = other.cancelled ∧ one.notices.Perm other.notices ∧
      ((Moment.effects settlement.later).notices = [] → one.notices = other.notices) := by
  have hlast := hmiddle.andThen hother
  simp only [Settlement.total, Effect.nothing_andThen, Effect.andThen_assoc] at hone hlast
  refine ⟨?_, ?_, fun hsilent => ?_⟩
  · rw [hone.cancelled, hlast.cancelled]
    simp only [Effect.flags_andThen]
    rw [hapart.flags_comm]
  · rw [hone.notices, hlast.notices]
    simp only [Effect.notices_andThen]
    exact (List.perm_append_comm.append_left _).append_left _
  · rw [hone.notices, hlast.notices]
    simp only [Effect.notices_andThen, hsilent, List.append_nil, List.nil_append]

/-- Where both ways have found the promise settled, they concur. -/
theorem concur (settlement whole : Settlement ε α) {one other : Desk ω κ ε α × World ω κ}
    {start : World ω κ} (hshows : type.Shows view shown)
    (hwinner : whole.winner = settlement.winner) (hlater : settlement.later ⊆ whole.later)
    (htask : ∀ result, whole.moment? = some (.handOver result) →
      whole.winner = (Moment.finished result).map .plain)
    (hapart : ∀ moment ∈ whole.later,
      moment.effect.Apart (type.verdict shown seen whole.winner).2)
    (hone : BridgeStands type shown view seen input output (.settled settlement.winner) one)
    (hother : DirectStands view seen input (.settled settlement.winner) other)
    (hbridged : (settlement.total (type.verdict shown seen settlement.winner).2).Turns start one.2)
    (hdirect : (settlement.total .nothing).Turns start other.2) (first second : Run ω κ Unit) :
    ∃ claimed, Concur type view seen whole claimed (poll output first one)
      (pollClaimed type input second other) := by
  obtain ⟨desk, world⟩ := one
  obtain ⟨place, time⟩ := other
  obtain ⟨-, -, claimed, hclaimed, houtput⟩ := hone
  obtain ⟨-, hinput, hseen⟩ := hother
  have hexit : ∀ world, view world = seen → (type.claim whole.winner world).1 = .done claimed := by
    intro world hworld
    rw [hwinner, (hshows.claim settlement.winner world).1, hworld, hclaimed]
  have hdone : type.claim settlement.winner time =
      (.done claimed, (type.claim settlement.winner time).2) :=
    Prod.ext (hwinner ▸ hexit time hseen) rfl
  have hturns := (hshows.claim settlement.winner time).2
  rw [hseen] at hturns
  obtain ⟨hflags, hperm, hsilent⟩ := turns_swap
    (Moment.apart_effects fun moment hmoment => hwinner ▸ hapart moment (hlater hmoment))
    hbridged hdirect hturns
  rw [poll_of_ready first houtput, pollClaimed_of_claim second hinput hdone]
  refine ⟨claimed, rfl, rfl, hexit, hflags, hperm, fun hnone => ?_, fun outcome hmoment => ?_,
    fun hmoment => ⟨?_, rfl⟩⟩
  · exact hsilent (Moment.notices_effects fun moment hmoment => hnone moment (hlater hmoment))
  · have hreturned := htask _ hmoment
    intro world hworld
    rw [← hexit world hworld, hreturned]
    rfl
  · have hcrashed : settlement.winner = .error .crashed := hwinner ▸ htask _ hmoment
    rw [hcrashed, type.verdict_crashed] at hclaimed
    exact (Exit.done.inj hclaimed).symm

section

variable {made bridged one other : Desk ω κ ε α × World ω κ} {before after : List (Moment ε α)}

/-- The two ways concur about a promise that was settled when it was bridged. -/
theorem concur_of_settled (whole : Settlement ε α) (hshows : type.Shows view shown)
    (hstands : DirectStands view seen input (.settled whole.winner) made)
    (hbridge : bridge type input made = (.done output, bridged))
    (hone : Unfolds view input [input, output] (poll output) after bridged one)
    (hother : Unfolds view input [input] (pollClaimed type input) after made other)
    (hlater : after ⊆ whole.later)
    (htask : ∀ result, whole.moment? = some (.handOver result) →
      whole.winner = (Moment.finished result).map .plain)
    (hapart : ∀ moment ∈ whole.later,
      moment.effect.Apart (type.verdict shown seen whole.winner).2)
    (first second : Run ω κ Unit) :
    ∃ claimed, Concur type view seen whole claimed (poll output first one)
      (pollClaimed type input second other) := by
  obtain ⟨hne, hbridged, hclaims⟩ := bridgeStands_of_settled hshows hstands hbridge
  obtain ⟨hone, honeTurns⟩ := (bridgeWay hshows seen hne).late_run hbridged hone
  obtain ⟨hother, hotherTurns⟩ := (pollClaimedWay type view seen input).late_run hstands hother
  -- The bridge claims first, before the moments. The other way claims in the poll after them.
  have hbefore := hclaims.andThen honeTurns
  have hafter := (Effect.Turns.refl made.2).andThen hotherTurns
  rw [← Settlement.total_of_nil none whole.winner] at hbefore hafter
  exact concur ⟨[], none, whole.winner, after⟩ whole hshows rfl hlater htask hapart hone hother
    hbefore hafter first second

/-- The two ways concur about a promise that was pending when it was bridged, or both find it
pending. -/
theorem concur_of_pending (hshows : type.Shows view shown)
    (hstands : DirectStands view seen input (.pending count) made)
    (hbridge : bridge type input made = (.done output, bridged))
    (hone : Unfolds view input [input, output] (poll output) after bridged one)
    (hother : Unfolds view input [input] (pollClaimed type input) after made other)
    (hapart : ∀ settlement, Moment.settlement? count after = some settlement →
      ∀ moment ∈ settlement.later,
        moment.effect.Apart (type.verdict shown seen settlement.winner).2)
    (first second : Run ω κ Unit) :
    AwaitsAlike type view seen (poll output first one) (pollClaimed type input second other)
      ((Moment.settlement? count after).map (.precededBy before)) := by
  obtain ⟨hne, hbridged, hworld⟩ := bridgeStands_of_pending hstands hbridge
  have honeRun := (bridgeWay hshows seen hne).run hbridged hone
  have hotherRun := (pollClaimedWay type view seen input).run hstands hother
  cases hsettlement : Moment.settlement? count after with
  | none =>
    simp only [hsettlement] at honeRun hotherRun
    obtain ⟨⟨-, ⟨former, houtput, -⟩, -⟩, honeTurns⟩ := honeRun
    obtain ⟨⟨⟨kept, hinput, -⟩, -⟩, hotherTurns⟩ := hotherRun
    rw [hworld] at honeTurns
    rw [poll_of_pending first (by rw [houtput]), pollClaimed,
      Act.bind_of_done (poll_of_pending second (by rw [hinput]))]
    exact ⟨rfl, rfl, honeTurns.cancelled.trans hotherTurns.cancelled.symm,
      honeTurns.notices.trans hotherTurns.notices.symm⟩
  | some settlement =>
    simp only [hsettlement] at honeRun hotherRun
    rw [hworld] at honeRun
    have htask : ∀ result, settlement.moment? = some (.handOver result) →
        settlement.winner = (Moment.finished result).map .plain :=
      fun _ => Moment.winner_of_handOver hsettlement
    exact concur settlement (settlement.precededBy before) hshows rfl (List.Subset.refl _) htask
      (hapart settlement hsettlement) honeRun.1 hotherRun.1 honeRun.2 hotherRun.2 first second

/-- A promise has not been taken and is bridged after some moments. Awaited through the bridge or by
itself, along the same moments, it comes to the same: the same outcome, the same tokens and the same
notices, unless others write the tokens that claiming writes. -/
theorem awaits_agree {start : Desk ω κ ε α × World ω κ} (hshows : type.Shows view shown)
    (huntaken : Untaken view (start.1.shared input).cell)
    (hbefore : Unfolds view input [input] (poll input) before start made)
    (hbridge : bridge type input made = (.done output, bridged))
    (hone : Unfolds view input [input, output] (poll output) after bridged one)
    (hother : Unfolds view input [input] (pollClaimed type input) after made other)
    (hapart : ∀ settlement,
      (start.1.shared input).settlement? (before ++ after) = some settlement →
        ∀ moment ∈ settlement.later,
          moment.effect.Apart (type.verdict shown (view start.2) settlement.winner).2)
    (first second : Run ω κ Unit) :
    AwaitsAlike type view (view start.2) (poll output first one)
      (pollClaimed type input second other)
      ((start.1.shared input).settlement? (before ++ after)) := by
  obtain ⟨desk, world⟩ := start
  have htask : ∀ settlement, (desk.shared input).settlement? (before ++ after) = some settlement →
      ∀ result, settlement.moment? = some (.handOver result) →
        settlement.winner = (Moment.finished result).map .plain :=
    fun _ hsettlement _ => DeskShared.winner_of_handOver hsettlement
  -- A pending promise may be settled before it is bridged, or after that. One that is ready from
  -- the start is settled when it is bridged.
  rcases directStands_of_untaken world huntaken with
    ⟨former, count, hshared, hstands⟩ | ⟨winner, count, hshared, hstands⟩
  · have hmade := (pollWay view (view world) input).run hstands hbefore
    have hsettles : (desk.shared input).settlement? (before ++ after) =
      Moment.settlement? count (before ++ after) := by rw [hshared]; rfl
    rw [Moment.settlement?_append] at hsettles
    cases hsettlement : Moment.settlement? count before with
    | none =>
      simp only [hsettlement] at hmade hsettles
      simp only [hsettles] at hapart ⊢
      refine concur_of_pending hshows hmade.1 hbridge hone hother (fun settlement hlast => ?_)
        first second
      exact hapart (settlement.precededBy before) (by rw [hlast]; rfl)
    | some settlement =>
      simp only [hsettlement] at hmade hsettles
      simp only [hsettles] at hapart htask ⊢
      exact concur_of_settled (settlement.followedBy after) hshows hmade.1 hbridge hone
        hother (List.subset_append_right _ _) (htask _ rfl) (hapart _ rfl) first second
  · have hmade := (pollWay view (view world) input).late_run hstands hbefore
    have hsettles : (desk.shared input).settlement? (before ++ after) =
      some ⟨[], none, winner, before ++ after⟩ := by rw [hshared]; rfl
    simp only [hsettles] at hapart htask ⊢
    exact concur_of_settled ⟨[], none, winner, before ++ after⟩ hshows hmade.1 hbridge
      hone hother (List.subset_append_right _ _) (htask _ rfl) (hapart _ rfl) first second

end

/-- A promise is spawned and bridged. It is polled in vain, then its task fails with a failure under
a layer, and then another token is set. -/
theorem awaits_agree_of_spawn :
    ∃ (start bridged one other : Desk Unit Unit Bool Nat × World Unit Unit)
      (settlement : Settlement Bool Nat),
      settlement.moment? = some (.handOver (some (.error (.layer (.leaf true))))) ∧
        settlement.later = [.elsewhere (.cancel ⟨3⟩)] ∧
        bridge FailureType.lamps 0 start = (.done 1, bridged) ∧
        Concur FailureType.lamps (fun _ => ()) () settlement (.ok (.failure true))
          (poll 1 (pure ()) one) (pollClaimed FailureType.lamps 0 (pure ()) other) := by
  let task : Task Unit Unit Bool Nat := ⟨0, none, fun _ => pure (.error (.layer (.leaf true)))⟩
  let start : Desk Unit Unit Bool Nat × World Unit Unit :=
    (spawn none task.work (Desk.empty, ⟨fun _ => false, #[], ()⟩)).2
  have hfollows : ∀ kept ask (state : Desk Unit Unit Bool Nat × World Unit Unit),
      (ask (pure ()) state).1 = .done none →
      (runTask task (ask (pure ()) state).2).1 = .done true →
      ∃ after, Unfolds (fun _ : World Unit Unit => ()) 0 kept ask
        [.poll, .elsewhere .nothing, .handOver (some (.error (.layer (.leaf true)))),
          .elsewhere (.cancel ⟨3⟩)] state after := by
    intro kept ask state hpending hends
    have hidle : (pure () : Run Unit Unit Unit).Idle (fun _ => ()) := ⟨.refl, fun _ => rfl⟩
    have hothers : ∀ (desk : Desk Unit Unit Bool Nat) (world : World Unit Unit),
        Elsewhere (fun _ => ()) kept (.cancel ⟨3⟩) (desk, world) (desk, world.setFlag ⟨3⟩ true) :=
      fun _ world => .beside (Effect.turns_cancel world ⟨3⟩) rfl kept
    have hruns : ∃ result, task.ComesTo result ∧ Unfolds (fun _ : World Unit Unit => ()) 0 kept ask
        [.elsewhere .nothing, .handOver result] (ask (pure ()) state).2
        (runTask task (ask (pure ()) state).2).2 :=
      Unfolds.runTask rfl (rfl : taskOutcome task _ = (_, _)) (by simp) (.beside (.refl _) rfl kept)
        (by rw [hends]; simp)
    obtain ⟨result, hcomes, hrun⟩ := hruns
    obtain rfl : some (.error (.layer (.leaf true))) = result := by
      cases hcomes with
      | returned hwork => exact Exit.done.inj (congrArg Prod.fst hwork)
      | panicked hwork => cases congrArg Prod.fst hwork
    cases hrun with
    | cons hwork hrest =>
      cases hrest with
      | cons hhand hend =>
        cases hend
        exact ⟨_, .cons (.poll (pure ()) hidle hpending)
          (.cons hwork (.cons hhand (.cons (.elsewhere _ (hothers _ _)) (.nil _))))⟩
  obtain ⟨one, hone⟩ := hfollows [0, 1] (poll 1) (bridge FailureType.lamps 0 start).2 rfl rfl
  obtain ⟨other, hother⟩ := hfollows [0] (pollClaimed FailureType.lamps 0) start rfl rfl
  have hagree := awaits_agree FailureType.lamps_shows (.inl ⟨none, rfl, fun _ h => by cases h⟩)
    (.nil start) rfl hone hother ?_ (pure ()) (pure ())
  · obtain ⟨claimed, hconcur⟩ := hagree
    obtain rfl : .ok (.failure true) = claimed :=
      Exit.done.inj (hconcur.returned _ rfl start.2 rfl)
    exact ⟨start, _, one, other, _, rfl, rfl, rfl, hconcur⟩
  · rintro settlement ⟨⟩ moment hmoment token
    obtain rfl := List.mem_singleton.1 hmoment
    by_cases hthree : token = ⟨3⟩
    · subst hthree
      exact .inr rfl
    · exact .inl (if_neg hthree)

end Desk

end Deferral
