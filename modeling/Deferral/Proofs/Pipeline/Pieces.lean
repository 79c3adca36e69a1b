import Deferral.Proofs.Pipeline.Journal
import Deferral.Proofs.Pipeline.Stages

/-!
# Flat maps over at most one element

An adapter that makes at most one element of each can be written as a flat map over iterators that
have at most one element. Such a flat map keeps the iterator it has read between two calls of
`next`, so it takes other steps than the adapter. This module shows that a consumer which stops at
the first end cannot tell them apart: call by call it is given the same answers in the same worlds,
and the source has been left in the same state. So it is with `Iter.flatOption`, which keeps nothing
between two calls and only remembers an end.
-/

namespace Deferral

variable {σ τ υ α β γ : Type}

/-! ### Computations that lead each other -/

namespace Act

/-- Started in states that are related and in the same world, wherever the first computation is not
left unfinished, the second ends in the same way and in the same world, in related states again. -/
def Leads (before : τ → υ → Prop) (after : Exit α → τ → υ → Prop) (first : Act (τ × σ) α)
    (second : Act (υ × σ) α) : Prop :=
  ∀ state other world exit next last, before state other →
    first (state, world) = (exit, next, last) → exit ≠ .unfinished →
      ∃ rest, second (other, world) = (exit, rest, last) ∧ after exit next rest

/-- How states are related after a computation that does not panic, given its result. -/
def Related (after : α → τ → υ → Prop) : Exit α → τ → υ → Prop
  | .done a => after a
  | .panicked _ => fun _ _ => False
  | .unfinished => fun _ _ => False

namespace Leads

variable {before : τ → υ → Prop}

/-- To return a value leads another to return it. -/
theorem pure {after : Exit α → τ → υ → Prop} {a : α}
    (h : ∀ state other, before state other → after (.done a) state other) :
    Leads before after (Pure.pure a : Act (τ × σ) α) (Pure.pure a) := by
  rintro state other world _ _ _ hbefore ⟨⟩ -
  exact ⟨other, rfl, h state other hbefore⟩

/-- A computation leads another from fewer states, too. -/
theorem of_before {other : τ → υ → Prop} {after : Exit α → τ → υ → Prop} {first : Act (τ × σ) α}
    {second : Act (υ × σ) α} (h : Leads before after first second)
    (hbefore : ∀ state rest, other state rest → before state rest) :
    Leads other after first second :=
  fun state rest world exit next last hother =>
    h state rest world exit next last (hbefore state rest hother)

/-- What does not touch the states ends alike on both sides. -/
theorem beside (act : Act σ α) : Leads before (fun _ => before) act.beside act.beside := by
  rintro state other world _ _ _ hbefore ⟨⟩ -
  exact ⟨other, rfl, hbefore⟩

/-- A sequence leads another when its parts lead the other's. -/
theorem bind {middle : Exit α → τ → υ → Prop} {after : Exit β → τ → υ → Prop}
    {first : Act (τ × σ) α} {second : Act (υ × σ) α} {next : α → Act (τ × σ) β}
    {other : α → Act (υ × σ) β} (h : Leads before middle first second)
    (hnext : ∀ a, Leads (middle (.done a)) after (next a) (other a))
    (hpanicked : ∀ alarm state rest, middle (.panicked alarm) state rest →
      after (.panicked alarm) state rest) :
    Leads before after (first >>= next) (second >>= other) := by
  intro state start world exit final last hbefore hends hfinished
  rcases hfirst : first (state, world) with ⟨a | alarm | _, between, place⟩
  · obtain ⟨rest, hrest, hmiddle⟩ := h state start world _ _ _ hbefore hfirst (by simp)
    rw [bind_of_done hfirst] at hends
    rw [bind_of_done hrest]
    exact hnext a between rest place exit final last hmiddle hends hfinished
  · obtain ⟨rest, hrest, hmiddle⟩ := h state start world _ _ _ hbefore hfirst (by simp)
    rw [bind_of_panicked hfirst] at hends
    cases hends
    exact ⟨rest, bind_of_panicked hrest other, hpanicked alarm _ rest hmiddle⟩
  · rw [bind_of_unfinished hfirst] at hends
    cases hends
    exact absurd rfl hfinished

/-- The states are related after a panic that is caught as they are after the panic. -/
theorem catchPanic {after : Exit α → τ → υ → Prop} {caught : Except Alarm α → τ → υ → Prop}
    {first : Act (τ × σ) α} {second : Act (υ × σ) α} (h : Leads before after first second)
    (hdone : ∀ a state rest, after (.done a) state rest → caught (.ok a) state rest)
    (hpanicked : ∀ alarm state rest, after (.panicked alarm) state rest →
      caught (.error alarm) state rest) :
    Leads before (Related caught) first.catchPanic second.catchPanic := by
  intro state other world exit final last hbefore hends hfinished
  rcases hfirst : first (state, world) with ⟨a | alarm | _, between, place⟩
  case done =>
    obtain ⟨rest, hrest, hafter⟩ := h state other world _ _ _ hbefore hfirst (by simp)
    simp only [Act.catchPanic, hfirst, hrest] at hends ⊢
    cases hends
    exact ⟨rest, rfl, hdone a _ rest hafter⟩
  case panicked =>
    obtain ⟨rest, hrest, hafter⟩ := h state other world _ _ _ hbefore hfirst (by simp)
    simp only [Act.catchPanic, hfirst, hrest] at hends ⊢
    cases hends
    exact ⟨rest, rfl, hpanicked alarm _ rest hafter⟩
  case unfinished =>
    simp only [Act.catchPanic, hfirst] at hends
    cases hends
    exact absurd rfl hfinished

/-- A computation that leads another is within it, seen through the states of the other. -/
theorem within {after : τ → υ → Prop} {first : Act (τ × σ) α} {second : Act (υ × σ) α}
    (h : Leads before (fun _ => after) first second) {enter : τ → υ} {leave : υ → τ}
    (henter : ∀ state, before state (enter state))
    (hleave : ∀ state other, after state other → leave other = state) :
    first.Within (second.through enter leave) := by
  rintro ⟨state, world⟩ hends
  rcases hfirst : first (state, world) with ⟨exit, next, last⟩
  rw [hfirst] at hends
  obtain ⟨rest, hrest, hafter⟩ := h state (enter state) world _ _ _ (henter state) hfirst hends
  simp only [Act.through, hrest, hleave next rest hafter]

/-- A computation that is led by another has it within itself, seen through its own states. -/
theorem through_within {before after : υ → τ → Prop} {first : Act (τ × σ) α}
    {second : Act (υ × σ) α} (h : Leads before (fun _ => after) second first) {enter : τ → υ}
    {leave : υ → τ} (henter : ∀ state, before (enter state) state)
    (hleave : ∀ other state, after other state → leave other = state) :
    (second.through enter leave).Within first := by
  rintro ⟨state, world⟩ hends
  rcases hsecond : second (enter state, world) with ⟨exit, other, last⟩
  simp only [Act.through, hsecond] at hends ⊢
  obtain ⟨rest, hrest, hafter⟩ := h (enter state) state world _ _ _ (henter state) hsecond hends
  rw [hrest, hleave other rest hafter]

end Leads

/-- More steps that do not change how a computation ends do not change what is caught. -/
theorem Within.catchPanic {first second : Act σ α} (h : first.Within second) :
    first.catchPanic.Within second.catchPanic := by
  intro world hends
  have hfinished : (first world).1 ≠ .unfinished := by
    intro hunfinished
    rcases hfirst : first world with ⟨a | alarm | _, after⟩ <;> simp_all [Act.catchPanic]
  simp only [Act.catchPanic, h world hfinished]

end Act

namespace Iter

/-! ### Consumers that stop at the first end -/

/-- Ask for the next element up to so many times, also after a panic but not after an end, and hand
each answer to `receive`. -/
def asksToEnd (iter : Iter σ τ γ) (receive : Answer γ → Act σ Unit) (steps : Nat) :
    Nat → Act (τ × σ) (List (Answer γ))
  | 0 => pure []
  | calls + 1 => do
    let answer ← (iter.next steps).catchPanic
    (receive answer).beside
    match answer with
    | .ok none => return [answer]
    | _ => return answer :: (← iter.asksToEnd receive steps calls)

/-- More steps do not change what a call of `next` comes to. -/
theorem next_within (iter : Iter σ τ γ) {steps more : Nat} (hle : steps ≤ more) :
    (iter.next steps).Within (iter.next more) := by
  induction steps generalizing more with
  | zero => exact .giveUp _
  | succ steps ih =>
    obtain ⟨more, rfl⟩ := Nat.exists_eq_add_of_lt hle
    refine (Act.Within.refl _).bind ?_
    rintro (element | _ | _)
    · exact .refl _
    · exact ih (by omega)
    · exact .refl _

/-- More steps do not change what a consumer is told. -/
theorem asksToEnd_within (iter : Iter σ τ γ) (receive : Answer γ → Act σ Unit) {steps more : Nat}
    (hle : steps ≤ more) (calls : Nat) :
    (iter.asksToEnd receive steps calls).Within (iter.asksToEnd receive more calls) := by
  induction calls with
  | zero => exact .refl _
  | succ calls ih =>
    refine (iter.next_within hle).catchPanic.bind fun answer => ?_
    refine (Act.Within.refl _).bind fun _ => ?_
    rcases answer with alarm | _ | element
    · exact ih.bind fun _ => .refl _
    · exact .refl _
    · exact ih.bind fun _ => .refl _

/-- A consumer that stops at the first end only sees the steps of an iterator. -/
theorem asksToEnd_congr {first second : Iter σ τ γ} (hstep : first.step = second.step)
    (receive : Answer γ → Act σ Unit) (steps calls : Nat) :
    first.asksToEnd receive steps calls = second.asksToEnd receive steps calls := by
  induction calls with
  | zero => rfl
  | succ calls ih => simp only [asksToEnd, next_congr hstep, ih]

/-- How states are related after a call of `next`: they are `linked`, and `ongoing` unless that was
the end. -/
def Linked (ongoing linked : τ → υ → Prop) (exit : Exit (Option γ)) (state : τ) (other : υ) :
    Prop :=
  linked state other ∧ (exit ≠ .done none → ongoing state other)

/-- Consumers that stop at the first end are told the same when single calls of `next` come to the
same. -/
theorem leads_asksToEnd {first : Iter σ τ γ} {second : Iter σ υ γ} {ongoing linked : τ → υ → Prop}
    {steps more : Nat} (hlinked : ∀ state other, ongoing state other → linked state other)
    (hnext : Act.Leads ongoing (Linked ongoing linked) (first.next steps) (second.next more))
    (receive : Answer γ → Act σ Unit) (calls : Nat) :
    Act.Leads ongoing (fun _ => linked) (first.asksToEnd receive steps calls)
      (second.asksToEnd receive more calls) := by
  let told (answer : Answer γ) (state : τ) (other : υ) : Prop :=
    linked state other ∧ (answer ≠ .ok none → ongoing state other)
  have hcall : Act.Leads ongoing (Act.Related told) (first.next steps).catchPanic
      (second.next more).catchPanic := by
    refine hnext.catchPanic ?done ?panicked
    case done =>
      rintro element state other ⟨hstates, hgoing⟩
      exact ⟨hstates, fun hanswer => hgoing fun hend => hanswer (by cases hend; rfl)⟩
    case panicked =>
      rintro alarm state other ⟨hstates, hgoing⟩
      exact ⟨hstates, fun _ => hgoing (by simp)⟩
  induction calls with
  | zero => exact .pure hlinked
  | succ calls ih =>
    refine hcall.bind (fun answer => ?_) fun _ _ _ hpanicked => hpanicked.elim
    have hreceive : Act.Leads (told answer) (fun _ => told answer)
        (receive answer).beside (receive answer).beside := .beside _
    refine hreceive.bind (fun _ => ?_) fun _ _ _ htold => htold.1
    have hmore (hanswer : answer ≠ .ok none) : Act.Leads (told answer) (fun _ => linked)
        (do return answer :: (← first.asksToEnd receive steps calls))
        (do return answer :: (← second.asksToEnd receive more calls)) :=
      (ih.of_before fun _ _ htold => htold.2 hanswer).bind
        (fun _ => .pure fun _ _ hstates => hstates) fun _ _ _ hstates => hstates
    rcases answer with alarm | _ | element
    · exact hmore (by simp)
    · exact .pure fun _ _ htold => htold.1
    · exact hmore (by simp)

/-! ### Pieces with at most one element -/

/-- An iterator over the element that its state holds, if it holds one. -/
def ofOption : Iter σ (Option γ) γ where
  step := fun (left, world) =>
    match left with
    | some element => (.done (.yield element), none, world)
    | none => (.done .finish, none, world)
  hint left := .exactly (if left.isSome then 1 else 0)

/-- A call of `next`, by its first step. -/
theorem next_succ (iter : Iter σ τ γ) (steps : Nat) (whole : τ × σ) :
    iter.next (steps + 1) whole =
      match iter.step whole with
      | (.done (.yield element), whole) => (.done (some element), whole)
      | (.done .skip, whole) => iter.next steps whole
      | (.done .finish, whole) => (.done none, whole)
      | (.panicked alarm, whole) => (.panicked alarm, whole)
      | (.unfinished, whole) => (.unfinished, whole) := by
  rw [next, Act.bind_apply]
  rcases iter.step whole with ⟨(element | _ | _) | alarm | _, whole⟩ <;> rfl

variable (iter : Iter σ τ α) (f : α → Act σ (Option γ))

/-- A step of an adapter that makes at most one element of each. -/
theorem keepSome_step (source : τ) (world : σ) :
    (iter.keepSome f).step (source, world) =
      match iter.step (source, world) with
      | (.done (.yield element), source, world) =>
        match f element world with
        | (.done (some image), world) => (.done (.yield image), source, world)
        | (.done none, world) => (.done .skip, source, world)
        | (.panicked alarm, world) => (.panicked alarm, source, world)
        | (.unfinished, world) => (.unfinished, source, world)
      | (.done .skip, whole) => (.done .skip, whole)
      | (.done .finish, whole) => (.done .finish, whole)
      | (.panicked alarm, whole) => (.panicked alarm, whole)
      | (.unfinished, whole) => (.unfinished, whole) := by
  change (iter.step >>= _) (source, world) = _
  rw [Act.bind_apply]
  rcases iter.step (source, world) with ⟨(element | _ | _) | alarm | _, source, after⟩
  case done.yield =>
    dsimp only
    rw [Act.bind_apply, Act.beside]
    dsimp only
    rcases f element after with ⟨(_ | image) | alarm | _, last⟩ <;> rfl
  all_goals rfl

/-- A flat map that has not ended and has nothing left to read of a piece. -/
def Idle (source : τ) (flat : Flat τ (Option γ)) : Prop :=
  flat.source = source ∧ flat.ended = false ∧ flat.piece.join = none

/-- A flat map has left its source in a state. -/
def Left (source : τ) (flat : Flat τ (Option γ)) : Prop := flat.source = source

/-- Between two pieces, a flat map takes at most two steps for each step of the adapter. -/
theorem keepSome_leads_start (steps : Nat) :
    Act.Leads (fun source flat => flat = ⟨source, false, none⟩) (Linked Idle Left)
      ((iter.keepSome f).next steps) ((iter.flatMap f ofOption).next (2 * steps)) := by
  rintro source _ world exit after last rfl hends hfinished
  induction steps generalizing source world with
  | zero =>
    cases hends
    exact absurd rfl hfinished
  | succ steps ih =>
    have hmore {whole : Flat τ (Option γ) × σ} :=
      (iter.flatMap f ofOption).next_within (Nat.le_succ (2 * steps)) whole
    rw [next_succ, keepSome_step] at hends
    rw [Nat.mul_succ, next_succ, flatMap_step_none]
    rcases hstep : iter.step (source, world) with ⟨(element | _ | _) | alarm | _, middle, place⟩
    all_goals simp only [hstep] at hends ⊢
    case done.yield =>
      rcases hcall : f element place with ⟨(_ | image) | alarm | _, rest⟩
      all_goals simp only [hcall] at hends ⊢
      case done.none =>
        -- The piece is empty: it is read to its end, and the source is asked again.
        obtain ⟨flat, hflat, hlinked⟩ := ih _ _ hends
        refine ⟨flat, ?_, hlinked⟩
        rw [next_succ, flatMap_step_some]
        exact hflat
      case done.some =>
        cases hends
        refine ⟨⟨_, false, some none⟩, ?_, rfl, fun _ => ⟨rfl, rfl, rfl⟩⟩
        rw [next_succ, flatMap_step_some]
        rfl
      case panicked =>
        cases hends
        exact ⟨_, rfl, rfl, fun _ => ⟨rfl, rfl, rfl⟩⟩
      case unfinished =>
        cases hends
        exact absurd rfl hfinished
    case done.skip =>
      obtain ⟨flat, hflat, hlinked⟩ := ih _ _ hends
      refine ⟨flat, ?_, hlinked⟩
      rw [hmore (by rwa [hflat]), hflat]
    case done.finish =>
      cases hends
      exact ⟨_, rfl, rfl, fun hgoing => absurd rfl hgoing⟩
    case panicked =>
      cases hends
      exact ⟨_, rfl, rfl, fun _ => ⟨rfl, rfl, rfl⟩⟩
    case unfinished =>
      cases hends
      exact absurd rfl hfinished

/-- A flat map drops what it has read of a piece and goes on as if it were between two pieces. -/
theorem flatMap_next_idle {source : τ} {flat : Flat τ (Option γ)} (hidle : Idle source flat) :
    flat = ⟨source, false, none⟩ ∨ ∀ steps world, (iter.flatMap f ofOption).next (steps + 1)
      (flat, world) = (iter.flatMap f ofOption).next steps (⟨source, false, none⟩, world) := by
  obtain ⟨source, ended, piece⟩ := flat
  obtain ⟨rfl, rfl, hpiece⟩ := hidle
  rcases piece with _ | _ | element
  · exact .inl rfl
  · refine .inr fun steps world => ?_
    rw [next_succ, flatMap_step_some]
    rfl
  · cases hpiece

/-- What an adapter comes to, the flat map over pieces with at most one element does, too. -/
theorem keepSome_leads_flatMap (steps : Nat) :
    Act.Leads Idle (Linked Idle Left) ((iter.keepSome f).next steps)
      ((iter.flatMap f ofOption).next (2 * steps + 1)) := by
  intro source flat world exit after last hidle hends hfinished
  obtain ⟨rest, hrest, hlinked⟩ :=
    keepSome_leads_start iter f steps source _ world exit after last rfl hends hfinished
  refine ⟨rest, ?_, hlinked⟩
  rcases flatMap_next_idle iter f hidle with rfl | hnext
  · rw [(iter.flatMap f ofOption).next_within (Nat.le_succ (2 * steps)) _ (by rwa [hrest]), hrest]
  · rw [hnext, hrest]

/-- What the flat map comes to, the adapter does, in no more steps. -/
theorem flatMap_leads_keepSome (steps : Nat) :
    Act.Leads (fun flat source => Idle source flat)
      (Linked (fun flat source => Idle source flat) fun flat source => Left source flat)
      ((iter.flatMap f ofOption).next steps) ((iter.keepSome f).next steps) := by
  intro flat source world exit after last hidle hends hfinished
  induction steps generalizing flat source world with
  | zero =>
    cases hends
    exact absurd rfl hfinished
  | succ steps ih =>
    rcases flatMap_next_idle iter f hidle with rfl | hnext
    case inr =>
      obtain ⟨rest, hrest, hlinked⟩ :=
        ih _ _ _ ⟨rfl, rfl, rfl⟩ ((hnext steps world).symm.trans hends)
      refine ⟨rest, ?_, hlinked⟩
      rw [(iter.keepSome f).next_within (Nat.le_succ steps) _ (by rwa [hrest]), hrest]
    rw [next_succ, flatMap_step_none] at hends
    rw [next_succ, keepSome_step]
    rcases hstep : iter.step (source, world) with ⟨(element | _ | _) | alarm | _, middle, place⟩
    all_goals simp only [hstep] at hends ⊢
    case done.yield =>
      rcases hcall : f element place with ⟨(_ | image) | alarm | _, rest⟩
      all_goals simp only [hcall] at hends ⊢
      case done.none => exact ih _ _ _ ⟨rfl, rfl, rfl⟩ hends
      case done.some =>
        -- The piece is read in the next step, if there is one.
        cases steps with
        | zero =>
          cases hends
          exact absurd rfl hfinished
        | succ steps =>
          rw [next_succ, flatMap_step_some] at hends
          cases hends
          exact ⟨_, rfl, rfl, fun _ => ⟨rfl, rfl, rfl⟩⟩
      case panicked =>
        cases hends
        exact ⟨_, rfl, rfl, fun _ => ⟨rfl, rfl, rfl⟩⟩
      case unfinished =>
        cases hends
        exact absurd rfl hfinished
    case done.skip => exact ih _ _ _ ⟨rfl, rfl, rfl⟩ hends
    case done.finish =>
      cases hends
      exact ⟨_, rfl, rfl, fun hgoing => absurd rfl hgoing⟩
    case panicked =>
      cases hends
      exact ⟨_, rfl, rfl, fun _ => ⟨rfl, rfl, rfl⟩⟩
    case unfinished =>
      cases hends
      exact absurd rfl hfinished

/-- A step of a flat map without pieces that has not ended. -/
theorem flatOption_step (source : τ) (world : σ) :
    (iter.flatOption f).step ((source, false), world) =
      match (iter.keepSome f).step (source, world) with
      | (.done .finish, source, world) => (.done .finish, (source, true), world)
      | (exit, source, world) => (exit, (source, false), world) := by
  rw [keepSome_step]
  change (iter.stepWithin >>= _) ((source, false), world) = _
  rw [Act.bind_apply, stepWithin]
  rcases iter.step (source, world) with ⟨(element | _ | _) | alarm | _, source, after⟩
  case done.yield =>
    dsimp only
    rw [Act.bind_apply, Act.beside]
    dsimp only
    rcases f element after with ⟨(_ | image) | alarm | _, last⟩ <;> rfl
  all_goals rfl

/-- A flat map without pieces takes the steps of the adapter, and remembers an end. -/
theorem flatOption_next (steps : Nat) (source : τ) (world : σ) :
    (iter.flatOption f).next steps ((source, false), world) =
      match (iter.keepSome f).next steps (source, world) with
      | (.done none, source, world) => (.done none, (source, true), world)
      | (exit, source, world) => (exit, (source, false), world) := by
  induction steps generalizing source world with
  | zero => rfl
  | succ steps ih =>
    rw [next_succ, next_succ, flatOption_step]
    rcases (iter.keepSome f).step (source, world) with
      ⟨(element | _ | _) | alarm | _, source, after⟩
    case done.skip => exact ih source after
    all_goals rfl

/-- What an adapter comes to, the flat map without pieces does, too. -/
theorem keepSome_leads_flatOption (steps : Nat) :
    Act.Leads (fun source other => other = (source, false))
      (Linked (fun source other => other = (source, false)) fun source other => other.1 = source)
      ((iter.keepSome f).next steps) ((iter.flatOption f).next steps) := by
  rintro source _ world exit after last rfl hends -
  rw [flatOption_next, hends]
  rcases exit with (_ | element) | alarm | _
  · exact ⟨_, rfl, rfl, fun hgoing => absurd rfl hgoing⟩
  all_goals exact ⟨_, rfl, rfl, fun _ => rfl⟩

/-- What the flat map without pieces comes to, the adapter does, too. -/
theorem flatOption_leads_keepSome (steps : Nat) :
    Act.Leads (fun other source => other = (source, false))
      (Linked (fun other source => other = (source, false)) fun other source => other.1 = source)
      ((iter.flatOption f).next steps) ((iter.keepSome f).next steps) := by
  rintro _ source world exit after last rfl hends -
  rw [flatOption_next] at hends
  rcases hnext : (iter.keepSome f).next steps (source, world) with
    ⟨(_ | element) | alarm | _, middle, place⟩
  all_goals
    simp only [hnext] at hends
    cases hends
  · exact ⟨_, rfl, rfl, fun hgoing => absurd rfl hgoing⟩
  all_goals exact ⟨_, rfl, rfl, fun _ => rfl⟩

/-! ### The adapter and the flat maps agree -/

/-- Up to the first end, and call by call, a consumer is told by an adapter that makes at most one
element of each what it is told by the flat map, with or without pieces, and in the same world. -/
theorem keepSome_agrees (receive : Answer γ → Act σ Unit) (calls : Nat) :
    Act.Agree (fun steps => (iter.keepSome f).asksToEnd receive steps calls)
        (fun steps => ((iter.flatMap f ofOption).asksToEnd receive steps calls).through Flat.start
          Flat.source) ∧
      Act.Agree (fun steps => (iter.keepSome f).asksToEnd receive steps calls)
        (fun steps => ((iter.flatOption f).asksToEnd receive steps calls).through (·, false)
          Prod.fst) := by
  have hmore : ∀ steps more, steps ≤ more →
      ((iter.keepSome f).asksToEnd receive steps calls).Within
        ((iter.keepSome f).asksToEnd receive more calls) :=
    fun steps more hle => (iter.keepSome f).asksToEnd_within receive hle calls
  refine ⟨.of_within hmore (fun steps => ⟨2 * steps + 1, ?_⟩) fun steps => ⟨steps, ?_⟩,
    .of_within hmore (fun steps => ⟨steps, ?_⟩) fun steps => ⟨steps, ?_⟩⟩
  · have hleads := leads_asksToEnd (fun _ _ hidle => hidle.1) (keepSome_leads_flatMap iter f steps)
      receive calls
    exact hleads.within (fun _ => ⟨rfl, rfl, rfl⟩) fun _ _ hleft => hleft
  · have hleads := leads_asksToEnd (fun _ _ hidle => hidle.1) (flatMap_leads_keepSome iter f steps)
      receive calls
    exact hleads.through_within (fun _ => ⟨rfl, rfl, rfl⟩) fun _ _ hleft => hleft
  · have hleads := leads_asksToEnd (fun _ _ hsame => congrArg Prod.fst hsame)
      (keepSome_leads_flatOption iter f steps) receive calls
    exact hleads.within (fun _ => rfl) fun _ _ hleft => hleft
  · have hleads := leads_asksToEnd (fun _ _ hsame => congrArg Prod.fst hsame)
      (flatOption_leads_keepSome iter f steps) receive calls
    exact hleads.through_within (fun _ => rfl) fun _ _ hleft => hleft

end Iter

end Deferral
