import Deferral.Proofs.Pipeline.Pulls

/-!
# When a call is answered

A recipe is a plan together with what is done with the replies of the callable. A call of `next` of
an adapter that goes by a recipe pulls items and deals with them one after the other, up to one of
which something comes; `Iter.Serves` tells which items these are, and from which world to which.
Such a call is answered exactly where the source comes to an item of which something comes, or to
its end, or where there is a panic. So it is left unfinished only by the source or by the callable.
-/

namespace Deferral

variable {σ τ ι α β γ : Type}

/-! ### Recipes -/

/-- What is made of an item, and of the reply if it takes a call. -/
def Plan.image : Plan α β γ → Option β → Option γ
  | pass made, _ => made
  | consult _ make, reply? => reply?.bind make

/-- What an adapter makes of its items: what is planned for each of them, and what is done with a
reply before anything is made of it, which may have effects of its own and panic. -/
structure Recipe (σ ι α β γ : Type) where
  plan : ι → Plan α β γ
  settle : β → Act σ Unit

namespace Recipe

/-- The recipe of a plan by which nothing is done with a reply. -/
def ofPlan (plan : ι → Plan α β γ) : Recipe σ ι α β γ := ⟨plan, fun _ => pure ()⟩

/-- The argument of the call that an item takes, if it takes one. -/
def argument? (recipe : Recipe σ ι α β γ) (item : ι) : Option α := (recipe.plan item).argument?

/-- Call the callable and do what is done with the reply. -/
def settling (recipe : Recipe σ ι α β γ) (f : α → Act σ β) (argument : α) : Act σ β := do
  let reply ← f argument
  recipe.settle reply
  return reply

/-- Deal with an item. -/
def carry (recipe : Recipe σ ι α β γ) (f : α → Act σ β) (item : ι) : Act σ (Option γ) :=
  (recipe.plan item).carry (recipe.settling f)

/-- What is done with a reply returns. -/
def Settles (recipe : Recipe σ ι α β γ) : Prop := ∀ reply, (recipe.settle reply).Returns

/-- Doing nothing with a reply returns. -/
theorem ofPlan_settles (plan : ι → Plan α β γ) : (ofPlan plan : Recipe σ ι α β γ).Settles :=
  fun _ world => ⟨(), world, rfl⟩

/-- To deal with an item by the recipe of a plan is to do what is planned. -/
theorem ofPlan_carry (plan : ι → Plan α β γ) (f : α → Act σ β) (item : ι) :
    (ofPlan plan).carry f item = (plan item).carry f := by
  have hsettling : (ofPlan plan : Recipe σ ι α β γ).settling f = f := by
    funext argument
    simp only [settling, ofPlan, pure_bind, bind_pure]
  rw [carry, hsettling, ofPlan]

end Recipe

/-- An adapter with a plan goes by the recipe of the plan. -/
theorem Iter.planned_eq (iter : Iter σ τ ι) (plan : ι → Plan α β γ) (f : α → Act σ β) :
    iter.planned plan f = iter.keepSome ((Recipe.ofPlan plan).carry f) := by
  rw [planned, funext (Recipe.ofPlan_carry plan f)]

/-! ### What becomes of an item -/

/-- An item that has been dealt with: the call that it took, if it took one, with what that came to,
and what was made of the item in the end. -/
structure Treated (ι α β γ : Type) where
  item : ι
  call : Option (α × Except Alarm β)
  made : Answer γ

/-- An item is dealt with, from one world to another. -/
inductive Deals (recipe : Recipe σ ι α β γ) (f : α → Act σ β) : Treated ι α β γ → σ → σ → Prop where
  /-- It takes no call. Nothing happens. -/
  | passed {item : ι} {made : Option γ} {world : σ} (hplan : recipe.plan item = .pass made) :
    Deals recipe f ⟨item, none, .ok made⟩ world world
  /-- It takes a call, and the callable returns. -/
  | answered {item : ι} {argument : α} {make : β → Option γ} {reply : β} {world middle after : σ}
    (hplan : recipe.plan item = .consult argument make)
    (hcall : f argument world = (.done reply, middle))
    (hsettle : recipe.settle reply middle = (.done (), after)) :
    Deals recipe f ⟨item, some (argument, .ok reply), .ok (make reply)⟩ world after
  /-- The callable returns, but what is done with the reply panics. -/
  | shaken {item : ι} {argument : α} {make : β → Option γ} {reply : β} {alarm : Alarm}
    {world middle after : σ} (hplan : recipe.plan item = .consult argument make)
    (hcall : f argument world = (.done reply, middle))
    (hsettle : recipe.settle reply middle = (.panicked alarm, after)) :
    Deals recipe f ⟨item, some (argument, .ok reply), .error alarm⟩ world after
  /-- The callable panics. The item is lost, and nothing happens after that: no failure is stored,
  no token is set, and nothing is logged. -/
  | lost {item : ι} {argument : α} {make : β → Option γ} {alarm : Alarm} {world after : σ}
    (hplan : recipe.plan item = .consult argument make)
    (hcall : f argument world = (.panicked alarm, after)) :
    Deals recipe f ⟨item, some (argument, .error alarm), .error alarm⟩ world after

namespace Deals

variable {recipe : Recipe σ ι α β γ} {f : α → Act σ β} {treated : Treated ι α β γ}
  {world after : σ}

/-- Whatever carrying out a recipe comes to, an item has been dealt with. -/
theorem of_carry {item : ι} (made : Answer γ)
    (h : recipe.carry f item world = (.ofCaught made, after)) :
    ∃ call, Deals recipe f ⟨item, call, made⟩ world after := by
  rw [Recipe.carry] at h
  cases hplan : recipe.plan item with
  | pass image =>
    rw [hplan] at h
    cases made <;> cases h
    exact ⟨none, .passed hplan⟩
  | consult argument make =>
    simp only [hplan, Plan.carry, Recipe.settling, bind_assoc, pure_bind] at h
    rcases Act.caught_of_bind h with ⟨alarm, rfl, hcall⟩ | ⟨reply, middle, hcall, hrest⟩
    · exact ⟨_, .lost hplan hcall⟩
    rcases Act.caught_of_bind hrest with ⟨alarm, rfl, hsettle⟩ | ⟨_, last, hsettle, hend⟩
    · exact ⟨_, .shaken hplan hcall hsettle⟩
    · cases made <;> cases hend
      exact ⟨_, .answered hplan hcall hsettle⟩

/-- To deal with an item is to carry out the recipe. -/
theorem carry (h : Deals recipe f treated world after) :
    recipe.carry f treated.item world = (.ofCaught treated.made, after) := by
  cases h with
  | passed hplan => rw [Recipe.carry, hplan]; rfl
  | answered hplan hcall hsettle =>
    rw [Recipe.carry, hplan, Plan.carry, Recipe.settling, bind_assoc, Act.bind_of_done hcall,
      bind_assoc, Act.bind_of_done hsettle]
    rfl
  | shaken hplan hcall hsettle =>
    rw [Recipe.carry, hplan, Plan.carry, Recipe.settling, bind_assoc, Act.bind_of_done hcall,
      bind_assoc, Act.bind_of_panicked hsettle]
    rfl
  | lost hplan hcall =>
    rw [Recipe.carry, hplan, Plan.carry, Recipe.settling, bind_assoc, Act.bind_of_panicked hcall]
    rfl

/-- An item is dealt with in every world where carrying out the recipe returns or panics. -/
theorem of_finishes {item : ι} (h : (recipe.carry f item).Finishes) (world : σ) :
    ∃ call made after, Deals recipe f ⟨item, call, made⟩ world after := by
  obtain ⟨made, after, hmade⟩ :
      ∃ made after, recipe.carry f item world = (.ofCaught made, after) := by
    rcases hcarry : recipe.carry f item world with ⟨made | alarm | _, after⟩
    · exact ⟨.ok made, after, rfl⟩
    · exact ⟨.error alarm, after, rfl⟩
    · exact absurd (congrArg Prod.fst hcarry) (h world)
  obtain ⟨call, hdeals⟩ := of_carry made hmade
  exact ⟨call, made, after, hdeals⟩

end Deals

/-! ### What becomes of a call of `next` -/

namespace Iter

/-- A call of `next` of an adapter pulls and deals with items up to one of which something comes,
and is answered with that. -/
inductive Serves (iter : Iter σ τ ι) (recipe : Recipe σ ι α β γ) (f : α → Act σ β) :
    τ × σ → List (Treated ι α β γ) → Answer γ → τ × σ → Prop where
  /-- The source comes to its end. -/
  | ended {start after : τ × σ} (hpull : iter.Pull start (.done none) after) :
    Serves iter recipe f start [] (.ok none) after
  /-- The source panics. -/
  | broken {start after : τ × σ} {alarm : Alarm} (hpull : iter.Pull start (.panicked alarm) after) :
    Serves iter recipe f start [] (.error alarm) after
  /-- An element is made of an item, or dealing with it panics. -/
  | served {start : τ × σ} {state : τ} {world later : σ} {treated : Treated ι α β γ}
    (hpull : iter.Pull start (.done (some treated.item)) (state, world))
    (hdeals : Deals recipe f treated world later) (hmade : treated.made ≠ .ok none) :
    Serves iter recipe f start [treated] treated.made (state, later)
  /-- Nothing is made of an item, and the call goes on. -/
  | passedOver {start after : τ × σ} {state : τ} {world later : σ} {treated : Treated ι α β γ}
    {treats : List (Treated ι α β γ)} {answer : Answer γ}
    (hpull : iter.Pull start (.done (some treated.item)) (state, world))
    (hdeals : Deals recipe f treated world later) (hmade : treated.made = .ok none)
    (hrest : Serves iter recipe f (state, later) treats answer after) :
    Serves iter recipe f start (treated :: treats) answer after

variable {iter : Iter σ τ ι} {recipe : Recipe σ ι α β γ} {f : α → Act σ β}
  {start middle after : τ × σ} {treats : List (Treated ι α β γ)} {answer : Answer γ}

/-- A call goes on after a step of the source that skips. -/
theorem Serves.skip (hstep : iter.step start = (.done .skip, middle))
    (h : iter.Serves recipe f middle treats answer after) :
    iter.Serves recipe f start treats answer after := by
  cases h with
  | ended hpull => exact .ended (hpull.skip hstep)
  | broken hpull => exact .broken (hpull.skip hstep)
  | served hpull hdeals hmade => exact .served (hpull.skip hstep) hdeals hmade
  | passedOver hpull hdeals hmade hrest => exact .passedOver (hpull.skip hstep) hdeals hmade hrest

/-- Every call of `next` that is answered is such a call. -/
theorem Serves.of_next {steps : Nat}
    (h : (iter.keepSome (recipe.carry f)).next steps start = (.ofCaught answer, after)) :
    ∃ treats, iter.Serves recipe f start treats answer after := by
  -- Only a step that skips and an item of which nothing is made let the call go on. So the
  -- induction is on its steps, and each of these two puts one thing before what the rest of it
  -- brings about.
  induction steps generalizing start with
  | zero => cases answer <;> cases h
  | succ steps ih =>
    simp only [next, keepSome, bind_assoc] at h
    rcases Act.caught_of_bind h with ⟨alarm, rfl, hstep⟩ | ⟨step, ⟨state, place⟩, hstep, hrest⟩
    · exact ⟨[], .broken (.panicked hstep)⟩
    cases step with
    | yield item =>
      have hpull := Pull.yield hstep
      simp only [bind_assoc] at hrest
      rcases Act.caught_of_bind hrest with
        ⟨alarm, rfl, hcarry⟩ | ⟨image, ⟨kept, later⟩, hcarry, hend⟩
      · obtain ⟨hcarry, hkept⟩ := Act.of_beside hcarry
        obtain ⟨last, later⟩ := after
        cases hkept
        obtain ⟨call, hdeals⟩ := Deals.of_carry (.error alarm) hcarry
        exact ⟨_, .served hpull hdeals (by simp)⟩
      · obtain ⟨hcarry, hkept⟩ := Act.of_beside hcarry
        cases hkept
        obtain ⟨call, hdeals⟩ := Deals.of_carry (.ok image) hcarry
        cases image with
        | some image =>
          cases answer <;> cases hend
          exact ⟨_, .served hpull hdeals (by simp)⟩
        | none =>
          obtain ⟨treats, hserves⟩ := ih hend
          exact ⟨_, .passedOver hpull hdeals rfl hserves⟩
    | skip =>
      obtain ⟨treats, hserves⟩ := ih hrest
      exact ⟨treats, hserves.skip hstep⟩
    | finish =>
      cases answer <;> cases hrest
      exact ⟨[], .ended (.finish hstep)⟩

/-- Every such call is answered so, if it is allowed enough steps. -/
theorem Serves.pull (h : iter.Serves recipe f start treats answer after) :
    (iter.keepSome (recipe.carry f)).Pull start (.ofCaught answer) after := by
  have hends : Exit.ofCaught answer ≠ .unfinished := by cases answer <;> simp [Exit.ofCaught]
  refine ⟨hends, ?_⟩
  induction h with
  | ended hpull =>
    obtain ⟨used, hused⟩ := hpull.keepSome (recipe.carry f)
    exact ⟨used, hused 0⟩
  | broken hpull =>
    obtain ⟨used, hused⟩ := hpull.keepSome (recipe.carry f)
    exact ⟨used, hused 0⟩
  | @served start state world later treated hpull hdeals hmade =>
    obtain ⟨used, hused⟩ := hpull.keepSome (recipe.carry f)
    have hbeside : (recipe.carry f treated.item).beside (state, world) =
        (.ofCaught treated.made, state, later) := Act.beside_eq hdeals.carry state
    refine ⟨used, (hused 0).trans ?_⟩
    rcases hcame : treated.made with alarm | _ | made
    all_goals rw [hcame] at hbeside
    · exact Act.bind_of_panicked hbeside _
    · exact absurd hcame hmade
    · exact Act.bind_of_done hbeside _
  | @passedOver start after state world later treated treats answer hpull hdeals hmade hrest ih =>
    obtain ⟨used, hused⟩ := hpull.keepSome (recipe.carry f)
    obtain ⟨steps, hsteps⟩ := ih hends
    have hbeside : (recipe.carry f treated.item).beside (state, world) =
        (.done none, state, later) := by
      rw [Act.beside_eq hdeals.carry state, hmade]
      rfl
    refine ⟨used + steps, (hused steps).trans ?_⟩
    rw [nextPulled, Act.bind_of_done hbeside]
    exact hsteps

/-- Wherever it is pulled, a source comes to these items and then to its end. What else a pull does
is left open. -/
def Supplies (iter : Iter σ τ ι) : List ι → τ → Prop
  | [], state => ∀ world, ∃ after, iter.Pull (state, world) (.done none) after
  | item :: rest, state => ∀ world, ∃ next later,
    iter.Pull (state, world) (.done (some item)) (next, later) ∧ iter.Supplies rest next

/-- A pull comes to the first of the items that are left, or to the end where none are left. -/
theorem Supplies.of_pull {items : List ι} {exit : Exit (Option ι)}
    (h : iter.Supplies items start.1) (hpull : iter.Pull start exit after) :
    (items = [] ∧ exit = .done none) ∨
      ∃ item rest, items = item :: rest ∧ exit = .done (some item) ∧
        iter.Supplies rest after.1 := by
  cases items with
  | nil =>
    obtain ⟨last, hend⟩ := h start.2
    exact .inl ⟨rfl, (hpull.unique hend).1⟩
  | cons item rest =>
    obtain ⟨next, later, hfirst, hrest⟩ := h start.2
    obtain ⟨hexit, rfl⟩ := hpull.unique hfirst
    exact .inr ⟨item, rest, rfl, hexit, hrest⟩

/-- Where the source supplies its items, a call pulls as far as it has to. -/
theorem Supplies.serves {items : List ι} {state : τ} (h : iter.Supplies items state)
    (hcarry : ∀ item, (recipe.carry f item).Finishes) (world : σ) :
    ∃ treats answer after, iter.Serves recipe f (state, world) treats answer after := by
  induction items generalizing state world with
  | nil =>
    obtain ⟨after, hpull⟩ := h world
    exact ⟨[], _, after, .ended hpull⟩
  | cons item rest ih =>
    obtain ⟨next, place, hpull, hrest⟩ := h world
    obtain ⟨call, made, later, hdeals⟩ := Deals.of_finishes (hcarry item) place
    by_cases hnone : made = .ok none
    · obtain ⟨treats, answer, after, hserves⟩ := ih hrest later
      exact ⟨_, answer, after, .passedOver hpull hdeals hnone hserves⟩
    · exact ⟨_, made, _, .served hpull hdeals hnone⟩

/-- When calls of `next` of an adapter are answered. -/
structure Responds (adapter : Iter σ τ γ) (iter : Iter σ τ ι) (recipe : Recipe σ ι α β γ)
    (f : α → Act σ β) : Prop where
  /-- A call is answered exactly where the source comes to an item of which something comes, or to
  its end, or where there is a panic, and all earlier items have been dealt with. -/
  answers : ∀ start answer after,
    adapter.Pull start (.ofCaught answer) after ↔
      ∃ treats, iter.Serves recipe f start treats answer after
  /-- So it is answered wherever the source supplies items and dealing with these returns or
  panics. -/
  finishes : ∀ items state, iter.Supplies items state →
    (∀ item, (recipe.carry f item).Finishes) → ∀ world,
      ∃ answer after, adapter.Pull (state, world) (.ofCaught answer) after

/-- Calls of an adapter that goes by a recipe are answered so. -/
theorem Responds.of_step {adapter : Iter σ τ γ}
    (hstep : adapter.step = (iter.keepSome (recipe.carry f)).step) :
    adapter.Responds iter recipe f := by
  have hpull (start : τ × σ) (answer : Answer γ) (after : τ × σ) :
      adapter.Pull start (.ofCaught answer) after ↔
        ∃ treats, iter.Serves recipe f start treats answer after := by
    have hnext : adapter.next = (iter.keepSome (recipe.carry f)).next :=
      funext fun steps => next_congr hstep steps
    rw [Pull, hnext]
    constructor
    · rintro ⟨-, steps, hsteps⟩
      exact Serves.of_next hsteps
    · rintro ⟨treats, hserves⟩
      exact hserves.pull
  refine ⟨hpull, fun items state hsupplies hcarry world => ?_⟩
  obtain ⟨treats, answer, after, hserves⟩ := hsupplies.serves hcarry world
  exact ⟨answer, after, (hpull _ _ _).2 ⟨treats, hserves⟩⟩

end Iter

end Deferral
