import Deferral.Proofs.Pipeline.Catching
import Deferral.Proofs.Pipeline.Filtering
import Deferral.Proofs.Pipeline.Pulls
import Deferral.Proofs.Tokens.Flags
import Deferral.Script.Source
import Mathlib.Data.List.Basic

/-!
# What a panic loses

A callable that panics ends the call of `next` in which it was called, and the consumer may go on.
By then one item has been taken out of the source, and that one is lost. `Iter.Attends` tells what a
consumer that stops at the first end brings about: which items are pulled and what becomes of each,
from which world to which. Nothing is pulled twice or called twice, nothing is skipped, and where
the callable panics nothing is done after it. A consumer brings about all that can be told so, and
nothing else.
-/

namespace Deferral

variable {ω κ σ τ ι ε α β γ : Type}

/-! ### Capturing -/

namespace Recipe

/-- The function is called with every input, and what it returns is yielded. A failure is stored. -/
def capture (type : FailureType ω κ ε) : Recipe (World ω κ) ι ι (Except ε α) (Deferred ε α) where
  plan input := .consult input fun result => some (Deferred.hold result)
  settle
    | .ok _ => pure ()
    | .error failure => type.reassert failure

/-- If look-ups of the cancellation return, so does the storing of failures. -/
theorem capture_settles {type : FailureType ω κ ε}
    (hreturns : ∀ failure, (type.cancellation failure).Returns) :
    (capture type : Recipe (World ω κ) ι ι (Except ε α) (Deferred ε α)).Settles := by
  intro result world
  cases result with
  | ok value => exact ⟨(), world, rfl⟩
  | error failure =>
    obtain ⟨reported, after, hreported⟩ := hreturns failure world
    cases reported with
    | some token => exact ⟨(), _, FailureType.reassert_of_some hreported⟩
    | none => exact ⟨(), after, FailureType.reassert_of_none hreported⟩

end Recipe

/-- Capturing goes by its recipe. -/
theorem Iter.capture_step_carry (inputs : Iter (World ω κ) τ ι) (type : FailureType ω κ ε)
    (f : ι → Run ω κ (Except ε α)) :
    (inputs.map (Capture.function type f)).step =
      (inputs.keepSome ((Recipe.capture type).carry f)).step := by
  rw [map_step]
  refine congrArg (fun f => (inputs.keepSome f).step) (funext fun input => ?_)
  simp only [Capture.function, Deferral.capture, map_eq_pure_bind, bind_assoc, Recipe.carry,
    Recipe.capture, Plan.carry, Recipe.settling, pure_bind]
  refine bind_congr fun result => ?_
  cases result with
  | ok value => rfl
  | error failure =>
    simp only [Deferred.ofExcept, FailureType.defer, bind_assoc, pure_bind]
    rfl

/-! ### What becomes of an item -/

/-- The element that an answer brings, if it brings one. -/
def Answer.element? : Answer γ → Option γ
  | .ok made => made
  | .error _ => none

namespace Treated

/-- The argument of the call. -/
def argument? (treated : Treated ι α β γ) : Option α := treated.call.map Prod.fst

/-- The element that should be made of the item: none, if the callable has panicked. -/
def image (recipe : Recipe σ ι α β γ) (treated : Treated ι α β γ) : Option γ :=
  match treated.call with
  | none => (recipe.plan treated.item).image none
  | some (_, .ok reply) => (recipe.plan treated.item).image (some reply)
  | some (_, .error _) => none

end Treated

namespace Deals

variable {recipe : Recipe σ ι α β γ} {f : α → Act σ β} {treated : Treated ι α β γ}
  {world after : σ}

/-- An item takes the call that it should take, and only that. -/
theorem argument? (h : Deals recipe f treated world after) :
    treated.argument? = recipe.argument? treated.item := by
  cases h with
  | passed hplan => rw [Recipe.argument?, hplan]; rfl
  | answered hplan hcall hsettle => rw [Recipe.argument?, hplan]; rfl
  | shaken hplan hcall hsettle => rw [Recipe.argument?, hplan]; rfl
  | lost hplan hcall => rw [Recipe.argument?, hplan]; rfl

/-- Unless what is done with a reply panics, an item comes to what it should come to. -/
theorem element? (h : Deals recipe f treated world after)
    (hsettle : recipe.Settles) :
    Answer.element? treated.made = treated.image recipe := by
  cases h with
  | passed hplan => rw [Treated.image, hplan]; rfl
  | answered hplan hcall hsettled => rw [Treated.image, hplan]; rfl
  | @shaken _ _ _ reply _ _ middle _ hplan hcall hpanicked =>
    obtain ⟨answer, last, hdone⟩ := hsettle reply middle
    rw [hpanicked] at hdone
    cases hdone
  | lost hplan hcall => rfl

end Deals

/-! ### What becomes of a consumer -/

namespace Iter

/-- A consumer asks, also after a panic but not after an end, and receives the answers. -/
inductive Attends (iter : Iter σ τ ι) (recipe : Recipe σ ι α β γ) (f : α → Act σ β)
    (receive : Answer γ → Act σ Unit) :
    τ × σ → List (Treated ι α β γ) → List (Answer γ) → τ × σ → Prop where
  /-- It does not ask any more. -/
  | left {start : τ × σ} : Attends iter recipe f receive start [] [] start
  /-- It is told the end. -/
  | ended {start : τ × σ} {state : τ} {world later : σ} {treats : List (Treated ι α β γ)}
    (hserves : iter.Serves recipe f start treats (.ok none) (state, world))
    (hreceive : receive (.ok none) world = (.done (), later)) :
    Attends iter recipe f receive start treats [.ok none] (state, later)
  /-- It is told something else, and goes on. -/
  | more {start after : τ × σ} {state : τ} {world later : σ} {treats rest : List (Treated ι α β γ)}
    {answer : Answer γ} {answers : List (Answer γ)}
    (hserves : iter.Serves recipe f start treats answer (state, world))
    (hanswer : answer ≠ .ok none)
    (hreceive : receive answer world = (.done (), later))
    (hrest : Attends iter recipe f receive (state, later) rest answers after) :
    Attends iter recipe f receive start (treats ++ rest) (answer :: answers) after

variable {iter : Iter σ τ ι} {recipe : Recipe σ ι α β γ} {f : α → Act σ β}
  {receive : Answer γ → Act σ Unit} {start middle after : τ × σ} {treats : List (Treated ι α β γ)}
  {answer : Answer γ} {answers : List (Answer γ)}

/-- Whatever a consumer that stops at the first end is told, it has brought about such a thing. -/
theorem Attends.of_asks {steps calls : Nat}
    (h : (iter.keepSome (recipe.carry f)).asksToEnd receive steps calls start =
      (.done answers, after)) :
    ∃ treats, iter.Attends recipe f receive start treats answers after := by
  induction calls generalizing start answers with
  | zero =>
    cases h
    exact ⟨[], .left⟩
  | succ calls ih =>
    obtain ⟨answer, ⟨state, world⟩, hnext, h⟩ := Act.done_of_bind h
    obtain ⟨_, ⟨kept, later⟩, hreceive, h⟩ := Act.done_of_bind h
    obtain ⟨hreceive, hkept⟩ := Act.of_beside hreceive
    cases hkept
    obtain ⟨treats, hserves⟩ := Serves.of_next (Act.catchPanic_iff.1 hnext)
    have hmore (hanswer : answer ≠ .ok none)
        (h : (do
          return answer :: (← (iter.keepSome (recipe.carry f)).asksToEnd receive steps calls))
            (state, later) = (.done answers, after)) :
        ∃ treats, iter.Attends recipe f receive start treats answers after := by
      obtain ⟨told, last, hasks, h⟩ := Act.done_of_bind h
      cases h
      obtain ⟨rest, hattends⟩ := ih hasks
      exact ⟨treats ++ rest, .more hserves hanswer hreceive hattends⟩
    rcases answer with alarm | _ | element
    · exact hmore (by simp) h
    · cases h
      exact ⟨treats, .ended hserves hreceive⟩
    · exact hmore (by simp) h

/-! ### Nothing is repeated and nothing is skipped -/

/-- Every item has been dealt with, from some world on. -/
theorem Serves.deals (h : iter.Serves recipe f start treats answer after) :
    ∀ treated ∈ treats, ∃ world later, Deals recipe f treated world later := by
  induction h with
  | ended hpull => simp
  | broken hpull => simp
  | served hpull hdeals hmade =>
    intro treated hmem
    cases List.mem_singleton.1 hmem
    exact ⟨_, _, hdeals⟩
  | passedOver hpull hdeals hmade hrest ih =>
    intro treated hmem
    rcases List.mem_cons.1 hmem with rfl | hmem
    · exact ⟨_, _, hdeals⟩
    · exact ih treated hmem

/-- So has every item that a consumer brought about. -/
theorem Attends.deals (h : iter.Attends recipe f receive start treats answers after) :
    ∀ treated ∈ treats, ∃ world later, Deals recipe f treated world later := by
  induction h with
  | left => simp
  | ended hserves hreceive => exact hserves.deals
  | more hserves hanswer hreceive hrest ih =>
    intro treated hmem
    rcases List.mem_append.1 hmem with hmem | hmem
    · exact hserves.deals treated hmem
    · exact ih treated hmem

/-- The callable is called once for each item that takes a call, in the order of the items. -/
theorem Attends.calls (h : iter.Attends recipe f receive start treats answers after) :
    treats.filterMap Treated.argument? = (treats.map Treated.item).filterMap recipe.argument? := by
  rw [List.filterMap_map]
  refine List.filterMap_congr fun treated hmem => ?_
  obtain ⟨world, later, hdeals⟩ := h.deals treated hmem
  exact hdeals.argument?

/-- An answer brings what is made of the last item, and nothing is made of the items before. -/
theorem Serves.yields (h : iter.Serves recipe f start treats answer after) :
    treats.filterMap (fun treated => Answer.element? treated.made) =
      (Answer.element? answer).toList := by
  induction h with
  | ended hpull => rfl
  | broken hpull => rfl
  | @served _ _ _ _ treated hpull hdeals hmade =>
    cases hmade : Answer.element? treated.made <;> simp [hmade]
  | passedOver hpull hdeals hmade hrest ih =>
    rw [List.filterMap_cons, hmade]
    exact ih

/-- What is made of the items is yielded, in their order. -/
theorem Attends.made (h : iter.Attends recipe f receive start treats answers after) :
    answers.filterMap Answer.element? =
      treats.filterMap fun treated => Answer.element? treated.made := by
  induction h with
  | left => rfl
  | ended hserves hreceive => exact hserves.yields.symm
  | @more _ _ _ _ _ treats rest answer answers hserves hanswer hreceive hrest ih =>
    rw [List.filterMap_append, hserves.yields, ← ih, List.filterMap_cons]
    cases Answer.element? answer <;> rfl

/-- What is yielded are the images of the items for which the callable has not panicked. -/
theorem Attends.yields (h : iter.Attends recipe f receive start treats answers after)
    (hsettle : recipe.Settles) :
    answers.filterMap Answer.element? = treats.filterMap (Treated.image recipe) := by
  rw [h.made]
  refine List.filterMap_congr fun treated hmem => ?_
  obtain ⟨world, later, hdeals⟩ := h.deals treated hmem
  exact hdeals.element? hsettle

/-- A call takes its items off the front of what the source supplies, and all of them if it is
answered with the end. -/
theorem Serves.supplied {items : List ι} (h : iter.Serves recipe f start treats answer after)
    (hsupplies : iter.Supplies items start.1) :
    ∃ rest, items = treats.map Treated.item ++ rest ∧ (answer = .ok none → rest = []) ∧
      (answer ≠ .ok none → iter.Supplies rest after.1) := by
  induction h generalizing items with
  | ended hpull =>
    rcases hsupplies.of_pull hpull with ⟨rfl, -⟩ | ⟨item, rest, -, hexit, -⟩
    · exact ⟨[], rfl, fun _ => rfl, fun hmore => absurd rfl hmore⟩
    · cases hexit
  | broken hpull =>
    rcases hsupplies.of_pull hpull with ⟨-, hexit⟩ | ⟨item, rest, -, hexit, -⟩
    all_goals cases hexit
  | served hpull hdeals hmade =>
    rcases hsupplies.of_pull hpull with ⟨-, hexit⟩ | ⟨item, rest, rfl, hexit, hrest⟩
    · cases hexit
    · cases hexit
      exact ⟨rest, rfl, fun hend => absurd hend hmade, fun _ => hrest⟩
  | passedOver hpull hdeals hmade hserves ih =>
    rcases hsupplies.of_pull hpull with ⟨-, hexit⟩ | ⟨item, rest, rfl, hexit, hrest⟩
    · cases hexit
    · cases hexit
      obtain ⟨left, rfl, hleft⟩ := ih hrest
      exact ⟨left, rfl, hleft⟩

/-- The items that a consumer has brought about are pulled off the front of what the source
supplies, and they are all of it once the consumer has been told the end. -/
theorem Attends.supplied {items : List ι}
    (h : iter.Attends recipe f receive start treats answers after)
    (hsupplies : iter.Supplies items start.1) :
    ∃ rest, items = treats.map Treated.item ++ rest ∧ (.ok none ∈ answers → rest = []) := by
  induction h generalizing items with
  | left => exact ⟨items, rfl, fun hmem => absurd hmem (by simp)⟩
  | ended hserves hreceive =>
    obtain ⟨rest, rfl, hend, -⟩ := hserves.supplied hsupplies
    exact ⟨rest, rfl, fun _ => hend rfl⟩
  | more hserves hanswer hreceive hattends ih =>
    obtain ⟨left, rfl, -, hleft⟩ := hserves.supplied hsupplies
    obtain ⟨rest, rfl, hrest⟩ := ih (hleft hanswer)
    refine ⟨rest, by rw [List.map_append, List.append_assoc], fun hmem => hrest ?_⟩
    rcases List.mem_cons.1 hmem with hsame | hmem
    · exact absurd hsame.symm hanswer
    · exact hmem

/-! ### The end is reached -/

/-- A consumer that is told an answer which is not the end goes on. -/
theorem asksToEnd_cons {adapter : Iter σ τ γ} {steps calls : Nat} {state : τ} {world later : σ}
    (hnext : adapter.next steps start = (.ofCaught answer, state, world))
    (hanswer : answer ≠ .ok none)
    (hreceive : receive answer world = (.done (), later))
    (hasks : adapter.asksToEnd receive steps calls (state, later) = (.done answers, after)) :
    adapter.asksToEnd receive steps (calls + 1) start = (.done (answer :: answers), after) := by
  rw [asksToEnd, Act.bind_of_done (Act.catchPanic_iff.2 hnext),
    Act.bind_of_done (Act.beside_eq hreceive state)]
  rcases answer with alarm | _ | element
  · exact Act.bind_of_done hasks _
  · exact absurd rfl hanswer
  · exact Act.bind_of_done hasks _

/-- A consumer that asks often enough, with enough steps for each call, is told all this. -/
theorem Attends.asks (h : iter.Attends recipe f receive start treats answers after) :
    ∃ steps calls, (iter.keepSome (recipe.carry f)).asksToEnd receive steps calls start =
      (.done answers, after) := by
  induction h with
  | left => exact ⟨0, 0, rfl⟩
  | @ended start state world later treats hserves hreceive =>
    obtain ⟨-, steps, hnext⟩ := hserves.pull
    have hcaught : ((iter.keepSome (recipe.carry f)).next steps).catchPanic start =
        (.done (.ok none), state, world) := Act.catchPanic_iff.2 hnext
    refine ⟨steps, 1, ?_⟩
    rw [asksToEnd, Act.bind_of_done hcaught, Act.bind_of_done (Act.beside_eq hreceive state)]
    rfl
  | @more start after state world later treats rest answer answers hserves hanswer hreceive hrest
      ih =>
    obtain ⟨hends, used, hnext⟩ := hserves.pull
    obtain ⟨steps, calls, hasks⟩ := ih
    -- The call and the calls after it are all allowed as many steps as the one that takes most.
    have hfirst : (iter.keepSome (recipe.carry f)).next (max used steps) start =
        (.ofCaught answer, state, world) := by
      rw [next_within _ (Nat.le_max_left used steps) start (by simpa [hnext] using hends), hnext]
    have hlater : (iter.keepSome (recipe.carry f)).asksToEnd receive (max used steps) calls
        (state, later) = (.done answers, after) := by
      rw [asksToEnd_within _ receive (Nat.le_max_right used steps) calls _ (by simp [hasks]), hasks]
    exact ⟨max used steps, calls + 1, asksToEnd_cons hfirst hanswer hreceive hlater⟩

/-- An item of which nothing is made comes before the others of the call that pulled it. -/
theorem Attends.passedOver {state : τ} {world later : σ} {treated : Treated ι α β γ}
    (hpull : iter.Pull start (.done (some treated.item)) (state, world))
    (hdeals : Deals recipe f treated world later) (hmade : treated.made = .ok none)
    (h : iter.Attends recipe f receive (state, later) treats answers after)
    (htold : answers ≠ []) :
    iter.Attends recipe f receive start (treated :: treats) answers after := by
  cases h with
  | left => exact absurd rfl htold
  | ended hserves hreceive => exact .ended (.passedOver hpull hdeals hmade hserves) hreceive
  | more hserves hanswer hreceive hrest =>
    exact .more (.passedOver hpull hdeals hmade hserves) hanswer hreceive hrest

/-- Where the source supplies its items, a consumer can go on until it is told the end. -/
theorem Supplies.attends {items : List ι} {state : τ} (hsupplies : iter.Supplies items state)
    (hcarry : ∀ item, (recipe.carry f item).Finishes)
    (hreceive : ∀ answer, (receive answer).Returns) (world : σ) :
    ∃ treats answers after,
      iter.Attends recipe f receive (state, world) treats answers after ∧ .ok none ∈ answers := by
  induction items generalizing state world with
  | nil =>
    obtain ⟨⟨next, place⟩, hpull⟩ := hsupplies world
    obtain ⟨_, later, hreceived⟩ := hreceive (.ok none) place
    exact ⟨_, _, _, .ended (.ended hpull) hreceived, List.mem_singleton_self _⟩
  | cons item rest ih =>
    obtain ⟨next, place, hpull, hrest⟩ := hsupplies world
    obtain ⟨call, made, later, hdeals⟩ := Deals.of_finishes (hcarry item) place
    by_cases hnone : made = .ok none
    · obtain ⟨treats, answers, after, hattends, hmem⟩ := ih hrest later
      exact ⟨_, answers, after,
        hattends.passedOver hpull hdeals hnone (List.ne_nil_of_mem hmem), hmem⟩
    · obtain ⟨_, received, hreceived⟩ := hreceive made later
      obtain ⟨treats, answers, after, hattends, hmem⟩ := ih hrest received
      exact ⟨_, _, after, .more (.served hpull hdeals hnone) hnone hreceived hattends,
        List.mem_cons_of_mem made hmem⟩

/-! ### Adapters that lose one item to a panic -/

/-- What there is to say of a consumer that stops at the first end, of the items that have been
pulled for it, and of its answers. -/
structure Recounts (iter : Iter σ τ ι) (recipe : Recipe σ ι α β γ) (f : α → Act σ β)
    (receive : Answer γ → Act σ Unit) (start : τ × σ) (treats : List (Treated ι α β γ))
    (answers : List (Answer γ)) (after : τ × σ) : Prop where
  /-- Each item is pulled once, dealt with once, and then gone, also if the callable panics. The
  source is pulled again only where nothing came of an item, or after the consumer has received an
  answer. -/
  attends : iter.Attends recipe f receive start treats answers after
  /-- The callable is called once for each item that it applies to, in the order of the items. -/
  calls : treats.filterMap Treated.argument? = (treats.map Treated.item).filterMap recipe.argument?
  /-- What is made of the items is yielded, each once and in their order. -/
  made : answers.filterMap Answer.element? =
    treats.filterMap fun treated => Answer.element? treated.made
  /-- If nothing but the callable panics, that is what should be made of the items for which the
  callable has not panicked. -/
  yields : recipe.Settles →
    answers.filterMap Answer.element? = treats.filterMap (Treated.image recipe)
  /-- The items are the first of those that the source supplies, and they are all of these once the
  consumer has been told the end. -/
  supplied : ∀ items, iter.Supplies items start.1 →
    ∃ rest, items = treats.map Treated.item ++ rest ∧ (.ok none ∈ answers → rest = [])

/-- An adapter goes on after its callable has panicked, without the item. -/
structure Survives (adapter : Iter σ τ γ) (iter : Iter σ τ ι) (recipe : Recipe σ ι α β γ)
    (f : α → Act σ β) : Prop where
  /-- Whatever a consumer is told, it has been dealt with items in this way. -/
  recounts : ∀ receive steps calls start answers after,
    adapter.asksToEnd receive steps calls start = (.done answers, after) →
      ∃ treats, iter.Recounts recipe f receive start treats answers after
  /-- A consumer that asks often enough is told all that can come of its source so. -/
  tells : ∀ receive start treats answers after,
    iter.Attends recipe f receive start treats answers after →
      ∃ steps calls, adapter.asksToEnd receive steps calls start = (.done answers, after)
  /-- So it is told the end of a source that has one, however often the callable panics. -/
  ends : ∀ receive items state, iter.Supplies items state →
    (∀ item, (recipe.carry f item).Finishes) → (∀ answer, (receive answer).Returns) → ∀ world,
      ∃ steps calls answers after,
        adapter.asksToEnd receive steps calls (state, world) = (.done answers, after) ∧
          .ok none ∈ answers

/-- An adapter that deals with single items by a recipe survives. -/
theorem Survives.of_step {adapter : Iter σ τ γ}
    (hstep : adapter.step = (iter.keepSome (recipe.carry f)).step) :
    adapter.Survives iter recipe f where
  recounts receive steps calls start answers after hasks := by
    rw [asksToEnd_congr hstep] at hasks
    obtain ⟨treats, hattends⟩ := Attends.of_asks hasks
    exact ⟨treats, hattends, hattends.calls, hattends.made, hattends.yields,
      fun items hsupplies => hattends.supplied hsupplies⟩
  tells receive start treats answers after hattends := by
    simp only [asksToEnd_congr hstep]
    exact hattends.asks
  ends receive items state hsupplies hcarry hreceive world := by
    obtain ⟨treats, answers, after, hattends, hmem⟩ := hsupplies.attends hcarry hreceive world
    obtain ⟨steps, calls, hasks⟩ := hattends.asks
    rw [← asksToEnd_congr hstep] at hasks
    exact ⟨steps, calls, answers, after, hasks, hmem⟩

/-- Panics of callables lose the items for which they were called, and nothing else: for every
source, every callable and every consumer that goes on after panics. A function that panics is not
followed by anything: no failure is stored. -/
theorem panics_lose_one :
    (∀ (iter : Iter σ τ (Deferred ε α)) (handler : ε → Act σ Unit),
      (iter.handling handler).Survives iter Recipe.handle handler ∧
        (Recipe.handle : Recipe σ (Deferred ε α) ε Unit α).Settles) ∧
    (∀ (iter : Iter σ τ (Deferred ε α)) (test : α → Act σ Bool),
      (iter.sift test).Survives iter Recipe.sift test ∧
        (Recipe.sift : Recipe σ (Deferred ε α) α Bool (Deferred ε α)).Settles) ∧
    ∀ (inputs : Iter (World ω κ) τ ι) (type : FailureType ω κ ε) (f : ι → Run ω κ (Except ε α)),
      (inputs.map (Capture.function type f)).Survives inputs (Recipe.capture type) f ∧
        ((∀ failure, (type.cancellation failure).Returns) →
          (Recipe.capture type : Recipe (World ω κ) ι ι (Except ε α) (Deferred ε α)).Settles) ∧
        ∀ input world alarm after, f input world = (.panicked alarm, after) →
          Capture.function type f input world = (.panicked alarm, after) ∧
            type.captureBoxings (f input) world = [] := by
  refine ⟨fun iter handler => ⟨.of_step (handling_step_carry iter handler), ?handle⟩,
    fun iter test => ⟨.of_step (sift_step_carry iter test), ?sift⟩,
    fun inputs type f => ⟨.of_step (capture_step_carry inputs type f), ?capture, ?panicked⟩⟩
  case handle => exact Recipe.ofPlan_settles Plan.handle
  case sift => exact Recipe.ofPlan_settles Plan.sift
  case capture => exact Recipe.capture_settles
  case panicked =>
    intro input world alarm after hpanicked
    exact ⟨Act.bind_of_panicked hpanicked _, Act.thereafter_of_panicked hpanicked⟩

end Iter

/-- The handler panics with the second failure, and only that is lost. -/
example (world : Script.ScriptWorld) :
    let source : Script.Source (Deferred Nat Nat) :=
      ⟨[some (.failure 1), some (.value 5), some (.failure 2), some (.value 6)], none, false⟩
    let handler : Nat → Script.ScriptRun Unit := fun failure =>
      if failure = 2 then .panic .object else pure ()
    (((source.iter pure).handling handler).asksToEnd (fun _ => pure ()) 3 5 (0, world)).1 =
      .done [.ok (some 5), .error .object, .ok (some 6), .ok none] := rfl

end Deferral
