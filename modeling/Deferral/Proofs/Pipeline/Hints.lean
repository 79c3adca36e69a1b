import Deferral.Proofs.Pipeline.Panics
import Deferral.Proofs.Pipeline.Spreading

/-!
# Sound bounds

The bounds that an iterator reports are sound in a state if they hold of whatever comes of it: of
every row of calls of `next`, in whatever worlds these are made, that leads up to an end. A call of
an adapter makes calls of what it adapts, and of these at least as many bring an element. So an
adapter that may drop elements can report the upper bound of what it adapts, and one that drops none
can report the lower one, too. Soundness is kept by every adapter, and so by every stack of them.
-/

namespace Deferral

variable {σ τ υ ι ε α β γ : Type}

/-! ### Counting answers -/

namespace Answer

/-- A call that was answered with a panic. -/
def isPanic : Answer γ → Bool
  | .ok _ => false
  | .error _ => true

/-- How many elements answers bring. -/
def yielded (answers : List (Answer γ)) : Nat := (answers.filterMap element?).length

/-- How many calls were answered with a panic, and so have lost the element that they were for. -/
def lost (answers : List (Answer γ)) : Nat := answers.countP isPanic

/-- Answers behind others bring their elements besides those of the others. -/
theorem yielded_append (first second : List (Answer γ)) :
    yielded (first ++ second) = yielded first + yielded second := by
  rw [yielded, List.filterMap_append, List.length_append, yielded, yielded]

/-- The first answer brings its element besides those of the rest. -/
theorem yielded_cons (answer : Answer γ) (answers : List (Answer γ)) :
    yielded (answer :: answers) = yielded [answer] + yielded answers :=
  yielded_append [answer] answers

/-- The first answer may have lost an element besides those that the rest have. -/
theorem lost_cons (answer : Answer γ) (answers : List (Answer γ)) :
    lost (answer :: answers) = lost [answer] + lost answers := by
  rw [lost, ← List.singleton_append, List.countP_append]
  rfl

/-- Before an end, every call brings an element or loses one. -/
theorem yielded_add_lost {answers : List (Answer γ)} (hmore : .ok none ∉ answers) :
    yielded answers + lost answers = answers.length := by
  induction answers with
  | nil => rfl
  | cons answer answers ih =>
    have hanswer : answer ≠ .ok none := fun hend => hmore (hend ▸ List.mem_cons_self)
    have hrest : yielded answers + lost answers = answers.length :=
      ih fun hmem => hmore (List.mem_cons_of_mem answer hmem)
    have hcount : yielded [answer] + lost [answer] = 1 := by
      rcases answer with alarm | _ | element
      · rfl
      · exact absurd rfl hanswer
      · rfl
    rw [yielded_cons, lost_cons, List.length_cons]
    omega

end Answer

/-! ### Rows of calls -/

namespace Iter

/-- A call of `next`, made in some world, is answered so. If the consumer does not go on after
panics, a call that panics does not count. -/
structure Call (goesOn : Prop) (iter : Iter σ τ α) (state : τ) (answer : Answer α) (next : τ) :
    Prop where
  pull : ∃ world after, iter.Pull (state, world) (.ofCaught answer) (next, after)
  panic : answer.isPanic → goesOn

/-- Calls are made one after the other. Between two of them, the world may change in any way. -/
inductive CallRow (goesOn : Prop) (iter : Iter σ τ α) : τ → List (Answer α) → τ → Prop where
  | nil {state : τ} : CallRow goesOn iter state [] state
  | cons {state middle last : τ} {answer : Answer α} {answers : List (Answer α)}
    (hcall : iter.Call goesOn state answer middle)
    (hcalls : CallRow goesOn iter middle answers last) :
    CallRow goesOn iter state (answer :: answers) last

/-- The bounds that are reported in a state hold of all calls up to the next end. -/
structure SoundAt (goesOn : Prop) (iter : Iter σ τ α) (state : τ) : Prop where
  /-- No more elements come than the upper bound says, if there is one. -/
  upper : ∀ {answers last bound}, iter.CallRow goesOn state answers last → .ok none ∉ answers →
    (iter.hint state).upper = some bound → Answer.yielded answers ≤ bound
  /-- If an end comes, as many elements have come, or were lost, as the lower bound says. -/
  lower : ∀ {answers last ended}, iter.CallRow goesOn state answers last → .ok none ∉ answers →
    iter.Call goesOn last (.ok none) ended →
      (iter.hint state).lower ≤ Answer.yielded answers + Answer.lost answers

/-- The bounds are sound now, and they will be after any number of calls. -/
def SoundFrom (goesOn : Prop) (iter : Iter σ τ α) (start : τ) : Prop :=
  ∀ answers last, iter.CallRow goesOn start answers last → iter.SoundAt goesOn last

variable {goesOn : Prop} {iter : Iter σ τ ι} {adapter : Iter σ τ γ} {state start middle last : τ}

/-- A pull that returns is a call. -/
theorem Call.of_done {world after : σ} {element : Option ι}
    (hpull : iter.Pull (state, world) (.done element) (last, after)) :
    iter.Call goesOn state (.ok element) last :=
  ⟨⟨world, after, hpull⟩, by simp [Answer.isPanic]⟩

/-- A pull that panics is a call if the consumer goes on. -/
theorem Call.of_panicked {world after : σ} {alarm : Alarm} (hgoesOn : goesOn)
    (hpull : iter.Pull (state, world) (.panicked alarm) (last, after)) :
    iter.Call goesOn state (.error alarm) last :=
  ⟨⟨world, after, hpull⟩, fun _ => hgoesOn⟩

/-- Calls may follow on calls. -/
theorem CallRow.append {first second : List (Answer ι)}
    (hfirst : iter.CallRow goesOn start first middle)
    (hsecond : iter.CallRow goesOn middle second last) :
    iter.CallRow goesOn start (first ++ second) last := by
  induction hfirst with
  | nil => exact hsecond
  | cons hcall hcalls ih => exact .cons hcall (ih hsecond)

/-- A consumer that asks any number of times, and goes on after ends and panics, makes such a row,
whatever it does with the answers. -/
theorem CallRow.of_asks {receive : Answer ι → Act σ Unit} {steps calls : Nat} {world after : σ}
    {answers : List (Answer ι)} (hgoesOn : goesOn)
    (h : iter.asks receive steps calls (start, world) = (.done answers, last, after)) :
    iter.CallRow goesOn start answers last := by
  induction calls generalizing start world answers with
  | zero =>
    cases h
    exact .nil
  | succ calls ih =>
    obtain ⟨answer, ⟨middle, place⟩, hcaught, hreceived⟩ := Act.done_of_bind h
    obtain ⟨_, ⟨kept, later⟩, hreceive, hasked⟩ := Act.done_of_bind hreceived
    obtain ⟨-, hkept⟩ := Act.of_beside hreceive
    obtain ⟨told, ⟨state, rest⟩, hasks, hanswers⟩ := Act.done_of_bind hasked
    cases hkept
    cases hanswers
    have hnext : iter.next steps (start, world) = (.ofCaught answer, middle, place) :=
      Act.catchPanic_iff.1 hcaught
    have hends : Exit.ofCaught answer ≠ .unfinished := by cases answer <;> simp [Exit.ofCaught]
    have hcall : iter.Call goesOn start answer middle :=
      ⟨⟨world, place, hends, steps, hnext⟩, fun _ => hgoesOn⟩
    exact .cons hcall (ih hasks)

/-- A consumer that does not go on after panics loses nothing. -/
theorem CallRow.lost_eq_zero {answers : List (Answer ι)}
    (h : iter.CallRow goesOn start answers last) (hstops : ¬goesOn) : Answer.lost answers = 0 := by
  induction h with
  | nil => rfl
  | @cons _ _ _ answer answers hcall hcalls ih =>
    have hanswer : answer.isPanic = false := by
      cases hpanic : answer.isPanic
      · rfl
      · exact absurd (hcall.panic hpanic) hstops
    rw [Answer.lost, List.countP_cons, hanswer]
    exact ih

end Iter

/-! ### What an adapter asks for -/

/-- Something comes of every item: an element, or a panic. -/
def Recipe.Total (recipe : Recipe σ ι α β γ) (f : α → Act σ β) : Prop :=
  ∀ treated world later, Deals recipe f treated world later → treated.made ≠ .ok none

namespace Iter

variable {goesOn : Prop} {iter : Iter σ τ ι} {adapter : Iter σ τ γ} {state start middle last : τ}

section

variable {recipe : Recipe σ ι α β γ} {f : α → Act σ β}

/-- A call of an adapter makes calls of what it adapts. Only the last of them can be answered with
the end, and at least as many of them bring an element. -/
theorem Serves.calls {start after : τ × σ} {treats : List (Treated ι α β γ)} {answer : Answer γ}
    (h : iter.Serves recipe f start treats answer after) (hpanic : answer.isPanic → goesOn) :
    ∃ passed, iter.CallRow goesOn start.1 passed after.1 ∧
      (.ok none ∈ passed → answer = .ok none) ∧
        Answer.yielded [answer] ≤ Answer.yielded passed := by
  induction h with
  | @ended start after hpull =>
    have hcall : iter.Call goesOn start.1 (.ok none) after.1 := .of_done hpull
    exact ⟨[.ok none], .cons hcall .nil, fun _ => rfl, Nat.zero_le _⟩
  | @broken start after alarm hpull =>
    have hcall : iter.Call goesOn start.1 (.error alarm) after.1 := .of_panicked (hpanic rfl) hpull
    exact ⟨[.error alarm], .cons hcall .nil, by simp, Nat.zero_le _⟩
  | @served start state world later treated hpull hdeals hmade =>
    have hcall : iter.Call goesOn start.1 (.ok (some treated.item)) state := .of_done hpull
    refine ⟨[.ok (some treated.item)], .cons hcall .nil, by simp, ?_⟩
    exact List.length_filterMap_le _ _
  | @passedOver start after state world later treated treats answer hpull hdeals hmade hrest ih =>
    have hcall : iter.Call goesOn start.1 (.ok (some treated.item)) state := .of_done hpull
    obtain ⟨passed, hcalls, hend, hyielded⟩ := ih hpanic
    refine ⟨.ok (some treated.item) :: passed, .cons hcall hcalls, ?_, ?_⟩
    · intro hmem
      rcases List.mem_cons.1 hmem with hsame | hmem
      · cases hsame
      · exact hend hmem
    · calc Answer.yielded [answer] ≤ Answer.yielded passed := hyielded
        _ ≤ Answer.yielded [.ok (some treated.item)] + Answer.yielded passed := Nat.le_add_left _ _
        _ = Answer.yielded (.ok (some treated.item) :: passed) := (Answer.yielded_cons _ _).symm

/-- If something comes of every item, a call of an adapter makes one call of what it adapts, and
both are answered with the end or neither. -/
theorem Serves.call_of_total {start after : τ × σ} {treats : List (Treated ι α β γ)}
    {answer : Answer γ} (h : iter.Serves recipe f start treats answer after)
    (htotal : recipe.Total f) (hpanic : answer.isPanic → goesOn) :
    ∃ pulled, iter.Call goesOn start.1 pulled after.1 ∧
      (pulled = .ok none ↔ answer = .ok none) := by
  cases h with
  | ended hpull => exact ⟨.ok none, .of_done hpull, iff_of_true rfl rfl⟩
  | @broken _ _ alarm hpull =>
    exact ⟨.error alarm, .of_panicked (hpanic rfl) hpull, iff_of_false (by simp) (by simp)⟩
  | @served _ state world later treated hpull hdeals hmade =>
    exact ⟨.ok (some treated.item), .of_done hpull, iff_of_false (by simp) hmade⟩
  | passedOver hpull hdeals hmade hrest => exact absurd hmade (htotal _ _ _ hdeals)

/-- A call of an adapter that goes by a recipe. -/
theorem Call.serves {answer : Answer γ}
    (hstep : adapter.step = (iter.keepSome (recipe.carry f)).step)
    (h : adapter.Call goesOn state answer last) :
    ∃ treats world after, iter.Serves recipe f (state, world) treats answer (last, after) := by
  obtain ⟨world, after, hpull⟩ := h.pull
  obtain ⟨treats, hserves⟩ := ((Responds.of_step hstep).answers _ _ _).1 hpull
  exact ⟨treats, world, after, hserves⟩

/-- Calls of an adapter make calls of what it adapts. These do not pass its end before the adapter
has come to its own, and at least as many of them bring an element. -/
theorem CallRow.pulls {answers : List (Answer γ)}
    (hstep : adapter.step = (iter.keepSome (recipe.carry f)).step)
    (h : adapter.CallRow goesOn start answers last) :
    ∃ passed, iter.CallRow goesOn start passed last ∧ (.ok none ∈ passed → .ok none ∈ answers) ∧
      Answer.yielded answers ≤ Answer.yielded passed := by
  induction h with
  | nil => exact ⟨[], .nil, by simp, Nat.le_refl _⟩
  | @cons state middle last answer answers hcall hcalls ih =>
    obtain ⟨treats, world, after, hserves⟩ := hcall.serves hstep
    obtain ⟨first, hfirst, hend, hyielded⟩ := hserves.calls hcall.panic
    obtain ⟨rest, hrest, hlater, hcount⟩ := ih
    refine ⟨first ++ rest, hfirst.append hrest, fun hmem => ?_, ?_⟩
    · rcases List.mem_append.1 hmem with hmem | hmem
      · rw [hend hmem]
        exact List.mem_cons_self
      · exact List.mem_cons_of_mem answer (hlater hmem)
    · rw [Answer.yielded_cons, Answer.yielded_append]
      omega

/-- If something comes of every item, they make as many calls. -/
theorem CallRow.pulls_of_total {answers : List (Answer γ)}
    (hstep : adapter.step = (iter.keepSome (recipe.carry f)).step) (htotal : recipe.Total f)
    (h : adapter.CallRow goesOn start answers last) :
    ∃ passed, iter.CallRow goesOn start passed last ∧ (.ok none ∈ passed → .ok none ∈ answers) ∧
      passed.length = answers.length := by
  induction h with
  | nil => exact ⟨[], .nil, by simp, rfl⟩
  | @cons state middle last answer answers hcall hcalls ih =>
    obtain ⟨treats, world, after, hserves⟩ := hcall.serves hstep
    obtain ⟨pulled, hpulled, hend⟩ := hserves.call_of_total htotal hcall.panic
    obtain ⟨passed, hpassed, hlater, hlength⟩ := ih
    refine ⟨pulled :: passed, .cons hpulled hpassed, fun hmem => ?_, congrArg (· + 1) hlength⟩
    rcases List.mem_cons.1 hmem with hsame | hmem
    · rw [hend.1 hsame.symm]
      exact List.mem_cons_self
    · exact List.mem_cons_of_mem answer (hlater hmem)

end

/-! ### Adapters keep bounds sound -/

section

variable {recipe : Recipe σ ι α β γ} {f : α → Act σ β}

/-- What is adapted bounds what an adapter yields. -/
theorem SoundAt.upper_adapter (hstep : adapter.step = (iter.keepSome (recipe.carry f)).step)
    (h : iter.SoundAt goesOn state) {answers : List (Answer γ)} {bound : Nat}
    (hcalls : adapter.CallRow goesOn state answers last) (hmore : .ok none ∉ answers)
    (hbound : (iter.hint state).upper = some bound) : Answer.yielded answers ≤ bound := by
  obtain ⟨passed, hpassed, hend, hyielded⟩ := hcalls.pulls hstep
  have hmoreBelow : .ok none ∉ passed := fun hmem => hmore (hend hmem)
  exact Nat.le_trans hyielded (h.upper hpassed hmoreBelow hbound)

/-- An adapter that may drop elements reports sound bounds if it reports no lower one. -/
theorem SoundFrom.upTo (hstep : adapter.step = (iter.keepSome (recipe.carry f)).step)
    (hhint : ∀ state, adapter.hint state = (iter.hint state).upTo)
    (h : iter.SoundFrom goesOn start) : adapter.SoundFrom goesOn start := by
  intro before state hbefore
  obtain ⟨earlier, hearlier, -, -⟩ := hbefore.pulls hstep
  have hsound := h _ _ hearlier
  constructor
  case upper =>
    intro answers last bound hcalls hmore hbound
    rw [hhint] at hbound
    exact hsound.upper_adapter hstep hcalls hmore hbound
  case lower =>
    intro answers last ended hcalls hmore hended
    rw [hhint]
    exact Nat.zero_le _

/-- An adapter that drops no elements reports the bounds of what it adapts. -/
theorem SoundFrom.total (hstep : adapter.step = (iter.keepSome (recipe.carry f)).step)
    (htotal : recipe.Total f) (hhint : adapter.hint = iter.hint) (h : iter.SoundFrom goesOn start) :
    adapter.SoundFrom goesOn start := by
  intro before state hbefore
  obtain ⟨earlier, hearlier, -, -⟩ := hbefore.pulls hstep
  have hsound := h _ _ hearlier
  constructor
  case upper =>
    intro answers last bound hcalls hmore hbound
    rw [hhint] at hbound
    exact hsound.upper_adapter hstep hcalls hmore hbound
  case lower =>
    intro answers last ended hcalls hmore hended
    obtain ⟨passed, hpassed, hend, hlength⟩ := hcalls.pulls_of_total hstep htotal
    obtain ⟨treats, world, after, hserves⟩ := hended.serves hstep
    obtain ⟨pulled, hpulled, hiff⟩ := hserves.call_of_total htotal hended.panic
    cases hiff.2 rfl
    have hmoreBelow : .ok none ∉ passed := fun hmem => hmore (hend hmem)
    calc (adapter.hint state).lower = (iter.hint state).lower := by rw [hhint]
      _ ≤ Answer.yielded passed + Answer.lost passed := hsound.lower hpassed hmoreBelow hpulled
      _ = passed.length := Answer.yielded_add_lost hmoreBelow
      _ = answers.length := hlength
      _ = Answer.yielded answers + Answer.lost answers := (Answer.yielded_add_lost hmore).symm

end

end Iter

/-- Every element is handed to the function, and what that returns is yielded. -/
def Recipe.each : Recipe σ α α β β := ofPlan fun element => .consult element some

/-- The function returns an element, or it panics. -/
theorem Recipe.each_total (f : α → Act σ β) : Recipe.each.Total f := by
  intro treated world later h
  cases h with
  | passed hplan => cases hplan
  | answered hplan hcall hsettle =>
    cases hplan
    simp
  | shaken hplan hcall hsettle => simp
  | lost hplan hcall => simp

namespace Iter

/-- Mapping goes by its recipe. -/
theorem map_step_carry (iter : Iter σ τ α) (f : α → Act σ β) :
    (iter.map f).step = (iter.keepSome (Recipe.each.carry f)).step := by
  rw [map_step]
  refine congrArg (fun f => (iter.keepSome f).step) (funext fun element => ?_)
  rw [map_eq_pure_bind, Recipe.each, Recipe.ofPlan_carry]
  rfl

variable {goesOn : Prop} {start : τ}

/-- Bounds stay sound when failures are handed to a handler. -/
theorem SoundFrom.handling {iter : Iter σ τ (Deferred ε α)} (h : iter.SoundFrom goesOn start)
    (handler : ε → Act σ Unit) : (iter.handling handler).SoundFrom goesOn start :=
  h.upTo (handling_step_carry iter handler) fun _ => rfl

/-- Bounds stay sound when values are kept that pass a test. -/
theorem SoundFrom.sift {iter : Iter σ τ (Deferred ε α)} (h : iter.SoundFrom goesOn start)
    (test : α → Act σ Bool) : (iter.sift test).SoundFrom goesOn start :=
  h.upTo (sift_step_carry iter test) fun _ => rfl

/-- Bounds stay sound when elements are turned into something else. -/
theorem SoundFrom.map {iter : Iter σ τ α} (h : iter.SoundFrom goesOn start) (f : α → Act σ β) :
    (iter.map f).SoundFrom goesOn start :=
  h.total (map_step_carry iter f) (Recipe.each_total f) rfl

end Iter

/-! ### Spreading keeps bounds sound -/

namespace Spread

variable {goesOn : Prop} {sequence : Iter σ τ α}

/-- A call on a sequence that did not fail is a call on the sequence. -/
theorem call_values {state : τ} {answer : Answer (Deferred ε α)} {next : Spread ε τ}
    (h : (iter sequence).Call goesOn (.values state) answer next) :
    ∃ told after, answer = asValue told ∧ next = .values after ∧
      sequence.Call goesOn state told after := by
  obtain ⟨world, last, -, steps, hnext⟩ := h.pull
  rw [reads_next sequence steps state world, onValues, map_eq_pure_bind, Act.bind_apply] at hnext
  rcases hcall : sequence.next steps (state, world) with ⟨element | alarm | _, after, later⟩
  all_goals rw [hcall] at hnext; cases answer <;> cases hnext
  case done =>
    have hpull : sequence.Pull (state, world) (.done element) (after, last) :=
      ⟨by simp, steps, hcall⟩
    exact ⟨.ok element, after, rfl, rfl, .of_done hpull⟩
  case panicked =>
    have hpull : sequence.Pull (state, world) (.panicked alarm) (after, last) :=
      ⟨by simp, steps, hcall⟩
    exact ⟨.error alarm, after, rfl, rfl, .of_panicked (h.panic rfl) hpull⟩

/-- So are all calls. -/
theorem callRow_values {state : τ} {answers : List (Answer (Deferred ε α))} {last : Spread ε τ}
    (h : (iter sequence).CallRow goesOn (.values state) answers last) :
    ∃ told after, answers = told.map asValue ∧ last = .values after ∧
      sequence.CallRow goesOn state told after := by
  generalize hstart : (Spread.values state : Spread ε τ) = start at h
  induction h generalizing state with
  | nil => exact ⟨[], state, rfl, hstart.symm, .nil⟩
  | cons hcall hcalls ih =>
    subst hstart
    obtain ⟨first, middle, rfl, rfl, hfirst⟩ := call_values hcall
    obtain ⟨rest, after, rfl, rfl, hrest⟩ := ih rfl
    exact ⟨first :: rest, after, rfl, rfl, .cons hfirst hrest⟩

/-- A value counts as much as the element that it is. -/
theorem yielded_asValue (told : List (Answer α)) :
    Answer.yielded (told.map asValue : List (Answer (Deferred ε α))) = Answer.yielded told := by
  have helement (answer : Answer α) : Answer.element? (asValue answer : Answer (Deferred ε α)) =
      (Answer.element? answer).map .value := by
    rcases answer with alarm | _ | element <;> rfl
  have hmap : told.filterMap (Answer.element? ∘ asValue) =
      (told.filterMap Answer.element?).map (Deferred.value : α → Deferred ε α) := by
    rw [List.map_filterMap]
    exact congrArg (fun f => told.filterMap f) (funext helement)
  rw [Answer.yielded, List.filterMap_map, hmap, List.length_map, Answer.yielded]

/-- A value that is lost counts as much as the element that it is. -/
theorem lost_asValue (told : List (Answer α)) :
    Answer.lost (told.map asValue : List (Answer (Deferred ε α))) = Answer.lost told := by
  rw [Answer.lost, List.countP_map, Answer.lost]
  refine congrArg (fun p => told.countP p) (funext fun answer => ?_)
  cases answer <;> rfl

/-- The bounds of a sequence stay sound when it is spread. -/
theorem soundFrom_values {state : τ} (h : sequence.SoundFrom goesOn state) :
    (iter sequence : Iter σ (Spread ε τ) (Deferred ε α)).SoundFrom goesOn (.values state) := by
  intro before last hbefore
  obtain ⟨earlier, middle, -, rfl, hearlier⟩ := callRow_values hbefore
  have hsound := h _ _ hearlier
  have hend (told : List (Answer α)) (hmem : .ok none ∈ told) :
      .ok none ∈ (told.map asValue : List (Answer (Deferred ε α))) :=
    List.mem_map.2 ⟨.ok none, hmem, rfl⟩
  constructor
  case upper =>
    intro answers last bound hcalls hmore hbound
    obtain ⟨told, after, rfl, rfl, htold⟩ := callRow_values hcalls
    rw [yielded_asValue]
    exact hsound.upper htold (fun hmem => hmore (hend told hmem)) hbound
  case lower =>
    intro answers last ended hcalls hmore hended
    obtain ⟨told, after, rfl, rfl, htold⟩ := callRow_values hcalls
    obtain ⟨pulled, later, hpulled, -, hcall⟩ := call_values hended
    cases asValue_eq_end.1 hpulled.symm
    rw [yielded_asValue, lost_asValue]
    exact hsound.lower htold (fun hmem => hmore (hend told hmem)) hcall

/-- A call gives the failure away that is left. -/
theorem call_failed {left : Option ε} {answer : Answer (Deferred ε α)} {next : Spread ε τ}
    (h : (iter sequence).Call goesOn (.failed left) answer next) :
    answer = .ok (left.map .failure) ∧ next = .failed none := by
  obtain ⟨world, last, -, steps, hnext⟩ := h.pull
  cases steps with
  | zero => cases answer <;> cases hnext
  | succ steps =>
    cases left
    all_goals
      cases answer <;> cases hnext
      exact ⟨rfl, rfl⟩

/-- So do all calls: the first gives the failure away, and the others come to the end. -/
theorem callRow_failed {left : Option ε} {answers : List (Answer (Deferred ε α))}
    {last : Spread ε τ} (h : (iter sequence).CallRow goesOn (.failed left) answers last) :
    answers = givenAway left answers.length ∧ ∃ kept, last = .failed kept := by
  generalize hstart : (Spread.failed left : Spread ε τ) = start at h
  induction h generalizing left with
  | nil => exact ⟨rfl, left, hstart.symm⟩
  | cons hcall hcalls ih =>
    subst hstart
    obtain ⟨rfl, rfl⟩ := call_failed hcall
    obtain ⟨hrest, hlast⟩ := ih rfl
    exact ⟨congrArg (_ :: ·) hrest, hlast⟩

/-- There is one call before the end where a failure is left, and none otherwise. -/
theorem calls_le_of_givenAway {left : Option ε} {calls : Nat}
    (hmore : .ok none ∉ (givenAway left calls : List (Answer (Deferred ε α)))) :
    calls ≤ if left.isSome then 1 else 0 := by
  cases calls with
  | zero => exact Nat.zero_le _
  | succ calls =>
    cases left with
    | none => exact absurd List.mem_cons_self hmore
    | some failure =>
      cases calls with
      | zero => exact Nat.le_refl 1
      | succ calls => exact absurd (List.mem_cons_of_mem _ List.mem_cons_self) hmore

/-- The bounds of a failure in the place of a sequence are sound. -/
theorem soundFrom_failed (left : Option ε) :
    (iter sequence : Iter σ (Spread ε τ) (Deferred ε α)).SoundFrom goesOn (.failed left) := by
  intro before last hbefore
  obtain ⟨-, kept, rfl⟩ := callRow_failed hbefore
  constructor
  case upper =>
    intro answers last bound hcalls hmore hbound
    obtain ⟨hanswers, -⟩ := callRow_failed hcalls
    rw [hanswers] at hmore
    cases hbound
    exact Nat.le_trans (List.length_filterMap_le _ _) (calls_le_of_givenAway hmore)
  case lower =>
    intro answers last ended hcalls hmore hended
    rw [Answer.yielded_add_lost hmore]
    cases hcalls with
    | nil =>
      -- The failure is still left, so a call that comes to the end shows that there is none.
      obtain ⟨hend, -⟩ := call_failed hended
      cases kept with
      | none => exact Nat.le_refl 0
      | some failure => cases hend
    | cons hcall hcalls =>
      have hlower : (if kept.isSome then 1 else 0) ≤ 1 := by split <;> omega
      exact Nat.le_trans hlower (Nat.succ_le_succ (Nat.zero_le _))

end Spread

/-! ### The elements of a list -/

namespace Script

variable {goesOn : Prop}

/-- A call takes the first element, if one is left. -/
theorem sequenceIter_call {left next : List Value} {answer : Answer Value}
    (h : sequenceIter.Call goesOn left answer next) :
    answer = .ok left.head? ∧ next = left.tail := by
  obtain ⟨world, after, hpull⟩ := h.pull
  cases left with
  | nil =>
    obtain ⟨hexit, hafter⟩ := hpull.unique (.finish rfl)
    cases hafter
    cases answer <;> cases hexit
    exact ⟨rfl, rfl⟩
  | cons element rest =>
    obtain ⟨hexit, hafter⟩ := hpull.unique (.yield rfl)
    cases hafter
    cases answer <;> cases hexit
    exact ⟨rfl, rfl⟩

/-- Before the end, every call takes one. -/
theorem sequenceIter_callRow {left last : List Value} {answers : List (Answer Value)}
    (h : sequenceIter.CallRow goesOn left answers last) (hmore : .ok none ∉ answers) :
    left.length = answers.length + last.length := by
  induction h with
  | nil => exact (Nat.zero_add _).symm
  | @cons left middle last answer answers hcall hcalls ih =>
    obtain ⟨rfl, rfl⟩ := sequenceIter_call hcall
    have hrest : left.tail.length = answers.length + last.length :=
      ih fun hmem => hmore (List.mem_cons_of_mem _ hmem)
    cases left with
    | nil => exact absurd List.mem_cons_self hmore
    | cons element rest =>
      rw [List.tail_cons] at hrest
      rw [List.length_cons, List.length_cons, hrest, Nat.add_right_comm]

/-- The bounds of a list, which are its length, are sound. -/
theorem sequenceIter_soundFrom (start : List Value) : sequenceIter.SoundFrom goesOn start := by
  intro before left _
  constructor
  case upper =>
    intro answers last bound hcalls hmore hbound
    cases hbound
    have hlength := sequenceIter_callRow hcalls hmore
    calc Answer.yielded answers ≤ answers.length := List.length_filterMap_le _ _
      _ ≤ left.length := by omega
  case lower =>
    intro answers last ended hcalls hmore hended
    obtain ⟨hend, -⟩ := sequenceIter_call hended
    have hnone : last = [] := List.head?_eq_none_iff.1 (Except.ok.inj hend).symm
    have hlength := sequenceIter_callRow hcalls hmore
    rw [hnone, List.length_nil, Nat.add_zero] at hlength
    rw [Answer.yielded_add_lost hmore, ← hlength]
    exact Nat.le_refl _

end Script

/-! ### Stacks -/

/-- Adapters on top of each other, over a source with states in `υ` and elements in `ι`. The last
two parameters are the states and the elements of the whole. -/
inductive Stack (σ υ ι : Type) : Type → Type → Type 1 where
  | source : Stack σ υ ι υ ι
  /-- Spread the sequence, unless it failed. -/
  | spread (ε : Type) {τ α : Type} (below : Stack σ υ ι τ α) :
    Stack σ υ ι (Spread ε τ) (Deferred ε α)
  /-- Hand the failures to a handler. -/
  | handling {τ ε α : Type} (below : Stack σ υ ι τ (Deferred ε α)) (handler : ε → Act σ Unit) :
    Stack σ υ ι τ α
  /-- Keep the values that pass a test, and every failure. -/
  | sift {τ ε α : Type} (below : Stack σ υ ι τ (Deferred ε α)) (test : α → Act σ Bool) :
    Stack σ υ ι τ (Deferred ε α)
  /-- Turn the elements into something else, such as deferred values. -/
  | map {τ α β : Type} (below : Stack σ υ ι τ α) (f : α → Act σ β) : Stack σ υ ι τ β

namespace Stack

/-- The iterator that the adapters make of a source. -/
def iter {τ α : Type} (source : Iter σ υ ι) : Stack σ υ ι τ α → Iter σ τ α
  | .source => source
  | .spread _ below => Spread.iter (below.iter source)
  | .handling below handler => (below.iter source).handling handler
  | .sift below test => (below.iter source).sift test
  | .map below f => (below.iter source).map f

/-- The source is in a state in `good`, unless there is a failure in the place of a sequence that
would be read from it. -/
def Over {τ α : Type} (good : υ → Prop) : Stack σ υ ι τ α → τ → Prop
  | .source, state => good state
  | .spread _ below, .values state => below.Over good state
  | .spread _ _, .failed _ => True
  | .handling below _, state => below.Over good state
  | .sift below _, state => below.Over good state
  | .map below _, state => below.Over good state

/-- Every adapter keeps the bounds sound, and so does a stack of them. -/
theorem Over.soundFrom {τ α : Type} {source : Iter σ υ ι} {goesOn : Prop}
    {stack : Stack σ υ ι τ α} {state : τ} (h : stack.Over (source.SoundFrom goesOn) state) :
    (stack.iter source).SoundFrom goesOn state := by
  induction stack with
  | source => exact h
  | spread ε below ih =>
    cases state with
    | values sequence => exact Spread.soundFrom_values (ih h)
    | failed left => exact Spread.soundFrom_failed left
  | handling below handler ih => exact (ih h).handling handler
  | sift below test ih => exact (ih h).sift test
  | map below f ih => exact (ih h).map f

/-- Whatever adapters are put on top of each other, and whatever their callables do, the bounds that
are reported after any number of calls are sound if those of the source are: the number of elements
that still come before the next end is between them. Elements that a consumer loses because it goes
on after panics count for the lower bound, and a consumer that does not go on loses none. The calls
may be those of any consumer that asks so many times, whatever it does with the answers. -/
theorem hints_sound {τ α : Type} {source : Iter σ υ ι} (goesOn : Prop) (stack : Stack σ υ ι τ α)
    {state : τ} (hsource : stack.Over (source.SoundFrom goesOn) state) :
    (stack.iter source).SoundFrom goesOn state ∧
      (¬goesOn → ∀ middle answers last, (stack.iter source).CallRow goesOn middle answers last →
        Answer.lost answers = 0) ∧
      (goesOn → ∀ receive steps calls world answers last after,
        (stack.iter source).asks receive steps calls (state, world) = (.done answers, last, after) →
          (stack.iter source).SoundAt goesOn last) := by
  have hsound : (stack.iter source).SoundFrom goesOn state := Over.soundFrom hsource
  refine ⟨hsound, fun hstops middle answers last hcalls => hcalls.lost_eq_zero hstops, ?asked⟩
  intro hgoesOn receive steps calls world answers last after hasks
  exact hsound answers last (.of_asks hgoesOn hasks)

end Stack

namespace Script

/-- Three integers are spread, those below a bound that counts up with every test are kept, and what
fails is handled, by a consumer that goes on after panics. -/
theorem hints_sound_sequence :
    let test : Value → ScriptRun Bool := fun _ => return (← countCall 0) < 3
    let handler : Fault → ScriptRun Unit := fun _ => .panic .object
    let stack : Stack ScriptWorld (List Value) Value (Spread Fault (List Value)) Value :=
      .handling (.sift (.spread Fault .source) test) handler
    let start : Spread Fault (List Value) := .values [.int 3, .int 4, .int 5]
    stack.Over (sequenceIter.SoundFrom True) start ∧
      (stack.iter sequenceIter).SoundFrom True start := by
  intro test handler stack start
  have hsource : stack.Over (sequenceIter.SoundFrom True) start := sequenceIter_soundFrom _
  exact ⟨hsource, (Stack.hints_sound True stack hsource).1⟩

end Script

end Deferral
