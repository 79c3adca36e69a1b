import Deferral.Proofs.Computation
import Deferral.Script.Event

/-!
# Chains of causes

A failure that is raised, stored and raised again leaves a chain of causes behind: every raise makes
a copy, and the copy keeps the failure it was made from. Here the chain is followed after any number
of raises. It holds exactly the failures that were raised, the latest first, each as it was, and
then whatever stood in the first one's own trail. The chain of error sources is the same, and taking
the causes out one after the other hands each of them out once.
-/

namespace Deferral

variable {ω κ ε : Type}

/-! ### Following causes and sources -/

/-- Where the failures of a family keep their trails. -/
structure TrailField (ε : Type) where
  trail : ε → Trail ε
  withTrail : ε → Trail ε → ε

namespace TrailField

variable (field : TrailField ε)

/-- The failure with all its fields and an empty trail. -/
def bare (failure : ε) : ε := field.withTrail failure .empty

/-- The causes of a failure, from the nearest on, at most the given number of them. -/
def causes : Nat → ε → List ε
  | 0, _ => []
  | count + 1, failure =>
    match (field.trail failure).cause with
    | some cause => cause :: causes count cause
    | none => []

/-- The causes of a failure with a cause are that cause and its own causes. -/
theorem causes_of_cause {failure cause : ε} (h : (field.trail failure).cause = some cause)
    (count : Nat) : field.causes (count + 1) failure = cause :: field.causes count cause := by
  rw [causes, h]

/-- A failure without a cause has no causes. -/
theorem causes_of_no_cause {failure : ε} (h : (field.trail failure).cause = none) (count : Nat) :
    field.causes count failure = [] := by
  cases count with
  | zero => rfl
  | succ count => rw [causes, h]

end TrailField

/-- The cause of a failure, as the source of an error. -/
def Trail.source (trail : Trail ε) : Option (DynError ε) := trail.cause.map .leaf

namespace DynError

/-- The source of an error, given those of leaves. -/
def source (leafSource : ε → Option (DynError ε)) : DynError ε → Option (DynError ε)
  | leaf error => leafSource error
  | layer source => some source
  | interrupted _ suppressed => some suppressed
  | abandoned => none
  | crashed => none

/-- The sources of an error, from the nearest on, at most the given number of them. -/
def sources (leafSource : ε → Option (DynError ε)) : Nat → DynError ε → List (DynError ε)
  | 0, _ => []
  | count + 1, error =>
    match error.source leafSource with
    | some source => source :: sources leafSource count source
    | none => []

end DynError

/-- Where the source of a failure is read off its trail, all along its chain of causes, the chain of
sources is the chain of causes. -/
theorem TrailField.sources_eq_causes (field : TrailField ε) {leafSource : ε → Option (DynError ε)}
    (count : Nat) {failure : ε}
    (hsource : ∀ error, (error = failure ∨ ∃ depth, error ∈ field.causes depth failure) →
      leafSource error = (field.trail error).source) :
    DynError.sources leafSource count (.leaf failure) = (field.causes count failure).map .leaf := by
  induction count generalizing failure with
  | zero => rfl
  | succ count ih =>
    have hhere := hsource failure (.inl rfl)
    cases hcause : (field.trail failure).cause with
    | none =>
      rw [field.causes_of_no_cause hcause, DynError.sources, DynError.source, hhere, Trail.source,
        hcause]
      rfl
    | some cause =>
      rw [field.causes_of_cause hcause, DynError.sources, DynError.source, hhere, Trail.source,
        hcause, List.map_cons, ← ih]
      · rfl
      · intro error herror
        refine hsource error (.inr ?_)
        rcases herror with rfl | ⟨depth, hdepth⟩
        · exact ⟨1, by simp [field.causes_of_cause hcause]⟩
        · exact ⟨depth + 1, by simp [field.causes_of_cause hcause, hdepth]⟩

/-! ### Raising again and again -/

/-- What a deferred value passes through on its way, from values in one type to values in another:
any number of transformations and continuations. -/
inductive Passage (ω κ ε : Type) : Type → Type → Type 1 where
  | done {α : Type} : Passage ω κ ε α α
  | map {α β γ : Type} (f : α → Run ω κ β) (rest : Passage ω κ ε β γ) : Passage ω κ ε α γ
  | bind {α β γ : Type} (f : α → Run ω κ (Deferred ε β)) (rest : Passage ω κ ε β γ) :
    Passage ω κ ε α γ

/-- Go through a passage. -/
def Passage.run (type : FailureType ω κ ε) {α β : Type} :
    Passage ω κ ε α β → Deferred ε α → Run ω κ (Deferred ε β)
  | .done, deferred => pure deferred
  | .map f rest, deferred => do rest.run type (← deferred.map type f)
  | .bind f rest, deferred => do rest.run type (← deferred.bind type f)

/-- A way to raise a failure: it is stored, with its cancellation asserted or by the bare
constructor, goes through a passage, and is raised at a site. -/
structure Round (ω κ ε : Type) where
  {input output : Type}
  bare : Bool
  passage : Passage ω κ ε input output
  site : Site

/-- Store a failure. -/
def Round.store (type : FailureType ω κ ε) (round : Round ω κ ε) (failure : ε) :
    Run ω κ (Deferred ε round.input) :=
  if round.bare then pure (.failure failure) else type.defer failure

/-- Store a failure and raise it. -/
def Round.raise (type : FailureType ω κ ε) (round : Round ω κ ε) (failure : ε) :
    Run ω κ (Except ε round.output) := do
  let stored ← round.store type failure
  let passed ← round.passage.run type stored
  passed.raise type round.site

namespace FailureType

variable (type : FailureType ω κ ε)

/-- Store and raise a failure, then store and raise what was raised, and so on. The result lists
what was raised. -/
def raises : List (Round ω κ ε) → ε → Run ω κ (List ε)
  | [], _ => pure []
  | round :: rounds, failure => do
    match ← round.raise type failure with
    | .ok _ => pure []
    | .error raised => return raised :: (← raises rounds raised)

/-- Take the cause out of a failure, and keep the rest. -/
def takeCause (failure : ε) : Run ω κ (Option ε × ε) := do
  match ← type.slots failure with
  | some slots =>
    let (cause, rest) := slots.trail.takeCause
    pure (cause, slots.fill rest)
  | none => pure (none, failure)

/-- Take the cause out of a failure, then the cause out of that, and so on. The results are what was
taken out and what was left behind. -/
def takeCauses : Nat → ε → Run ω κ (List ε × List ε)
  | 0, _ => pure ([], [])
  | count + 1, failure => do
    match ← type.takeCause failure with
    | (some cause, left) => do
      let (taken, behind) ← takeCauses count cause
      return (cause :: taken, left :: behind)
    | (none, left) => pure ([], [left])

/-- The second failure comes of the first by the given number of copies. -/
inductive Copied : Nat → ε → ε → Prop where
  | zero (failure : ε) : Copied 0 failure failure
  | succ {count : Nat} {failure copy last : ε} {before after : World ω κ}
    (hcopy : type.copy failure before = (.done (.ok copy), after))
    (hrest : Copied count copy last) : Copied (count + 1) failure last

/-- The failures of a family can be raised again and again: looking up a cancellation finds none,
copies are always made, whatever the trail, and stay in the family, and there is room for a trail.
-/
structure Retraceable (field : TrailField ε) (family : ε → Prop) : Prop where
  /-- A trail that was put in can be read off again. -/
  trail_withTrail : ∀ {failure} (trail : Trail ε), family failure →
    field.trail (field.withTrail failure trail) = trail
  withTrail_trail : ∀ {failure}, family failure →
    field.withTrail failure (field.trail failure) = failure
  withTrail_withTrail : ∀ {failure} (first second : Trail ε), family failure →
    field.withTrail (field.withTrail failure first) second = field.withTrail failure second
  withTrail : ∀ {failure} (trail : Trail ε), family failure → family (field.withTrail failure trail)
  cancellation : ∀ {failure} (world : World ω κ), family failure →
    ∃ after, type.cancellation failure world = (.done none, after)
  copy : ∀ {failure} (world : World ω κ), family failure →
    ∃ copy after, family copy ∧ type.copy failure world = (.done (.ok copy), after)
  copy_withTrail : ∀ {failure} (trail : Trail ε), family failure →
    type.copy (field.withTrail failure trail) = type.copy failure
  slots : ∀ {failure} (world : World ω κ), family failure →
    ∃ after, type.slots failure world =
      (.done (some ⟨field.trail failure, field.withTrail failure⟩), after)

namespace Retraceable

variable {type : FailureType ω κ ε} {field : TrailField ε} {family : ε → Prop}
  (htype : type.Retraceable field family) {failure : ε}

include htype

/-- Storing a failure of the family looks its cancellation up, finds none, and asserts nothing. -/
theorem defer {α : Type} (hfamily : family failure) (world : World ω κ) :
    ∃ after, type.defer (α := α) failure world = (.done (.failure failure), after) := by
  obtain ⟨after, hlookup⟩ := htype.cancellation world hfamily
  refine ⟨after, ?_⟩
  rw [FailureType.defer, reassert]
  simp only [bind_assoc]
  rw [Act.bind_of_done hlookup]
  rfl

/-- A failure of the family passes through unchanged. -/
theorem passage (hfamily : family failure) {α β : Type} (passage : Passage ω κ ε α β)
    (world : World ω κ) :
    ∃ after, passage.run type (.failure failure) world = (.done (.failure failure), after) := by
  induction passage generalizing world with
  | done => exact ⟨world, rfl⟩
  | map f rest ih =>
    obtain ⟨between, hdefer⟩ := htype.defer hfamily world
    obtain ⟨after, hrest⟩ := ih between
    exact ⟨after, (Act.bind_of_done hdefer _).trans hrest⟩
  | bind f rest ih =>
    obtain ⟨between, hdefer⟩ := htype.defer hfamily world
    obtain ⟨after, hrest⟩ := ih between
    exact ⟨after, (Act.bind_of_done hdefer _).trans hrest⟩

/-- Raising a failure of the family raises a copy, with the failure as its cause. -/
theorem raise (hfamily : family failure) (site : Site) (world : World ω κ) :
    ∃ copy before middle after, family copy ∧
      type.copy failure before = (.done (.ok copy), middle) ∧
      type.raise failure site world =
        (.done (field.withTrail copy (.raised site failure)), after) := by
  obtain ⟨before, hlookup⟩ := htype.cancellation world hfamily
  obtain ⟨copy, middle, hmember, hcopy⟩ := htype.copy before hfamily
  obtain ⟨after, hslots⟩ := htype.slots middle hmember
  refine ⟨copy, before, middle, after, hmember, hcopy, ?_⟩
  rw [FailureType.raise, Act.bind_of_done hlookup]
  dsimp only
  rw [Act.bind_of_done hcopy]
  dsimp only
  rw [Act.bind_of_done hslots]
  rfl

/-- A round raises a copy of the failure it is given, with that failure as its cause. -/
theorem round (hfamily : family failure) (round : Round ω κ ε) (world : World ω κ) :
    ∃ copy before middle after, family copy ∧
      type.copy failure before = (.done (.ok copy), middle) ∧
      round.raise type failure world =
        (.done (.error (field.withTrail copy (.raised round.site failure))), after) := by
  obtain ⟨stored, hstored⟩ : ∃ after,
      round.store type failure world = (.done (.failure failure), after) := by
    rw [Round.store]
    split
    · exact ⟨world, rfl⟩
    · exact htype.defer hfamily world
  obtain ⟨passed, hpassed⟩ := htype.passage hfamily round.passage stored
  obtain ⟨copy, before, middle, after, hmember, hcopy, hraise⟩ :=
    htype.raise hfamily round.site passed
  refine ⟨copy, before, middle, after, hmember, hcopy, ?_⟩
  rw [Round.raise, Act.bind_of_done hstored, Act.bind_of_done hpassed]
  exact Act.bind_of_done hraise _

/-- What is copied from a failure does not depend on its trail. -/
theorem copied_withTrail (hfamily : family failure) {trail : Trail ε} {count : Nat} {last : ε}
    (hcopied : type.Copied (count + 1) (field.withTrail failure trail) last) :
    type.Copied (count + 1) failure last := by
  cases hcopied with
  | succ hcopy hrest =>
    rw [htype.copy_withTrail trail hfamily] at hcopy
    exact .succ hcopy hrest

/-- Only the fields of a failure are left when its trail is left out. -/
theorem bare_withTrail (hfamily : family failure) (trail : Trail ε) :
    field.bare (field.withTrail failure trail) = field.bare failure :=
  htype.withTrail_withTrail trail .empty hfamily

/-- Taking the cause out of a failure hands it out as it was, and leaves a failure without one. -/
theorem takeCause (hfamily : family failure) (world : World ω κ) :
    ∃ left after, family left ∧ (field.trail left).cause = none ∧
      type.takeCause failure world = (.done ((field.trail failure).cause, left), after) := by
  obtain ⟨after, hslots⟩ := htype.slots world hfamily
  refine ⟨field.withTrail failure (field.trail failure).takeCause.2, after,
    htype.withTrail _ hfamily, ?_, ?_⟩
  · rw [htype.trail_withTrail _ hfamily]
    rfl
  · rw [FailureType.takeCause, Act.bind_of_done hslots]
    rfl

/-- Nothing is taken out of a failure without a cause. -/
theorem takeCause_of_no_cause (hfamily : family failure)
    (hcause : (field.trail failure).cause = none) (world : World ω κ) :
    ∃ after, type.takeCause failure world = (.done (none, failure), after) := by
  obtain ⟨after, hslots⟩ := htype.slots world hfamily
  have hrest : (field.trail failure).takeCause = (none, field.trail failure) := by
    cases htrail : field.trail failure with
    | mk site backtrace cause =>
      rw [htrail] at hcause
      cases hcause
      rfl
  refine ⟨after, ?_⟩
  rw [FailureType.takeCause, Act.bind_of_done hslots]
  simp only [hrest, htype.withTrail_trail hfamily]
  rfl

/-- Taking causes out one after the other hands out the chain of causes, as far as one goes. -/
theorem takeCauses {count : Nat}
    (hfamily : ∀ error ∈ failure :: field.causes count failure, family error) (world : World ω κ) :
    ∃ left after, (∀ error ∈ left, family error ∧ (field.trail error).cause = none) ∧
      type.takeCauses count failure world = (.done (field.causes count failure, left), after) := by
  induction count generalizing failure world with
  | zero => exact ⟨[], world, by simp, rfl⟩
  | succ count ih =>
    obtain ⟨left, between, hleft, hbare, htake⟩ :=
      htype.takeCause (hfamily failure List.mem_cons_self) world
    cases hcause : (field.trail failure).cause with
    | none =>
      rw [hcause] at htake
      refine ⟨[left], between, by simp [hleft, hbare], ?_⟩
      rw [FailureType.takeCauses, Act.bind_of_done htake, field.causes_of_no_cause hcause]
      rfl
    | some cause =>
      rw [hcause] at htake
      rw [field.causes_of_cause hcause] at hfamily ⊢
      obtain ⟨behind, after, hbehind, htaken⟩ :=
        ih (fun error herror => hfamily error (List.mem_cons_of_mem _ herror)) between
      refine ⟨left :: behind, after, ?_, ?_⟩
      · intro error herror
        rcases List.mem_cons.1 herror with rfl | herror
        · exact ⟨hleft, hbare⟩
        · exact hbehind error herror
      · rw [FailureType.takeCauses, Act.bind_of_done htake]
        dsimp only
        rw [Act.bind_of_done htaken]
        rfl

end Retraceable

/-- Every failure of the list was raised at its site, with the one before it as its cause. -/
inductive Linked (field : TrailField ε) : ε → List Site → List ε → Prop where
  | nil (failure : ε) : Linked field failure [] []
  | cons {failure raised : ε} {site : Site} {sites : List Site} {later : List ε}
    (htrail : field.trail raised = .raised site failure)
    (hlater : Linked field raised sites later) :
    Linked field failure (site :: sites) (raised :: later)

/-- The causes of the last of linked failures are those before it, the latest first. -/
theorem Linked.causes {field : TrailField ε} {first : ε} {sites : List Site} {raised : List ε}
    (hlinked : Linked field first sites raised) (more : Nat) :
    field.causes (sites.length + more) (raised.getLastD first) =
      (first :: raised).dropLast.reverse ++ field.causes more first := by
  -- The links are read from the first failure on and causes from the last, so the depth stays
  -- general: one link less is one cause more to follow below.
  induction hlinked generalizing more with
  | nil failure => simp
  | @cons failure raised site sites later htrail hlater ih =>
    have hcause : (field.trail raised).cause = some failure := by
      rw [htrail]
      rfl
    calc field.causes ((site :: sites).length + more) ((raised :: later).getLastD failure)
        = field.causes (sites.length + (more + 1)) (later.getLastD raised) := by
          rw [List.getLastD_cons, List.length_cons]
          congr 1
          omega
      _ = (raised :: later).dropLast.reverse ++ field.causes (more + 1) raised := ih (more + 1)
      _ = (raised :: later).dropLast.reverse ++ failure :: field.causes more failure := by
          rw [field.causes_of_cause hcause]
      _ = (failure :: raised :: later).dropLast.reverse ++ field.causes more failure := by
          simp

/-- Linked failures were raised at their sites. -/
theorem Linked.sites {field : TrailField ε} {first : ε} {sites : List Site} {raised : List ε}
    (hlinked : Linked field first sites raised) :
    raised.map (fun error => (field.trail error).site) = sites.map some := by
  induction hlinked with
  | nil failure => rfl
  | cons htrail hlater ih =>
    rw [List.map_cons, List.map_cons, ih, htrail]
    rfl

/-- Raising a failure of the family again and again raises linked copies of it. -/
theorem Retraceable.raises {type : FailureType ω κ ε} {field : TrailField ε} {family : ε → Prop}
    (htype : type.Retraceable field family) (rounds : List (Round ω κ ε)) {first : ε}
    (hfirst : family first) (world : World ω κ) :
    ∃ raised after, type.raises rounds first world = (.done raised, after) ∧
      Linked field first (rounds.map Round.site) raised ∧
      (∀ error ∈ raised, family error) ∧
      ∀ position error, raised[position]? = some error →
        ∃ copy, type.Copied (position + 1) first copy ∧ field.bare error = field.bare copy := by
  induction rounds generalizing first world with
  | nil => exact ⟨[], world, rfl, .nil first, by simp, by simp⟩
  | cons round rounds ih =>
    obtain ⟨copy, before, middle, between, hmember, hcopy, hraise⟩ :=
      htype.round hfirst round world
    obtain ⟨later, after, hlater, hlinked, hfamily, hcopied⟩ :=
      ih (htype.withTrail (.raised round.site first) hmember) between
    refine ⟨field.withTrail copy (.raised round.site first) :: later, after, ?_, ?_, ?_, ?_⟩
    · rw [FailureType.raises, Act.bind_of_done hraise]
      dsimp only
      rw [Act.bind_of_done hlater]
      rfl
    · exact .cons (htype.trail_withTrail _ hmember) hlinked
    · intro error herror
      rcases List.mem_cons.1 herror with rfl | herror
      · exact htype.withTrail _ hmember
      · exact hfamily error herror
    · intro position error hposition
      cases position with
      | zero =>
        obtain rfl : field.withTrail copy (.raised round.site first) = error :=
          Option.some.inj hposition
        exact ⟨copy, .succ hcopy (.zero copy), htype.bare_withTrail hmember _⟩
      | succ position =>
        obtain ⟨last, hlast, hbare⟩ := hcopied position error hposition
        exact ⟨last, .succ hcopy (htype.copied_withTrail hmember hlast), hbare⟩

/-- What raising a failure again and again leaves behind: the list `raised`, one failure for each
round. -/
structure Recorded (type : FailureType ω κ ε) (field : TrailField ε) (rounds : List (Round ω κ ε))
    (first : ε) (raised : List ε) : Prop where
  length : raised.length = rounds.length
  /-- The causes of the last failure are those raised before it, the latest first and each as it
  was, then the first one, and then the causes that it had from the start. -/
  causes : ∀ more, field.causes (rounds.length + more) (raised.getLastD first) =
    (first :: raised).dropLast.reverse ++ field.causes more first
  /-- Every failure names the site of its round. -/
  sites : raised.map (fun error => (field.trail error).site) =
    rounds.map fun round => some round.site
  /-- Apart from their trails, the failures are copies of the first, copies of those, and so on. -/
  fields : ∀ position error, raised[position]? = some error →
    ∃ copy, type.Copied (position + 1) first copy ∧ field.bare error = field.bare copy
  /-- Where sources are read off trails, the sources of the last failure are its causes. -/
  sources : ∀ leafSource : ε → Option (DynError ε),
    (∀ error, (error = raised.getLastD first ∨
        ∃ depth, error ∈ field.causes depth (raised.getLastD first)) →
      leafSource error = (field.trail error).source) →
    ∀ count, DynError.sources leafSource count (.leaf (raised.getLastD first)) =
      (field.causes count (raised.getLastD first)).map .leaf
  /-- Taking causes out hands out each failure before the last, and leaves nothing to take. -/
  taken : ∀ world, ∃ left after,
    type.takeCauses rounds.length (raised.getLastD first) world =
      (.done ((first :: raised).dropLast.reverse, left), after) ∧
    ∀ error ∈ left, ∀ world, ∃ after, type.takeCause error world = (.done (none, error), after)

/-- Raising a failure again and again records every raise, and nothing else, in a chain of causes:
whatever trail the failure had, wherever it is raised, and whatever it passes through in between. -/
theorem Retraceable.records {type : FailureType ω κ ε} {field : TrailField ε} {family : ε → Prop}
    (htype : type.Retraceable field family) (rounds : List (Round ω κ ε)) {first : ε}
    (hfirst : family first) (world : World ω κ) :
    ∃ raised after, type.raises rounds first world = (.done raised, after) ∧
      type.Recorded field rounds first raised := by
  obtain ⟨raised, after, hraises, hlinked, hfamily, hcopied⟩ := htype.raises rounds hfirst world
  have hlast : ∀ error ∈ first :: raised, family error := by
    intro error herror
    rcases List.mem_cons.1 herror with rfl | herror
    · exact hfirst
    · exact hfamily error herror
  refine ⟨raised, after, hraises, ?length, ?causes, ?sites, hcopied, ?sources, ?taken⟩
  case length =>
    have hsites := congrArg List.length hlinked.sites
    simpa using hsites
  case causes =>
    intro more
    simpa using hlinked.causes more
  case sites =>
    simpa [Function.comp_def] using hlinked.sites
  case sources =>
    intro leafSource hsource count
    exact field.sources_eq_causes count hsource
  case taken =>
    intro world
    have hcauses : field.causes rounds.length (raised.getLastD first) =
        (first :: raised).dropLast.reverse := by
      simpa [TrailField.causes] using hlinked.causes 0
    have hmembers : ∀ error ∈ raised.getLastD first ::
        field.causes rounds.length (raised.getLastD first), family error := by
      rw [hcauses]
      intro error herror
      rcases List.mem_cons.1 herror with rfl | herror
      · exact hlast _ (by cases raised <;> simp [List.getLastD])
      · exact hlast error (List.dropLast_subset _ (List.mem_reverse.1 herror))
    obtain ⟨left, after, hleft, htaken⟩ := htype.takeCauses hmembers world
    refine ⟨left, after, by rw [← hcauses]; exact htaken, fun error herror world => ?_⟩
    exact htype.takeCause_of_no_cause (hleft error herror).1 (hleft error herror).2 world

end FailureType

/-! ### Failures of scripts -/

namespace Script

/-- Where the failures of scripts keep their trails. -/
def Fault.trailField : TrailField Fault where
  trail fault := fault.trail?.getD .empty
  withTrail := Fault.withTrail

/-- The failures of scripts that have room for a trail, can be copied, and carry no token. -/
inductive Fault.Traced : Fault → Prop where
  | plain (message : String) (trail : Trail Fault) : Traced (.plain message trail)
  | fetch (code : Int) (message : String) (copies : Nat) (trail : Trail Fault) :
    Traced (.fetch code message copies trail)
  | halt (note : String) (copies : Nat) (trail : Trail Fault) :
    Traced (.halt none note copies trail)

/-- They can be raised again and again. -/
theorem Kind.retraceable (kind : Kind) :
    kind.failureType.Retraceable Fault.trailField Fault.Traced where
  trail_withTrail trail htraced := by cases htraced <;> rfl
  withTrail_trail htraced := by cases htraced <;> rfl
  withTrail_withTrail first second htraced := by cases htraced <;> rfl
  withTrail trail htraced := by
    cases htraced with
    | plain message former => exact .plain message trail
    | fetch code message copies former => exact .fetch code message copies trail
    | halt note copies former => exact .halt note copies trail
  cancellation world htraced := by cases htraced <;> exact ⟨world, rfl⟩
  copy world htraced := by
    cases htraced with
    | plain message former => exact ⟨_, _, .plain message .empty, rfl⟩
    | fetch code message copies former => exact ⟨_, _, .fetch code message (copies + 1) .empty, rfl⟩
    | halt note copies former => exact ⟨_, _, .halt note (copies + 1) .empty, rfl⟩
  copy_withTrail trail htraced := by cases htraced <;> rfl
  slots world htraced := by cases htraced <;> exact ⟨world, rfl⟩

/-- A failure that has been raised before is raised twice more: from the bare constructor, and after
a transformation and a continuation. -/
theorem Kind.records_fetch :
    let lost (trail : Trail Fault) := Fault.fetch 404 "page" 0 trail
    let first := lost (.raised ⟨"A"⟩ (lost .empty))
    let rounds : List (Round Event Calls Fault) :=
      [{ input := Nat, bare := true, passage := .done, site := ⟨"B"⟩ },
        { input := Nat
          bare := false
          passage := .map (fun n => pure (n + 1)) (.bind (fun n => pure (.value n)) .done)
          site := ⟨"C"⟩ }]
    Kind.fetch.failureType.Retraceable Fault.trailField Fault.Traced ∧ Fault.Traced first ∧
      ∃ raised after,
        Kind.fetch.failureType.raises rounds first ⟨fun _ => false, #[], fun _ => 0⟩ =
            (.done raised, after) ∧
          Kind.fetch.failureType.Recorded Fault.trailField rounds first raised :=
  ⟨Kind.fetch.retraceable, .fetch 404 "page" 0 _,
    Kind.fetch.retraceable.records _ (.fetch 404 "page" 0 _) _⟩

end Script

end Deferral
