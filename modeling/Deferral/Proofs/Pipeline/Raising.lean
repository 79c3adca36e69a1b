import Deferral.Proofs.Pipeline.Pulls
import Deferral.Proofs.Raise.Canonical
import Deferral.Proofs.Tokens.Flags
import Deferral.Script.Source

/-!
# Draining a source, or raising its first failure

A source of deferred values can be gathered, which hands its first failure out as stored. Or a loop
takes the value out of each item, and raises the first failure anew. The loop is the same as to
gather the source and then to raise what was handed out: so the two make the same pulls, keep the
same values, and leave the rest of the source. What else the loop does is what the raise does, and
`FailureType.Aftermath` says what that is.
-/

namespace Deferral

variable {ω κ σ τ ε ρ δ ζ α : Type}

namespace Iter

/-! ### The loop that raises -/

/-- Keep a value behind those that are kept already, or raise a failure at `site` and stop. -/
def keepOrRaise (type : FailureType ω κ ε) (site : Site) (kept : List α) (item : Deferred ε α) :
    Run ω κ (Except ε (List α)) := do
  match ← item.raise type site with
  | .ok value => pure (.ok (kept ++ [value]))
  | .error failure => pure (.error failure)

/-- Pull items and take the value out of each, up to the end or to the first failure, which is
raised at `site`. -/
def raiseEach (iter : Iter (World ω κ) τ (Deferred ε α)) (type : FailureType ω κ ε) (site : Site)
    (steps : Nat) : Act (τ × World ω κ) (Except ε (List α)) :=
  iter.feed (keepOrRaise type site) steps []

/-- Make something else of the reason for which a loop has stopped. -/
def onStop (finish : δ → Act σ ζ) : Except δ ρ → Act σ (Except ζ ρ)
  | .ok kept => pure (.ok kept)
  | .error stop => do return .error (← finish stop)

/-- What a body makes of the reason for which it stops can be made of it after the loop. -/
theorem feed_onStop (iter : Iter σ τ α) (body : ρ → α → Act σ (Except δ ρ)) (finish : δ → Act σ ζ)
    (steps : Nat) (kept : ρ) :
    iter.feed (fun kept element => body kept element >>= onStop finish) steps kept =
      iter.feed body steps kept >>= fun result => (onStop finish result).beside := by
  induction steps generalizing kept with
  | zero => rfl
  | succ steps ih =>
    simp only [feed, bind_assoc]
    refine bind_congr fun step => ?_
    cases step with
    | yield element =>
      simp only [Act.beside_bind, bind_assoc]
      refine bind_congr fun result => ?_
      cases result with
      | ok kept => simp only [onStop, Act.beside_pure, pure_bind, ih]
      | error stop => simp only [onStop, Act.beside_bind, Act.beside_pure, bind_assoc, pure_bind]
    | skip => exact ih kept
    | finish => simp only [onStop, Act.beside_pure, pure_bind]

/-- The loop is to gather the source, and then to raise what was handed out. -/
theorem raiseEach_eq (iter : Iter (World ω κ) τ (Deferred ε α)) (type : FailureType ω κ ε)
    (site : Site) (steps : Nat) :
    iter.raiseEach type site steps =
      iter.gather steps >>= fun gathered => ((Deferred.hold gathered).raise type site).beside := by
  let raising (failure : ε) : Run ω κ ε := type.raise failure site
  have hbody : keepOrRaise type site =
      fun (kept : List α) item => keepValue kept item >>= onStop raising := by
    funext kept item
    cases item with
    | value value => rfl
    | failure failure =>
      simp only [keepOrRaise, Deferred.raise, Deferred.recover, bind_assoc, pure_bind]
      rfl
  have hraise (gathered : Except ε (List α)) :
      (Deferred.hold gathered).raise type site = onStop raising gathered := by
    cases gathered <;> rfl
  simp only [hraise]
  rw [raiseEach, hbody, feed_onStop, ← gather_eq_feed]

/-! ### What a source comes to -/

/-- Pulled from `start` on, item by item, a source of deferred values comes to these values, and
then to this failure or, if there is none, to its end. That leaves it at `last`. -/
inductive Comes (iter : Iter σ τ (Deferred ε α)) :
    τ × σ → List α → Option ε → τ × σ → Prop where
  | ended {start last : τ × σ} (hpull : iter.Pull start (.done none) last) :
    Comes iter start [] none last
  | stopped {start last : τ × σ} {failure : ε}
    (hpull : iter.Pull start (.done (some (.failure failure))) last) :
    Comes iter start [] (some failure) last
  | value {start middle last : τ × σ} {value : α} {values : List α} {failure? : Option ε}
    (hpull : iter.Pull start (.done (some (.value value))) middle)
    (hrest : Comes iter middle values failure? last) :
    Comes iter start (value :: values) failure? last

/-- All the values, or the failure that came after them, as stored. -/
def handedOut (values : List α) : Option ε → Except ε (List α)
  | none => .ok values
  | some failure => .error failure

/-- Nothing is pulled from a source but what it comes to. -/
theorem Comes.gathers {iter : Iter σ τ (Deferred ε α)} {start last : τ × σ} {values : List α}
    {failure? : Option ε} (h : iter.Comes start values failure? last) :
    Act.Reaches iter.gather start (.done (handedOut values failure?)) last := by
  have hfeed : ∃ steps, ∀ kept, iter.feed keepValue steps kept start =
      (.done (handedOut (kept ++ values) failure?), last) := by
    induction h with
    | ended hpull =>
      obtain ⟨used, hused⟩ := hpull.feed keepValue
      refine ⟨used, fun kept => ?_⟩
      rw [List.append_nil]
      exact hused 0 kept
    | stopped hpull =>
      obtain ⟨used, hused⟩ := hpull.feed keepValue
      exact ⟨used, fun kept => hused 0 kept⟩
    | @value start middle last value values failure? hpull hrest ih =>
      obtain ⟨used, hused⟩ := hpull.feed keepValue
      obtain ⟨more, hmore⟩ := ih
      refine ⟨used + more, fun kept => ?_⟩
      calc iter.feed keepValue (used + more) kept start
          = iter.feed keepValue more (kept ++ [value]) middle := hused more kept
        _ = (.done (handedOut (kept ++ [value] ++ values) failure?), last) := hmore _
        _ = (.done (handedOut (kept ++ value :: values) failure?), last) := by
          rw [List.append_assoc, List.singleton_append]
  obtain ⟨steps, hsteps⟩ := hfeed
  refine ⟨by simp, steps, ?_⟩
  rw [gather_eq_feed]
  exact hsteps []

/-- Once a source has been gathered, the loop ends where the raise of what was handed out does. -/
theorem raiseEach_reaches {iter : Iter (World ω κ) τ (Deferred ε α)} {start : τ × World ω κ}
    {state : τ} {world after : World ω κ} {gathered raised : Except ε (List α)}
    {type : FailureType ω κ ε} {site : Site}
    (hgathers : Act.Reaches iter.gather start (.done gathered) (state, world))
    (hraise : (Deferred.hold gathered).raise type site world = (.done raised, after)) :
    Act.Reaches (iter.raiseEach type site) start (.done raised) (state, after) := by
  obtain ⟨-, steps, hsteps⟩ := hgathers
  refine ⟨by simp, steps, ?_⟩
  rw [raiseEach_eq, Act.bind_of_done hsteps, Act.beside, hraise]

end Iter

/-! ### What a raise leaves behind -/

namespace FailureType

/-- The hooks that a raise of `failure` may call return. They may do anything else. -/
structure Returns (type : FailureType ω κ ε) (failure : ε) : Prop where
  cancellation : (type.cancellation failure).Returns
  copy : (type.copy failure).Returns
  slots : ∀ copy, (type.slots copy).Returns

/-- Orderly hooks return. -/
theorem Orderly.returns {type : FailureType ω κ ε} {field : TrailField ε} {failure : ε}
    (horderly : type.Orderly field failure) : type.Returns failure where
  cancellation world :=
    let ⟨answer, after, hdone, _⟩ := horderly.cancellation world
    ⟨answer, after, hdone⟩
  copy world :=
    let ⟨answer, after, hdone, _⟩ := horderly.copy world
    ⟨answer, after, hdone⟩
  slots copy world :=
    let ⟨answer, after, hdone, _⟩ := horderly.slots copy world
    ⟨answer, after, hdone⟩

/-- How the world after a raise of `failure` differs from the world before it. The failure is looked
up and copied, each once. Besides, the token that it reports is cleared, or the slots of the copy
are looked up; and at most one entry is logged. -/
inductive Aftermath (type : FailureType ω κ ε) (failure : ε) (site : Site) (world : World ω κ) :
    World ω κ → Prop where
  | cleared {token : Token} {copied : Except CopyError ε} {asked after : World ω κ}
    (hreported : type.cancellation failure world = (.done (some token), asked))
    (hcopied : type.copy failure (type.withdrawn token site asked) = (.done copied, after)) :
    Aftermath type failure site world after
  | refused {reason : CopyError} {asked copied : World ω κ}
    (hreported : type.cancellation failure world = (.done none, asked))
    (hcopied : type.copy failure asked = (.done (.error reason), copied)) :
    Aftermath type failure site world (warned site reason copied)
  | traced {copy : ε} {slots : Slots ε} {asked copied after : World ω κ}
    (hreported : type.cancellation failure world = (.done none, asked))
    (hcopied : type.copy failure asked = (.done (.ok copy), copied))
    (hslots : type.slots copy copied = (.done (some slots), after)) :
    Aftermath type failure site world after
  | slotless {copy : ε} {asked copied opened : World ω κ}
    (hreported : type.cancellation failure world = (.done none, asked))
    (hcopied : type.copy failure asked = (.done (.ok copy), copied))
    (hslots : type.slots copy copied = (.done none, opened)) :
    Aftermath type failure site world (warned site (.unsupported type.name) opened)

/-- With hooks that return, a raise returns, and nothing but an aftermath is left of it. -/
theorem Returns.raise {type : FailureType ω κ ε} {failure : ε} (hreturns : type.Returns failure)
    (site : Site) (world : World ω κ) :
    ∃ raised after, type.raise failure site world = (.done raised, after) ∧
      type.Aftermath failure site world after := by
  obtain ⟨reported, asked, hreported⟩ := hreturns.cancellation world
  cases reported with
  | some token =>
    obtain ⟨copied, after, hcopied⟩ := hreturns.copy (type.withdrawn token site asked)
    have hraise : type.raise failure site world =
        (.done (match copied with | .ok blank => blank | .error _ => failure), after) := by
      rw [raise_of_reported hreported, Act.bind_of_done hcopied]
      cases copied <;> rfl
    exact ⟨_, after, hraise, .cleared hreported hcopied⟩
  | none =>
    obtain ⟨answer, copied, hcopied⟩ := hreturns.copy asked
    rw [raise_of_unreported hreported, Act.bind_of_done hcopied]
    cases answer with
    | error reason => exact ⟨failure, _, rfl, .refused hreported hcopied⟩
    | ok copy =>
      obtain ⟨slots?, opened, hslots⟩ := hreturns.slots copy copied
      dsimp only
      rw [Act.bind_of_done hslots]
      cases slots? with
      | none => exact ⟨failure, _, rfl, .slotless hreported hcopied hslots⟩
      | some slots => exact ⟨_, opened, rfl, .traced hreported hcopied hslots⟩

end FailureType

/-! ### The two compared -/

namespace Iter

/-- The loop ends with `raised` and leaves the world `after`, where draining ends with `failure` and
leaves the world `world`. -/
structure RaisedAnew (type : FailureType ω κ ε) (site : Site) (failure : ε) (world : World ω κ)
    (raised : ε) (after : World ω κ) : Prop where
  /-- What the loop ends with is the failure, raised anew. -/
  raise : type.raise failure site world = (.done raised, after)
  /-- The worlds differ by what the raise has done. -/
  aftermath : type.Aftermath failure site world after
  /-- No flag differs but that of the token that the failure reports, which has been cleared, if the
  hooks write none. -/
  flags : type.Quiet → ∀ token, after.cancelled token = true ↔
    world.cancelled token = true ∧ ¬type.ReportsAt failure world token

/-- How draining a source and the loop that raises its first failure compare, where the source comes
to `values`, and then to `failure?` or its end, and is left at `last`. -/
structure DiffersByRaise (iter : Iter (World ω κ) τ (Deferred ε α)) (type : FailureType ω κ ε)
    (site : Site) (start : τ × World ω κ) (values : List α) (failure? : Option ε)
    (last : τ × World ω κ) : Prop where
  /-- Wherever they are started, the loop is to drain the source, and then to raise what was handed
  out beside the state of the source. -/
  loop : ∀ steps, iter.raiseEach type site steps =
    iter.gather steps >>= fun gathered => ((Deferred.hold gathered).raise type site).beside
  /-- So it is with every pull written down: the loop makes the same pulls, and makes none after the
  raise. -/
  pulls : ∀ event steps, (iter.watched event).raiseEach type site steps =
    (iter.watched event).gather steps >>= fun gathered =>
      ((Deferred.hold gathered).raise type site).beside
  /-- Draining ends with all the values, or with the failure as it is stored. All has been pulled by
  then that comes before that, and nothing that comes after it; and nothing else has happened. -/
  drains : ∀ exit after, Act.Reaches iter.gather start exit after ↔
    exit = .done (handedOut values failure?) ∧ after = last
  /-- Where no failure comes, the loop ends with all the values, and nothing else has happened. -/
  ends : failure? = none → ∀ exit after, Act.Reaches (iter.raiseEach type site) start exit after ↔
    exit = .done (.ok values) ∧ after = last
  /-- Where a failure comes, the loop ends with that failure raised anew. It has made the same
  pulls, and the rest of the source is still there. -/
  fails : ∀ failure, failure? = some failure → ∃ raised world,
    RaisedAnew type site failure last.2 raised world ∧
      ∀ exit after, Act.Reaches (iter.raiseEach type site) start exit after ↔
        exit = .done (.error raised) ∧ after = (last.1, world)
  /-- Both end with values exactly when no failure comes. -/
  ok_iff : ((∃ gathered after, Act.Reaches iter.gather start (.done (.ok gathered)) after) ↔
      failure? = none) ∧
    ((∃ gathered after, Act.Reaches (iter.raiseEach type site) start (.done (.ok gathered)) after) ↔
      failure? = none)

/-- The end that a loop reaches is the only one. -/
theorem feed_reaches_iff {iter : Iter σ τ α} {body : ρ → α → Act σ (Except δ ρ)} {kept : ρ}
    {start last : τ × σ} {exit : Exit (Except δ ρ)}
    (h : Act.Reaches (fun steps => iter.feed body steps kept) start exit last)
    (other : Exit (Except δ ρ)) (after : τ × σ) :
    Act.Reaches (fun steps => iter.feed body steps kept) start other after ↔
      other = exit ∧ after = last :=
  h.iff fun _ _ hle => feed_within (fun _ _ => .refl _) hle kept

/-- Draining a source, and pulling items up to the first failure and raising that, are the same up
to the raise: for every source that comes to its end or to a failure, both make the same pulls and
come to the same values. The failure itself is handed out as stored by the one, and raised anew by
the other; and what the raise does is all that happens besides. -/
theorem Comes.differs_by_raise {iter : Iter (World ω κ) τ (Deferred ε α)}
    {start last : τ × World ω κ} {values : List α} {failure? : Option ε}
    (hcomes : iter.Comes start values failure? last) (type : FailureType ω κ ε) (site : Site)
    (hreturns : ∀ failure, failure? = some failure → type.Returns failure) :
    iter.DiffersByRaise type site start values failure? last := by
  have hdrain := hcomes.gathers
  have hdrains (exit : Exit (Except ε (List α))) (after : τ × World ω κ) :
      Act.Reaches iter.gather start exit after ↔
        exit = .done (handedOut values failure?) ∧ after = last := by
    rw [funext (gather_eq_feed iter)] at hdrain ⊢
    exact feed_reaches_iff hdrain exit after
  cases failure? with
  | none =>
    have hloop : Act.Reaches (iter.raiseEach type site) start (.done (.ok values)) last :=
      raiseEach_reaches hdrain rfl
    have hends := feed_reaches_iff hloop
    refine ⟨raiseEach_eq iter type site, fun event => raiseEach_eq _ type site, hdrains,
      fun _ => hends, ?fails, ?ok⟩
    case fails =>
      intro failure hsome
      cases hsome
    case ok =>
      exact ⟨iff_of_true ⟨values, last, hdrain⟩ rfl, iff_of_true ⟨values, last, hloop⟩ rfl⟩
  | some failure =>
    obtain ⟨raised, world, hraise, haftermath⟩ := (hreturns failure rfl).raise site last.2
    have hraised : (Deferred.hold (handedOut values (some failure))).raise type site last.2 =
        (.done (.error raised), world) := Act.bind_of_done hraise _
    have hloop : Act.Reaches (iter.raiseEach type site) start (.done (.error raised))
        (last.1, world) := raiseEach_reaches hdrain hraised
    have hfails := feed_reaches_iff hloop
    have hflags (hquiet : type.Quiet) (token : Token) : world.cancelled token = true ↔
        last.2.cancelled token = true ∧ ¬type.ReportsAt failure last.2 token := by
      rw [← type.cancelled_raise hquiet failure site last.2 token, hraise]
    refine ⟨raiseEach_eq iter type site, fun event => raiseEach_eq _ type site, hdrains,
      ?ends, ?fails, ?drainOk, ?loopOk⟩
    case ends =>
      intro hnone
      cases hnone
    case fails =>
      rintro _ ⟨⟩
      exact ⟨raised, world, ⟨hraise, haftermath, hflags⟩, hfails⟩
    case drainOk =>
      refine iff_of_false ?_ (by simp)
      rintro ⟨gathered, after, hok⟩
      cases ((hdrains _ after).1 hok).1
    case loopOk =>
      refine iff_of_false ?_ (by simp)
      rintro ⟨gathered, after, hok⟩
      cases ((hfails _ after).1 hok).1

end Iter

namespace Script

/-- A source of a value, a cancellation and another value is left at the last of them, and the loop
clears the token that draining leaves set. -/
theorem differs_by_raise_halt :
    let failure : Fault := .halt (some ⟨1⟩) "late" 0 .empty
    let source : Source (Deferred Fault Nat) :=
      ⟨[some (.value 3), some (.failure failure), some (.value 4)], none, false⟩
    let world : ScriptWorld := ⟨fun token => token = ⟨1⟩, #[], fun _ => 0⟩
    let last : Nat × ScriptWorld :=
      (2, (world.push (.event (.pulled (.item 0)))).push (.event (.pulled (.item 1))))
    (source.iter pure).Comes (0, world) [3] (some failure) last ∧
      Kind.halt.failureType.Returns failure ∧
      (source.iter pure).DiffersByRaise Kind.halt.failureType ⟨"A"⟩ (0, world) [3] (some failure)
        last := by
  intro failure source world last
  have hcomes : (source.iter pure).Comes (0, world) [3] (some failure) last :=
    .value (.yield rfl) (.stopped (.yield rfl))
  have hreturns : Kind.halt.failureType.Returns failure :=
    (Kind.halt.orderly fun _ _ => by simp [failure]).returns
  refine ⟨hcomes, hreturns, hcomes.differs_by_raise Kind.halt.failureType ⟨"A"⟩ ?_⟩
  rintro _ ⟨⟩
  exact hreturns

end Script

end Deferral
