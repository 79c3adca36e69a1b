import Deferral.Proofs.Dialogue.Requests

/-!
# Answers that are alike

Two programs are alike when they make the same requests, with arguments that are alike and with
callables that follow each other, and go on alike from answers that are alike. Requests that are
alike, made at desks that are alike, have answers that are alike: this is proved once for every
request, with one case for each. For whole programs it follows exchange by exchange.
-/

namespace Deferral

variable {ω κ ε : Type} {base : Shape}

/-! ### Requests that are alike -/

section

variable (like : Likeness ω κ ε) (lawful : FailureType ω κ ε → Prop)

/-- Called with arguments that are alike, the two callables announce themselves by events that are
alike and then follow each other. -/
structure Likeness.Calls {s t : Shape} (f g : Callable ω κ ε s t) : Prop where
  call : ∀ one other, s.Alike like.failures one other → like.events (f.call one) (g.call other)
  work : like.Maps (s.Alike like.failures) (t.Alike like.failures) f.work g.work

/-- The same adapters, with lawful types and with callables that follow each other, on sources that
follow each other. -/
inductive Conduit.Alike : {u s : Shape} → Conduit ω κ ε u s → Conduit ω κ ε u s → Prop where
  | source {u s : Shape} {iter other : Iter (World ω κ) (u.Carrier ε) (s.Carrier ε)}
    (h : iter.Alike (u.Alike like.failures) like.Worlds (s.Alike like.failures) other) :
    Alike (.source iter) (.source other)
  | capture {u s t : Shape} {type : FailureType ω κ ε} {before other : Conduit ω κ ε u s}
    {f g : Callable ω κ ε s (.except .failure t)} (htype : lawful type) (hf : like.Calls f g)
    (hbefore : Alike before other) : Alike (.capture type f before) (.capture type g other)
  | captureAs {u s t : Shape} {type : FailureType ω κ ε} {before other : Conduit ω κ ε u s}
    {f g : Callable ω κ ε s (.except .dynamic t)} (htype : lawful type) (hf : like.Calls f g)
    (hbefore : Alike before other) : Alike (.captureAs type f before) (.captureAs type g other)
  | spread {u v s t : Shape} {type : FailureType ω κ ε} {before other : Conduit ω κ ε u s}
    {f g : Callable ω κ ε s (.except .failure v)} {inner part : Conduit ω κ ε v t}
    (htype : lawful type) (hf : like.Calls f g) (hinner : Alike inner part)
    (hbefore : Alike before other) :
    Alike (.spread type f inner before) (.spread type g part other)
  | spreadAs {u v s t : Shape} {type : FailureType ω κ ε} {before other : Conduit ω κ ε u s}
    {f g : Callable ω κ ε s (.except .dynamic v)} {inner part : Conduit ω κ ε v t}
    (htype : lawful type) (hf : like.Calls f g) (hinner : Alike inner part)
    (hbefore : Alike before other) :
    Alike (.spreadAs type f inner before) (.spreadAs type g part other)
  | filter {u s : Shape} {test trial : Callable ω κ ε s (.plain Bool)}
    {before other : Conduit ω κ ε u (.deferred s)} (htest : like.Calls test trial)
    (hbefore : Alike before other) : Alike (.filter test before) (.filter trial other)
  | sift {u s : Shape} {test trial : Callable ω κ ε s (.plain Bool)}
    {before other : Conduit ω κ ε u (.deferred s)} (htest : like.Calls test trial)
    (hbefore : Alike before other) : Alike (.sift test before) (.sift trial other)
  | map {u s t : Shape} {type : FailureType ω κ ε} {f g : Callable ω κ ε s t}
    {before other : Conduit ω κ ε u (.deferred s)} (htype : lawful type) (hf : like.Calls f g)
    (hbefore : Alike before other) : Alike (.map type f before) (.map type g other)
  | bind {u s t : Shape} {type : FailureType ω κ ε} {f g : Callable ω κ ε s (.deferred t)}
    {before other : Conduit ω κ ε u (.deferred s)} (htype : lawful type) (hf : like.Calls f g)
    (hbefore : Alike before other) : Alike (.bind type f before) (.bind type g other)
  | handling {u s : Shape} {handler keeper : Callable ω κ ε .failure (.plain Unit)}
    {before other : Conduit ω κ ε u (.deferred s)} (hhandler : like.Calls handler keeper)
    (hbefore : Alike before other) : Alike (.handling handler before) (.handling keeper other)

/-- The same request, with lawful types, with callables that follow each other, and with arguments
that are alike. -/
inductive Request.Alike :
    {s : Shape} → Request ω κ ε base s → Request ω κ ε base s → Prop where
  | client {s : Shape} {act move : Run ω κ (s.Carrier ε)}
    (h : like.Follows (s.Alike like.failures) act move) : Alike (.client act) (.client move)
  | defer {s : Shape} {type : FailureType ω κ ε} {one other : ε} (htype : lawful type)
    (h : like.failures one other) :
    Alike (.defer type one : Request ω κ ε base (.deferred s)) (.defer type other)
  | ofExcept {s : Shape} {type : FailureType ω κ ε}
    {one other : (Shape.except .failure s).Carrier ε} (htype : lawful type)
    (h : (Shape.except .failure s).Alike like.failures one other) :
    Alike (.ofExcept type one) (.ofExcept type other)
  | hold {s : Shape} {one other : (Shape.except .failure s).Carrier ε}
    (h : (Shape.except .failure s).Alike like.failures one other) : Alike (.hold one) (.hold other)
  | toExcept {s : Shape} {one other : s.deferred.Carrier ε}
    (h : s.deferred.Alike like.failures one other) : Alike (.toExcept one) (.toExcept other)
  | map {s t : Shape} {type : FailureType ω κ ε} {f g : Callable ω κ ε s t}
    {one other : s.deferred.Carrier ε} (htype : lawful type) (hf : like.Calls f g)
    (h : s.deferred.Alike like.failures one other) : Alike (.map type f one) (.map type g other)
  | bind {s t : Shape} {type : FailureType ω κ ε} {f g : Callable ω κ ε s (.deferred t)}
    {one other : s.deferred.Carrier ε} (htype : lawful type) (hf : like.Calls f g)
    (h : s.deferred.Alike like.failures one other) : Alike (.bind type f one) (.bind type g other)
  | ifValue {s : Shape} {look glance : Callable ω κ ε s (.plain Unit)}
    {one other : s.deferred.Carrier ε} (hlook : like.Calls look glance)
    (h : s.deferred.Alike like.failures one other) :
    Alike (.ifValue look one) (.ifValue glance other)
  | recover {s t : Shape} {f g : Callable ω κ ε .failure (.except t s)}
    {one other : s.deferred.Carrier ε} (hf : like.Calls f g)
    (h : s.deferred.Alike like.failures one other) : Alike (.recover f one) (.recover g other)
  | valueOr {s : Shape} {f g : Callable ω κ ε .failure s} {one other : s.deferred.Carrier ε}
    (hf : like.Calls f g) (h : s.deferred.Alike like.failures one other) :
    Alike (.valueOr f one) (.valueOr g other)
  | raise {s : Shape} {type : FailureType ω κ ε} {one other : s.deferred.Carrier ε}
    (htype : lawful type) (site : Site) (h : s.deferred.Alike like.failures one other) :
    Alike (.raise type site one) (.raise type site other)
  | raiseWith {s : Shape} {wrap cover : Callable ω κ ε .failure .failure}
    {one other : s.deferred.Carrier ε} (hwrap : like.Calls wrap cover)
    (h : s.deferred.Alike like.failures one other) :
    Alike (.raiseWith wrap one) (.raiseWith cover other)
  | handling {s : Shape} {handler keeper : Callable ω κ ε .failure (.plain Unit)}
    {one other : s.deferred.Carrier ε} (hhandler : like.Calls handler keeper)
    (h : s.deferred.Alike like.failures one other) :
    Alike (.handling handler one) (.handling keeper other)
  | accepted {s : Shape} {test trial : Callable ω κ ε s (.plain Bool)}
    {one other : s.deferred.Carrier ε} (htest : like.Calls test trial)
    (h : s.deferred.Alike like.failures one other) :
    Alike (.accepted test one) (.accepted trial other)
  | clone {s : Shape} {copyFailure twinFailure : Callable ω κ ε .failure .failure}
    {copyValue twinValue : Callable ω κ ε s s} {one other : s.deferred.Carrier ε}
    (hfailure : like.Calls copyFailure twinFailure) (hvalue : like.Calls copyValue twinValue)
    (h : s.deferred.Alike like.failures one other) :
    Alike (.clone copyFailure copyValue one) (.clone twinFailure twinValue other)
  /-- Values that are alike must be told apart from others in the same way. -/
  | same {s : Shape} {values : BEq (s.Carrier ε)} {one other left right : s.deferred.Carrier ε}
    (hvalues : ∀ a b c d, s.Alike like.failures a b → s.Alike like.failures c d →
      (a == c) = (b == d))
    (h : s.deferred.Alike like.failures one other)
    (hother : s.deferred.Alike like.failures left right) :
    Alike (.same values one left) (.same values other right)
  | feed {s : Shape} {values : Feeds (s.Carrier ε)} {one other : s.deferred.Carrier ε}
    (hvalues : ∀ a b, s.Alike like.failures a b → Feeds.feed a = Feeds.feed b)
    (h : s.deferred.Alike like.failures one other) : Alike (.feed values one) (.feed values other)
  | text {s : Shape} {values : ToString (s.Carrier ε)} {one other : s.deferred.Carrier ε}
    (hvalues : ∀ a b, s.Alike like.failures a b → toString a = toString b)
    (h : s.deferred.Alike like.failures one other) : Alike (.text values one) (.text values other)
  | capture {s t : Shape} {type : FailureType ω κ ε} {f g : Callable ω κ ε s (.except .failure t)}
    {one other : s.Carrier ε} (htype : lawful type) (hf : like.Calls f g)
    (h : s.Alike like.failures one other) : Alike (.capture type f one) (.capture type g other)
  | captureAs {s t : Shape} {type : FailureType ω κ ε}
    {f g : Callable ω κ ε s (.except .dynamic t)} {one other : s.Carrier ε} (htype : lawful type)
    (hf : like.Calls f g) (h : s.Alike like.failures one other) :
    Alike (.captureAs type f one) (.captureAs type g other)
  | spread {s t : Shape} {type : FailureType ω κ ε} {f g : Callable ω κ ε s (.except .failure t)}
    {one other : s.Carrier ε} (htype : lawful type) (hf : like.Calls f g)
    (h : s.Alike like.failures one other) : Alike (.spread type f one) (.spread type g other)
  | spreadAs {s t : Shape} {type : FailureType ω κ ε}
    {f g : Callable ω κ ε s (.except .dynamic t)} {one other : s.Carrier ε} (htype : lawful type)
    (hf : like.Calls f g) (h : s.Alike like.failures one other) :
    Alike (.spreadAs type f one) (.spreadAs type g other)
  | next {u s : Shape} {conduit duct : Conduit ω κ ε u s} {one other : u.Carrier ε}
    (hconduit : conduit.Alike like lawful duct) (h : u.Alike like.failures one other)
    (steps : Nat) : Alike (.next conduit one steps) (.next duct other steps)
  | collect {u s : Shape} {conduit duct : Conduit ω κ ε u s} {one other : u.Carrier ε}
    (hconduit : conduit.Alike like lawful duct) (h : u.Alike like.failures one other)
    (steps : Nat) : Alike (.collect conduit one steps) (.collect duct other steps)
  | gather {u s : Shape} {conduit duct : Conduit ω κ ε u (.deferred s)} {one other : u.Carrier ε}
    (hconduit : conduit.Alike like lawful duct) (h : u.Alike like.failures one other)
    (steps : Nat) : Alike (.gather conduit one steps) (.gather duct other steps)
  | claim {s : Shape} {type : FailureType ω κ ε} {one other : (Shape.except .dynamic s).Carrier ε}
    (htype : lawful type) (h : (Shape.except .dynamic s).Alike like.failures one other) :
    Alike (.claim type one) (.claim type other)
  | create (name : String) : Alike (.create name) (.create name)
  | settled {one other : (Shape.except .dynamic (.payload base)).Carrier ε}
    (h : (Shape.except .dynamic (.payload base)).Alike like.failures one other) :
    Alike (.settled one) (.settled other)
  | completerStep {one other : CompleterStep ε (base.Carrier ε)}
    (h : one.Alike like.failures (base.Alike like.failures) other) :
    Alike (.completerStep one) (.completerStep other)
  | poll (number : Nat) {waker rouser : Run ω κ Unit} (h : like.Follows Eq waker rouser) :
    Alike (.poll number waker) (.poll number rouser)
  | pollClaimed {type : FailureType ω κ ε} (htype : lawful type) (number : Nat)
    {waker rouser : Run ω κ Unit} (h : like.Follows Eq waker rouser) :
    Alike (.pollClaimed type number waker) (.pollClaimed type number rouser)
  | isTerminated (number : Nat) : Alike (.isTerminated number) (.isTerminated number)
  | bridge {type : FailureType ω κ ε} (htype : lawful type) (number : Nat) :
    Alike (.bridge type number) (.bridge type number)
  | observe (number : Nat)
    {moves others : Outcome ε (Payload ε (base.Carrier ε)) → List (Move ω κ ε (base.Carrier ε))}
    (h : (Listener.observer moves).Alike like (base.Alike like.failures) (.observer others)) :
    Alike (.observe number moves) (.observe number others)
  | spawn (awaited : Option Nat)
    {work toil : Option (Payload ε (base.Carrier ε)) → Run ω κ (Outcome ε (base.Carrier ε))}
    (h : like.Maps ((Shape.option (.payload base)).Alike like.failures)
      ((Shape.except .dynamic base).Alike like.failures) work toil) :
    Alike (.spawn awaited work) (.spawn awaited toil)
  | runTasks : Alike .runTasks .runTasks

/-- Programs that make requests that are alike, and go on alike from answers that are alike. -/
inductive Dialogue.Alike : Dialogue ω κ ε base → Dialogue ω κ ε base → Prop where
  | finish : Alike .finish .finish
  | ask {s : Shape} {request other : Request ω κ ε base s}
    {next rest : Except Alarm (s.Carrier ε) → Dialogue ω κ ε base}
    (hrequest : request.Alike like lawful other)
    (hnext : ∀ one other, ExceptAlike Eq (s.Alike like.failures) one other →
      Alike (next one) (rest other)) : Alike (.ask request next) (.ask other rest)

end

/-! ### Callables and pipelines -/

variable {like : Likeness ω κ ε} {lawful : FailureType ω κ ε → Prop}

/-- Calls that are alike show themselves alike before any work is done. -/
theorem Likeness.Calls.maps {s t : Shape} {f g : Callable ω κ ε s t} (h : like.Calls f g) :
    like.Maps (s.Alike like.failures) (t.Alike like.failures) f.run g.run :=
  fun one other hargument =>
    (Likeness.follows_emit (h.call one other hargument)).andThen (h.work one other hargument)

/-- Suppliers of sequences that follow each other are spread alike. -/
theorem Likeness.Respects.spread {type : FailureType ω κ ε} (htype : like.Respects type) {τ : Type}
    {states : τ → τ → Prop} {supply other : Run ω κ (Except ε τ)}
    (h : like.Follows (ExceptAlike like.failures states) supply other) :
    like.Follows (Spread.Alike like.failures states) (spread type supply) (spread type other) :=
  (htype.capture h).returning fun _ _ => Spread.ofDeferred_alike

/-- So are suppliers of sequences with dynamic errors. -/
theorem Likeness.Respects.spreadAs [Wording ε] {type : FailureType ω κ ε}
    (htype : like.Respects type)
    (htext : ∀ one other, like.failures one other → toString one = toString other) {τ : Type}
    {states : τ → τ → Prop} {supply other : Run ω κ (Outcome ε τ)}
    (h : like.Follows (OutcomeAlike like.failures states) supply other) :
    like.Follows (Spread.Alike like.failures states) (spreadAs type supply) (spreadAs type other) :=
  (htype.captureAs htext h).returning fun _ _ => Spread.ofDeferred_alike

/-- An iterator that is used up to some point comes to the same, and is left in a state that is
alike. -/
theorem Iter.mirrors_used {σ τ β : Type} {states : τ → τ → Prop} {worlds : σ → σ → Prop}
    {results : β → β → Prop} {act move : Act (τ × σ) β} {one other : τ}
    (h : Act.Mirrors (Both states worlds) results act move) (hstate : states one other) :
    Act.Mirrors worlds (Both (Exit.Matches results) states) (Iter.used act one)
      (Iter.used move other) := by
  intro world place hworlds
  have hboth : Both states worlds (one, world) (other, place) := ⟨hstate, hworlds⟩
  obtain ⟨hexits, hafter⟩ := h hboth
  exact ⟨.done ⟨hexits, hafter.1⟩, hafter.2⟩

/-- Pipelines that are alike yield elements that are alike. -/
theorem Conduit.Alike.iter [Wording ε] (hlawful : ∀ type, lawful type → like.Respects type)
    (htext : ∀ one other, like.failures one other → toString one = toString other) {u s : Shape}
    {conduit duct : Conduit ω κ ε u s} (h : conduit.Alike like lawful duct) :
    conduit.iter.Alike (u.Alike like.failures) like.Worlds (s.Alike like.failures) duct.iter := by
  induction h with
  | source h => exact h
  | capture htype hf _ ih =>
    exact ih.map fun _ _ helement => (hlawful _ htype).capture (hf.maps _ _ helement)
  | captureAs htype hf _ ih =>
    exact ih.map fun _ _ helement => (hlawful _ htype).captureAs htext (hf.maps _ _ helement)
  | spread htype hf _ _ hinner ih =>
    exact ih.flatMap (fun _ _ helement => (hlawful _ htype).spread (hf.maps _ _ helement))
      hinner.spread
  | spreadAs htype hf _ _ hinner ih =>
    exact ih.flatMap
      (fun _ _ helement => (hlawful _ htype).spreadAs htext (hf.maps _ _ helement)) hinner.spread
  | filter htest _ ih =>
    exact ih.filter fun _ _ helement => Likeness.follows_accepted htest.maps helement
  | sift htest _ ih => exact ih.sift htest.maps
  | map htype hf _ ih => exact ih.map fun _ _ helement => (hlawful _ htype).map hf.maps helement
  | bind htype hf _ ih => exact ih.map fun _ _ helement => (hlawful _ htype).bind hf.maps helement
  | handling hhandler _ ih => exact ih.handling hhandler.maps

/-! ### What a deferred value shows -/

section

variable {α : Type} {failures : ε → ε → Prop} {values : α → α → Prop}
  {one other left right : Deferred ε α}

/-- Comparing deferred values compares what they hold. -/
theorem Deferred.Alike.same [BEq ε] [BEq α]
    (hfailures : ∀ a b c d, failures a b → failures c d → (a == c) = (b == d))
    (hvalues : ∀ a b c d, values a b → values c d → (a == c) = (b == d))
    (h : one.Alike failures values other) (hother : left.Alike failures values right) :
    (one == left) = (other == right) := by
  cases h with
  | value hvalue =>
    cases hother with
    | value hleft => exact hvalues _ _ _ _ hvalue hleft
    | failure hleft => rfl
  | failure hfailure =>
    cases hother with
    | value hleft => rfl
    | failure hleft => exact hfailures _ _ _ _ hfailure hleft

/-- Hashing a deferred value hashes what it holds. -/
theorem Deferred.Alike.feed [Feeds ε] [Feeds α]
    (hfailures : ∀ a b, failures a b → Feeds.feed a = Feeds.feed b)
    (hvalues : ∀ a b, values a b → Feeds.feed a = Feeds.feed b)
    (h : one.Alike failures values other) : Feeds.feed one = Feeds.feed other := by
  cases h with
  | value hvalue => exact congrArg (Chunk.tag 0 :: ·) (hvalues _ _ hvalue)
  | failure hfailure => exact congrArg (Chunk.tag 1 :: ·) (hfailures _ _ hfailure)

/-- The wording of a deferred value shows what it holds. -/
theorem Deferred.Alike.text [ToString ε] [ToString α]
    (hfailures : ∀ a b, failures a b → toString a = toString b)
    (hvalues : ∀ a b, values a b → toString a = toString b)
    (h : one.Alike failures values other) : toString one = toString other := by
  cases h with
  | value hvalue => exact hvalues _ _ hvalue
  | failure hfailure => exact congrArg ("failure: " ++ ·) (hfailures _ _ hfailure)

end

/-- Deferred values that are alike are cloned alike, by callables that follow each other. -/
theorem Likeness.follows_cloned {α : Type} {values : α → α → Prop} {one other : Deferred ε α}
    {copyFailure twinFailure : ε → Run ω κ ε} {copyValue twinValue : α → Run ω κ α}
    (hfailure : like.Maps like.failures like.failures copyFailure twinFailure)
    (hvalue : like.Maps values values copyValue twinValue)
    (h : one.Alike like.failures values other) :
    like.Follows (Deferred.Alike like.failures values) (one.cloned copyFailure copyValue)
      (other.cloned twinFailure twinValue) := by
  cases h with
  | value h => exact (hvalue _ _ h).returning fun _ _ hcopy => .value hcopy
  | failure h => exact (hfailure _ _ h).returning fun _ _ hcopy => .failure hcopy

/-! ### Requests and whole programs -/

variable [Wording ε] [BEq ε] [Feeds ε]

/-- Requests that are alike have answers that are alike. -/
theorem Request.Alike.follows (hlawful : ∀ type, lawful type → like.Respects type)
    (hderived : like.Derived) {s : Shape} {request other : Request ω κ ε base s}
    (h : request.Alike like lawful other) :
    Desk.Follows like (base.Alike like.failures) (s.Alike like.failures) request.perform
      other.perform := by
  cases h with
  | client h => exact h.beside
  | defer htype h => exact ((hlawful _ htype).defer h).beside
  | ofExcept htype h => exact ((hlawful _ htype).ofExcept h).beside
  | hold h =>
    cases h with
    | error h => exact .pure (.failure h)
    | ok h => exact .pure (.value h)
  | toExcept h =>
    cases h with
    | value h => exact .pure (.ok h)
    | failure h => exact .pure (.error h)
  | map htype hf h => exact ((hlawful _ htype).map hf.maps h).beside
  | bind htype hf h => exact ((hlawful _ htype).bind hf.maps h).beside
  | ifValue hlook h => exact (Likeness.follows_ifValue hlook.maps h).beside
  | recover hf h => exact (Likeness.follows_recover hf.maps h).beside
  | valueOr hf h => exact (Likeness.follows_valueOr hf.maps h).beside
  | raise htype site h => exact ((hlawful _ htype).raiseDeferred site h).beside
  | raiseWith hwrap h => exact (Likeness.follows_raiseWith hwrap.maps h).beside
  | handling hhandler h => exact (Likeness.follows_handling hhandler.maps h).beside
  | accepted htest h => exact (Likeness.follows_accepted htest.maps h).beside
  | clone hfailure hvalue h => exact (Likeness.follows_cloned hfailure.maps hvalue.maps h).beside
  | same hvalues h hother => exact .pure (h.same hderived.same hvalues hother)
  | feed hvalues h => exact .pure (h.feed hderived.feed hvalues)
  | text hvalues h => exact .pure (h.text hderived.text hvalues)
  | capture htype hf h => exact ((hlawful _ htype).capture (hf.maps _ _ h)).beside
  | captureAs htype hf h => exact ((hlawful _ htype).captureAs hderived.text (hf.maps _ _ h)).beside
  | spread htype hf h => exact ((hlawful _ htype).spread (hf.maps _ _ h)).beside
  | spreadAs htype hf h => exact ((hlawful _ htype).spreadAs hderived.text (hf.maps _ _ h)).beside
  | next hconduit h steps =>
    exact (Iter.mirrors_used ((hconduit.iter hlawful hderived.text).next steps) h).beside
  | collect hconduit h steps =>
    exact (Iter.mirrors_used ((hconduit.iter hlawful hderived.text).collect steps) h).beside
  | gather hconduit h steps =>
    exact (Iter.mirrors_used ((hconduit.iter hlawful hderived.text).gather steps) h).beside
  | claim htype h => exact ((hlawful _ htype).claim h).beside
  | create name => exact Desk.follows_create name
  | settled h => exact Desk.follows_settled h
  | completerStep h => exact Desk.follows_step h
  | poll number h => exact Desk.follows_poll number h
  | pollClaimed htype number h => exact Desk.follows_pollClaimed (hlawful _ htype) number h
  | isTerminated number => exact Desk.follows_isTerminated number
  | bridge htype number => exact Desk.follows_bridge (hlawful _ htype) number
  | observe number h => exact Desk.follows_listen number h
  | spawn awaited h => exact Desk.follows_spawn awaited h
  | runTasks => exact Desk.follows_runTasks

/-- Exchanges of requests that are alike, from desks and worlds that are alike to desks and worlds
that are alike, with answers that are alike. -/
inductive Exchange.Alike (like : Likeness ω κ ε) (lawful : FailureType ω κ ε → Prop) :
    Exchange ω κ ε base → Exchange ω κ ε base → Prop where
  | intro {s : Shape} {request other : Request ω κ ε base s}
    {before start : Desk ω κ ε (base.Carrier ε) × World ω κ}
    (hrequest : request.Alike like lawful other)
    (hbefore : Both (Desk.Alike like (base.Alike like.failures)) like.Worlds before start)
    (hexit : (Exchange.mk request before).exit.Matches (s.Alike like.failures)
      (Exchange.mk other start).exit)
    (hafter : Both (Desk.Alike like (base.Alike like.failures)) like.Worlds
      (Exchange.mk request before).after (Exchange.mk other start).after) :
    Alike like lawful ⟨request, before⟩ ⟨other, start⟩

/-- Programs that are alike, started at desks and in worlds that are alike, have the same number of
exchanges, which are alike one by one. -/
theorem Dialogue.Alike.run (hlawful : ∀ type, lawful type → like.Respects type)
    (hderived : like.Derived) {dialogue other : Dialogue ω κ ε base}
    (h : dialogue.Alike like lawful other)
    {before start : Desk ω κ ε (base.Carrier ε) × World ω κ}
    (hbefore : Both (Desk.Alike like (base.Alike like.failures)) like.Worlds before start) :
    List.Forall₂ (Exchange.Alike like lawful) (dialogue.run before) (other.run start) := by
  induction h generalizing before start with
  | finish => exact .nil
  | @ask s request other next rest hrequest _ ih =>
    obtain ⟨hexit, hafter⟩ := hrequest.follows hlawful hderived hbefore
    rw [Dialogue.run, Dialogue.run]
    refine List.Forall₂.cons (Exchange.Alike.intro hrequest hbefore hexit hafter) ?_
    generalize request.perform before = ended at hexit hafter ⊢
    generalize other.perform start = stopped at hexit hafter ⊢
    obtain ⟨exit, after⟩ := ended
    obtain ⟨answer, left⟩ := stopped
    cases hexit with
    | done hanswer => exact ih _ _ (.ok hanswer) hafter
    | panicked alarm => exact ih _ _ (.error rfl) hafter
    | unfinished => exact .nil

end Deferral
