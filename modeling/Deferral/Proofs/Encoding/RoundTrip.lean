import Deferral.Proofs.Encoding.Lawful
import Deferral.Proofs.Tokens.Flags

/-!
# Reading what was written

What is accepted as a deferred failure is told exactly: an object with the one member `Ok` or `Err`
whose content is accepted as such a part. Writing and reading are inverse where they are for the
parts.

The callables that write and read the parts may have effects. A `Scribe` is a codec with effects.
The one of deferred failures calls that of the part at hand and does nothing else; in particular, it
looks up no cancellation and writes no token. As with `Encodings`, how results and lists are written
and read by callables is a parameter, `Scribing`, and all that is assumed of it is
`Scribing.Standard`.
-/

namespace Deferral

variable {ω κ ι ε α : Type}

/-! ### What is accepted -/

namespace Codec

variable {results : Codec (Except ε α)} {failure : Codec ε} {value : Codec α}

/-- Nothing without a tag is accepted. -/
theorem TagsOutside.decode_of_untagged (h : results.TagsOutside failure value) {json : Json}
    (huntagged : ¬json.Tagged) : (deferred results).decode json = none := by
  change (results.decode json).map Deferred.hold = none
  rw [h.decode_untagged json huntagged, Option.map_none]

/-- What is accepted, and as what. -/
theorem TagsOutside.decode_iff (h : results.TagsOutside failure value) {json : Json}
    {m : Deferred ε α} :
    (deferred results).decode json = some m ↔
      (∃ content a, json = .obj [("Ok", content)] ∧ value.decode content = some a ∧ m = .value a) ∨
        ∃ content e, json = .obj [("Err", content)] ∧ failure.decode content = some e ∧
          m = .failure e := by
  constructor
  · intro hdecode
    by_cases htagged : json.Tagged
    · obtain ⟨content, rfl | rfl⟩ := htagged
      · rw [h.decode_value] at hdecode
        obtain ⟨a, ha, rfl⟩ := Option.map_eq_some_iff.1 hdecode
        exact .inl ⟨content, a, rfl, ha, rfl⟩
      · rw [h.decode_failure] at hdecode
        obtain ⟨e, he, rfl⟩ := Option.map_eq_some_iff.1 hdecode
        exact .inr ⟨content, e, rfl, he, rfl⟩
    · rw [h.decode_of_untagged htagged] at hdecode
      cases hdecode
  · rintro (⟨content, a, rfl, ha, rfl⟩ | ⟨content, e, rfl, he, rfl⟩)
    · rw [h.decode_value, ha, Option.map_some]
    · rw [h.decode_failure, he, Option.map_some]

end Codec

/-! ### Effects -/

/-- A result that is known goes on, from the world in which the first part has ended. -/
theorem Act.bind_of_exit {act : Act ω α} {world : ω} {a : α} (h : (act world).1 = .done a)
    (next : α → Act ω ε) : (act >>= next) world = next a (act world).2 :=
  bind_of_done (Prod.ext h rfl) next

/-- Callables that write the values of a type as JSON and read them back. -/
@[ext] structure Scribe (ω κ α : Type) where
  write : α → Run ω κ Json
  read : Json → Run ω κ (Option α)

namespace Scribe

/-- The callables that only do what a codec says. -/
def ofCodec (codec : Codec α) : Scribe ω κ α where
  write a := pure (codec.encode a)
  read json := pure (codec.decode json)

/-- Such a callable writes what the codec writes. -/
@[simp] theorem ofCodec_write (codec : Codec α) (a : α) :
    (ofCodec codec : Scribe ω κ α).write a = pure (codec.encode a) := rfl

/-- Such a callable reads what the codec reads. -/
@[simp] theorem ofCodec_read (codec : Codec α) (json : Json) :
    (ofCodec codec : Scribe ω κ α).read json = pure (codec.decode json) := rfl

/-- The scribe of results that does what their codec says, with callables for the parts. -/
def except (failure : Scribe ω κ ε) (value : Scribe ω κ α) : Scribe ω κ (Except ε α) where
  write
    | .ok a => do return .obj [("Ok", ← value.write a)]
    | .error e => do return .obj [("Err", ← failure.write e)]
  read
    | .obj [(name, content)] =>
      if name = "Ok" then do return (← value.read content).map .ok
      else if name = "Err" then do return (← failure.read content).map .error
      else pure none
    | _ => pure none

/-- The scribe of deferred failures, by way of a scribe of results. -/
def deferred (results : Scribe ω κ (Except ε α)) : Scribe ω κ (Deferred ε α) where
  write m := results.write m.toExcept
  read json := do return (← results.read json).map .hold

/-- Write each of the values. -/
def writeAll (scribe : Scribe ω κ α) : List α → Run ω κ (List Json)
  | [] => pure []
  | a :: rest => do
    let json ← scribe.write a
    return json :: (← scribe.writeAll rest)

/-- Read each of the values, up to one that is not accepted. -/
def readAll (scribe : Scribe ω κ α) : List Json → Run ω κ (Option (List α))
  | [] => pure (some [])
  | json :: rest => do
    match ← scribe.read json with
    | some a => return (← scribe.readAll rest).map (a :: ·)
    | none => pure none

/-- The scribe of lists. -/
def list (scribe : Scribe ω κ α) : Scribe ω κ (List α) where
  write elements := do return .arr (← scribe.writeAll elements)
  read
    | .arr elements => scribe.readAll elements
    | _ => pure none

/-- A scribe of results tags from outside: it calls the callable of the part that is there, names
the part, and does nothing else. -/
structure TagsOutside (results : Scribe ω κ (Except ε α)) (failure : Scribe ω κ ε)
    (value : Scribe ω κ α) : Prop where
  write_ok : ∀ a, results.write (.ok a) = do return .obj [("Ok", ← value.write a)]
  write_error : ∀ e, results.write (.error e) = do return .obj [("Err", ← failure.write e)]
  read_ok : ∀ content,
    results.read (.obj [("Ok", content)]) = do return (← value.read content).map .ok
  read_error : ∀ content,
    results.read (.obj [("Err", content)]) = do return (← failure.read content).map .error
  read_untagged : ∀ json, ¬json.Tagged → results.read json = pure none

/-- A scribe of lists makes arrays: it calls the callable of the elements for one after the other,
and does nothing else. -/
structure MakesArrays (lists : Scribe ω κ (List α)) (element : Scribe ω κ α) : Prop where
  write : ∀ elements, lists.write elements = do return .arr (← element.writeAll elements)
  read : ∀ jsons, lists.read (.arr jsons) = element.readAll jsons
  read_other : ∀ json, (∀ jsons, json ≠ .arr jsons) → lists.read json = pure none

/-- The scribe of results tags from outside. -/
theorem except_tagsOutside (failure : Scribe ω κ ε) (value : Scribe ω κ α) :
    (except failure value).TagsOutside failure value where
  write_ok _ := rfl
  write_error _ := rfl
  read_ok _ := rfl
  read_error _ := rfl
  read_untagged json huntagged := by
    unfold except
    dsimp only
    split
    next name content =>
      have hok : name ≠ "Ok" := fun hname => huntagged ⟨content, .inl (by rw [hname])⟩
      have herr : name ≠ "Err" := fun hname => huntagged ⟨content, .inr (by rw [hname])⟩
      rw [if_neg hok, if_neg herr]
    next => rfl

/-- The scribe of lists makes arrays. -/
theorem list_makesArrays (element : Scribe ω κ α) : (list element).MakesArrays element where
  write _ := rfl
  read _ := rfl
  read_other json hother := by
    cases json with
    | arr jsons => exact absurd rfl (hother jsons)
    | _ => rfl

section

variable {results : Scribe ω κ (Except ε α)} {failure : Scribe ω κ ε} {value : Scribe ω κ α}

/-- Only the callable of the value is called. -/
theorem TagsOutside.write_value (h : results.TagsOutside failure value) (a : α) :
    (deferred results).write (.value a) =
      value.write a >>= fun json => pure (.obj [("Ok", json)]) := h.write_ok a

/-- Only the callable of the failure is called. -/
theorem TagsOutside.write_failure (h : results.TagsOutside failure value) (e : ε) :
    (deferred results).write (.failure e) =
      failure.write e >>= fun json => pure (.obj [("Err", json)]) := h.write_error e

/-- What is tagged as a value is read by the callable of the value. -/
theorem TagsOutside.read_value (h : results.TagsOutside failure value) (content : Json) :
    (deferred results).read (.obj [("Ok", content)]) =
      value.read content >>= fun part => pure (part.map .value) := by
  simp only [deferred, h.read_ok, bind_assoc, pure_bind, Option.map_map]
  rfl

/-- What is tagged as a failure is read by the callable of the failure. -/
theorem TagsOutside.read_failure (h : results.TagsOutside failure value) (content : Json) :
    (deferred results).read (.obj [("Err", content)]) =
      failure.read content >>= fun part => pure (part.map .failure) := by
  simp only [deferred, h.read_error, bind_assoc, pure_bind, Option.map_map]
  rfl

/-- Anything else is refused at once. -/
theorem TagsOutside.read_of_untagged (h : results.TagsOutside failure value) {json : Json}
    (huntagged : ¬json.Tagged) : (deferred results).read json = pure none := by
  simp only [deferred, h.read_untagged json huntagged, pure_bind, Option.map_none]

end

/-! Put together from codecs, a scribe is the codec itself. -/

/-- Where only the parts are written and read, there are no effects for deferred failures. -/
theorem TagsOutside.eq_ofCodec {results : Scribe ω κ (Except ε α)} {encoded : Codec (Except ε α)}
    {failure : Codec ε} {value : Codec α}
    (h : results.TagsOutside (.ofCodec failure) (.ofCodec value))
    (hencoded : encoded.TagsOutside failure value) :
    deferred results = ofCodec (.deferred encoded) := by
  ext1
  case write =>
    funext m
    cases m with
    | value a => rw [h.write_value, ofCodec_write, ofCodec_write, pure_bind, hencoded.encode_value]
    | failure e =>
      rw [h.write_failure, ofCodec_write, ofCodec_write, pure_bind, hencoded.encode_failure]
  case read =>
    funext json
    by_cases htagged : json.Tagged
    · obtain ⟨content, rfl | rfl⟩ := htagged
      · rw [h.read_value, ofCodec_read, ofCodec_read, pure_bind, hencoded.decode_value]
      · rw [h.read_failure, ofCodec_read, ofCodec_read, pure_bind, hencoded.decode_failure]
    · rw [h.read_of_untagged htagged, ofCodec_read, hencoded.decode_of_untagged htagged]

/-- Where only the elements are written and read, there are no effects for lists. -/
theorem MakesArrays.eq_ofCodec {lists : Scribe ω κ (List α)} {encoded : Codec (List α)}
    {value : Codec α} (h : lists.MakesArrays (.ofCodec value))
    (hencoded : encoded.MakesArrays value) : lists = ofCodec encoded := by
  have hwrite (elements : List α) :
      ((Scribe.ofCodec value).writeAll elements : Run ω κ _) =
        pure (elements.map value.encode) := by
    induction elements with
    | nil => rfl
    | cons a rest ih => rw [writeAll, ih]; rfl
  have hread (jsons : List Json) :
      ((Scribe.ofCodec value).readAll jsons : Run ω κ _) = pure (value.decodeAll jsons) := by
    induction jsons with
    | nil => rfl
    | cons json rest ih =>
      rw [readAll, ih, Codec.decodeAll]
      rw [ofCodec_read, pure_bind]
      cases value.decode json with
      | none => rfl
      | some a => cases value.decodeAll rest <;> rfl
  ext1
  case write =>
    funext elements
    rw [h.write, hwrite, pure_bind, ofCodec_write, hencoded.encode]
  case read =>
    funext json
    cases json with
    | arr jsons => rw [h.read, hread, ofCodec_read, hencoded.decode]
    | _ => rw [h.read_other _ (by simp), ofCodec_read, hencoded.decode_other _ (by simp)]

/-- Writing and reading come to what the codec says, whatever they do besides. -/
structure Follows (scribe : Scribe ω κ α) (codec : Codec α) : Prop where
  write : ∀ a world, (scribe.write a world).1 = .done (codec.encode a)
  read : ∀ json world, (scribe.read json world).1 = .done (codec.decode json)

/-- Neither writing nor reading writes a token. -/
structure Quiet (scribe : Scribe ω κ α) : Prop where
  write : ∀ a, (scribe.write a).Quiet
  read : ∀ json, (scribe.read json).Quiet

/-- To write or read a deferred failure is to write or read the part that is there: the world is
left as the callable for that part leaves it. -/
structure AddsNothing (results : Scribe ω κ (Except ε α)) (failure : Scribe ω κ ε)
    (value : Scribe ω κ α) : Prop where
  write_value : ∀ a world,
    ((deferred results).write (.value a) world).2 = (value.write a world).2
  write_failure : ∀ e world,
    ((deferred results).write (.failure e) world).2 = (failure.write e world).2
  read_ok : ∀ content world,
    ((deferred results).read (.obj [("Ok", content)]) world).2 = (value.read content world).2
  read_err : ∀ content world,
    ((deferred results).read (.obj [("Err", content)]) world).2 = (failure.read content world).2
  read_untagged : ∀ json, ¬json.Tagged → ∀ world,
    (deferred results).read json world = (.done none, world)

section

variable {results : Scribe ω κ (Except ε α)} {lists : Scribe ω κ (List α)}
  {failure : Scribe ω κ ε} {value : Scribe ω κ α} {encoded : Codec (Except ε α)}
  {arrays : Codec (List α)} {failures : Codec ε} {values : Codec α}

/-- Nothing is done for the tags. -/
theorem TagsOutside.addsNothing (h : results.TagsOutside failure value) :
    results.AddsNothing failure value where
  write_value a world := by rw [h.write_value, Act.after_bind_pure]
  write_failure e world := by rw [h.write_failure, Act.after_bind_pure]
  read_ok content world := by rw [h.read_value, Act.after_bind_pure]
  read_err content world := by rw [h.read_failure, Act.after_bind_pure]
  read_untagged json huntagged world := by rw [h.read_of_untagged huntagged, Act.pure_apply]

/-- The scribe of deferred failures follows their codec if those of the parts follow theirs. -/
theorem TagsOutside.follows (h : results.TagsOutside failure value)
    (hencoded : encoded.TagsOutside failures values) (hfailure : failure.Follows failures)
    (hvalue : value.Follows values) : (deferred results).Follows (.deferred encoded) where
  write m world := by
    cases m with
    | value a =>
      rw [h.write_value, Act.bind_of_exit (hvalue.write a world), hencoded.encode_value]
      rfl
    | failure e =>
      rw [h.write_failure, Act.bind_of_exit (hfailure.write e world), hencoded.encode_failure]
      rfl
  read json world := by
    by_cases htagged : json.Tagged
    · obtain ⟨content, rfl | rfl⟩ := htagged
      · rw [h.read_value, Act.bind_of_exit (hvalue.read content world), hencoded.decode_value]
        rfl
      · rw [h.read_failure, Act.bind_of_exit (hfailure.read content world),
          hencoded.decode_failure]
        rfl
    · rw [h.read_of_untagged htagged, hencoded.decode_of_untagged htagged]
      rfl

/-- All elements are written as the codec of the elements says. -/
theorem Follows.writeAll (hvalue : value.Follows values) (elements : List α) (world : World ω κ) :
    (value.writeAll elements world).1 = .done (elements.map values.encode) := by
  induction elements generalizing world with
  | nil => rfl
  | cons a rest ih =>
    rw [Scribe.writeAll, Act.bind_of_exit (hvalue.write a world), Act.bind_of_exit (ih _)]
    rfl

/-- All elements are read as the codec of the elements says. -/
theorem Follows.readAll (hvalue : value.Follows values) (elements : List Json)
    (world : World ω κ) : (value.readAll elements world).1 = .done (values.decodeAll elements) := by
  induction elements generalizing world with
  | nil => rfl
  | cons json rest ih =>
    rw [Scribe.readAll, Act.bind_of_exit (hvalue.read json world), Codec.decodeAll]
    cases values.decode json with
    | none => rfl
    | some a =>
      dsimp only
      rw [Act.bind_of_exit (ih _)]
      cases values.decodeAll rest <;> rfl

/-- The scribe of lists follows their codec if that of the elements follows its own. -/
theorem MakesArrays.follows (h : lists.MakesArrays value) (harrays : arrays.MakesArrays values)
    (hvalue : value.Follows values) : lists.Follows arrays where
  write elements world := by
    rw [h.write, Act.bind_of_exit (hvalue.writeAll elements world), harrays.encode]
    rfl
  read json world := by
    cases json with
    | arr jsons => rw [h.read, hvalue.readAll jsons world, harrays.decode]
    | _ => rw [h.read_other _ (by simp), harrays.decode_other _ (by simp)]; rfl

/-- The scribe of deferred failures writes no token if those of the parts write none. -/
theorem TagsOutside.quiet (h : results.TagsOutside failure value) (hfailure : failure.Quiet)
    (hvalue : value.Quiet) : (deferred results).Quiet where
  write m := by
    cases m with
    | value a =>
      rw [h.write_value]
      exact (hvalue.write a).bind fun json => .pure _
    | failure e =>
      rw [h.write_failure]
      exact (hfailure.write e).bind fun json => .pure _
  read json := by
    by_cases htagged : json.Tagged
    · obtain ⟨content, rfl | rfl⟩ := htagged
      · rw [h.read_value]
        exact (hvalue.read content).bind fun part => .pure _
      · rw [h.read_failure]
        exact (hfailure.read content).bind fun part => .pure _
    · rw [h.read_of_untagged htagged]
      exact .pure _

/-- The scribe of lists writes no token if that of the elements writes none. -/
theorem MakesArrays.quiet (h : lists.MakesArrays value) (hvalue : value.Quiet) : lists.Quiet where
  write elements := by
    have hall : (value.writeAll elements).Quiet := by
      induction elements with
      | nil => exact .pure _
      | cons a rest ih => exact (hvalue.write a).bind fun json => ih.bind fun rest => .pure _
    rw [h.write]
    exact hall.bind fun elements => .pure _
  read json := by
    have hall (jsons : List Json) : (value.readAll jsons).Quiet := by
      induction jsons with
      | nil => exact .pure _
      | cons json rest ih =>
        refine (hvalue.read json).bind fun part => ?_
        cases part with
        | none => exact .pure _
        | some a => exact ih.bind fun parts => .pure _
    cases json with
    | arr jsons =>
      rw [h.read]
      exact hall jsons
    | _ =>
      rw [h.read_other _ (by simp)]
      exact .pure _

end

end Scribe

/-- How results and lists are written and read, given callables for what they hold. -/
structure Scribing (ω κ : Type) where
  result : {ε α : Type} → Scribe ω κ ε → Scribe ω κ α → Scribe ω κ (Except ε α)
  list : {α : Type} → Scribe ω κ α → Scribe ω κ (List α)

namespace Scribing

/-- What is assumed of the writing and reading of results and lists. -/
structure Standard (scribing : Scribing ω κ) : Prop where
  result : ∀ {ε α : Type} (failure : Scribe ω κ ε) (value : Scribe ω κ α),
    (scribing.result failure value).TagsOutside failure value
  list : ∀ {α : Type} (element : Scribe ω κ α), (scribing.list element).MakesArrays element

/-- The scribes of results and of lists. -/
def plain : Scribing ω κ := ⟨Scribe.except, Scribe.list⟩

/-- The scribes of results and of lists are such. -/
theorem plain_standard : (plain : Scribing ω κ).Standard :=
  ⟨Scribe.except_tagsOutside, Scribe.list_makesArrays⟩

end Scribing

namespace Nest

variable {part : ι → Type} {encodings : Encodings} {scribing : Scribing ω κ}

/-- The scribe of a nest. -/
def scribe (scribing : Scribing ω κ) (leaves : (i : ι) → Scribe ω κ (part i)) :
    (nest : Nest ι) → Scribe ω κ (nest.Carrier part)
  | leaf i => leaves i
  | list element => scribing.list (element.scribe scribing leaves)
  | deferred failure value =>
    .deferred (scribing.result (failure.scribe scribing leaves) (value.scribe scribing leaves))

/-- The codec of a nest is the scribe that is put together from codecs. -/
theorem scribe_ofCodec (hencodings : encodings.Standard) (hscribing : scribing.Standard)
    (leaves : (i : ι) → Codec (part i)) (nest : Nest ι) :
    nest.scribe scribing (fun i => .ofCodec (leaves i)) =
      .ofCodec (nest.codec encodings leaves) := by
  induction nest with
  | leaf i => rfl
  | list element ih =>
    have harrays := hscribing.list (element.scribe scribing fun i => .ofCodec (leaves i))
    rw [ih] at harrays
    rw [scribe, ih, harrays.eq_ofCodec (hencodings.list _)]
    rfl
  | deferred failure value hfailure hvalue =>
    have htags := hscribing.result (failure.scribe scribing fun i => .ofCodec (leaves i))
      (value.scribe scribing fun i => .ofCodec (leaves i))
    rw [hfailure, hvalue] at htags
    rw [scribe, hfailure, hvalue, htags.eq_ofCodec (hencodings.result _ _)]
    rfl

/-- The scribe of a nest follows its codec if those of what it is built over follow theirs. -/
theorem scribe_follows (hencodings : encodings.Standard) (hscribing : scribing.Standard)
    {scribes : (i : ι) → Scribe ω κ (part i)} {leaves : (i : ι) → Codec (part i)}
    (hfollows : ∀ i, (scribes i).Follows (leaves i)) (nest : Nest ι) :
    (nest.scribe scribing scribes).Follows (nest.codec encodings leaves) := by
  induction nest with
  | leaf i => exact hfollows i
  | list element ih => exact (hscribing.list _).follows (hencodings.list _) ih
  | deferred failure value hfailure hvalue =>
    exact (hscribing.result _ _).follows (hencodings.result _ _) hfailure hvalue

/-- The scribe of a nest writes no token if those of what it is built over write none. -/
theorem scribe_quiet (hscribing : scribing.Standard) {scribes : (i : ι) → Scribe ω κ (part i)}
    (hquiet : ∀ i, (scribes i).Quiet) (nest : Nest ι) :
    (nest.scribe scribing scribes).Quiet := by
  induction nest with
  | leaf i => exact hquiet i
  | list element ih => exact (hscribing.list _).quiet ih
  | deferred failure value hfailure hvalue => exact (hscribing.result _ _).quiet hfailure hvalue

end Nest

/-! ### Both directions together -/

namespace Codec

/-- Writing and reading deferred failures with these parts, by way of these results, are inverse,
where the values in `goodFailure` and `goodValue` are those that the types of the parts have. -/
structure Inverts (results : Codec (Except ε α)) (failure : Codec ε) (value : Codec α)
    (goodFailure : ε → Prop) (goodValue : α → Prop) : Prop where
  /-- What was written is read back. -/
  roundTrip : ∀ m : Deferred ε α, m.Each goodFailure goodValue →
    (deferred results).decode ((deferred results).encode m) = some m
  /-- What is accepted is an object with one member, which is named for the part that it holds and
  is accepted as such a part. -/
  accepts : ∀ json m, (deferred results).decode json = some m ↔
    (∃ content a, json = .obj [("Ok", content)] ∧ value.decode content = some a ∧ m = .value a) ∨
      ∃ content e, json = .obj [("Err", content)] ∧ failure.decode content = some e ∧
        m = .failure e
  /-- What is accepted is what would be written, if its content is what would be written. -/
  canonical : ∀ name content m, (deferred results).decode (.obj [(name, content)]) = some m →
    m.Each (fun e => failure.encode e = content) (fun a => value.encode a = content) →
      (deferred results).encode m = .obj [(name, content)]
  /-- A deferred failure is written as the result that it stands for. -/
  asResult : ∀ m : Deferred ε α, (deferred results).encode m = results.encode m.toExcept

/-- By way of results that are tagged from outside, writing and reading are inverse if they are for
the parts. -/
theorem TagsOutside.inverts {results : Codec (Except ε α)} {failure : Codec ε} {value : Codec α}
    {goodFailure : ε → Prop} {goodValue : α → Prop} (h : results.TagsOutside failure value)
    (hfailure : failure.LawfulOn goodFailure) (hvalue : value.LawfulOn goodValue) :
    results.Inverts failure value goodFailure goodValue where
  roundTrip m hgood := h.lawfulOn hfailure hvalue m hgood
  accepts json m := h.decode_iff
  canonical name content m haccepted hcontent := by
    rcases h.decode_iff.1 haccepted with
      ⟨other, a, hjson, hpart, rfl⟩ | ⟨other, e, hjson, hpart, rfl⟩
    all_goals cases hjson
    · rw [h.encode_value, hcontent]
    · rw [h.encode_failure, hcontent]
  asResult m := rfl

end Codec

namespace Nest

variable {part : ι → Type}

/-- Writing and reading a nest of deferred failures, by callables for the types that it is built
over, does nothing but call these. -/
structure LeavesTokens (encodings : Encodings) (leaves : (i : ι) → Codec (part i))
    (failure value : Nest ι) : Prop where
  /-- The codec is the case of callables without effects. -/
  ofCodec : ∀ {ω κ : Type} (scribing : Scribing ω κ), scribing.Standard →
    (deferred failure value).scribe scribing (fun i => .ofCodec (leaves i)) =
      .ofCodec ((deferred failure value).codec encodings leaves)
  /-- Callables with effects that come to what their codecs say are put together to such. -/
  follows : ∀ {ω κ : Type} (scribing : Scribing ω κ), scribing.Standard →
    ∀ scribes : (i : ι) → Scribe ω κ (part i), (∀ i, (scribes i).Follows (leaves i)) →
      ((deferred failure value).scribe scribing scribes).Follows
        ((deferred failure value).codec encodings leaves)
  /-- Nothing is done but what is done for the part that is there. -/
  addsNothing : ∀ {ω κ : Type} (scribing : Scribing ω κ), scribing.Standard →
    ∀ scribes : (i : ι) → Scribe ω κ (part i),
      (scribing.result (failure.scribe scribing scribes)
        (value.scribe scribing scribes)).AddsNothing
          (failure.scribe scribing scribes) (value.scribe scribing scribes)
  /-- No token is written where the callables write none. -/
  quiet : ∀ {ω κ : Type} (scribing : Scribing ω κ), scribing.Standard →
    ∀ scribes : (i : ι) → Scribe ω κ (part i), (∀ i, (scribes i).Quiet) →
      ((deferred failure value).scribe scribing scribes).Quiet

/-- Whatever a nest is built over, and whatever is nested in it, tokens are left alone. -/
theorem leavesTokens {encodings : Encodings} (hencodings : encodings.Standard)
    (leaves : (i : ι) → Codec (part i)) (failure value : Nest ι) :
    LeavesTokens encodings leaves failure value where
  ofCodec _ hscribing := scribe_ofCodec hencodings hscribing leaves (deferred failure value)
  follows _ hscribing _ hfollows :=
    scribe_follows hencodings hscribing hfollows (deferred failure value)
  addsNothing _ hscribing _ := (hscribing.result _ _).addsNothing
  quiet _ hscribing _ hquiet := scribe_quiet hscribing hquiet (deferred failure value)

/-- Writing and reading deferred failures are inverse for all types whose own values are read back
as they were written, and for deferred failures and lists of these, nested in each other to any
depth. All that is assumed of the encodings of results and lists is that results are tagged from
outside and that lists are arrays. Neither direction does anything to a token. -/
theorem codecs_invert {encodings : Encodings} (hencodings : encodings.Standard)
    {leaves : (i : ι) → Codec (part i)} {good : (i : ι) → part i → Prop}
    (hlawful : ∀ i, (leaves i).LawfulOn (good i)) (failure value : Nest ι) :
    (encodings.result (failure.codec encodings leaves) (value.codec encodings leaves)).Inverts
        (failure.codec encodings leaves) (value.codec encodings leaves) (failure.Each good)
        (value.Each good) ∧
      LeavesTokens encodings leaves failure value := by
  have hfailure : (failure.codec encodings leaves).LawfulOn (failure.Each good) :=
    failure.codec_lawfulOn hencodings hlawful
  have hvalue : (value.codec encodings leaves).LawfulOn (value.Each good) :=
    value.codec_lawfulOn hencodings hlawful
  exact ⟨(hencodings.result _ _).inverts hfailure hvalue,
    leavesTokens hencodings leaves failure value⟩

end Nest

namespace Script

/-- The forms of a script, with a failure that holds a token, and lists of deferred integers. -/
theorem codecs_invert_forms :
    let names : TokenNames := [("stop", ⟨1⟩)]
    let failure : Nest Form := .leaf .stop
    let value : Nest Form := .list (.deferred (.leaf .text) (.leaf .integer))
    let nest : Nest Form := .deferred failure value
    let codec := nest.codec .scripted (Form.codec names)
    let stopped : Deferred (Token × String) (List (Deferred String Int)) :=
      .failure (⟨1⟩, "late")
    let listed : Deferred (Token × String) (List (Deferred String Int)) :=
      .value [.value 3, .failure "bad"]
    Encodings.scripted.Standard ∧ (∀ form : Form, (form.codec names).LawfulOn (form.Has names)) ∧
      codec.decode (codec.encode stopped) = some stopped ∧
      codec.decode (codec.encode listed) = some listed ∧
      (Scribing.plain : Scribing Event Calls).Standard ∧
      nest.scribe .plain (fun form => (.ofCodec (form.codec names) : Scribe Event Calls _)) =
        .ofCodec codec := by
  intro names failure value nest codec stopped listed
  have hlawful (form : Form) : (form.codec names).LawfulOn (form.Has names) :=
    form.codec_lawfulOn (by decide)
  obtain ⟨hinverts, hleaves⟩ :=
    Nest.codecs_invert Encodings.scripted_standard hlawful failure value
  refine ⟨Encodings.scripted_standard, hlawful, hinverts.roundTrip stopped ?_,
    hinverts.roundTrip listed ?_, Scribing.plain_standard,
    hleaves.ofCodec .plain Scribing.plain_standard⟩
  · exact List.mem_cons_self
  · intro held hmem
    rcases List.mem_cons.1 hmem with rfl | hmem
    · exact ⟨by decide, by decide⟩
    · cases List.mem_singleton.1 hmem
      trivial

end Script

end Deferral
