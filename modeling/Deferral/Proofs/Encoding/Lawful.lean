import Deferral.Script.CodecScript
import Mathlib.Data.String.Basic

/-!
# Codecs that read what they write

Reading gives back what was written, for the codecs of plain values and for those that are put
together from others: of a value that may be absent, of lists and maps, and of deferred failures.
An integer is read back only if it is in bounds, and a map only if its names are in order. So each
lemma says for which values a codec is lawful.

How results and lists are encoded is not up to deferred failures. It is a parameter, `Encodings`,
and `Encodings.Standard` is all that is assumed of it: results are tagged from outside, and lists
are arrays. A `Nest` says how deferred failures and lists are nested, to any depth, over types whose
codecs are given; its codec is lawful where those are. The codecs of all forms of scripts are lawful
for the values of the form.
-/

namespace Deferral

variable {ι ε α : Type}

/-- The part that is held is as it should be. -/
def Deferred.Each (failure : ε → Prop) (value : α → Prop) : Deferred ε α → Prop
  | .value a => value a
  | .failure e => failure e

/-- An object with one member, which is named for what it holds. -/
def Json.Tagged (json : Json) : Prop :=
  ∃ content, json = .obj [("Ok", content)] ∨ json = .obj [("Err", content)]

namespace Codec

/-- Reading gives back what was written of the values in `good`. -/
def LawfulOn (codec : Codec α) (good : α → Prop) : Prop :=
  ∀ a, good a → codec.decode (codec.encode a) = some a

/-! ### Results and lists -/

/-- A codec of results tags from outside: it writes an object with one member, which is named for
what it holds, and accepts nothing else. -/
structure TagsOutside (results : Codec (Except ε α)) (failure : Codec ε) (value : Codec α) :
    Prop where
  encode_ok : ∀ a, results.encode (.ok a) = .obj [("Ok", value.encode a)]
  encode_error : ∀ e, results.encode (.error e) = .obj [("Err", failure.encode e)]
  decode_ok : ∀ content, results.decode (.obj [("Ok", content)]) = (value.decode content).map .ok
  decode_error : ∀ content,
    results.decode (.obj [("Err", content)]) = (failure.decode content).map .error
  decode_untagged : ∀ json, ¬json.Tagged → results.decode json = none

/-- A codec of lists makes arrays: it writes and reads one element after the other, and accepts
nothing else. -/
structure MakesArrays (lists : Codec (List α)) (element : Codec α) : Prop where
  encode : ∀ elements, lists.encode elements = .arr (elements.map element.encode)
  decode : ∀ jsons, lists.decode (.arr jsons) = element.decodeAll jsons
  decode_other : ∀ json, (∀ jsons, json ≠ .arr jsons) → lists.decode json = none

/-- The codec of results that scripts use tags from outside. -/
theorem except_tagsOutside (failure : Codec ε) (value : Codec α) :
    (except failure value).TagsOutside failure value where
  encode_ok _ := rfl
  encode_error _ := rfl
  decode_ok _ := rfl
  decode_error _ := rfl
  decode_untagged json huntagged := by
    unfold except
    dsimp only
    split
    next name content =>
      have hok : name ≠ "Ok" := fun hname => huntagged ⟨content, .inl (by rw [hname])⟩
      have herr : name ≠ "Err" := fun hname => huntagged ⟨content, .inr (by rw [hname])⟩
      rw [if_neg hok, if_neg herr]
    next => rfl

/-- The codec of lists that scripts use makes arrays. -/
theorem list_makesArrays (element : Codec α) : (list element).MakesArrays element where
  encode _ := rfl
  decode _ := rfl
  decode_other json hother := by
    cases json with
    | arr jsons => exact absurd rfl (hother jsons)
    | _ => rfl

section

variable {results : Codec (Except ε α)} {lists : Codec (List α)} {failure : Codec ε}
  {value : Codec α} {goodFailure : ε → Prop} {goodValue : α → Prop}

/-- A value is written as the result that it is. -/
theorem TagsOutside.encode_value (h : results.TagsOutside failure value) (a : α) :
    (deferred results).encode (.value a) = .obj [("Ok", value.encode a)] := h.encode_ok a

/-- A failure is written as the result that it is. -/
theorem TagsOutside.encode_failure (h : results.TagsOutside failure value) (e : ε) :
    (deferred results).encode (.failure e) = .obj [("Err", failure.encode e)] := h.encode_error e

/-- What is tagged as a value is read as a value. -/
theorem TagsOutside.decode_value (h : results.TagsOutside failure value) (content : Json) :
    (deferred results).decode (.obj [("Ok", content)]) = (value.decode content).map .value := by
  change (results.decode _).map Deferred.hold = _
  rw [h.decode_ok, Option.map_map]
  rfl

/-- What is tagged as a failure is read as a failure. -/
theorem TagsOutside.decode_failure (h : results.TagsOutside failure value) (content : Json) :
    (deferred results).decode (.obj [("Err", content)]) =
      (failure.decode content).map .failure := by
  change (results.decode _).map Deferred.hold = _
  rw [h.decode_error, Option.map_map]
  rfl

/-- A deferred failure is read back if the part that it holds is. -/
theorem TagsOutside.lawfulOn (h : results.TagsOutside failure value)
    (hfailure : failure.LawfulOn goodFailure) (hvalue : value.LawfulOn goodValue) :
    (deferred results).LawfulOn (Deferred.Each goodFailure goodValue) := by
  intro m hgood
  cases m with
  | value a => rw [h.encode_value, h.decode_value, hvalue a hgood, Option.map_some]
  | failure e => rw [h.encode_failure, h.decode_failure, hfailure e hgood, Option.map_some]

/-- A list is read back if all of its elements are. -/
theorem MakesArrays.lawfulOn (h : lists.MakesArrays value) (hvalue : value.LawfulOn goodValue) :
    lists.LawfulOn fun elements => ∀ a ∈ elements, goodValue a := by
  intro elements hgood
  rw [h.encode, h.decode]
  induction elements with
  | nil => rfl
  | cons a rest ih =>
    have hrest : value.decodeAll (rest.map value.encode) = some rest :=
      ih fun b hb => hgood b (List.mem_cons_of_mem a hb)
    rw [List.map_cons, decodeAll, hvalue a (hgood a List.mem_cons_self), hrest]
    rfl

/-! ### Plain values, and maps of them -/

/-- An integer is read back if it is in bounds. -/
theorem intBetween_lawfulOn (low high : Int) :
    (intBetween low high).LawfulOn fun n => low ≤ n ∧ n ≤ high :=
  fun _ hbounds => if_pos hbounds

/-- Every text is read back. -/
theorem text_lawfulOn : text.LawfulOn fun _ => True := fun _ _ => rfl

/-- A value that may be absent is read back if no value is written as if it were absent. -/
theorem option_lawfulOn (hvalue : value.LawfulOn goodValue) (hnull : ∀ a, value.encode a ≠ .null) :
    (option value).LawfulOn fun a? => ∀ a ∈ a?, goodValue a := by
  intro a? hgood
  cases a? with
  | none => rfl
  | some a =>
    have hread : (option value).decode (value.encode a) =
        (value.decode (value.encode a)).map some := by
      unfold option
      dsimp only
      split
      next hjson => exact absurd hjson (hnull a)
      next => rfl
    change (option value).decode (value.encode a) = some (some a)
    rw [hread, hvalue a (hgood a rfl), Option.map_some]

/-- A member with a name behind all others is put behind them. -/
theorem insertMember_of_lt {name : String} {members : List (String × α)} (a : α)
    (hlt : ∀ member ∈ members, member.1 < name) :
    insertMember name a members = members ++ [(name, a)] := by
  induction members with
  | nil => rfl
  | cons member rest ih =>
    have hfirst : member.1 < name := hlt member List.mem_cons_self
    have hrest : insertMember name a rest = rest ++ [(name, a)] :=
      ih fun other hother => hlt other (List.mem_cons_of_mem member hother)
    rw [insertMember, if_neg hfirst.ne', if_neg hfirst.not_gt, hrest, List.cons_append]

/-- Members in the order of their names are read back behind those that have been read. -/
theorem decodeMembers_encode (hvalue : value.LawfulOn goodValue) (read : List (String × α))
    {members : List (String × α)}
    (hsorted : (read ++ members).Pairwise fun first second => first.1 < second.1)
    (hgood : ∀ member ∈ members, goodValue member.2) :
    value.decodeMembers (members.map fun (name, a) => (name, value.encode a)) read =
      some (read ++ members) := by
  induction members generalizing read with
  | nil => rw [List.append_nil]; rfl
  | cons member rest ih =>
    have hpart : value.decode (value.encode member.2) = some member.2 :=
      hvalue member.2 (hgood member List.mem_cons_self)
    have hlt : ∀ other ∈ read, other.1 < member.1 := fun other hother =>
      (List.pairwise_append.1 hsorted).2.2 other hother member List.mem_cons_self
    rw [List.append_cons] at hsorted ⊢
    rw [List.map_cons, decodeMembers, hpart]
    change value.decodeMembers _ (insertMember member.1 member.2 read) = _
    rw [insertMember_of_lt member.2 hlt]
    exact ih _ hsorted fun other hother => hgood other (List.mem_cons_of_mem member hother)

/-- A map is read back if its names are in order and all of its values are read back. -/
theorem map_lawfulOn (hvalue : value.LawfulOn goodValue) :
    (map value).LawfulOn fun members =>
      members.Pairwise (fun first second => first.1 < second.1) ∧
        ∀ member ∈ members, goodValue member.2 := by
  rintro members ⟨hsorted, hgood⟩
  exact decodeMembers_encode hvalue [] hsorted hgood

end

end Codec

/-- How results and lists are encoded, given how what they hold is encoded. -/
structure Encodings where
  result : {ε α : Type} → Codec ε → Codec α → Codec (Except ε α)
  list : {α : Type} → Codec α → Codec (List α)

namespace Encodings

/-- What is assumed of the encodings of results and lists. -/
structure Standard (encodings : Encodings) : Prop where
  result : ∀ {ε α : Type} (failure : Codec ε) (value : Codec α),
    (encodings.result failure value).TagsOutside failure value
  list : ∀ {α : Type} (element : Codec α), (encodings.list element).MakesArrays element

/-- The encodings that scripts use. -/
def scripted : Encodings := ⟨Codec.except, Codec.list⟩

/-- The encodings that scripts use are such. -/
theorem scripted_standard : scripted.Standard := ⟨Codec.except_tagsOutside, Codec.list_makesArrays⟩

end Encodings

/-! ### Nests -/

/-- Deferred failures and lists, nested in each other to any depth over types that are named by
`ι`. -/
inductive Nest (ι : Type) where
  | leaf (i : ι)
  | list (element : Nest ι)
  | deferred (failure value : Nest ι)
deriving DecidableEq, Repr

namespace Nest

variable {part : ι → Type}

/-- The values of a nest. -/
def Carrier (part : ι → Type) : Nest ι → Type
  | leaf i => part i
  | list element => List (element.Carrier part)
  | deferred failure value => Deferred (failure.Carrier part) (value.Carrier part)

/-- The codec of a nest. -/
def codec (encodings : Encodings) (leaves : (i : ι) → Codec (part i)) :
    (nest : Nest ι) → Codec (nest.Carrier part)
  | leaf i => leaves i
  | list element => encodings.list (element.codec encodings leaves)
  | deferred failure value =>
    .deferred (encodings.result (failure.codec encodings leaves) (value.codec encodings leaves))

/-- All that is held anywhere in a nest is as it should be. -/
def Each (good : (i : ι) → part i → Prop) : (nest : Nest ι) → nest.Carrier part → Prop
  | leaf i => good i
  | list element => fun elements : List (element.Carrier part) =>
    ∀ a ∈ elements, element.Each good a
  | deferred failure value => Deferred.Each (failure.Each good) (value.Each good)

/-- Reading gives back a nest where it gives back what is held in it. -/
theorem codec_lawfulOn {encodings : Encodings} (hstandard : encodings.Standard)
    {leaves : (i : ι) → Codec (part i)} {good : (i : ι) → part i → Prop}
    (hlawful : ∀ i, (leaves i).LawfulOn (good i)) (nest : Nest ι) :
    (nest.codec encodings leaves).LawfulOn (nest.Each good) := by
  induction nest with
  | leaf i => exact hlawful i
  | list element ih => exact (hstandard.list _).lawfulOn ih
  | deferred failure value hfailure hvalue =>
    exact (hstandard.result _ _).lawfulOn hfailure hvalue

end Nest

/-! ### The forms of scripts -/

namespace Script

section

variable {first : Codec α} {second : Codec ε} {goodFirst : α → Prop} {goodSecond : ε → Prop}

/-- A pair is read back if both of its parts are. -/
theorem pairCodec_lawfulOn (hfirst : first.LawfulOn goodFirst)
    (hsecond : second.LawfulOn goodSecond) :
    (pairCodec first second).LawfulOn fun pair => goodFirst pair.1 ∧ goodSecond pair.2 := by
  rintro ⟨a, e⟩ ⟨ha, he⟩
  change (do
    let a ← first.decode (first.encode a)
    let e ← second.decode (second.encode e)
    return (a, e)) = some (a, e)
  rw [hfirst a ha, hsecond e he]
  rfl

end

/-- A token is read back by its name, if that is not the name of another token, too. -/
theorem tokenCodec_lawfulOn {names : TokenNames} (hnames : (names.map Prod.fst).Nodup) :
    (tokenCodec names).LawfulOn fun token => token ∈ names.map Prod.snd := by
  intro token hnamed
  obtain ⟨named, hmem, hsame⟩ := List.mem_map.1 hnamed
  cases hfind : names.find? (·.2 == token) with
  | none => exact absurd (beq_iff_eq.2 hsame) (List.find?_eq_none.1 hfind named hmem)
  | some entry =>
    have hfound := List.find?_some hfind
    have hentry : entry.2 = token := beq_iff_eq.1 hfound
    obtain ⟨before, behind, hplace⟩ := List.mem_iff_append.1 (List.mem_of_find?_eq_some hfind)
    have hother : ∀ other ∈ before, (entry.1 != other.1) = true := by
      intro other hother
      rw [hplace, List.map_append, List.nodup_append] at hnames
      have hne : other.1 ≠ entry.1 := hnames.2.2 other.1 (List.mem_map_of_mem hother) entry.1
        List.mem_cons_self
      exact bne_iff_ne.2 hne.symm
    have hlookup : names.lookup entry.1 = some token :=
      List.lookup_eq_some_iff.2 ⟨before, behind, by rw [hplace, ← hentry], hother⟩
    have hencode : (tokenCodec names).encode token = .str entry.1 := by
      simp only [tokenCodec, hfind, Option.elim_some]
    rw [hencode]
    exact hlookup

namespace Form

/-- An integer of 64 bits. -/
def IsInteger (n : Int) : Prop := -9223372036854775808 ≤ n ∧ n ≤ 9223372036854775807

/-- The values that have a form, where tokens have these names. -/
def Has (names : TokenNames) : (form : Form) → form.Carrier → Prop
  | integer => IsInteger
  | small => fun n : Int => -128 ≤ n ∧ n ≤ 127
  | text => fun _ => True
  | flag => fun _ => True
  | unit => fun _ => True
  | optional => fun n? : Option Int => ∀ n ∈ n?, IsInteger n
  | integers => fun elements : List Int => ∀ n ∈ elements, IsInteger n
  | deferred => Deferred.Each (fun _ => True) IsInteger
  | members => fun members : List (String × Int) =>
    members.Pairwise (fun first second => first.1 < second.1) ∧
      ∀ member ∈ members, IsInteger member.2
  | stop => fun stop : Token × String => stop.1 ∈ names.map Prod.snd

/-- The values of all forms are read back as they were written. -/
theorem codec_lawfulOn {names : TokenNames} (hnames : (names.map Prod.fst).Nodup) (form : Form) :
    (form.codec names).LawfulOn (form.Has names) := by
  have hinteger : integerCodec.LawfulOn IsInteger := Codec.intBetween_lawfulOn _ _
  cases form with
  | integer => exact hinteger
  | small => exact Codec.intBetween_lawfulOn (-128) 127
  | text => exact Codec.text_lawfulOn
  | flag => exact fun _ _ => rfl
  | unit => exact fun _ _ => rfl
  | optional =>
    have hnull (n : Int) : integerCodec.encode n ≠ .null := by
      intro hnull
      cases hnull
    exact Codec.option_lawfulOn hinteger hnull
  | integers => exact (Codec.list_makesArrays _).lawfulOn hinteger
  | deferred => exact (Codec.except_tagsOutside _ _).lawfulOn Codec.text_lawfulOn hinteger
  | members => exact Codec.map_lawfulOn hinteger
  | stop =>
    have hpair := pairCodec_lawfulOn (tokenCodec_lawfulOn hnames) Codec.text_lawfulOn
    exact fun stop hnamed => hpair stop ⟨hnamed, trivial⟩

end Form

end Script

end Deferral
