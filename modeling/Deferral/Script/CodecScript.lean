import Deferral.Codec
import Deferral.Script.Report

/-!
# Scripts of encodings

A script names the form of a value and the form of a failure, and either writes a deferred failure
with parts of these forms or reads some from a text. Neither touches a token.
-/

namespace Deferral.Script

/-- The form of a value or of a failure. -/
inductive Form where
  | integer
  /-- An integer of eight bits. -/
  | small
  | text
  | flag
  | unit
  /-- An integer that may be absent. -/
  | optional
  /-- A list of integers. -/
  | integers
  /-- A deferred failure with an integer or a text. -/
  | deferred
  /-- A map from names to integers. -/
  | members
  /-- A token and a note. -/
  | stop
deriving DecidableEq, Repr

/-- The tokens of a script and their names. -/
abbrev TokenNames : Type := List (String × Token)

/-- The codec of tokens that have a name. -/
def tokenCodec (names : TokenNames) : Codec Token where
  encode token := (names.find? (·.2 == token)).elim .null fun entry => .str entry.1
  decode
    | .str name => names.lookup name
    | _ => none

/-- The codec of pairs, as arrays of two. -/
def pairCodec {α β : Type} (first : Codec α) (second : Codec β) : Codec (α × β) where
  encode pair := .arr [first.encode pair.1, second.encode pair.2]
  decode
    | .arr [a, b] => do
      let a ← first.decode a
      let b ← second.decode b
      return (a, b)
    | _ => none

/-- The codec of integers of 64 bits. -/
def integerCodec : Codec Int := .intBetween (-9223372036854775808) 9223372036854775807

namespace Form

/-- What has a form. -/
def Carrier : Form → Type
  | integer => Int
  | small => Int
  | text => String
  | flag => Bool
  | unit => Unit
  | optional => Option Int
  | integers => List Int
  | deferred => Deferred String Int
  | members => List (String × Int)
  | stop => Token × String

/-- The codec of a form. -/
def codec (names : TokenNames) : (form : Form) → Codec form.Carrier
  | integer => integerCodec
  | small => .intBetween (-128) 127
  | text => .text
  | flag => .flag
  | unit => .unit
  | optional => .option integerCodec
  | integers => .list integerCodec
  | deferred => .deferred (.except .text integerCodec)
  | members => .map integerCodec
  | stop => pairCodec (tokenCodec names) .text

end Form

/-- The forms of the two parts of a deferred failure. -/
structure Forms where
  value : Form
  failure : Form

namespace Forms

/-- What has the forms. -/
abbrev Carrier (forms : Forms) : Type := Deferred forms.failure.Carrier forms.value.Carrier

/-- The codec of deferred failures with parts of the forms. -/
def codec (forms : Forms) (names : TokenNames) : Codec forms.Carrier :=
  .deferred (.except (forms.failure.codec names) (forms.value.codec names))

/-- A deferred failure with parts that are themselves given in their encoding. -/
def ofParts (forms : Forms) (names : TokenNames) :
    Deferred Json Json → Option forms.Carrier
  | .value part => ((forms.value.codec names).decode part).map .value
  | .failure part => ((forms.failure.codec names).decode part).map .failure

/-- The encoding of each part. -/
def parts (forms : Forms) (names : TokenNames) : forms.Carrier → Deferred Json Json
  | .value value => .value ((forms.value.codec names).encode value)
  | .failure failure => .failure ((forms.failure.codec names).encode failure)

/-- The text of a deferred failure with the given parts, and its encoding. -/
def write (forms : Forms) (names : TokenNames) (content : Deferred Json Json) :
    Option (String × Json) := do
  let deferred ← forms.ofParts names content
  let codec := forms.codec names
  return (codec.write deferred, codec.encode deferred)

/-- Read a deferred failure, and hand out the encoding of its part. -/
def read? (forms : Forms) (names : TokenNames) (text : String) : Option (Deferred Json Json) :=
  ((forms.codec names).read? text).map (forms.parts names)

/-- Read a list of deferred failures, and hand out the encoding of their parts. -/
def readMany? (forms : Forms) (names : TokenNames) (text : String) :
    Option (List (Deferred Json Json)) :=
  ((Codec.list (forms.codec names)).read? text).map (List.map (forms.parts names))

end Forms

end Deferral.Script
