import Deferral.Deferred
import Deferral.Json.Printer
import Deferral.Json.Parser

/-!
# Encoding deferred failures

A codec writes the values of a type as JSON and reads them back. A deferred failure is written and
read as the result that it stands for, by whatever codec of results there is. `Codec.except` is one:
it makes an object with the one member `Ok` for a value, or `Err` for a failure. Reading builds the
bare constructors, so it never touches a token.
-/

namespace Deferral

/-- How the values of a type are written as JSON and read back. -/
structure Codec (α : Type) where
  encode : α → Json
  decode : Json → Option α

namespace Codec

variable {ε α : Type}

/-- The codec of results: the one member of an object is named for what it holds. -/
def except (failure : Codec ε) (value : Codec α) : Codec (Except ε α) where
  encode
    | .ok a => .obj [("Ok", value.encode a)]
    | .error e => .obj [("Err", failure.encode e)]
  decode
    | .obj [(name, content)] =>
      if name = "Ok" then (value.decode content).map .ok
      else if name = "Err" then (failure.decode content).map .error
      else none
    | _ => none

/-- The codec of deferred failures, by way of a codec of results. -/
def deferred (results : Codec (Except ε α)) : Codec (Deferred ε α) where
  encode m := results.encode m.toExcept
  decode json := (results.decode json).map .hold

/-- The codec of the integers from `low` to `high`. -/
def intBetween (low high : Int) : Codec Int where
  encode := .int
  decode
    | .int n => if low ≤ n ∧ n ≤ high then some n else none
    | _ => none

/-- The codec of texts. -/
def text : Codec String where
  encode := .str
  decode
    | .str text => some text
    | _ => none

/-- The codec of truth values. -/
def flag : Codec Bool where
  encode := .bool
  decode
    | .bool flag => some flag
    | _ => none

/-- The codec of the one value of the unit type. -/
def unit : Codec Unit where
  encode _ := .null
  decode
    | .null => some ()
    | _ => none

/-- The codec of a value that may be absent. -/
def option (codec : Codec α) : Codec (Option α) where
  encode
    | none => .null
    | some value => codec.encode value
  decode
    | .null => some none
    | json => (codec.decode json).map some

/-- Read each of the values. -/
def decodeAll (codec : Codec α) : List Json → Option (List α)
  | [] => some []
  | json :: rest => do
    let value ← codec.decode json
    let values ← decodeAll codec rest
    return value :: values

/-- The codec of lists. -/
def list (codec : Codec α) : Codec (List α) where
  encode values := .arr (values.map codec.encode)
  decode
    | .arr elements => codec.decodeAll elements
    | _ => none

/-- Put a member in its place among members in the order of their names. A later member takes the
place of an earlier one with its name. -/
def insertMember (name : String) (value : α) : List (String × α) → List (String × α)
  | [] => [(name, value)]
  | (other, held) :: rest =>
    if name = other then (name, value) :: rest
    else if name < other then (name, value) :: (other, held) :: rest
    else (other, held) :: insertMember name value rest

/-- Read each of the members, and put them in order. -/
def decodeMembers (codec : Codec α) : List (String × Json) → List (String × α) →
    Option (List (String × α))
  | [], members => some members
  | (name, json) :: rest, members => do
    let value ← codec.decode json
    decodeMembers codec rest (insertMember name value members)

/-- The codec of maps with members in the order of their names. -/
def map (codec : Codec α) : Codec (List (String × α)) where
  encode members := .obj (members.map fun (name, value) => (name, codec.encode value))
  decode
    | .obj members => codec.decodeMembers members []
    | _ => none

/-- Write a value as compact JSON text. -/
def write (codec : Codec α) (value : α) : String := (codec.encode value).compact

/-- Read a value from JSON text. -/
def read? (codec : Codec α) (text : String) : Option α := do
  codec.decode (← Json.parse? text)

end Codec

end Deferral
