import Deferral.Hashing
import Deferral.Text.Outline

/-!
# Values of scripts

A script describes a run of the library. Its values are nothing, truth values, integers of 64 bits,
texts, and lists of values. Values of different shape are never equal.
-/

namespace Deferral.Script

/-- A value. -/
inductive Value where
  | none
  | bool (flag : Bool)
  | int (n : Int)
  | str (text : String)
  | list (elements : List Value)
deriving BEq, Repr

namespace Value

mutual

/-- The wording of a value. -/
def text : Value → String
  | none => "none"
  | bool flag => if flag then "true" else "false"
  | int n => toString n
  | str text => text
  | list elements => "[" ++ ", ".intercalate (texts elements) ++ "]"

/-- The wording of each of the values. -/
def texts : List Value → List String
  | [] => []
  | value :: rest => text value :: texts rest

end

instance : ToString Value := ⟨text⟩

mutual

/-- The outline of a value. -/
def outline : Value → Text.Outline
  | none => .atom "None"
  | bool flag => .flag flag
  | int n => .number n
  | str text => .quoted text
  | list elements => .list (outlines elements)

/-- The outline of each of the values. -/
def outlines : List Value → List Text.Outline
  | [] => []
  | value :: rest => outline value :: outlines rest

end

mutual

/-- What a value feeds to a hasher. -/
def chunks : Value → List Chunk
  | none => [.tag 0]
  | bool flag => [.tag 1, .tag flag.toNat]
  | int n => [.tag 2, .number n]
  | str text => [.tag 3, .text text]
  | list elements => .tag 4 :: .tag elements.length :: allChunks elements

/-- What the elements of a list feed to a hasher. -/
def allChunks : List Value → List Chunk
  | [] => []
  | value :: rest => chunks value ++ allChunks rest

end

instance : Feeds Value := ⟨chunks⟩

end Value

/-- Does the integer fit 64 bits? -/
def fits (n : Int) : Bool := -9223372036854775808 ≤ n && n ≤ 9223372036854775807

/-- An integer that fits, or nothing. -/
def Value.ofInt (n : Int) : Value := if fits n then .int n else .none

end Deferral.Script
