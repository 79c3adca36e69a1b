/-!
# JSON values

A JSON value keeps the members of an object in the order in which they were written, repeated ones
included. An integer is kept as a number; any other number, such as one with a fraction or an
exponent, is kept as it was written.
-/

namespace Deferral

/-- A JSON value. -/
inductive Json where
  | null
  | bool (flag : Bool)
  | int (n : Int)
  | decimal (literal : String)
  | str (text : String)
  | arr (elements : List Json)
  | obj (members : List (String × Json))
deriving BEq, Inhabited, Repr

end Deferral
