import Deferral.Json.Basic

/-!
# Writing JSON

The compact text of a JSON value has no blanks. In a string, quotes, backslashes and control
characters are escaped, and every other character stands for itself.
-/

namespace Deferral.Json

/-- The digit of a number below sixteen. -/
def hexDigit (n : Nat) : Char := "0123456789abcdef".toList.getD n '0'

/-- A character inside a string. -/
def escape (c : Char) : String :=
  match c with
  | '"' => "\\\""
  | '\\' => "\\\\"
  | '\n' => "\\n"
  | '\r' => "\\r"
  | '\t' => "\\t"
  | '\x08' => "\\b"
  | '\x0c' => "\\f"
  | c =>
    if c.toNat < 0x20 then
      "\\u00" ++ String.ofList [hexDigit (c.toNat / 16), hexDigit (c.toNat % 16)]
    else String.singleton c

/-- A string between quotes. -/
def quote (text : String) : String :=
  "\"" ++ String.join (text.toList.map escape) ++ "\""

mutual

/-- The compact text of a value. -/
def compact : Json → String
  | null => "null"
  | bool flag => if flag then "true" else "false"
  | int n => toString n
  | decimal literal => literal
  | str text => quote text
  | arr elements => "[" ++ ",".intercalate (compactAll elements) ++ "]"
  | obj members => "\x7b" ++ ",".intercalate (compactMembers members) ++ "\x7d"

/-- The compact text of each of the values. -/
def compactAll : List Json → List String
  | [] => []
  | value :: rest => compact value :: compactAll rest

/-- The compact text of each of the members. -/
def compactMembers : List (String × Json) → List String
  | [] => []
  | (name, value) :: rest => (quote name ++ ":" ++ compact value) :: compactMembers rest

end

end Deferral.Json
