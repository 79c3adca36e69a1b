import Deferral.Text.Quoted

/-!
# Outlines of values

An outline is what a value looks like to somebody who debugs: atoms, records with named fields,
constructors with arguments, and lists. It is written on one line, or spread over several with one
part to a line, each part indented by four blanks more than the whole and followed by a comma.
-/

namespace Deferral.Text

/-- The outline of a value. -/
inductive Outline where
  | atom (text : String)
  | record (name : String) (fields : List (String × Outline))
  | apply (name : String) (arguments : List Outline)
  | list (elements : List Outline)

namespace Outline

/-- The outline of a text. -/
def quoted (text : String) : Outline := atom (quote text)

/-- The outline of a number. -/
def number (n : Int) : Outline := atom (toString n)

/-- The outline of a truth value. -/
def flag (flag : Bool) : Outline := atom (if flag then "true" else "false")

/-- The outline of a value that may be absent. -/
def option : Option Outline → Outline
  | none => atom "None"
  | some outline => apply "Some" [outline]

mutual

/-- The outline on one line. -/
def inline : Outline → String
  | atom text => text
  | record name fields => name ++ " \x7b " ++ ", ".intercalate (inlineFields fields) ++ " \x7d"
  | apply name arguments => name ++ "(" ++ ", ".intercalate (inlineAll arguments) ++ ")"
  | list elements => "[" ++ ", ".intercalate (inlineAll elements) ++ "]"

/-- Each of the outlines on one line. -/
def inlineAll : List Outline → List String
  | [] => []
  | outline :: rest => inline outline :: inlineAll rest

/-- Each of the fields on one line. -/
def inlineFields : List (String × Outline) → List String
  | [] => []
  | (name, outline) :: rest => (name ++ ": " ++ inline outline) :: inlineFields rest

end

/-- The blanks before a part at the given depth. -/
def indent (depth : Nat) : String := String.ofList (List.replicate (4 * depth) ' ')

/-- Parts between brackets, one to a line. -/
def block (depth : Nat) (opening closing : String) (parts : List String) : String :=
  opening ++ "\n" ++ String.join (parts.map fun part => indent (depth + 1) ++ part ++ ",\n") ++
    indent depth ++ closing

mutual

/-- The outline spread over several lines, as a part at the given depth. -/
def spread (depth : Nat) : Outline → String
  | atom text => text
  | record name fields => name ++ block depth " \x7b" "\x7d" (spreadFields (depth + 1) fields)
  | apply name arguments => name ++ block depth "(" ")" (spreadAll (depth + 1) arguments)
  | list [] => "[]"
  | list (element :: rest) => block depth "[" "]" (spreadAll (depth + 1) (element :: rest))

/-- Each of the outlines, as a part at the given depth. -/
def spreadAll (depth : Nat) : List Outline → List String
  | [] => []
  | outline :: rest => spread depth outline :: spreadAll depth rest

/-- Each of the fields, as a part at the given depth. -/
def spreadFields (depth : Nat) : List (String × Outline) → List String
  | [] => []
  | (name, outline) :: rest => (name ++ ": " ++ spread depth outline) :: spreadFields depth rest

end

/-- The outline on one line or on several. -/
def text (pretty : Bool) (outline : Outline) : String :=
  if pretty then outline.spread 0 else outline.inline

end Outline

end Deferral.Text
