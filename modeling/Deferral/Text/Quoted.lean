import Deferral.Text.Hidden

/-!
# Quoted text

A quoted text stands between double quotes. Quotes, backslashes and the common control characters
are written as short escapes, every other character that has no visible form of its own as its code
point in braces, and all else as it is.
-/

namespace Deferral.Text

/-- The digits of a code point in base sixteen. -/
def hexDigits (code : Nat) : String := String.ofList (Nat.toDigits 16 code)

/-- A character as it is written between quotes. -/
def escape (c : Char) : String :=
  match c with
  | '"' => "\\\""
  | '\\' => "\\\\"
  | '\n' => "\\n"
  | '\r' => "\\r"
  | '\t' => "\\t"
  | '\x00' => "\\0"
  | c => if isHidden c then "\\u\x7b" ++ hexDigits c.toNat ++ "\x7d" else String.singleton c

/-- A text between quotes. -/
def quote (text : String) : String :=
  "\"" ++ String.join (text.toList.map escape) ++ "\""

end Deferral.Text
