import Deferral.Json.Basic

/-!
# Reading JSON

The reader accepts exactly the texts of the JSON grammar that hold one value, with blanks around it
and between its parts. Each function returns what is left of the text. The nesting of a value is
bounded by the length of its text, which bounds the recursion.
-/

namespace Deferral.Json

/-- The text without the blanks at its start. -/
def skipBlanks : List Char → List Char
  | ' ' :: rest => skipBlanks rest
  | '\n' :: rest => skipBlanks rest
  | '\r' :: rest => skipBlanks rest
  | '\t' :: rest => skipBlanks rest
  | text => text

/-- The value of a digit in base sixteen. -/
def hexValue? (c : Char) : Option Nat :=
  if '0' ≤ c ∧ c ≤ '9' then some (c.toNat - '0'.toNat)
  else if 'a' ≤ c ∧ c ≤ 'f' then some (c.toNat - 'a'.toNat + 10)
  else if 'A' ≤ c ∧ c ≤ 'F' then some (c.toNat - 'A'.toNat + 10)
  else none

/-- The code unit that four digits stand for. -/
def codeUnit? (a b c d : Char) : Option Nat := do
  let a ← hexValue? a
  let b ← hexValue? b
  let c ← hexValue? c
  let d ← hexValue? d
  return ((a * 16 + b) * 16 + c) * 16 + d

/-- The character of a short escape. -/
def shortEscape? : Char → Option Char
  | '"' => some '"'
  | '\\' => some '\\'
  | '/' => some '/'
  | 'b' => some '\x08'
  | 'f' => some '\x0c'
  | 'n' => some '\n'
  | 'r' => some '\r'
  | 't' => some '\t'
  | _ => none

/-- The rest of a string behind its opening quote, and what is left of the text. A surrogate is read
only together with its partner. -/
def readString : List Char → Option (List Char × List Char)
  | '"' :: rest => some ([], rest)
  | '\\' :: 'u' :: a :: b :: c :: d :: rest => do
    let high ← codeUnit? a b c d
    if 0xDC00 ≤ high ∧ high < 0xE000 then
      none
    else if 0xD800 ≤ high ∧ high < 0xDC00 then
      match rest with
      | '\\' :: 'u' :: a :: b :: c :: d :: rest =>
        let low ← codeUnit? a b c d
        if 0xDC00 ≤ low ∧ low < 0xE000 then
          let (text, rest) ← readString rest
          return (Char.ofNat (0x10000 + (high - 0xD800) * 0x400 + (low - 0xDC00)) :: text, rest)
        else none
      | _ => none
    else
      let (text, rest) ← readString rest
      return (Char.ofNat high :: text, rest)
  | '\\' :: c :: rest => do
    let c ← shortEscape? c
    let (text, rest) ← readString rest
    return (c :: text, rest)
  | c :: rest => do
    if c.toNat < 0x20 then none
    let (text, rest) ← readString rest
    return (c :: text, rest)
  | [] => none

/-- The digits at the start of a text, and what is left of it. -/
def readDigits (text : List Char) : List Char × List Char :=
  (text.takeWhile Char.isDigit, text.dropWhile Char.isDigit)

/-- The fraction at the start of a text, if there is a point, and what is left of it. -/
def readFraction : List Char → Option (List Char × List Char)
  | '.' :: rest =>
    match readDigits rest with
    | ([], _) => none
    | (digits, rest) => some ('.' :: digits, rest)
  | text => some ([], text)

/-- The digits of an exponent behind its mark and sign. -/
def readExponentDigits (mark : List Char) (text : List Char) : Option (List Char × List Char) :=
  match readDigits text with
  | ([], _) => none
  | (digits, rest) => some (mark ++ digits, rest)

/-- The exponent at the start of a text, if there is a mark, and what is left of it. -/
def readExponent : List Char → Option (List Char × List Char)
  | c :: '+' :: rest =>
    if c = 'e' ∨ c = 'E' then readExponentDigits [c, '+'] rest else some ([], c :: '+' :: rest)
  | c :: '-' :: rest =>
    if c = 'e' ∨ c = 'E' then readExponentDigits [c, '-'] rest else some ([], c :: '-' :: rest)
  | c :: rest =>
    if c = 'e' ∨ c = 'E' then readExponentDigits [c] rest else some ([], c :: rest)
  | [] => some ([], [])

/-- The number that digits stand for. -/
def digitsNumber (digits : List Char) : Nat :=
  digits.foldl (fun value digit => 10 * value + (digit.toNat - '0'.toNat)) 0

/-- The number without its sign. A number that is no integer is kept as it was written, and so is a
negative zero. -/
def readUnsigned (negative : Bool) (text : List Char) : Option (Json × List Char) := do
  let (digits, rest) := readDigits text
  match digits with
  | [] => none
  | '0' :: _ :: _ => none
  | digits =>
    let (fraction, rest) ← readFraction rest
    let (exponent, rest) ← readExponent rest
    let sign := if negative then ['-'] else []
    let literal := String.ofList (sign ++ digits ++ fraction ++ exponent)
    let number := digitsNumber digits
    if fraction.isEmpty && exponent.isEmpty && !(negative && number == 0) then
      return (int (if negative then -(number : Int) else number), rest)
    else
      return (decimal literal, rest)

/-- The number at the start of a text. -/
def readNumber : List Char → Option (Json × List Char)
  | '-' :: rest => readUnsigned true rest
  | text => readUnsigned false text

mutual

/-- The value at the start of a text without blanks at its start. -/
def readValue : Nat → List Char → Option (Json × List Char)
  | 0, _ => none
  | depth + 1, text =>
    match text with
    | 'n' :: 'u' :: 'l' :: 'l' :: rest => some (null, rest)
    | 't' :: 'r' :: 'u' :: 'e' :: rest => some (bool true, rest)
    | 'f' :: 'a' :: 'l' :: 's' :: 'e' :: rest => some (bool false, rest)
    | '"' :: rest => do
      let (text, rest) ← readString rest
      return (str (String.ofList text), rest)
    | '[' :: rest =>
      match skipBlanks rest with
      | ']' :: rest => some (arr [], rest)
      | text => do
        let (elements, rest) ← readElements depth text
        return (arr elements, rest)
    | '\x7b' :: rest =>
      match skipBlanks rest with
      | '\x7d' :: rest => some (obj [], rest)
      | text => do
        let (members, rest) ← readMembers depth text
        return (obj members, rest)
    | text => readNumber text

/-- The elements of an array up to its closing bracket. -/
def readElements : Nat → List Char → Option (List Json × List Char)
  | 0, _ => none
  | depth + 1, text => do
    let (element, rest) ← readValue depth text
    match skipBlanks rest with
    | ',' :: rest =>
      let (elements, rest) ← readElements depth (skipBlanks rest)
      return (element :: elements, rest)
    | ']' :: rest => some ([element], rest)
    | _ => none

/-- The members of an object up to its closing brace. -/
def readMembers : Nat → List Char → Option (List (String × Json) × List Char)
  | 0, _ => none
  | depth + 1, text =>
    match text with
    | '"' :: rest => do
      let (name, rest) ← readString rest
      match skipBlanks rest with
      | ':' :: rest =>
        let (value, rest) ← readValue depth (skipBlanks rest)
        match skipBlanks rest with
        | ',' :: rest =>
          let (members, rest) ← readMembers depth (skipBlanks rest)
          return ((String.ofList name, value) :: members, rest)
        | '\x7d' :: rest => some ([(String.ofList name, value)], rest)
        | _ => none
      | _ => none
    | _ => none

end

/-- The value that a text holds. -/
def parse? (text : String) : Option Json := do
  let chars := text.toList
  let (value, rest) ← readValue (2 * chars.length + 2) (skipBlanks chars)
  if (skipBlanks rest).isEmpty then some value else none

end Deferral.Json
