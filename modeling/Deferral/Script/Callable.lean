import Deferral.Script.Template

/-!
# Callables of scripts

A callable turns an argument into a value or fails with an error, and may panic or write tokens on
the way. It can also look at how often it has been called. A `Routine` is a callable together with
the slot in which its calls are counted.
-/

namespace Deferral.Script

/-- A test on a value. -/
inductive Predicate where
  | always
  | never
  | greater (bound : Int)
  | less (bound : Int)
  | even
  | equals (value : Value)
  | present
  /-- The callable has been called at most so often. -/
  | callsAtMost (bound : Int)
  | negate (test : Predicate)
  | panic (message : String)

namespace Predicate

/-- The name under which a test is traced. -/
def name : Predicate → String
  | always => "true"
  | never => "false"
  | greater _ => "gt"
  | less _ => "lt"
  | even => "even"
  | equals _ => "eq"
  | present => "present"
  | callsAtMost _ => "calls_le"
  | negate _ => "not"
  | panic _ => "panic"

/-- The verdict of a test, given the number of calls so far. -/
def eval (calls : Nat) (argument : Value) : Predicate → ScriptRun Bool
  | always => pure true
  | never => pure false
  | greater bound => pure (match argument with | .int n => bound < n | _ => false)
  | less bound => pure (match argument with | .int n => n < bound | _ => false)
  | even => pure (match argument with | .int n => n % 2 == 0 | _ => false)
  | equals value => pure (argument == value)
  | present => pure (match argument with | .none => false | _ => true)
  | callsAtMost bound => pure (calls ≤ bound)
  | negate test => return !(← test.eval calls argument)
  | panic message => .panic (.message message)

end Predicate

/-- A described callable. -/
inductive Callable where
  | identity
  | const (value : Value)
  | add (summand : Int)
  | mul (factor : Int)
  | div (error : Template)
  | wording
  | len
  | concat
  | parse (error : Template)
  | range
  | dup
  | fail (error : Template)
  | failIf (test : Predicate) (error : Template)
  | branch (test : Predicate) (yes no : Callable)
  | seq (parts : List Callable)
  | panic (message : String)
  | cancel (token : Token)
  | clear (token : Token)
  | check (token : Token)
  | counter
  | script (outs : List Callable)

/-- What a callable comes to: a value, or a description of the error it fails with. -/
abbrev Verdict : Type := Except Template Value

/-- The quotient toward zero of two integers, unless there is none of 64 bits. -/
def quotient : Value → Option Value
  | .list [.int a, .int b] =>
    if b = 0 then none else if fits (a.tdiv b) then some (.int (a.tdiv b)) else none
  | _ => none

/-- The number of characters of a text or elements of a list, and zero for all else. -/
def size : Value → Nat
  | .str text => text.length
  | .list elements => elements.length
  | _ => 0

/-- The number that decimal digits stand for. A text without digits, or with other characters, stands
for none. -/
def digitsValue : List Char → Option Nat
  | [] => none
  | digits =>
    if digits.all Char.isDigit then
      some (digits.foldl (fun value digit => 10 * value + (digit.toNat - '0'.toNat)) 0)
    else none

/-- The integer of 64 bits that a text spells: an optional sign and decimal digits. -/
def spelled (text : String) : Option Int :=
  let number := match text.toList with
    | '-' :: digits => (digitsValue digits).map fun value => -(value : Int)
    | '+' :: digits => (digitsValue digits).map fun value => (value : Int)
    | digits => (digitsValue digits).map fun value => (value : Int)
  number.filter fits

/-- The numbers from zero up to an integer, at most a thousand of them. -/
def upTo : Value → List Value
  | .int n => (List.range (min n.toNat 1000)).map fun index => .int (Int.ofNat index)
  | _ => []

/-- Fail with an error whose blanks are filled in with the argument. -/
def failWith (error : Template) (argument : Value) : Verdict := .error (error.fill argument)

namespace Callable

/-- The name under which a callable is traced. -/
def name : Callable → String
  | identity => "id"
  | const _ => "const"
  | add _ => "add"
  | mul _ => "mul"
  | div _ => "div"
  | wording => "show"
  | len => "len"
  | concat => "concat"
  | parse _ => "parse"
  | range => "range"
  | dup => "dup"
  | fail _ => "fail"
  | failIf _ _ => "fail_if"
  | branch _ _ _ => "if"
  | seq _ => "seq"
  | panic _ => "panic"
  | cancel _ => "cancel"
  | clear _ => "clear"
  | check _ => "check"
  | counter => "counter"
  | script _ => "script"

mutual

/-- The verdict of a callable, given the number of calls so far. -/
def eval (calls : Nat) (argument : Value) : Callable → ScriptRun Verdict
  | identity => pure (.ok argument)
  | const value => pure (.ok value)
  | add summand => pure (.ok (match argument with
    | .int n => .ofInt (n + summand)
    | other => other))
  | mul factor => pure (.ok (match argument with
    | .int n => .ofInt (n * factor)
    | other => other))
  | div error => pure (match quotient argument with
    | some value => .ok value
    | none => failWith error argument)
  | wording => pure (.ok (.str argument.text))
  | len => pure (.ok (.int (size argument)))
  | concat => pure (.ok (.str (match argument with
    | .list elements => String.join (elements.map Value.text)
    | other => other.text)))
  | parse error => pure (match argument with
    | .str text =>
      match spelled text with
      | some n => .ok (.int n)
      | none => failWith error argument
    | _ => failWith error argument)
  | range => pure (.ok (.list (upTo argument)))
  | dup => pure (.ok (.list [argument, argument]))
  | fail error => pure (failWith error argument)
  | failIf test error => do
    return if ← test.eval calls argument then failWith error argument else .ok argument
  | branch test yes no => do
    if ← test.eval calls argument then eval calls argument yes else eval calls argument no
  | seq parts => evalAll calls argument parts
  | panic message => .panic (.message (fillText argument.text message))
  | cancel token => do
    token.cancel
    return .ok argument
  | clear token => do
    let _ ← token.clear
    return .ok argument
  | check token => do
    return match ← token.check with
      | .ok () => .ok argument
      | .error token => .error (.cancelled token)
  | counter => pure (.ok (.int calls))
  | script outs => evalNth calls argument (calls - 1) outs

/-- The parts of a sequence one after the other, each on the value of the one before. -/
def evalAll (calls : Nat) (argument : Value) : List Callable → ScriptRun Verdict
  | [] => pure (.ok argument)
  | part :: parts => do
    match ← eval calls argument part with
    | .ok value => evalAll calls value parts
    | .error error => pure (.error error)

/-- The part at a position, or the last one when there are fewer. -/
def evalNth (calls : Nat) (argument : Value) : Nat → List Callable → ScriptRun Verdict
  | _, [] => pure (.ok .none)
  | _, [out] => eval calls argument out
  | 0, out :: _ => eval calls argument out
  | position + 1, _ :: outs => evalNth calls argument position outs

end

end Callable

/-- A callable and the slot in which its calls are counted. -/
structure Routine where
  slot : Nat
  body : Callable

namespace Routine

/-- Call a routine. -/
def call (routine : Routine) (argument : Value) : ScriptRun Verdict := do
  let calls ← countCall routine.slot
  emit (.called routine.body.name argument)
  routine.body.eval calls argument

/-- Call a routine that fails with failures of a kind. -/
def callTyped (routine : Routine) (argument : Value) : ScriptRun (Except Fault Value) := do
  return (← routine.call argument).mapError Template.failure

/-- Call a routine that fails with dynamic errors. -/
def callDynamic (routine : Routine) (argument : Value) : ScriptRun (Outcome Fault Value) := do
  return (← routine.call argument).mapError Template.error

end Routine

/-- A test and the slot in which its calls are counted. -/
structure Test where
  slot : Nat
  body : Predicate

/-- Call a test. -/
def Test.call (test : Test) (argument : Value) : ScriptRun Bool := do
  let calls ← countCall test.slot
  emit (.tested test.body.name argument)
  test.body.eval calls argument

end Deferral.Script
