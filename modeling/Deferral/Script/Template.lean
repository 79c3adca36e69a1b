import Deferral.Script.Event

/-!
# Error templates

A template describes an error. Its texts may hold blanks, which are filled in with the wording of the
argument of the callable that fails with it.
-/

namespace Deferral.Script

/-- The code of a fetch failure: a number, or the argument if that is one. -/
inductive Code where
  | fixed (code : Int)
  | argument
deriving DecidableEq, Repr

/-- The description of an error. -/
inductive Template where
  | text (message : String)
  | staticText (message : String)
  | plain (message : String)
  | fetch (code : Code) (message : String)
  | hook (message : String)
  | slotless (message : String)
  | cancelled (token : Token)
  | stop (token : Token) (note : String)
  | halt (token : Option Token) (note : String)
  | ioText (message : String)
  | io (inner : Template)
  | format
  | boxed (inner : Template)
  | treacherous (trap : Trap) (message : String)
  | layers (count : Nat) (source : Template)
  | task (inner : Template)
  | abandoned
deriving DecidableEq, Repr

/-- Fill the blanks of a text. -/
def fillText (wording text : String) : String := text.replace "\x7b\x7d" wording

/-- The number that stands for a code, given an argument. -/
def Code.fill (value : Value) : Code → Code
  | .fixed code => .fixed code
  | .argument =>
    match value with
    | .int n => .fixed n
    | _ => .fixed 0

/-- The number of a code that needs no argument. -/
def Code.number : Code → Int
  | .fixed code => code
  | .argument => 0

namespace Template

/-- Fill the blanks of a template, also in the errors inside it. -/
def fill (argument : Value) : Template → Template
  | text message => text (fillText argument.text message)
  | staticText message => staticText (fillText argument.text message)
  | plain message => plain (fillText argument.text message)
  | fetch code message => fetch (code.fill argument) (fillText argument.text message)
  | hook message => hook (fillText argument.text message)
  | slotless message => slotless (fillText argument.text message)
  | cancelled token => cancelled token
  | stop token note => stop token (fillText argument.text note)
  | halt token note => halt token (fillText argument.text note)
  | ioText message => ioText (fillText argument.text message)
  | io inner => io (inner.fill argument)
  | format => format
  | boxed inner => boxed (inner.fill argument)
  | treacherous trap message => treacherous trap (fillText argument.text message)
  | layers count source => layers count (source.fill argument)
  | task inner => task (inner.fill argument)
  | abandoned => abandoned

/-- The dynamic error that a template describes. A mere text is anonymous then, and a box is what is
in it. -/
def error : Template → DynError Fault
  | text message => .leaf (.anonymous message)
  | staticText message => .leaf (.anonymous message)
  | plain message => .leaf (.plain message .empty)
  | fetch code message => .leaf (.fetch code.number message 0 .empty)
  | hook message => .leaf (.hook message)
  | slotless message => .leaf (.slotless message 0)
  | cancelled token => .leaf (.cancelled token .empty)
  | stop token note => .leaf (.stop token note)
  | halt token note => .leaf (.halt token note 0 .empty)
  | ioText message => .leaf (.io (.leaf (.anonymous message)))
  | io inner => .leaf (.io inner.error)
  | format => .leaf .format
  | boxed inner => inner.error
  | treacherous trap message => .leaf (.treacherous trap message)
  | layers count source => source.error.layered count
  | task inner => .leaf (.task inner.error)
  | abandoned => .abandoned

/-- The failure that a template describes. An error without a kind of its own is put into a box. -/
def failure (template : Template) : Fault :=
  match template with
  | text message => .text message
  | staticText message => .staticText message
  | boxed inner => .boxed inner.error
  | other =>
    match other.error with
    | .leaf fault => fault
    | error => .boxed error

end Template

/-- How a script describes a deferred value: a value, a failure to be deferred, or a failure held by
the bare constructor. -/
inductive Item where
  | value (value : Value)
  | deferred (failure : Template)
  | bare (failure : Template)

/-- The deferred value that an item describes. -/
def Item.build (kind : Kind) : Item → ScriptRun DeferredValue
  | .value v => pure (.value v)
  | .deferred template => kind.failureType.defer template.failure
  | .bare template => pure (.failure template.failure)

end Deferral.Script
