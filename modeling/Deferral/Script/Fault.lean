import Deferral.Promise.Desk
import Deferral.Script.Value

/-!
# Failures of scripts

The kinds of failure that a script can declare cover what a failure type may do: with and without
copies, with and without room for a trail, with a token or without, with a copy hook that gives up,
and with a cancellation that panics when it is looked up. `Kind.failureType` says how the failures of
a kind are treated.
-/

namespace Deferral.Script

/-- The kinds of failure. -/
inductive Kind where
  | text
  | staticText
  | plain
  | fetch
  | hook
  | slotless
  | cancelled
  | stop
  | halt
  | io
  | format
  | boxed
  | treacherous
deriving DecidableEq, Repr

/-- What looking up the cancellation of a treacherous failure panics with. -/
inductive Trap where
  | fixed
  | message
  | object
deriving DecidableEq, Repr

/-- An error. All but the last two constructors are failures of a kind; a task error wraps an error
without being a layer, and an anonymous error is a mere text. -/
inductive Fault where
  | text (message : String)
  | staticText (message : String)
  | plain (message : String) (trail : Trail Fault)
  | fetch (code : Int) (message : String) (copies : Nat) (trail : Trail Fault)
  | hook (message : String)
  | slotless (message : String) (copies : Nat)
  | cancelled (token : Token) (trail : Trail Fault)
  | stop (token : Token) (note : String)
  | halt (token : Option Token) (note : String) (copies : Nat) (trail : Trail Fault)
  | io (inner : DynError Fault)
  | format
  | boxed (inner : DynError Fault)
  | treacherous (trap : Trap) (message : String)
  | task (inner : DynError Fault)
  | anonymous (message : String)

namespace Fault

/-- The kind whose failures the error belongs to. -/
def kind? : Fault → Option Kind
  | text _ => some .text
  | staticText _ => some .staticText
  | plain _ _ => some .plain
  | fetch _ _ _ _ => some .fetch
  | hook _ => some .hook
  | slotless _ _ => some .slotless
  | cancelled _ _ => some .cancelled
  | stop _ _ => some .stop
  | halt _ _ _ _ => some .halt
  | io _ => some .io
  | format => some .format
  | boxed _ => some .boxed
  | treacherous _ _ => some .treacherous
  | task _ => none
  | anonymous _ => none

/-- The wording of an error of formatting. -/
@[irreducible] def formatPhrase : String := "an error occurred when formatting an argument"

/-- The wording of a cancellation. -/
@[irreducible] def cancelledPhrase : String := "operation cancelled"

/-- How scripts word a task that panicked. No answer to a script shows it. -/
@[irreducible] def crashedPhrase : String := "task panicked"

mutual

/-- The wording of an error. -/
def wording : Fault → String
  | text message => message
  | staticText message => message
  | plain message _ => "plain: " ++ message
  | fetch code message _ _ => "fetch " ++ toString code ++ ": " ++ message
  | hook message => "hook: " ++ message
  | slotless message _ => "noslots: " ++ message
  | cancelled _ _ => cancelledPhrase
  | stop _ note => "stopped: " ++ note
  | halt _ note _ _ => "halted: " ++ note
  | io inner => innerWording inner
  | format => formatPhrase
  | boxed inner => innerWording inner
  | treacherous _ message => "treacherous: " ++ message
  | task _ => "task failed"
  | anonymous message => message

/-- The wording of an error inside an error. -/
def innerWording : DynError Fault → String
  | .leaf error => wording error
  | .layer source => DynError.layerPhrase ++ innerWording source
  | .interrupted message _ => DynError.interruptedPhrase ++ message
  | .abandoned => DynError.abandonedPhrase
  | .crashed => crashedPhrase

end

instance : Wording Fault where
  toString := wording
  crashedText := crashedPhrase

/-- The trail of a failure, when its kind has room for one. -/
def trail? : Fault → Option (Trail Fault)
  | plain _ trail => some trail
  | fetch _ _ _ trail => some trail
  | cancelled _ trail => some trail
  | halt _ _ _ trail => some trail
  | _ => none

/-- The failure with another trail, when its kind has room for one. -/
def withTrail : Fault → Trail Fault → Fault
  | plain message _, trail => plain message trail
  | fetch code message copies _, trail => fetch code message copies trail
  | cancelled token _, trail => cancelled token trail
  | halt token note copies _, trail => halt token note copies trail
  | other, _ => other

/-- The token whose cancellation a failure reports. -/
def token? : Fault → Option Token
  | cancelled token _ => some token
  | stop token _ => some token
  | halt token _ _ _ => token
  | _ => none

/-- A clone keeps every field and starts with an empty trail. -/
def clone (fault : Fault) : Fault := fault.withTrail .empty

mutual

/-- The errors under a failure, from the nearest to the root: the cause of a failure with a trail,
and what a wrapper wraps. An error of input and output stands for its inner error here. -/
def chain : Fault → List (DynError Fault)
  | plain _ trail => trailChain trail
  | fetch _ _ _ trail => trailChain trail
  | cancelled _ trail => trailChain trail
  | halt _ _ _ trail => trailChain trail
  | io inner => innerChain inner
  | task inner => inner :: innerChain inner
  | _ => []

/-- The errors under an error, from the nearest to the root. -/
def innerChain : DynError Fault → List (DynError Fault)
  | .leaf error => chain error
  | .layer source => source :: innerChain source
  | .interrupted _ suppressed => suppressed :: innerChain suppressed
  | .abandoned => []
  | .crashed => []

/-- The errors that a trail leads to. -/
def trailChain : Trail Fault → List (DynError Fault)
  | ⟨_, _, cause⟩ => causeChain cause

/-- A cause and the errors under it. -/
def causeChain : Option Fault → List (DynError Fault)
  | none => []
  | some cause => .leaf cause :: chain cause

end

/-- Are two failures of a comparable kind equal? Trails do not count. -/
def same : Fault → Fault → Bool
  | text a, text b => a == b
  | staticText a, staticText b => a == b
  | plain a _, plain b _ => a == b
  | fetch code a copies _, fetch code' b copies' _ => code == code' && a == b && copies == copies'
  | hook a, hook b => a == b
  | slotless a copies, slotless b copies' => a == b && copies == copies'
  | format, format => true
  | _, _ => false

instance : BEq Fault := ⟨same⟩

/-- What a failure of a comparable kind feeds to a hasher. Trails do not count. -/
def chunks : Fault → List Chunk
  | text message => [.tag 0, .text message]
  | staticText message => [.tag 1, .text message]
  | plain message _ => [.tag 2, .text message]
  | fetch code message copies _ => [.tag 3, .number code, .text message, .tag copies]
  | hook message => [.tag 4, .text message]
  | slotless message copies => [.tag 5, .text message, .tag copies]
  | format => [.tag 6]
  | _ => []

instance : Feeds Fault := ⟨chunks⟩

end Fault

namespace Kind

/-- The name of a kind's type. -/
def typeName : Kind → String
  | text => "alloc::string::String"
  | staticText => "&str"
  | plain => "oracle::kinds::Plain"
  | fetch => "oracle::kinds::Fetch"
  | hook => "oracle::kinds::Hook"
  | slotless => "oracle::kinds::NoSlots"
  | cancelled => "undertow::cancel::Cancelled"
  | stop => "oracle::kinds::Stop"
  | halt => "oracle::kinds::Halt"
  | io => "core::io::error::Error"
  | format => "core::fmt::Error"
  | boxed =>
    "alloc::boxed::Box<dyn core::error::Error + core::marker::Send + core::marker::Sync>"
  | treacherous => "oracle::kinds::Treach"

/-- Can failures of the kind be compared? -/
def isComparable : Kind → Bool
  | text | staticText | plain | fetch | hook | slotless | format => true
  | _ => false

/-- Are failures of the kind errors in their own right, with a chain of sources? -/
def isError : Kind → Bool
  | text | staticText | boxed => false
  | _ => true

end Kind

end Deferral.Script
