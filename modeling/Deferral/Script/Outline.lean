import Deferral.Script.Fault

/-!
# Outlines of failures

The outline of a failure shows all of its fields, its trail, and the present state of its token.
-/

namespace Deferral.Script

open Deferral.Text

/-- The outline of a token, given the state of every token. -/
def tokenOutline (flags : Token → Bool) (token : Token) : Outline :=
  .record "CancellationToken" [("flag", .flag (flags token))]

namespace Fault

/-- The outline of a trail, given the outline of its cause. -/
def trailRecord (site : Option Site) (backtrace : Option Backtrace) (cause : Outline) : Outline :=
  .record "Provenance"
    [("site", .option (site.map fun site => .atom site.text)),
      ("backtrace", .option (backtrace.map fun _ => .atom "Captured")),
      ("cause", cause)]

/-- The outline of a trap. -/
def trapOutline : Trap → Outline
  | .fixed => .quoted "str"
  | .message => .quoted "string"
  | .object => .quoted "int"

mutual

/-- The outline of an error, given the state of every token. -/
def outline (flags : Token → Bool) : Fault → Outline
  | text message => .quoted message
  | staticText message => .quoted message
  | plain message trail =>
    .record "Plain" [("msg", .quoted message), ("provenance", trailOutline flags trail)]
  | fetch code message copies trail =>
    .record "Fetch" [("code", .number code), ("msg", .quoted message),
      ("copies", .number copies), ("provenance", trailOutline flags trail)]
  | hook message => .record "Hook" [("msg", .quoted message)]
  | slotless message copies =>
    .record "NoSlots" [("msg", .quoted message), ("copies", .number copies)]
  | cancelled token trail =>
    .record "Cancelled"
      [("token", tokenOutline flags token), ("provenance", trailOutline flags trail)]
  | stop token note =>
    .record "Stop" [("token", tokenOutline flags token), ("note", .quoted note)]
  | halt token note copies trail =>
    .record "Halt" [("token", .option (token.map (tokenOutline flags))), ("note", .quoted note),
      ("copies", .number copies), ("provenance", trailOutline flags trail)]
  | io inner => .record "Custom" [("kind", .atom "Other"), ("error", innerOutline flags inner)]
  | format => .atom "Error"
  | boxed inner => innerOutline flags inner
  | treacherous trap message =>
    .record "Treach" [("payload", trapOutline trap), ("msg", .quoted message)]
  | task inner => .apply "Task" [innerOutline flags inner]
  | anonymous message => .quoted message

/-- The outline of an error inside an error. -/
def innerOutline (flags : Token → Bool) : DynError Fault → Outline
  | .leaf error => outline flags error
  | .layer source => .record "CompletionError" [("source", innerOutline flags source)]
  | .interrupted message suppressed =>
    .record "BridgeError"
      [("message", .quoted message), ("suppressed", .option (some (innerOutline flags suppressed)))]
  | .abandoned => .atom "BrokenPromise"
  | .crashed => .atom crashedPhrase

/-- The outline of a trail. -/
def trailOutline (flags : Token → Bool) : Trail Fault → Outline
  | ⟨site, backtrace, cause⟩ => trailRecord site backtrace (causeOutline flags cause)

/-- The outline of a cause that may be absent. -/
def causeOutline (flags : Token → Bool) : Option Fault → Outline
  | none => .option none
  | some cause => .option (some (outline flags cause))

end

end Fault

/-- The outline of a deferred failure. -/
def deferredOutline (flags : Token → Bool) : Deferred Fault Value → Outline
  | .value value => .apply "Success" [value.outline]
  | .failure fault => .apply "Failure" [fault.outline flags]

end Deferral.Script
