/-!
# Log notices

The library logs when it asserts or clears a cancellation on behalf of a failure, when a failure
cannot be raised anew, and when a bridge between promises had to give up on a failure. A notice says
what happened; its wording is in `Notice.text`.
-/

namespace Deferral

/-- A place in a program at which failures are raised. -/
structure Site where
  label : String
deriving DecidableEq, Repr

namespace Site

/-- Sites stand in angle brackets inside a text. -/
def text (site : Site) : String := "<" ++ site.label ++ ">"

end Site

/-- Why a failure could not be copied. -/
inductive CopyError where
  /-- Failures of this type are never copied. -/
  | unsupported (typeName : String)
  /-- This failure's own copying gave up, for the stated reason. -/
  | refused (typeName reason : String)
deriving DecidableEq, Repr

namespace CopyError

/-- The wording of a copy error. -/
def text : CopyError → String
  | unsupported typeName => typeName ++ " cannot be duplicated"
  | refused typeName reason => "duplicating " ++ typeName ++ " failed: " ++ reason

end CopyError

/-- What the library logs. -/
inductive Notice where
  /-- Storing a failure of this type asserted the failure's token. -/
  | asserted (typeName : String)
  /-- Raising a failure of this type cleared the failure's token. -/
  | cleared (typeName : String) (site : Site)
  /-- A failure was raised as it was stored, because no copy could take its place. -/
  | raisedAsStored (site : Site) (reason : CopyError)
  /-- A bridge failed its output because looking at the failure panicked. -/
  | bridgeInterrupted (message : String)
deriving DecidableEq, Repr

/-- How much attention a notice asks for. -/
inductive Level where
  | debug
  | warn
deriving DecidableEq, Repr

namespace Notice

/-- Only a failure that could not be treated as asked for is worth a warning. -/
def level : Notice → Level
  | asserted _ => .debug
  | cleared _ _ => .debug
  | raisedAsStored _ _ => .warn
  | bridgeInterrupted _ => .warn

/-- The wording of a notice. -/
def text : Notice → String
  | asserted typeName => "Re-asserted cancellation while boxing " ++ typeName
  | cleared typeName site => "Cleared cancellation of " ++ typeName ++ " at " ++ site.text
  | raisedAsStored site reason =>
    "Cannot rewrap failure at " ++ site.text ++ ": " ++ reason.text
  | bridgeInterrupted message => "Failure bridge panicked, failing output: " ++ message

end Notice

end Deferral
