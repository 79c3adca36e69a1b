import Deferral.Script.Report

/-!
# Scripts of tokens

A script gives names to tokens. A name may be given to another token later, and several names may
share one token.
-/

namespace Deferral.Script

/-- A step of a script of tokens. -/
inductive TokenStep where
  | create (name : String)
  | clone (name copy : String)
  | drop (name : String)
  | cancel (name : String)
  | clear (name : String)
  | isCancelled (name : String)
  | same (first second : String)
  | outline (name : String)
  | check (name : String)
  | cancellationOutline (name : String)
  | defer (name : String)
  | raise (name : String)

/-- The answer to a step of a script of tokens. -/
inductive TokenAnswer where
  | silent
  | skipped
  | flag (flag : Bool)
  | text (text : String)
  | passed
  /-- The check failed with a token that these names share. -/
  | cancelled (names : List String) (text : String)

/-- The named tokens of a script, in the order of their names, and the number of tokens so far. -/
structure TokenTable where
  names : List (String × Token)
  created : Nat

namespace TokenTable

/-- The token of a name. -/
def token? (table : TokenTable) (name : String) : Option Token := table.names.lookup name

/-- Names in order, with the name put in its place. -/
def insert (name : String) (token : Token) : List (String × Token) → List (String × Token)
  | [] => [(name, token)]
  | (other, held) :: rest =>
    if name = other then (name, token) :: rest
    else if name < other then (name, token) :: (other, held) :: rest
    else (other, held) :: insert name token rest

/-- Give a name to a token. -/
def bind (table : TokenTable) (name : String) (token : Token) : TokenTable :=
  { table with names := insert name token table.names }

/-- Give a name to a token that has not been used before. -/
def create (table : TokenTable) (name : String) : TokenTable :=
  { table.bind name ⟨table.created⟩ with created := table.created + 1 }

/-- Forget a name. -/
def drop (table : TokenTable) (name : String) : TokenTable :=
  { table with names := table.names.filter (·.1 != name) }

/-- The names that share a token. -/
def sharing (table : TokenTable) (token : Token) : List String :=
  (table.names.filter (·.2 == token)).map Prod.fst

end TokenTable

/-- A cancellation that has never been raised. -/
def Fault.ofToken (token : Token) : Fault := .cancelled token .empty

/-- Where tokens are thrown. -/
def throwSite : Site := ⟨"A"⟩

/-- A step on the token of a name. -/
def onToken (table : TokenTable) (token : Token) : TokenStep → ScriptRun TokenAnswer
  | .cancel _ => do
    token.cancel
    return .silent
  | .clear _ => do return .flag (← token.clear)
  | .isCancelled _ => do return .flag (← token.isCancelled)
  | .same _ second =>
    match table.token? second with
    | some other => pure (.flag (token == other))
    | none => pure .skipped
  | .outline _ => do
    let flags ← Act.read (·.cancelled)
    return .text (tokenOutline flags token).inline
  | .check _ => do
    match ← token.check with
    | .ok () => pure .passed
    | .error token =>
      pure (.cancelled (table.sharing token) (toString (Fault.ofToken token)))
  | .cancellationOutline _ => do
    let flags ← Act.read (·.cancelled)
    return .text ((Fault.ofToken token).outline flags).inline
  | .defer _ => do
    let deferred : DeferredValue ← Kind.cancelled.failureType.defer (.ofToken token)
    return .text (toString deferred)
  | .raise _ => do
    let raised ← Deferred.raise (α := Value) Kind.cancelled.failureType throwSite
      (.failure (.ofToken token))
    match raised with
    | .ok _ => pure .skipped
    | .error failure => pure (.flag (failure.token? == some token))
  | _ => pure .skipped

namespace TokenStep

/-- The name that a step starts from. -/
def subject : TokenStep → String
  | create name | clone name _ | drop name | cancel name | clear name | isCancelled name
  | same name _ | outline name | check name | cancellationOutline name | defer name
  | raise name => name

/-- A step of a script of tokens. -/
def run (table : TokenTable) : TokenStep → ScriptRun (TokenTable × TokenAnswer)
  | .create name => pure (table.create name, .silent)
  | .clone name copy =>
    match table.token? name with
    | some token => pure (table.bind copy token, .silent)
    | none => pure (table, .skipped)
  | .drop name => pure (table.drop name, .silent)
  | step =>
    match table.token? step.subject with
    | some token => do return (table, ← onToken table token step)
    | none => pure (table, .skipped)

end TokenStep

/-- Run a script of tokens, and report on each step the answer and the named tokens after it. -/
def runTokens (table : TokenTable) (world : ScriptWorld) :
    List TokenStep → List (Report TokenAnswer × TokenTable)
  | [] => []
  | step :: steps =>
    let (report, world) := reported (step.run table) world
    match report.exit with
    | .done (table, answer) =>
      (⟨.done answer, report.trace, report.flags⟩, table) :: runTokens table world steps
    | .panicked alarm =>
      (⟨.panicked alarm, report.trace, report.flags⟩, table) :: runTokens table world steps
    | .unfinished =>
      (⟨.unfinished, report.trace, report.flags⟩, table) :: runTokens table world steps

end Deferral.Script
