import Deferral.Act
import Deferral.Assert
import Deferral.Capture
import Deferral.Codec
import Deferral.Deferred
import Deferral.DynError
import Deferral.FailureType
import Deferral.Hashing
import Deferral.Iter.Basic
import Deferral.Iter.Deferred
import Deferral.Iter.Flat
import Deferral.Json.Basic
import Deferral.Json.Parser
import Deferral.Json.Printer
import Deferral.Notice
import Deferral.Promise.Cell
import Deferral.Promise.Claim
import Deferral.Promise.Desk
import Deferral.Proofs.Computation
import Deferral.Proofs.Deferred.Checking
import Deferral.Proofs.Deferred.Regrouping
import Deferral.Proofs.Deferred.Transparency
import Deferral.Proofs.Dialogue.Answers
import Deferral.Proofs.Dialogue.Desks
import Deferral.Proofs.Dialogue.Histories
import Deferral.Proofs.Dialogue.Holding
import Deferral.Proofs.Dialogue.Likeness
import Deferral.Proofs.Dialogue.Noninterference
import Deferral.Proofs.Dialogue.Pulling
import Deferral.Proofs.Dialogue.Requests
import Deferral.Proofs.Effects
import Deferral.Proofs.Encoding.Lawful
import Deferral.Proofs.Encoding.RoundTrip
import Deferral.Proofs.Pipeline.Catching
import Deferral.Proofs.Pipeline.Feed
import Deferral.Proofs.Pipeline.Filtering
import Deferral.Proofs.Pipeline.FlatMap
import Deferral.Proofs.Pipeline.Hints
import Deferral.Proofs.Pipeline.Journal
import Deferral.Proofs.Pipeline.Panics
import Deferral.Proofs.Pipeline.Pieces
import Deferral.Proofs.Pipeline.Pulls
import Deferral.Proofs.Pipeline.Raising
import Deferral.Proofs.Pipeline.Serving
import Deferral.Proofs.Pipeline.Spreading
import Deferral.Proofs.Pipeline.Stages
import Deferral.Proofs.Promise.Arena
import Deferral.Proofs.Promise.Awaiting
import Deferral.Proofs.Promise.Chain
import Deferral.Proofs.Promise.Classification
import Deferral.Proofs.Promise.Commuting
import Deferral.Proofs.Promise.Completers
import Deferral.Proofs.Promise.Delivery
import Deferral.Proofs.Promise.DeskSteps
import Deferral.Proofs.Promise.Relay
import Deferral.Proofs.Promise.Schedules
import Deferral.Proofs.Promise.Verdict
import Deferral.Proofs.Promise.Wakeups
import Deferral.Proofs.Raise.Canonical
import Deferral.Proofs.Raise.CauseChain
import Deferral.Proofs.Tokens.Bridging
import Deferral.Proofs.Tokens.Flags
import Deferral.Proofs.Tokens.Operations
import Deferral.Proofs.Tokens.Pulling
import Deferral.Script.Adapter
import Deferral.Script.Callable
import Deferral.Script.CodecScript
import Deferral.Script.DeskScript
import Deferral.Script.ErrorScript
import Deferral.Script.Event
import Deferral.Script.Fault
import Deferral.Script.Outline
import Deferral.Script.Pipeline
import Deferral.Script.Report
import Deferral.Script.Session
import Deferral.Script.Source
import Deferral.Script.SpreadScript
import Deferral.Script.Template
import Deferral.Script.TokenScript
import Deferral.Script.Value
import Deferral.Text.Hidden
import Deferral.Text.Outline
import Deferral.Text.Quoted
import Deferral.World
