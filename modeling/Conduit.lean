import Conduit.Context.Handles
import Conduit.Event.Document
import Conduit.Main
import Conduit.Proofs.Condition.Blame
import Conduit.Proofs.Condition.Coherence
import Conduit.Proofs.Condition.Cursor
import Conduit.Proofs.Condition.Cutting
import Conduit.Proofs.Condition.Dependence
import Conduit.Proofs.Condition.Enclosing
import Conduit.Proofs.Condition.Grammar
import Conduit.Proofs.Condition.Offsets
import Conduit.Proofs.Condition.Printing
import Conduit.Proofs.Condition.Reach
import Conduit.Proofs.Condition.Spelling
import Conduit.Proofs.Definition.Documents
import Conduit.Proofs.Definition.Edges
import Conduit.Proofs.Engine.History
import Conduit.Proofs.Engine.Invalidations
import Conduit.Proofs.Engine.Snapshots
import Conduit.Proofs.Entries
import Conduit.Proofs.Except
import Conduit.Proofs.Graph.Acceptance
import Conduit.Proofs.Graph.Creation
import Conduit.Proofs.Graph.Keeping
import Conduit.Proofs.Graph.Layout
import Conduit.Proofs.Graph.Outcomes
import Conduit.Proofs.Graph.ParameterTexts
import Conduit.Proofs.Graph.References
import Conduit.Proofs.Graph.Snapshot
import Conduit.Proofs.Graph.Sound
import Conduit.Proofs.Graph.Wrapping
import Conduit.Proofs.Json.Carrying
import Conduit.Proofs.Json.Leaves
import Conduit.Proofs.Json.Merging
import Conduit.Proofs.Json.Paths
import Conduit.Proofs.Json.Records
import Conduit.Proofs.Json.RoundTrip
import Conduit.Proofs.Library.Routing
import Conduit.Proofs.Library.Transform
import Conduit.Proofs.Library.Writing
import Conduit.Proofs.Number.Exact
import Conduit.Proofs.Number.Numeral
import Conduit.Proofs.Number.Rounding
import Conduit.Proofs.Number.Shortest
import Conduit.Proofs.Registry.Building
import Conduit.Proofs.Registry.Calls
import Conduit.Proofs.Registry.Layers
import Conduit.Proofs.Run.Blame
import Conduit.Proofs.Run.Bounds
import Conduit.Proofs.Run.Causes
import Conduit.Proofs.Run.Conclusions
import Conduit.Proofs.Run.Crew
import Conduit.Proofs.Run.Determinism
import Conduit.Proofs.Run.Dispatching
import Conduit.Proofs.Run.EarlyEnds
import Conduit.Proofs.Run.Ends
import Conduit.Proofs.Run.Exact
import Conduit.Proofs.Run.Failures
import Conduit.Proofs.Run.FirstFailure
import Conduit.Proofs.Run.Footprints
import Conduit.Proofs.Run.Gates
import Conduit.Proofs.Run.Halting
import Conduit.Proofs.Run.History
import Conduit.Proofs.Run.Hosting
import Conduit.Proofs.Run.JoinSafety
import Conduit.Proofs.Run.Joins
import Conduit.Proofs.Run.Jumps
import Conduit.Proofs.Run.Keeping
import Conduit.Proofs.Run.Keys
import Conduit.Proofs.Run.Ledger
import Conduit.Proofs.Run.Leftovers
import Conduit.Proofs.Run.Limits
import Conduit.Proofs.Run.Moves
import Conduit.Proofs.Run.Nesting
import Conduit.Proofs.Run.Permits
import Conduit.Proofs.Run.Protocol
import Conduit.Proofs.Run.Races
import Conduit.Proofs.Run.Refitting
import Conduit.Proofs.Run.Results
import Conduit.Proofs.Run.Returning
import Conduit.Proofs.Run.Rounds
import Conduit.Proofs.Run.Sharing
import Conduit.Proofs.Run.Single
import Conduit.Proofs.Run.Slots
import Conduit.Proofs.Run.Stage
import Conduit.Proofs.Run.Stalls
import Conduit.Proofs.Run.Statuses
import Conduit.Proofs.Run.Strands
import Conduit.Proofs.Run.Strides
import Conduit.Proofs.Run.Tally
import Conduit.Proofs.Run.Telling
import Conduit.Proofs.Run.Termination
import Conduit.Proofs.Run.Transcripts
import Conduit.Proofs.Run.Transparency
import Conduit.Proofs.Run.Turns
import Conduit.Proofs.Run.Waking
import Conduit.Proofs.Store.Agreement
import Conduit.Proofs.Store.Paths
import Conduit.Proofs.Text
