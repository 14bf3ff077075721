import Conduit.Event.Instant
import Conduit.Event.RunId

/-!
# Events

A run tells what happens in it: that it started and completed, and what became of its nodes.
-/

namespace Conduit

/-- What happened in a run. -/
inductive Happening where
  | runStarted (pipeline : String)
  | runCompleted (success endedEarly : Bool)
  | nodeStarted (node component : String)
  | nodeCompleted (node : String)
  | nodeSkipped (node : String)
  | nodeFailed (node error : String)
  deriving DecidableEq

/-- What happened in the run of a number, and the time in milliseconds. -/
structure Occurrence where
  run : Nat
  time : Nat
  happening : Happening
  deriving DecidableEq

/-- What happened in a run, and when. Completions tell how long it took. -/
structure Event where
  runId : RunId
  happening : Happening
  durationMs : Nat
  timestamp : Instant

end Conduit
