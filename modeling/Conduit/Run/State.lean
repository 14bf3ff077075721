import Conduit.Graph.Basic
import Conduit.Run.Gate

/-!
# The state of a run

A run goes over one graph. It keeps the gate and the status of every node, the permits of the
executions that may be under way at a time, and how it stands as a whole. Once it is halted nothing
more is dispatched in it.
-/

namespace Conduit

structure NodeState where
  gate : Gate
  status : NodeStatus

/-- How many executions may be under way at a time, and how many there may be in all. -/
structure Limits where
  parallel : Nat
  steps : Nat

/-- The most executions that can be let be under way at a time. -/
def Limits.mostParallel : Nat := Nat.pow 2 61 - 1

def Limits.atLeastOne (l : Limits) : Limits := ⟨max l.parallel 1, max l.steps 1⟩

/-- What came of a run that succeeded. -/
structure RunOutcome where
  statuses : Entries NodeStatus
  /-- The executed nodes in the order of their completion. -/
  executed : List String
  endedEarly : Bool

abbrev RunResult := Except PipelineError RunOutcome

/-- How the conducting of a run ended. -/
inductive Ending where
  /-- The run is over, with what came of it. -/
  | over (result : RunResult)
  /-- The run could not be set up, and nothing came of it. -/
  | brokenOff

structure Run where
  graph : Graph Component
  /-- The number of the context that the run works on. -/
  context : Nat
  /-- The task that waits for the run. -/
  supervisor : Nat
  limits : Limits
  nodes : Entries NodeState
  /-- How many permits nobody holds. -/
  free : Nat
  /-- The tasks that wait for a permit, the one that waits longest first. -/
  waiting : List Nat
  /-- The tasks that were handed a permit and have not gone on yet. -/
  granted : List Nat
  /-- How many executions were admitted or refused for their number. -/
  steps : Nat
  halted : Bool
  /-- A node asked for the end of the run. -/
  ended : Bool
  /-- The first failure. -/
  failure : Option PipelineError
  executed : List String
  /-- How many tasks of the run are not over. -/
  unfinished : Nat

namespace Run

def initialNodes (graph : Graph Component) : Entries NodeState :=
  Entries.ofPairs (graph.nodes.map fun n => (n.id, ⟨Gate.new n.predecessors.length, .pending⟩))

def new (graph : Graph Component) (context supervisor : Nat) (limits : Limits) : Run where
  graph := graph
  context := context
  supervisor := supervisor
  limits := limits
  nodes := initialNodes graph
  free := limits.parallel
  waiting := []
  granted := []
  steps := 0
  halted := false
  ended := false
  failure := none
  executed := []
  unfinished := 0

instance : Inhabited Run := ⟨new default 0 0 ⟨1, 1⟩⟩

def changeNode (run : Run) (id : String) (f : NodeState → NodeState) : Run :=
  match run.nodes.get? id with
  | some s => { run with nodes := run.nodes.insert id (f s) }
  | none => run

def setStatus (run : Run) (id : String) (status : NodeStatus) : Run :=
  run.changeNode id fun s => { s with status := status }

/-- A node that waits for more arrivals is blocked, unless it stands further already. -/
def markBlocked (run : Run) (id : String) : Run :=
  run.changeNode id fun s =>
    { s with status := if s.status = .pending then .blocked else s.status }

def arriveAt (run : Run) (id : String) (live : Bool) : Run × Option Arrival :=
  match run.nodes.get? id with
  | none => (run, none)
  | some s =>
    let (gate, arrival) := s.gate.arrive live
    ({ run with nodes := run.nodes.insert id { s with gate := gate } }, some arrival)

def edge? (run : Run) (source : String) (place : Nat) : Option Edge :=
  (run.graph.node? source).bind fun n => n.edges[place]?

def outDegree (run : Run) (source : String) : Nat :=
  match run.graph.node? source with
  | some n => n.edges.length
  | none => 0

/-- What a run that is over with success leaves. -/
def outcome (run : Run) : RunOutcome :=
  ⟨run.nodes.mapValues NodeState.status, run.executed, run.ended⟩

end Run

end Conduit
