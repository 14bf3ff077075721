import Conduit.Engine.Fetch
import Conduit.Graph.Compiler

/-!
# Orders

What is ordered of an engine is a definition, a graph or a run. An order is carried out step by
step: a definition is fetched, compiled and run. Other work can come in between two steps.
-/

namespace Conduit

/-- Where the definition of an order comes from. -/
inductive Target where
  | definition (d : Definition)
  /-- The pipeline of an id in the store. -/
  | stored (id : String)

/-- What is ordered. -/
inductive Purpose where
  | definition
  | graph
  /-- A run in the context of a number. -/
  | run (context : Nat)

/-- How far an order has come. -/
inductive Progress where
  /-- The definition is fetched. -/
  | fetching (fetch : Fetch)
  /-- The definition is there and is to be compiled. -/
  | fetched (definition : Definition)
  /-- The definition is compiled. So many components had been created before. -/
  | compiling (created : Nat) (work : Suspended (Except PipelineError (Graph Component) × Nat))
  /-- The graph is there and is to be run. -/
  | compiled (graph : Graph Component)
  | failed (error : PipelineError)
  /-- The run was begun, or will not be. -/
  | over

namespace Progress

def ofTarget : Target → Progress
  | .definition d => .fetched d
  | .stored id => .fetching (.asked id)

def ofFetch : Fetch → Progress
  | .over (.ok d) => .fetched d
  | .over (.error e) => .failed e
  | fetch => .fetching fetch

def ofOutcome : Except PipelineError (Graph Component) → Progress
  | .ok graph => .compiled graph
  | .error e => .failed e

def definition? : Progress → Option (Except PipelineError Definition)
  | .fetched d => some (.ok d)
  | .failed e => some (.error e)
  | _ => none

def graph? : Progress → Option (Except PipelineError (Graph Component))
  | .compiled graph => some (.ok graph)
  | .failed e => some (.error e)
  | _ => none

def asksStore : Progress → Bool
  | .fetching (.missed _) => true
  | .compiling _ (.lookup _ _) => true
  | _ => false

end Progress

/-- An order and the task that carries it out. -/
structure Order where
  target : Target
  purpose : Purpose
  task : Nat
  progress : Progress

def Order.rests (o : Order) : Bool :=
  match o.purpose, o.progress with
  | _, .over => true
  | .definition, p => p.definition?.isSome
  | .graph, p => p.graph?.isSome
  | .run _, _ => false

end Conduit
