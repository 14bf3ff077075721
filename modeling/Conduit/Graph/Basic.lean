import Conduit.Component.Activity

/-!
# Graphs

A graph is a pipeline that is ready to run: every node has its component, the nodes before it and
the edges that leave it. A component is an activity of its own or a whole pipeline.
-/

namespace Conduit

/-- Where a node stands in a run. -/
inductive NodeStatus where
  | pending
  /-- Some of the nodes before it have arrived, but not all. -/
  | blocked
  | running
  | done
  | failed
  | skipped
  deriving DecidableEq

namespace NodeStatus

def all : List NodeStatus := [pending, blocked, running, done, failed, skipped]

def name : NodeStatus → String
  | pending => "Pending"
  | blocked => "Blocked"
  | running => "Running"
  | done => "Done"
  | failed => "Failed"
  | skipped => "Skipped"

/-- The node is not going to change again without being dispatched again. -/
def isTerminal : NodeStatus → Bool
  | done => true
  | failed => true
  | skipped => true
  | _ => false

end NodeStatus

/-- An edge that leaves a node, with its condition if it has one. -/
structure Edge where
  target : String
  condition : Option Condition

/-- Whether a node's component is shared or its own. -/
inductive Origin where
  /-- The instance of a prototype, which all its nodes share. -/
  | shared (prototype : String)
  | own
  deriving DecidableEq

/-- The component of a node, or why there is none. -/
inductive Slot (κ : Type) where
  | ready (component : κ) (origin : Origin)
  | unusable (reason : String)

def Slot.isUsable {κ : Type} : Slot κ → Bool
  | .ready _ _ => true
  | .unusable _ => false

structure GraphNode (κ : Type) where
  id : String
  componentId : String
  slot : Slot κ
  /-- The nodes before it, each once. -/
  predecessors : List String
  edges : List Edge

structure Graph (κ : Type) where
  pipeline : String
  root : String
  nodes : List (GraphNode κ)

def Graph.node? {κ : Type} (g : Graph κ) (id : String) : Option (GraphNode κ) :=
  g.nodes.find? fun n => n.id == id

/-- What a node executes. -/
inductive Component where
  | basic (kind : String) (activity : Activity)
  | pipeline (graph : Graph Component)

def Component.kind : Component → String
  | .basic kind _ => kind
  | .pipeline _ => "pipeline"

instance {κ : Type} : Inhabited (Graph κ) := ⟨⟨"", "", []⟩⟩

end Conduit
