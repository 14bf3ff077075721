import Conduit.Json.Basic

/-!
# Pipeline definitions

A definition lists the nodes of a pipeline. Every node names its component, and the edges are listed
at either end or at both. The connecting functions keep the two ends of an edge in step.
-/

namespace Conduit

/-- One node of a definition. -/
structure NodeSpec where
  id : String
  /-- The component, if it is not the one of the node's own name. -/
  base : Option String
  /-- What is merged onto the parameters of the component. -/
  parameter : Json
  predecessors : List String
  successors : List String
  /-- The source of the condition for a successor. -/
  conditions : Entries String

namespace NodeSpec

def new (id : String) : NodeSpec := ⟨id, none, .null, [], [], []⟩

def componentId (node : NodeSpec) : String := node.base.getD node.id

end NodeSpec

/-- A pipeline as it is written down. -/
structure Definition where
  id : String
  name : String
  description : Option String
  enabled : Bool
  /-- The entry node, if it is not to be found from the edges. -/
  root : Option String
  nodes : List NodeSpec

namespace Definition

/-- A definition without nodes, named by its id. -/
def new (id : String) : Definition := ⟨id, id, none, true, none, []⟩

def withRoot (d : Definition) (root : String) : Definition := { d with root := some root }

def addNode (d : Definition) (node : NodeSpec) : Definition := { d with nodes := d.nodes ++ [node] }

def node? (d : Definition) (id : String) : Option NodeSpec := d.nodes.find? fun n => n.id == id

def including (items : List String) (item : String) : List String :=
  if items.contains item then items else items ++ [item]

def changeFirst (id : String) (change : NodeSpec → NodeSpec) : List NodeSpec → List NodeSpec
  | [] => []
  | n :: rest => if n.id = id then change n :: rest else n :: changeFirst id change rest

theorem ids_changeFirst {id : String} {change : NodeSpec → NodeSpec}
    (h : ∀ n, (change n).id = n.id) (nodes : List NodeSpec) :
    (changeFirst id change nodes).map NodeSpec.id = nodes.map NodeSpec.id := by
  induction nodes with
  | nil => rfl
  | cons n rest ih =>
    simp only [changeFirst]
    split
    · simp [h]
    · simp [ih]

theorem mem_including {items : List String} {item other : String} :
    other ∈ including items item ↔ other = item ∨ other ∈ items := by
  unfold including
  split
  · next h =>
    constructor
    · exact Or.inr
    · rintro (rfl | h')
      · exact List.contains_iff_mem.1 h
      · exact h'
  · simp [or_comm]

/-- The definition with the edge at both of its ends. An end that is no node is left out. -/
def connect (d : Definition) (source target : String) : Definition :=
  let nodes := changeFirst source
    (fun n => { n with successors := including n.successors target }) d.nodes
  let nodes := changeFirst target
    (fun n => { n with predecessors := including n.predecessors source }) nodes
  { d with nodes := nodes }

def connectWhen (d : Definition) (source target condition : String) : Definition :=
  let connected := d.connect source target
  let note (n : NodeSpec) : NodeSpec :=
    { n with conditions := n.conditions.insert target condition }
  { connected with nodes := changeFirst source note connected.nodes }

end Definition

end Conduit
