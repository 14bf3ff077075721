import Conduit.Proofs.Graph.Layout
import Conduit.Proofs.Graph.Outcomes

/-!
# Wrapping

A definition whose only node refers to a pipeline is compiled to a graph whose only node executes the
graph that the pipeline is compiled to by itself.
-/

namespace Conduit

/-- The graph as the only node of another one. -/
def Graph.within (g : Graph Component) (pipeline : String) (spec : NodeSpec) : Graph Component :=
  ⟨pipeline, spec.id, [⟨spec.id, spec.componentId, .ready (.pipeline g) .own, [], []⟩]⟩

namespace Compiling

variable {α β : Type} {find : Lookup} {n m : Nat}

end Compiling

namespace Compiler

open Compiling

variable {c : Compiler} {find : Lookup} {child : Definition} {g : Graph Component} {n i : Nat}

variable {spec : NodeSpec} (refers : c.prototypes.get? spec.componentId = none)
  (found : find spec.componentId = .ok (some child))
  (compiled : (c.compile child).outcome find n = (.ok g, i))

include refers found compiled

end Compiler

end Conduit
