import Conduit.Component.Activity
import Conduit.Parameters

/-!
# Factories

A factory makes components of one kind. A component is first created from its parameters, which can
be wrong, and then prepared under a name, which can fail too. Only a prepared component is meant to
be executed.
-/

namespace Conduit

/-- A created component: what it does before it is prepared, and what once it is. -/
structure Draft where
  kind : String
  unprepared : Activity
  prepare : Config → Except ComponentError Activity

/-- A maker of components of one kind. -/
structure Factory where
  kind : String
  create : Json → Except ComponentError Draft
  /-- The parameters that a component has if nothing else is asked for. -/
  defaults : Json
  description : String
  category : String
  /-- The components that it creates are counted. -/
  tallied : Bool

/-- A component that needs no preparation. -/
def Draft.plain (kind : String) (activity : Activity) : Draft :=
  ⟨kind, activity, fun _ => .ok activity⟩

/-- A step of making components, which counts those created by tallied factories. -/
abbrev Making (ε α : Type) := ExceptT ε (StateM Nat) α

/-- A created component, counted if the factory is tallied. -/
def Factory.make (f : Factory) (parameters : Json) : Making ComponentError Draft := do
  let draft ← liftExcept (f.create parameters)
  if f.tallied then modify (· + 1)
  return draft
where
  /-- An outcome as a step. -/
  liftExcept {α : Type} (outcome : Except ComponentError α) : Making ComponentError α :=
    ExceptT.mk (pure outcome)

end Conduit
