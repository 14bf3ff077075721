import Conduit.Component.Factory
import Conduit.Graph.Basic
import Conduit.Json.Decoder

/-!
# The registry

The registry holds the factories and, by name, the prototypes that nodes take their components from.
A change of the prototypes is published as a whole.
-/

namespace Conduit

open Json

/-- A named prototype: its factory, its parameters and the instance that nodes share. -/
structure Prototype where
  name : String
  factory : Factory
  parameters : Json
  shared : Component

namespace Prototype

def prepare (draft : Draft) (config : Config) : Except ComponentError Component :=
  (draft.prepare config).map fun activity => .basic draft.kind activity

def make (name : String) (factory : Factory) (parameters : Json) :
    Making ComponentError Prototype := do
  let draft ← factory.make parameters
  let component ← Factory.make.liftExcept (prepare draft ⟨name, none, parameters⟩)
  return ⟨name, factory, parameters, component⟩

/-- The prototype's parameters with a node's own merged onto them. -/
def parametersWith (p : Prototype) (overrides : Json) : Json := p.parameters.merge overrides

def instantiate (p : Prototype) (node : String) (overrides : Json) :
    Making ComponentError Component := do
  let parameters := p.parametersWith overrides
  let draft ← p.factory.make parameters
  Factory.make.liftExcept (prepare draft ⟨p.name, some node, parameters⟩)

end Prototype

/-- A prototype as it is written down. -/
structure PrototypeSpec where
  name : String
  kind : String
  parameters : Json

namespace PrototypeSpec

def decoder : Decoder PrototypeSpec :=
  Decoder.record "PrototypeSpec" [
    Decoder.requiredField ["name"] Decoder.string fun v s => { s with name := v },
    Decoder.requiredField ["kind"] Decoder.string fun v s => { s with kind := v },
    Decoder.field ["parameters"] Decoder.json fun v s => { s with parameters := v }]
    ⟨"", "", .null⟩

def toJson (s : PrototypeSpec) : Json :=
  Json.ofMembers [("name", .string s.name), ("kind", .string s.kind), ("parameters", s.parameters)]

end PrototypeSpec

abbrev Prototypes := Entries Prototype

structure Registry where
  factories : Entries Factory
  prototypes : Prototypes

namespace Registry

/-- What is to be published. -/
inductive Change where
  | put (name : String) (prototype : Prototype)
  | replace (prototypes : Prototypes)

def empty : Registry := ⟨[], []⟩

/-- How many prototypes are published. -/
def Change.size : Change → Nat
  | .put _ _ => 1
  | .replace prototypes => prototypes.length

def Change.apply : Change → Prototypes → Prototypes
  | .put name prototype, prototypes => Entries.insert name prototype prototypes
  | .replace next, _ => next

def publish (r : Registry) (change : Change) : Registry :=
  { r with prototypes := Change.apply change r.prototypes }

/-- The parameters of a prototype of its own: those given, merged onto the factory's defaults. -/
def specParameters (factory : Factory) (spec : PrototypeSpec) : Json :=
  if spec.parameters.isEmptyParameter then factory.defaults
  else factory.defaults.merge spec.parameters

def build (r : Registry) (spec : PrototypeSpec) : Making PipelineError Prototype :=
  match r.factories.get? spec.kind with
  | none => throw (.graph (.unknownComponentType spec.kind))
  | some factory => ExceptT.mk do
    match ← (Prototype.make spec.name factory (specParameters factory spec)).run with
    | .ok p => return .ok p
    | .error e => return .error (.graph (.invalidParameter spec.name e.message))

/-- The prototypes with the default one of a factory. A factory whose default parameters do not do
has none. -/
def withDefault (prototypes : Prototypes) (kind : String) (f : Factory) :
    StateM Nat Prototypes := do
  match ← (Prototype.make kind f f.defaults).run with
  | .ok p => return prototypes.insert kind p
  | .error _ => return prototypes

def register (r : Registry) (factory : Factory) : StateM Nat Registry := do
  let prototypes ← withDefault r.prototypes factory.kind factory
  return ⟨r.factories.insert factory.kind factory, prototypes⟩

def ofFactories (factories : List Factory) : StateM Nat Registry :=
  factories.foldlM register empty

end Registry

end Conduit
