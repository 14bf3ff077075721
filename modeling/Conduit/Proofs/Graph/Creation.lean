import Conduit.Component.Library
import Conduit.Proofs.Graph.Snapshot
import Conduit.Proofs.Json.Merging
import Conduit.Proofs.Registry.Layers
import Mathlib

/-!
# Creating the components of nodes

Which parameters the component of a node is created from: the factory's defaults, what a spec gives
and the node's own parameter, merged in this order.
-/

namespace Conduit

/-! ## Slots of prototypes -/

theorem Prototype.run_instantiate (p : Prototype) (node : String) (overrides : Json) (n : Nat) :
    ((p.instantiate node overrides).run n).1 =
      p.factory.component p.name (some node) (p.parameters.merge overrides) := by
  unfold instantiate Factory.component parametersWith
  dsimp only
  rw [← p.factory.run_make (p.parameters.merge overrides) n]
  cases hm : (p.factory.make (p.parameters.merge overrides)).run n with
  | mk outcome k =>
    cases outcome with
    | error e => exact congrArg Prod.fst (Making.run_bind_of_error hm)
    | ok draft => exact congrArg Prod.fst (Making.run_bind_of_ok hm)

def Slot.ofComponent : Except ComponentError Component → Slot Component
  | .ok component => .ready component .own
  | .error e => .unusable e.message

theorem Prototype.slot_of_empty (p : Prototype) {spec : NodeSpec}
    (h : spec.parameter.isEmptyParameter = true) :
    p.slot spec = .ready p.shared (.shared spec.componentId) := if_pos h

theorem Prototype.slot_of_unreadable (p : Prototype) {spec : NodeSpec} {reason : String}
    (h : spec.parameter.isEmptyParameter = false)
    (hr : readParameter spec.parameter = .error reason) :
    p.slot spec = .unusable reason := by
  unfold slot
  rw [h, hr]
  rfl

theorem Prototype.slot_of_read (p : Prototype) {spec : NodeSpec} {overrides : Json}
    (h : spec.parameter.isEmptyParameter = false)
    (hr : readParameter spec.parameter = .ok overrides) :
    p.slot spec = .ofComponent
      (p.factory.component p.name (some spec.id) (p.parameters.merge overrides)) := by
  unfold slot
  rw [h, hr, ← p.run_instantiate spec.id overrides 0]
  dsimp only
  cases ((p.instantiate spec.id overrides).run 0).1 <;> rfl

theorem Compiler.outcome_resolve {c : Compiler} {spec : NodeSpec} {p : Prototype}
    (h : c.prototypes.get? spec.componentId = some p) (find : Lookup) (stack : List String)
    (nested : Option (Definition → List String → Compiling (Graph Component))) (n : Nat) :
    ((c.resolve stack nested spec).outcome find n).1 = .ok (p.slot spec) := by
  unfold resolve
  rw [h]
  dsimp only
  unfold fromPrototype Prototype.slot
  split
  · rfl
  · generalize readParameter spec.parameter = read
    cases read with
    | error reason => rfl
    | ok overrides =>
      dsimp only
      -- What is made does not depend on how much was made before.
      rw [Compiling.outcome_bind, Compiling.outcome_make,
        p.steady_instantiate spec.id overrides n 0]
      cases ((p.instantiate spec.id overrides).run 0).1 <;> rfl

/-! ## The layers of parameters -/

theorem readParameter_isOrdered {parameter j : Json} (ordered : parameter.IsOrdered)
    (h : readParameter parameter = .ok j) : j.IsOrdered := by
  cases parameter with
  | string text =>
    unfold readParameter at h
    dsimp only at h
    cases hp : Json.parse text with
    | error e =>
      rw [hp] at h
      cases h
    | ok k =>
      rw [hp] at h
      cases h
      exact Json.isOrdered_of_parse hp
  | _ =>
    cases h
    exact ordered

/-- How a node gets its component: from the factory's defaults, with what a spec gives and then with
the node's own parameter merged onto them, of which those with nothing to apply are passed over. -/
structure IsCreated (f : Factory) (given : Json) (p : Prototype) (spec : NodeSpec)
    (slot : Slot Component) : Prop where
  shared : spec.parameter.isEmptyParameter = true →
    slot = .ready p.shared (.shared spec.componentId) ∧
      f.component p.name none (f.defaults.layered given) = .ok p.shared
  unreadable : spec.parameter.isEmptyParameter = false →
    ∀ reason, readParameter spec.parameter = .error reason → slot = .unusable reason
  own : spec.parameter.isEmptyParameter = false →
    ∀ overrides, readParameter spec.parameter = .ok overrides →
      slot = .ofComponent
        (f.component p.name (some spec.id) ((f.defaults.layered given).merge overrides)) ∧
      -- Every value of the node's own that is no object is there unchanged.
      ∀ path v, overrides.at? path = some v → (∀ members, v ≠ .object members) →
        ((f.defaults.layered given).merge overrides).at? path = some v

theorem isCreated_slot {factories : Entries Factory} {p : Prototype} {f : Factory} {given : Json}
    (made : Registry.IsMade factories p f given) {spec : NodeSpec}
    (ordered : spec.parameter.IsOrdered) : IsCreated f given p spec (p.slot spec) := by
  obtain ⟨built, rfl, hp⟩ := made.eq_layered
  refine ⟨fun h => ⟨p.slot_of_empty h, ?_⟩, fun h reason hr => p.slot_of_unreadable h hr,
    fun h overrides hr => ⟨?_, fun path v hv hn => ?_⟩⟩
  · exact hp ▸ built
  · rw [p.slot_of_read h hr, hp]
  · exact (Json.mergesAt _ (readParameter_isOrdered ordered hr) path).value v hv hn

/-- Merging is exact at every path, and merging an overlay a second time changes nothing. Every
published prototype that was not registered as it is comes of a factory, and every node that has its
component from it has one that is created from the factory's defaults, what a spec gives and the
node's own parameter, merged in this order. -/
theorem parameters_merge_in_layers :
    (∀ base overlay : Json, overlay.IsOrdered →
      (∀ path, Json.MergesAt base overlay (base.merge overlay) path) ∧
      (base.merge overlay).merge overlay = base.merge overlay) ∧
    ∀ (factories : List Factory) (acts : List Registry.Service.Act) (name : String) (p : Prototype),
      let service := Registry.Service.ofFactories factories
      (service.after acts).registry.prototypes.get? name = some p →
      .register name p ∈ Registry.Service.operations acts ∨
      ∃ f given, Registry.IsMade service.registry.factories p f given ∧
        ∀ (c : Compiler) (spec : NodeSpec), c.prototypes.get? spec.componentId = some p →
          spec.parameter.IsOrdered → ∀ find stack nested n, ∃ slot,
            ((c.resolve stack nested spec).outcome find n).1 = .ok slot ∧
              IsCreated f given p spec slot := by
  refine ⟨fun base overlay ordered =>
    ⟨Json.mergesAt base ordered, Json.merge_merge base ordered⟩, ?_⟩
  intro factories acts name p service hp
  refine (Registry.Service.isMade_of_published factories acts hp).imp_right ?_
  rintro ⟨f, given, made⟩
  refine ⟨f, given, made, fun c spec hc ordered find stack nested n => ?_⟩
  exact ⟨_, Compiler.outcome_resolve hc find stack nested n, isCreated_slot made ordered⟩

/-! ## An example -/

namespace Greeting

def spec : PrototypeSpec :=
  ⟨"greet", "context.set", .object [("values", .object [("greeting", .string "hello")])]⟩

def prototype : Prototype :=
  ⟨"greet", Library.setValuesFactory, .object [("values", .object [("greeting", .string "hello")])],
    .basic "context.set" (Library.setValues [("greeting", .string "hello")])⟩

def acts : List Registry.Service.Act := [.ask (.registerSpec spec), .proceed 0, .proceed 0]

def service : Registry.Service := Registry.Service.ofFactories [Library.setValuesFactory]

def compiler : Compiler := ⟨[("greet", prototype)], false, 1⟩

def given : Json := .object [("values", .object [("name", .string "Ann")])]

def node : NodeSpec :=
  { NodeSpec.new "n" with
    base := some "greet"
    parameter := .string "\x7b\"values\": \x7b\"name\": \"Ann\"\x7d\x7d" }

/-- The component that greets by name. -/
def component : Component :=
  .basic "context.set"
    (Library.setValues [("greeting", .string "hello"), ("name", .string "Ann")])

theorem published : (service.after acts).registry.prototypes.get? "greet" = some prototype := by
  rfl

theorem read : readParameter node.parameter = .ok given := by cbv

theorem created : Slot.ofComponent (prototype.factory.component prototype.name (some node.id)
    (prototype.parameters.merge given)) = .ready component .own := by rfl

end Greeting

/-- The node's component has the greeting of the prototype and the name of the node. -/
theorem parameters_merge_in_layers_greeting :
    (∃ given, Registry.IsMade Greeting.service.registry.factories Greeting.prototype
        Library.setValuesFactory given ∧
      IsCreated Library.setValuesFactory given Greeting.prototype Greeting.node
        (.ready Greeting.component .own)) ∧
    (Json.MergesAt Greeting.prototype.parameters Greeting.given
        (Greeting.prototype.parameters.merge Greeting.given) ["values", "greeting"] ∧
      (Greeting.prototype.parameters.merge Greeting.given).at? ["values", "greeting"] =
        some (.string "hello")) := by
  obtain ⟨merges, layers⟩ := parameters_merge_in_layers
  constructor
  · have text : Greeting.node.parameter.IsOrdered := Json.isOrdered_of_not_object nofun
    rcases layers [Library.setValuesFactory] Greeting.acts "greet" _ Greeting.published with
      h | ⟨f, given, made, h⟩
    · cases List.mem_singleton.1 h
    · obtain ⟨-, rfl, hp⟩ := made.eq_layered
      obtain ⟨slot, -, created⟩ :=
        h Greeting.compiler Greeting.node rfl text (fun _ => .ok none) [] none 0
      have hslot := (created.own rfl _ Greeting.read).1
      rw [← hp] at hslot
      cases hslot.trans Greeting.created
      exact ⟨given, made, created⟩
  · have ordered : Greeting.given.IsOrdered := by
      refine Json.isOrdered_object (List.pairwise_singleton _ _) fun e he => ?_
      cases List.mem_singleton.1 he
      refine Json.isOrdered_object (List.pairwise_singleton _ _) fun e he => ?_
      cases List.mem_singleton.1 he
      exact Json.isOrdered_of_not_object nofun
    exact ⟨(merges _ _ ordered).1 _, rfl⟩

end Conduit
