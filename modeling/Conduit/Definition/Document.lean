import Conduit.Definition.Basic
import Conduit.Json.Decoder

/-!
# Definitions as documents

A definition is written with its absent parts left out, and reading fills them in again. Some fields
of a node are also read under other names.
-/

namespace Conduit

open Json

namespace NodeSpec

def fields : List (Decoder.Field NodeSpec) := [
  Decoder.requiredField ["id"] Decoder.string fun v n => { n with id := v },
  Decoder.field ["base_component_id", "baseComponentId"] (Decoder.option Decoder.string)
    fun v n => { n with base := v },
  Decoder.field ["parameter"] Decoder.json fun v n => { n with parameter := v },
  Decoder.field ["upstream", "upstreamIds", "upstream_ids"] (Decoder.list Decoder.string)
    fun v n => { n with predecessors := v },
  Decoder.field ["downstream", "downstreamIds", "downstream_ids"] (Decoder.list Decoder.string)
    fun v n => { n with successors := v },
  Decoder.field ["downstream_conditions", "downstreamConditions"]
    (Decoder.entries Decoder.string) fun v n => { n with conditions := v }]

def decoder : Decoder NodeSpec := Decoder.record "GraphNodeSpec" fields (.new "")

/-- The members of a node's document, in the order of its fields. -/
def members (n : NodeSpec) : List (String × Json) :=
  [("id", .string n.id)] ++
  (match n.base with
    | some c => [("base_component_id", .string c)]
    | none => []) ++
  (match n.parameter with
    | .null => []
    | p => [("parameter", p)]) ++
  [("upstream", .array (n.predecessors.map .string)),
    ("downstream", .array (n.successors.map .string))] ++
  (if n.conditions.isEmpty then []
    else [("downstream_conditions", .object (n.conditions.mapValues .string))])

def toJson (n : NodeSpec) : Json := Json.ofMembers n.members

end NodeSpec

namespace Definition

def fields : List (Decoder.Field Definition) := [
  Decoder.requiredField ["id"] Decoder.string fun v d => { d with id := v },
  Decoder.field ["name"] Decoder.string fun v d => { d with name := v },
  Decoder.field ["description"] (Decoder.option Decoder.string)
    fun v d => { d with description := v },
  Decoder.field ["enabled"] Decoder.bool fun v d => { d with enabled := v },
  Decoder.field ["root"] (Decoder.option Decoder.string) fun v d => { d with root := v },
  Decoder.field ["nodes"] (Decoder.list NodeSpec.decoder) fun v d => { d with nodes := v }]

def decoder : Decoder Definition := Decoder.record "GraphDefinition" fields (.new "")

/-- The members of a definition's document but its nodes, in the order of its fields. -/
def members (d : Definition) : List (String × Json) :=
  [("id", .string d.id), ("name", .string d.name)] ++
  (match d.description with
    | some s => [("description", .string s)]
    | none => []) ++
  [("enabled", .bool d.enabled)] ++
  (match d.root with
    | some r => [("root", .string r)]
    | none => [])

def toJson (d : Definition) : Json :=
  Json.ofMembers (d.members ++ [("nodes", .array (d.nodes.map NodeSpec.toJson))])

/-- The document of a definition as it is laid out for reading: members stand in the order of the
fields instead of the order of their keys. -/
def sheet (d : Definition) : Json :=
  .object (d.members ++ [("nodes", .array (d.nodes.map fun n => .object n.members))])

end Definition

end Conduit
