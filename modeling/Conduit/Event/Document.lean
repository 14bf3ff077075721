import Conduit.Event.Basic
import Conduit.Json.Decoder

/-!
# Events as documents

An event is an object whose member `type` names what happened. It is also read from an array that
starts with that name.
-/

namespace Conduit

open Json

namespace Event

/-- A decoder of strings that are then read in their own way. -/
def textDecoder {α : Type} (wanted : String) (read : String → Except String α) : Decoder α where
  ofJson
    | .string s => (read s).mapError .other
    | j => .error (.wrongType (found j) wanted)
  ofText _ c := Decoder.refuse wanted c

def runIdDecoder : Decoder RunId :=
  textDecoder "a formatted UUID string" fun s => (RunId.read s).mapError RunIdError.message

def instantDecoder : Decoder Instant :=
  textDecoder "an RFC 3339 formatted date and time string"
    fun s => (Instant.read s).mapError InstantError.message

/-- The members of all kinds of events. -/
structure Members where
  runId : RunId
  pipeline : String
  success : Bool
  endedEarly : Bool
  node : String
  component : String
  error : String
  durationMs : Nat
  timestamp : Instant

def blank : Members := ⟨⟨""⟩, "", false, false, "", "", "", 0, ⟨0, 0⟩⟩

def runIdField : Decoder.Field Members :=
  Decoder.requiredField ["run_id"] runIdDecoder fun v m => { m with runId := v }

def timestampField : Decoder.Field Members :=
  Decoder.requiredField ["timestamp"] instantDecoder fun v m => { m with timestamp := v }

def nodeField : Decoder.Field Members :=
  Decoder.requiredField ["node_id"] Decoder.string fun v m => { m with node := v }

def durationField : Decoder.Field Members :=
  Decoder.requiredField ["duration_ms"] (Decoder.natural "u64")
    fun v m => { m with durationMs := v }

/-- A kind of event: its name, its members and what happened. -/
structure Kind where
  name : String
  fields : List (Decoder.Field Members)
  happening : Members → Happening

def kinds : List Kind := [
  ⟨"RunStarted", [runIdField,
      Decoder.requiredField ["pipeline_id"] Decoder.string fun v m => { m with pipeline := v },
      timestampField],
    fun m => .runStarted m.pipeline⟩,
  ⟨"RunCompleted", [runIdField,
      Decoder.requiredField ["success"] Decoder.bool fun v m => { m with success := v },
      Decoder.requiredField ["ended_early"] Decoder.bool fun v m => { m with endedEarly := v },
      durationField, timestampField],
    fun m => .runCompleted m.success m.endedEarly⟩,
  ⟨"NodeStarted", [runIdField, nodeField,
      Decoder.requiredField ["component"] Decoder.string fun v m => { m with component := v },
      timestampField],
    fun m => .nodeStarted m.node m.component⟩,
  ⟨"NodeCompleted", [runIdField, nodeField, durationField, timestampField],
    fun m => .nodeCompleted m.node⟩,
  ⟨"NodeSkipped", [runIdField, nodeField, timestampField], fun m => .nodeSkipped m.node⟩,
  ⟨"NodeFailed", [runIdField, nodeField,
      Decoder.requiredField ["error"] Decoder.string fun v m => { m with error := v },
      timestampField],
    fun m => .nodeFailed m.node m.error⟩]

def kindOf : Json → Except Cause Kind
  | .string name =>
    match kinds.find? fun k => k.name == name with
    | some k => .ok k
    | none => .error (.unknownVariant name (kinds.map Kind.name))
  | j => .error (.wrongType (found j) "variant identifier")

def ofMembers (k : Kind) (m : Members) : Event :=
  ⟨m.runId, k.happening m, m.durationMs, m.timestamp⟩

def ofJson : Json → Except Cause Event
  | .object members =>
    match Entries.get? members "type" with
    | none => .error (.missingField "type")
    | some tag => do
      let k ← kindOf tag
      let rest := members.filter fun m => m.1 != "type"
      .ok (ofMembers k (← Decoder.recordOfMembers k.fields rest [] blank))
  | .array [] => .error (.missingField "type")
  | .array (tag :: rest) => do
    let k ← kindOf tag
    let n := k.fields.length
    let m ← Decoder.recordOfItems ("struct variant PipelineEvent::" ++ k.name)
      (toString n ++ " elements in sequence") n k.fields 0 rest blank
    .ok (ofMembers k m)
  | j => .error (.wrongType (found j) "internally tagged enum PipelineEvent")

def happeningMembers : Happening → List (String × Json)
  | .runStarted pipeline => [("type", .string "RunStarted"), ("pipeline_id", .string pipeline)]
  | .runCompleted success endedEarly =>
    [("type", .string "RunCompleted"), ("success", .bool success),
      ("ended_early", .bool endedEarly)]
  | .nodeStarted node component =>
    [("type", .string "NodeStarted"), ("node_id", .string node), ("component", .string component)]
  | .nodeCompleted node => [("type", .string "NodeCompleted"), ("node_id", .string node)]
  | .nodeSkipped node => [("type", .string "NodeSkipped"), ("node_id", .string node)]
  | .nodeFailed node error =>
    [("type", .string "NodeFailed"), ("node_id", .string node), ("error", .string error)]

def hasDuration : Happening → Bool
  | .runCompleted _ _ => true
  | .nodeCompleted _ => true
  | _ => false

def toJson (e : Event) : Json :=
  Json.ofMembers <|
    happeningMembers e.happening ++
    [("run_id", .string e.runId.text), ("timestamp", .string e.timestamp.text)] ++
    (if hasDuration e.happening then [("duration_ms", .integer e.durationMs)] else [])

end Event

end Conduit
