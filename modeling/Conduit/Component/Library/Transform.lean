import Conduit.Component.Library.Control
import Conduit.Json.Printer

/-!
# Components that transform values

A string of JSON text becomes the value that it writes, and a value becomes such a string.
-/

namespace Conduit.Library

open Json

/-- The key that is read and the key that is written. -/
structure KeyMapping where
  input : String
  output : String

def keyMappingDecoder : Decoder KeyMapping :=
  Decoder.record "KeyMapping" [
    Decoder.requiredField ["input"] Decoder.string fun v m => { m with input := v },
    Decoder.requiredField ["output"] Decoder.string fun v m => { m with output := v }]
    ⟨"", ""⟩

/-- The keys of the parameters, which are merged onto default keys. -/
def keyMapping (parameters : Json) (input output : String) : Except ComponentError KeyMapping :=
  let defaults := Json.ofMembers [("input", .string input), ("output", .string output)]
  readParameters keyMappingDecoder (defaults.merge parameters)

def jsonParse (keys : KeyMapping) : Activity :=
  .look fun values =>
    match Entries.get? values keys.input with
    | none => .fail (.missingInput keys.input)
    | some (.string text) =>
      match Json.parse text with
      | .ok j => .write keys.output (Value.ofJson j) .done
      | .error fault => .fail (.executionFailed ("JSON parse error: " ++ fault.message))
    | some v => .fail (.invalidInputType keys.input "string" v.kind)

def jsonParseFactory : Factory where
  kind := "transform.json_parse"
  create parameters := do
    .ok (.plain "transform.json_parse" (jsonParse (← keyMapping parameters "json" "parsed")))
  defaults := .object []
  description := "Parse a JSON string from the context"
  category := "transform"
  tallied := false

def jsonStringify (keys : KeyMapping) : Activity :=
  .look fun values =>
    match Entries.get? values keys.input with
    | none => .fail (.missingInput keys.input)
    | some v => .write keys.output (.string (Json.pretty v.toJson)) .done

def jsonStringifyFactory : Factory where
  kind := "transform.json_stringify"
  create parameters := do
    .ok (.plain "transform.json_stringify" (jsonStringify (← keyMapping parameters "value" "json")))
  defaults := .object []
  description := "Convert a context value to a JSON string"
  category := "transform"
  tallied := false

end Conduit.Library
