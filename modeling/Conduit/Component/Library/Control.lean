import Conduit.Component.Factory
import Conduit.Json.Decoder

/-!
# Components that steer a run

They set context values, end a run, choose the node to go on with, or fail.
-/

namespace Conduit.Library

open Json Number

/-- The parameters of a component. Null counts as no parameters. -/
def readParameters {α : Type} (d : Decoder α) (parameters : Json) : Except ComponentError α :=
  let given := match parameters with
    | .null => .object []
    | j => j
  (d.ofJson given).mapError fun cause => .configuration ("Invalid parameters: " ++ cause.message)

/-! ## Setting values -/

def setValuesDecoder : Decoder (Entries Json) :=
  Decoder.record "SetValuesParams"
    [Decoder.field ["values"] (Decoder.entries Decoder.json) fun v _ => v] []

def setValues (values : Entries Json) : Activity :=
  Activity.writeAll (values.mapValues Value.ofJson) .done

def setValuesFactory : Factory where
  kind := "context.set"
  create parameters := do
    .ok (.plain "context.set" (setValues (← readParameters setValuesDecoder parameters)))
  defaults := .object []
  description := "Set fixed values in the run context"
  category := "control"
  tallied := false

/-! ## Ending -/

def requestEnd : Activity := .write Values.endKey (.bool true) .done

def endFactory : Factory where
  kind := "control.end"
  create _ := .ok (.plain "control.end" requestEnd)
  defaults := .object []
  description := "End the run early"
  category := "control"
  tallied := false

/-! ## Routing -/

structure RouteParameters where
  key : Option String
  routes : Entries String
  fallback : Option String

def routeDecoder : Decoder RouteParameters :=
  Decoder.record "RouteParams" [
    Decoder.field ["key"] (Decoder.option Decoder.string) fun v p => { p with key := v },
    Decoder.field ["routes"] (Decoder.entries Decoder.string) fun v p => { p with routes := v },
    Decoder.field ["default"] (Decoder.option Decoder.string) fun v p => { p with fallback := v }]
    ⟨none, [], none⟩

def leastInteger : Int := -Int.ofNat (Nat.pow 2 63)

def greatestInteger : Int := Int.ofNat (Nat.pow 2 63) - 1

/-- The route that a value selects. A whole number is written as an integer of 64 bits. -/
def routeKey : Value → Option String
  | .string s => some s
  | .bool b => some (toString b)
  | .number x =>
    if x.isWhole then some (toString (x.truncated leastInteger greatestInteger))
    else some (Layout.positional.render x)
  | _ => none

def routeTarget (p : RouteParameters) (value : Option Value) : Option String :=
  match (value.bind routeKey).bind (Entries.get? p.routes) with
  | some node => some node
  | none => p.fallback

def route (p : RouteParameters) : Activity :=
  .look fun values =>
    match routeTarget p (Entries.get? values (p.key.getD "route")) with
    | some node => .write Values.overrideKey (.string node) .done
    | none => .done

def routeFactory : Factory where
  kind := "control.route"
  create parameters := do
    .ok (.plain "control.route" (route (← readParameters routeDecoder parameters)))
  defaults := .object []
  description := "Jump to a node selected by a context value"
  category := "control"
  tallied := false

/-! ## Failing -/

def failDecoder : Decoder String :=
  Decoder.record "FailParams" [Decoder.field ["message"] Decoder.string fun v _ => v]
    "Pipeline failed"

def failFactory : Factory where
  kind := "control.fail"
  create parameters := do
    .ok (.plain "control.fail" (.fail (.executionFailed (← readParameters failDecoder parameters))))
  defaults := .object []
  description := "Fail the run with an error message"
  category := "control"
  tallied := false

end Conduit.Library
