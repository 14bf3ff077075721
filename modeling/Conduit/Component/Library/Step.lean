import Conduit.Component.Factory
import Conduit.Json.Decoder

/-!
# Steps

A step is a component for trying out pipelines: it waits, logs its label, sets values and then
succeeds, fails, panics or cancels the run, as its parameters say.
-/

namespace Conduit.Library

open Json

structure StepParameters where
  label : Option String
  delayMs : Nat
  values : Entries Json
  failure : Option String
  panics : Bool
  failsToPrepare : Bool
  cancels : Bool
  needsPreparation : Bool

def stepDecoder : Decoder StepParameters :=
  Decoder.record "StepParams" [
    Decoder.field ["label"] (Decoder.option Decoder.string) fun v p => { p with label := v },
    Decoder.field ["delay_ms"] (Decoder.natural "u64") fun v p => { p with delayMs := v },
    Decoder.field ["set"] (Decoder.entries Decoder.json) fun v p => { p with values := v },
    Decoder.field ["fail"] (Decoder.option Decoder.string) fun v p => { p with failure := v },
    Decoder.field ["panic"] Decoder.bool fun v p => { p with panics := v },
    Decoder.field ["fail_init"] Decoder.bool fun v p => { p with failsToPrepare := v },
    Decoder.field ["cancel"] Decoder.bool fun v p => { p with cancels := v },
    Decoder.field ["require_init"] Decoder.bool fun v p => { p with needsPreparation := v }]
    ⟨none, 0, [], none, false, false, false, false⟩

def stepEnd (p : StepParameters) : Activity :=
  if p.panics then .finish .panicked
  else match p.failure with
    | some text => .fail (.executionFailed text)
    | none => .done

def stepWork (p : StepParameters) : Activity :=
  .note (.label (p.label.getD "step")) <|
    Activity.writeAll (p.values.mapValues Value.ofJson) <|
      .note .left <| if p.cancels then .cancel (stepEnd p) else stepEnd p

def step (p : StepParameters) (prepared : Bool) : Activity :=
  if p.needsPreparation && !prepared then .fail (.executionFailed "never initialized")
  else
    .note .entered <|
      if p.delayMs = 0 then stepWork p
      else .pause p.delayMs (stepWork p) (.note .left (.fail .cancelled))

def createStep (parameters : Json) : Except ComponentError Draft := do
  let p ← (stepDecoder.ofJson parameters).mapError fun c => ComponentError.configuration c.message
  .ok ⟨"step", step p false, fun _ =>
    if p.failsToPrepare then .error (.initializationFailed "refused") else .ok (step p true)⟩

def stepFactory : Factory where
  kind := "step"
  create := createStep
  defaults := .object []
  description := ""
  category := "general"
  tallied := true

/-- A factory of steps whose default parameters refuse to be prepared. -/
def refusingFactory : Factory :=
  { stepFactory with kind := "refusing", defaults := .object [("fail_init", .bool true)] }

end Conduit.Library
