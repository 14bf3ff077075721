import Conduit.Component.Library.Control
import Conduit.Json.Printer

/-!
# Components that report and wait

They log context values, send one to whoever listens to the run, or wait.
-/

namespace Conduit.Library

open Json

/-! ## Logging -/

structure LogParameters where
  message : Option String
  /-- The keys to log, or none for all. -/
  keys : List String

def logDecoder : Decoder LogParameters :=
  Decoder.record "DebugParams" [
    Decoder.field ["message"] (Decoder.option Decoder.string) fun v p => { p with message := v },
    Decoder.field ["keys"] (Decoder.list Decoder.string) fun v p => { p with keys := v }]
    ⟨none, []⟩

def sorted (keys : List String) : List String := keys.mergeSort fun a b => decide (a ≤ b)

def logLine (values : Values) (key : String) : Note :=
  match Entries.get? values key with
  | some v => .line ("  " ++ key ++ ": " ++ v.toJson.compact)
  | none => .line ("  " ++ key ++ ": <unset>")

def log (p : LogParameters) : Activity :=
  .note (.line ("DEBUG: " ++ p.message.getD "(no message)")) <|
    .look fun values =>
      let keys := if p.keys.isEmpty then Entries.keys values else p.keys
      Activity.noteAll ((sorted keys).map (logLine values)) .done

def logFactory : Factory where
  kind := "debug.log"
  create parameters := do .ok (.plain "debug.log" (log (← readParameters logDecoder parameters)))
  defaults := .object []
  description := "Logs context values for debugging"
  category := "debug"
  tallied := false

/-! ## Sending -/

structure EmitParameters where
  key : String
  /-- The key must have a value. -/
  required : Bool

def emitDecoder : Decoder EmitParameters :=
  Decoder.record "EmitParams" [
    Decoder.field ["key"] Decoder.string fun v p => { p with key := v },
    Decoder.field ["required"] Decoder.bool fun v p => { p with required := v }]
    ⟨"output", false⟩

def emitKey (p : EmitParameters) : Activity :=
  .look fun values =>
    match Entries.get? values p.key with
    | some v => .emit v .done
    | none => if p.required then .fail (.missingInput p.key) else .done

def emitFactory : Factory where
  kind := "stream.emit"
  create parameters := do
    .ok (.plain "stream.emit" (emitKey (← readParameters emitDecoder parameters)))
  defaults := .object []
  description := "Send a context value to the run's stream sink"
  category := "stream"
  tallied := false

/-! ## Waiting -/

def delayDecoder : Decoder Nat :=
  Decoder.record "DelayParams"
    [Decoder.field ["delay_ms"] (Decoder.natural "u64") fun v _ => v] 1000

def delay (ms : Nat) : Activity := .pause ms .done (.fail .cancelled)

def delayFactory : Factory where
  kind := "time.delay"
  create parameters := do
    .ok (.plain "time.delay" (delay (← readParameters delayDecoder parameters)))
  defaults := .object [("delay_ms", .integer 1000)]
  description := "Delay execution for specified milliseconds"
  category := "time"
  tallied := false

end Conduit.Library
