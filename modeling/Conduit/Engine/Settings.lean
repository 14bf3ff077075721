import Conduit.Event.Bus
import Conduit.Json.Decoder
import Conduit.Run.State

/-!
# Settings

The limits that an engine works with.
-/

namespace Conduit

open Json

structure Settings where
  /-- How many nodes of a run may execute at a time. -/
  parallel : Nat
  /-- How many events are kept for a reader that falls behind. -/
  eventCapacity : Nat
  /-- How many executions of nodes a run may have. -/
  steps : Nat
  /-- After how long a run is cancelled. -/
  timeoutMs : Option Nat
  /-- How deep pipelines may nest. -/
  depth : Nat

namespace Settings

def usual : Settings := ⟨10, Bus.defaultCapacity, 500, none, 8⟩

def fields : List (Decoder.Field Settings) := [
  Decoder.field ["max_parallel_nodes"] (Decoder.natural "usize")
    fun v s => { s with parallel := v },
  Decoder.field ["event_buffer_size"] (Decoder.natural "usize")
    fun v s => { s with eventCapacity := v },
  Decoder.field ["max_steps"] (Decoder.natural "usize") fun v s => { s with steps := v },
  Decoder.field ["run_timeout_ms"] (Decoder.option (Decoder.natural "u64"))
    fun v s => { s with timeoutMs := v },
  Decoder.field ["max_nesting_depth"] (Decoder.natural "usize") fun v s => { s with depth := v }]

/-- Reads settings, of which those that are not given stay as they are. -/
def decoderFrom (blank : Settings) : Decoder Settings := Decoder.record "RuntimeConfig" fields blank

def decoder : Decoder Settings := decoderFrom usual

def canBeMet (s : Settings) : Bool := decide (s.eventCapacity ≤ Bus.mostKept)

def limits (s : Settings) : Limits := ⟨s.parallel, s.steps⟩

end Settings

end Conduit
