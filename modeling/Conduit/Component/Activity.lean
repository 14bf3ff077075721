import Conduit.Context.Values
import Conduit.Error
import Conduit.Http.Message

/-!
# Activities

What an execution of a component does, as a tree: it reads and writes context values, trips the
run's cancellation, sends values to the listener of the run and leaves notes, and it may pause. An
execution always ends, because the tree is well-founded. Between two pauses nothing comes in
between.
-/

namespace Conduit

/-- The longest wait in milliseconds, which is thirty years. -/
def longestWait : Nat := 946080000000

/-- How long is waited when a wait of so many milliseconds is asked for. -/
def waitOf (ms : Nat) : Nat := min ms longestWait

/-- How an execution ended. -/
inductive Result where
  | succeeded
  | failed (error : ComponentError)
  | panicked

/-- What an execution leaves behind apart from context values. -/
inductive Note where
  /-- A step began or ended its work. -/
  | entered
  | left
  /-- A step logged its label. -/
  | label (text : String)
  /-- A line for the log of the whole program. -/
  | line (text : String)

inductive Activity where
  | finish (result : Result)
  | look (next : Values → Activity)
  | write (key : String) (value : Value) (next : Activity)
  | erase (key : String) (next : Activity)
  | cancel (next : Activity)
  | emit (value : Value) (next : Activity)
  | note (n : Note) (next : Activity)
  /-- Waits for some time, and goes another way as soon as the run is cancelled. -/
  | pause (ms : Nat) (next stopped : Activity)
  /-- Waits for a reply, and goes another way as soon as the run is cancelled. -/
  | send (request : Http.Request) (next : Http.Reply → Activity) (stopped : Activity)

instance : Inhabited Activity := ⟨.finish .succeeded⟩

namespace Activity

def done : Activity := .finish .succeeded

def fail (e : ComponentError) : Activity := .finish (.failed e)

def writeAll : List (String × Value) → Activity → Activity
  | [], next => next
  | (key, value) :: pairs, next => .write key value (writeAll pairs next)

def noteAll : List Note → Activity → Activity
  | [], next => next
  | n :: notes, next => .note n (noteAll notes next)

end Activity

/-- What an execution works on: the context values, whether the run is cancelled, and in the order
they came the values sent and the notes left. -/
structure Scene where
  values : Values
  cancelled : Bool
  emitted : List Value
  notes : List Note

/-- An execution that ended or waits. -/
inductive Pending where
  | finished (result : Result)
  | asleep (ms : Nat) (next stopped : Activity)

/-- Goes on until the execution ends or has to wait. A pause of no time is none, and of a cancelled
run neither a pause nor a reply is waited for. -/
def Activity.burst (network : Http.Network) : Activity → Scene → Scene × Pending
  | .finish result, s => (s, .finished result)
  | .look next, s => (next s.values).burst network s
  | .write key value next, s => next.burst network { s with values := s.values.set key value }
  | .erase key next, s => next.burst network { s with values := Entries.erase s.values key }
  | .cancel next, s => next.burst network { s with cancelled := true }
  | .emit value next, s => next.burst network { s with emitted := s.emitted ++ [value] }
  | .note n next, s => next.burst network { s with notes := s.notes ++ [n] }
  | .pause ms next stopped, s =>
    if s.cancelled then stopped.burst network s
    else if ms = 0 then next.burst network s
    else (s, .asleep (waitOf ms) next stopped)
  | .send request next stopped, s =>
    if s.cancelled then stopped.burst network s
    else
      match Http.exchange network request with
      -- A reply that comes at once is not waited for.
      | (0, reply) => (next reply).burst network s
      | (ms + 1, reply) => (s, .asleep (ms + 1) (next reply) stopped)

/-- An execution from its start to its end: its scene, how it ended and how many milliseconds after
its start, if the run is cancelled after some time or not at all. -/
def Activity.play (network : Http.Network) (cancelAt : Option Nat) :
    Activity → Scene → Nat → Scene × Result × Nat
  | .finish result, s, now => (s, result, now)
  | .look next, s, now => (next s.values).play network cancelAt s now
  | .write key value next, s, now =>
    next.play network cancelAt { s with values := s.values.set key value } now
  | .erase key next, s, now =>
    next.play network cancelAt { s with values := Entries.erase s.values key } now
  | .cancel next, s, now => next.play network cancelAt { s with cancelled := true } now
  | .emit value next, s, now =>
    next.play network cancelAt { s with emitted := s.emitted ++ [value] } now
  | .note n next, s, now => next.play network cancelAt { s with notes := s.notes ++ [n] } now
  | .pause ms next stopped, s, now =>
    match stopTime? cancelAt s now (waitOf ms) with
    | some time => stopped.play network cancelAt { s with cancelled := true } time
    | none => next.play network cancelAt s (now + waitOf ms)
  | .send request next stopped, s, now =>
    let (ms, reply) := Http.exchange network request
    match stopTime? cancelAt s now ms with
    | some time => stopped.play network cancelAt { s with cancelled := true } time
    | none => (next reply).play network cancelAt s (now + ms)
where
  /-- When a wait of some time ends early, if it does. -/
  stopTime? (cancelAt : Option Nat) (s : Scene) (now ms : Nat) : Option Nat :=
    if s.cancelled then some now
    else
      match cancelAt with
      | some time => if time < now + ms then some (max now time) else none
      | none => none

end Conduit
