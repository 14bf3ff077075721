import Conduit.Engine.Basic

/-!
# The clock

The engine's own order of events: the task that was woken first goes on first, and time stands still
as long as any task is ready.
-/

namespace Conduit

def World.nextTimer? (w : World) : Option Nat := (w.timers.map Prod.fst).min?

namespace Engine

/-- The next thing that happens, if anything does before the horizon. -/
def advance? (e : Engine) (horizon : Option Nat) : Option Engine :=
  match e.world.ready with
  | t :: _ => some (e.step t)
  | [] =>
    match e.world.nextTimer? with
    | none => none
    | some time =>
      if horizon.any fun h => decide (h < time) then none
      else some { e with world := e.world.pass (time - e.world.now) }

/-- Things happen until it is time to stop or nothing more happens before the horizon, at most as
many as there is fuel. -/
def driveUntil (stop : Engine → Bool) (horizon : Option Nat) : Nat → Engine → Engine
  | 0, e => e
  | fuel + 1, e =>
    if stop e then e
    else
      match e.advance? horizon with
      | none => e
      | some next => driveUntil stop horizon fuel next

def await (e : Engine) (t : Nat) : Engine :=
  driveUntil (fun e => (e.ending? t).isSome) none patience e

/-- Things happen for some time. In no time nothing happens. -/
def sleep (e : Engine) (ms : Nat) : Engine :=
  if ms = 0 then e
  else
    let wake := e.world.now + waitOf ms
    let e := driveUntil (fun _ => false) (some wake) patience e
    { e with world := e.world.pass (wake - e.world.now) }

/-! ## Orders and calls that are waited for -/

/-- An order is carried out, and other tasks go on while it has to wait. -/
def fulfil (e : Engine) (target : Target) (purpose : Purpose) : Engine × Option Progress :=
  let n := e.nextOrder
  let t := e.world.nextTask
  let e := driveUntil (fun e => e.rests n) none patience ((e.place target purpose).step t)
  (e, e.progress? n)

def definition (e : Engine) (id : String) : Engine × Option (Except PipelineError Definition) :=
  let (e, reached) := e.fulfil (.stored id) .definition
  (e, reached.bind Progress.definition?)

def compile (e : Engine) (d : Definition) :
    Engine × Option (Except PipelineError (Graph Component)) :=
  let (e, reached) := e.fulfil (.definition d) .graph
  (e, reached.bind Progress.graph?)

def queue (e : Engine) : Engine :=
  let t := e.world.nextTask
  let e := driveUntil (fun e => !e.world.ready.contains t) none patience
    { e with world := e.world.spawn .launching }
  { e with world := { e.world with tasks := e.world.tasks.clear t } }

/-- Reloads from a file. Other tasks go on while it is read. -/
def reloadFile (e : Engine) (start : List String) (path : String) :
    Engine × Option (Except PipelineError Nat) :=
  let source := e.readSpecs start path
  e.queue.call (.reload source)

/-! ## Contexts -/

def addSink (e : Engine) : Engine × Nat :=
  let n := e.world.nextSink
  ({ e with world := { e.world with nextSink := n + 1 } }, n)

def addContext (e : Engine) (values : Values) (sink : Option Nat) : Engine × Nat :=
  let n := e.world.nextContext
  ({ e with world := { e.world with
    contexts := e.world.contexts.set n ⟨values, false, [], sink⟩
    nextContext := n + 1 } }, n)

def cancel (e : Engine) (c : Nat) : Engine := { e with world := e.world.cancel c }

def context (e : Engine) (c : Nat) : Context := e.world.contexts.get c

def changeContext (e : Engine) (c : Nat) (f : Context → Context) : Engine :=
  { e with world := e.world.changeContext c f }

def sent (e : Engine) (sink : Nat) : List Value := e.world.sinks.get sink

def eventsSince (e : Engine) (count : Nat) : List Occurrence :=
  (e.world.events.take (e.world.events.length - count)).reverse

def notesSince (e : Engine) (count : Nat) : List Note :=
  (e.world.notes.take (e.world.notes.length - count)).reverse

end Engine

end Conduit
