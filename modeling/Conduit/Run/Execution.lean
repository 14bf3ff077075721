import Conduit.Json.Printer
import Conduit.Run.World

/-!
# Executions

What becomes of a node: it fails, is skipped, or executes until it is complete, and then the run
goes on down its edges, at the node that the execution asked for, or not at all.
-/

namespace Conduit.World

/-! ## Nodes -/

/-- The context's error, unless it has one already. -/
def reportError (w : World) (c : Nat) (e : PipelineError) : World :=
  w.setValues c fun values => values.setIfAbsent Values.errorKey (.string e.message)

/-- A node fails. The first failure of a run is kept, and any halts it. -/
def fail (w : World) (r : Nat) (node : String) (e : PipelineError) : World :=
  let w := w.changeRun r fun run => run.setStatus node .failed
  let w := w.emit r (.nodeFailed node e.message)
  let w :=
    if (w.runs.get r).failure.isSome then w
    else (w.reportError (w.runs.get r).context e).changeRun r fun run =>
      { run with failure := some e }
  w.changeRun r fun run => { run with halted := true }

/-- A node is closed whose outcome a cancellation has made void. -/
def abandon (w : World) (r : Nat) (node : String) : World :=
  (w.changeRun r fun run => run.setStatus node .failed).emit r
    (.nodeFailed node PipelineError.cancelled.message)

/-- A node is skipped, and dead arrivals go down its edges. -/
def skip (w : World) (r : Nat) (node : String) : World :=
  let w := w.changeRun r fun run => run.setStatus node .skipped
  (w.emit r (.nodeSkipped node)).spawnArrivals r node false

/-- What a node's execution came to. An error that stands in the context counts as the node's own if
the run has not failed yet. -/
def verdict (w : World) (r : Nat) : Result → Except ComponentError Unit
  | .failed e => .error e
  | .panicked => .error (.executionFailed "component panicked")
  | .succeeded =>
    match Entries.get? (w.contextOf r).values Values.errorKey with
    | none => .ok ()
    | some reported =>
      -- The error may have been left there by the failure of the run itself.
      if (w.runs.get r).failure.isSome then .ok ()
      else
        match reported with
        | .string s => .error (.executionFailed s)
        | v => .error (.executionFailed v.toJson.compact)

/-- A node is done: the run ends, goes on at the node that an execution asked for, or goes down the
node's edges. -/
def goOn (w : World) (r : Nat) (node : String) : World :=
  let values := (w.contextOf r).values
  if values.endRequested then
    w.changeRun r fun run => { run with ended := true, halted := true }
  -- A run that stops leaves a request for a successor where it is.
  else if w.shouldStop r then w
  else
    let next := values.override?
    let w := w.setValues (w.runs.get r).context fun v => Entries.erase v Values.overrideKey
    match next with
    | some target => w.spawnIn r (.dispatched r target)
    | none => w.spawnArrivals r node true

def complete (w : World) (t r : Nat) (node : String) (result : Result) : World :=
  -- The permit is given back before anything else, so that a waiting node may go on.
  let w := w.release r
  let w :=
    if (w.contextOf r).cancelled then w.abandon r node
    else
      match w.verdict r result with
      | .error e => w.fail r node (.componentExecution node e)
      | .ok () =>
        let w := w.changeRun r fun run =>
          { run.setStatus node .done with executed := run.executed ++ [node] }
        (w.emit r (.nodeCompleted node)).goOn r node
  w.close t r

/-! ## Executions -/

def apply (w : World) (c : Nat) (scene : Scene) : World :=
  let w := w.setValues c fun _ => scene.values
  let w := { w with notes := scene.notes.reverse ++ w.notes }
  let w := match (w.contexts.get c).sink with
    | some s => { w with sinks := w.sinks.change s fun sent => sent ++ scene.emitted }
    | none => w
  if scene.cancelled then w.cancel c else w

def perform (w : World) (t r : Nat) (node : String) (activity : Activity) : World :=
  let c := (w.runs.get r).context
  let x := w.contexts.get c
  let (scene, pending) := activity.burst w.network ⟨x.values, x.cancelled, [], []⟩
  let w := w.apply c scene
  match pending with
  | .finished result => w.complete t r node result
  | .asleep ms next stopped =>
    ((w.setTask t (.pausing r node (w.now + ms) next stopped)).listen c t).addTimer (w.now + ms) t

end Conduit.World
