import Conduit.Run.Execution

/-!
# Steps of the world

How a run begins, is conducted and is concluded, and how each task goes on when it is picked. Any
task that is ready may be picked, so the order in which tasks go on is left open here.
-/

namespace Conduit.World

/-! ## Runs -/

def begin (w : World) (graph : Graph Component) (context supervisor : Nat) (limits : Limits) :
    World :=
  let r := w.nextRun
  let w := { w with
    runs := w.runs.set r (Run.new graph context supervisor limits.atLeastOne)
    nextRun := r + 1 }
  (w.emit r (.runStarted graph.pipeline)).spawnIn r (.dispatched r graph.root)

/-- Whether a run is over, and if so whether by cancellation. -/
def isOver (w : World) (r : Nat) : Option Bool :=
  if (w.runs.get r).unfinished = 0 then some false
  else if (w.contextOf r).cancelled then some true
  else none

/-- A run is concluded. The first failure wins over a cancellation. -/
def conclude (w : World) (r : Nat) (cancelled : Bool) : World × RunResult :=
  let run := w.runs.get r
  let cancelled := cancelled || (w.contextOf r).cancelled
  -- The failure is taken out of the run when it is told.
  let w := w.changeRun r fun run => { run with failure := none }
  let w := w.emit r (.runCompleted (run.failure.isNone && !cancelled) run.ended)
  match run.failure with
  | some e => (w, .error e)
  | none =>
    if cancelled then
      let w := w.changeRun r fun run => { run with halted := true }
      (w.reportError run.context .cancelled, .error .cancelled)
    else (w, .ok run.outcome)

def nestedResult (pipeline : String) : RunResult → Result
  | .ok _ => .succeeded
  | .error .cancelled => .failed .cancelled
  | .error e => .failed (.executionFailed ("sub-pipeline '" ++ pipeline ++ "': " ++ e.message))

/-- A node goes on when the run of its pipeline is over, and takes the pipeline's `end` away. -/
def pollNesting (w : World) (t r : Nat) (node : String) (inner : Nat) : World :=
  let c := (w.runs.get inner).context
  match w.isOver inner with
  | none => (w.setTask t (.nesting r node inner)).listen c t
  | some cancelled =>
    let (w, result) := w.conclude inner cancelled
    let w := w.leave c t
    let w := w.setValues c fun v => Entries.erase v Values.endKey
    w.complete t r node (nestedResult (w.runs.get inner).graph.pipeline result)

def finish (w : World) (t : Nat) (ending : Ending) : World :=
  { w with
    tasks := w.tasks.clear t
    endings := w.endings.set t (some (ending, w.now)) }

/-- A conducting task ends when its run is over. At the deadline it cancels the run. -/
def pollConducting (w : World) (t r : Nat) (deadline : Option Nat) : World :=
  let c := (w.runs.get r).context
  match w.isOver r with
  | some cancelled =>
    let (w, result) := w.conclude r cancelled
    (w.leave c t).finish t (.over result)
  | none =>
    -- The deadline counts only as long as the run is not over.
    if deadline.any fun d => decide (d ≤ w.now) then
      let (w, result) := (w.cancel c).conclude r true
      (w.leave c t).finish t (.over result)
    else (w.setTask t (.conducting r deadline)).listen c t

/-- A run is announced, and its conducting breaks off before anything else happens in it. -/
def breakOff (w : World) (t : Nat) (graph : Graph Component) : World :=
  let r := w.nextRun
  ({ w with nextRun := r + 1 }.emit r (.runStarted graph.pipeline)).finish t .brokenOff

def conduct (w : World) (t : Nat) (graph : Graph Component) (context : Nat) (limits : Limits)
    (timeout : Option Nat) : World :=
  if Limits.mostParallel < limits.parallel then w.breakOff t graph
  else
    let r := w.nextRun
    let deadline := timeout.map fun ms => w.now + waitOf ms
    let w := w.begin graph context t limits
    let w := match deadline with
      | some d => w.addTimer d t
      | none => w
    w.pollConducting t r deadline

/-- A task that holds a permit executes its node, unless the run has stopped meanwhile. -/
def start (w : World) (t r : Nat) (node : String) : World :=
  if w.shouldStop r then (w.release r).close t r
  else
    match (w.runs.get r).graph.node? node with
    | none => (w.release r).close t r
    | some n =>
      match n.slot with
      | .unusable _ => (w.release r).close t r
      | .ready component _ =>
        let w := w.changeRun r fun run => run.setStatus node .running
        let w := w.emit r (.nodeStarted node n.componentId)
        match component with
        | .basic _ activity => w.perform t r node activity
        | .pipeline graph =>
          let run := w.runs.get r
          let inner := w.nextRun
          (w.begin graph run.context t run.limits).pollNesting t r node inner

def acquire (w : World) (t r : Nat) (node : String) : World :=
  let run := w.runs.get r
  if 0 < run.free then
    (w.changeRun r fun run => { run with free := run.free - 1 }).start t r node
  else
    let w := w.changeRun r fun run => { run with waiting := run.waiting ++ [t] }
    (w.setTask t (.awaiting r node)).listen run.context t

/-- A task dispatches a node, if there is such a node, it can be used and the run has steps left. -/
def dispatch (w : World) (t r : Nat) (node : String) : World :=
  if w.shouldStop r then w.close t r
  else
    match (w.runs.get r).graph.node? node with
    | none => (w.fail r node (.graph (.nodeNotFound node))).close t r
    | some n =>
      match n.slot with
      | .unusable reason => (w.fail r node (.missingComponent node reason)).close t r
      | .ready _ _ =>
        -- The step counts even if it is one too many.
        let limit := (w.runs.get r).limits.steps
        let w := w.changeRun r fun run => { run with steps := run.steps + 1 }
        if limit < (w.runs.get r).steps then
          (w.fail r node (.stepLimitExceeded limit)).close t r
        else w.acquire t r node

/-- Whether an arrival over an edge is live. A dead one stays dead, and its condition is not asked.
-/
def isLive (w : World) (r : Nat) (edge : Edge) (live : Bool) :
    Except Condition.EvalError Bool :=
  match edge.condition, live with
  | _, false => .ok false
  | none, true => .ok true
  | some condition, true => condition.evaluate (w.contextOf r).values

/-- A task takes an edge to its target. The arrival that opens the gate dispatches the target. -/
def arrive (w : World) (t r : Nat) (source : String) (place : Nat) (live : Bool) : World :=
  if w.shouldStop r then w.close t r
  else
    match (w.runs.get r).edge? source place with
    | none => w.close t r
    | some edge =>
      let target := edge.target
      match w.isLive r edge live with
      | .error e => (w.fail r target (.conditionEval source target e.message)).close t r
      | .ok live =>
        let (run, arrival) := (w.runs.get r).arriveAt target live
        let w := w.changeRun r fun _ => run
        match arrival with
        | none => w.close t r
        | some .waiting => (w.changeRun r fun run => run.markBlocked target).close t r
        -- The task that brought the arrival goes on with the target.
        | some .fire => w.dispatch t r target
        | some .skip => (w.skip r target).close t r

/-- A task that waits for a permit goes on if it was handed one, and gives up if its context was
cancelled. -/
def pollAwaiting (w : World) (t r : Nat) (node : String) : World :=
  let run := w.runs.get r
  -- A permit that was handed over is taken even if the run was cancelled since.
  if run.granted.contains t then
    let w := w.changeRun r fun run => { run with granted := run.granted.erase t }
    (w.leave run.context t).start t r node
  else if (w.contextOf r).cancelled then
    let w := w.changeRun r fun run => { run with waiting := run.waiting.erase t }
    (w.leave run.context t).close t r
  else w

/-- A task in the middle of an execution goes on when its time has come or its run is cancelled. -/
def pollPausing (w : World) (t r : Nat) (node : String) (wakeAt : Nat) (next stopped : Activity) :
    World :=
  let c := (w.runs.get r).context
  -- An execution whose time has come goes on even if the run was cancelled since.
  if wakeAt ≤ w.now then (w.leave c t).perform t r node next
  else if (w.contextOf r).cancelled then (w.leave c t).perform t r node stopped
  else w

/-- A task goes on until it waits or is over. A launching task is left to whoever launched it. -/
def poll (w : World) (t : Nat) : World :=
  match w.tasks.get t with
  | .over => w
  | .launching => w
  | .conducting r deadline => w.pollConducting t r deadline
  | .arriving r source edge live => w.arrive t r source edge live
  | .dispatched r node => w.dispatch t r node
  | .awaiting r node => w.pollAwaiting t r node
  | .pausing r node wakeAt next stopped => w.pollPausing t r node wakeAt next stopped
  | .nesting r node inner => w.pollNesting t r node inner

/-! ## Going on -/

def step (w : World) (t : Nat) : World := { w with ready := w.ready.erase t }.poll t

def pass (w : World) (ms : Nat) : World :=
  let now := w.now + ms
  let due := (w.timers.filter fun e => decide (e.1 ≤ now)).map Prod.snd
  { w with now := now, timers := w.timers.filter fun e => !decide (e.1 ≤ now) }.wakeAll due

/-- One thing happens: any ready task goes on, or time passes, or somebody cancels a context. -/
inductive Happens : World → World → Prop where
  | step {w : World} {t : Nat} (h : t ∈ w.ready) : Happens w (w.step t)
  | pass {w : World} (ms : Nat) : Happens w (w.pass ms)
  | cancel {w : World} (c : Nat) : Happens w (w.cancel c)

end Conduit.World
