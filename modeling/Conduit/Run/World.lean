import Conduit.Event.Basic
import Conduit.Run.State
import Conduit.Table

/-!
# The world

The world holds contexts, runs and the tasks that carry the runs on. A task goes on in one go until
it has to wait or is over. What a task does can wake others, which are then ready to go on; a task
that waits is woken when what it waits for has happened.
-/

namespace Conduit

/-- A store of values that runs share, and who waits for its cancellation. -/
structure Context where
  values : Values
  cancelled : Bool
  /-- The tasks that a cancellation wakes, the one that waits longest first. -/
  listeners : List Nat
  /-- The sink that values are sent to. -/
  sink : Option Nat

instance : Inhabited Context := ⟨⟨[], false, [], none⟩⟩

/-- What a task is about to do, or waits for. -/
inductive Task where
  | over
  /-- Compiles a pipeline and conducts its run. -/
  | launching
  /-- Waits for a run to be over, at most until its deadline. -/
  | conducting (run : Nat) (deadline : Option Nat)
  /-- Takes an edge of a node, live or dead. -/
  | arriving (run : Nat) (source : String) (edge : Nat) (live : Bool)
  /-- Dispatches a node. -/
  | dispatched (run : Nat) (node : String)
  /-- Waits for a permit to execute a node. -/
  | awaiting (run : Nat) (node : String)
  /-- Waits in the middle of an execution. -/
  | pausing (run : Nat) (node : String) (wakeAt : Nat) (next stopped : Activity)
  /-- Waits for the run of a pipeline that a node executes. -/
  | nesting (run : Nat) (node : String) (inner : Nat)

instance : Inhabited Task := ⟨.over⟩

structure World where
  network : Http.Network
  /-- The time in milliseconds. -/
  now : Nat
  contexts : Table Context
  sinks : Table (List Value)
  runs : Table Run
  tasks : Table Task
  /-- How the runs that tasks conducted ended, and when. -/
  endings : Table (Option (Ending × Nat))
  nextContext : Nat
  nextSink : Nat
  nextRun : Nat
  nextTask : Nat
  /-- The tasks that can go on, in the order in which they were woken. -/
  ready : List Nat
  /-- When tasks are to be woken. -/
  timers : List (Nat × Nat)
  /-- What happened, the newest first. -/
  events : List Occurrence
  /-- The notes that executions left, the newest first. -/
  notes : List Note

namespace World

def new (network : Http.Network) : World :=
  ⟨network, 0, default, default, default, default, default, 0, 0, 0, 0, [], [], [], []⟩

def contextOf (w : World) (r : Nat) : Context := w.contexts.get (w.runs.get r).context

def shouldStop (w : World) (r : Nat) : Bool := (w.runs.get r).halted || (w.contextOf r).cancelled

def changeRun (w : World) (r : Nat) (f : Run → Run) : World := { w with runs := w.runs.change r f }

def changeContext (w : World) (c : Nat) (f : Context → Context) : World :=
  { w with contexts := w.contexts.change c f }

def setValues (w : World) (c : Nat) (f : Values → Values) : World :=
  w.changeContext c fun x => { x with values := f x.values }

def setTask (w : World) (t : Nat) (task : Task) : World := { w with tasks := w.tasks.set t task }

def emit (w : World) (r : Nat) (h : Happening) : World :=
  { w with events := ⟨r, w.now, h⟩ :: w.events }

/-! ## Waking -/

def wake (w : World) (t : Nat) : World :=
  if w.ready.contains t then w else { w with ready := w.ready ++ [t] }

def wakeAll (w : World) (ts : List Nat) : World := ts.foldl wake w

/-- The task is woken by a cancellation. -/
def listen (w : World) (c t : Nat) : World :=
  w.changeContext c fun x =>
    if x.listeners.contains t then x else { x with listeners := x.listeners ++ [t] }

def addTimer (w : World) (time t : Nat) : World := { w with timers := w.timers ++ [(time, t)] }

/-- The task waits no longer, neither for a cancellation nor for a time. -/
def leave (w : World) (c t : Nat) : World :=
  let w := w.changeContext c fun x => { x with listeners := x.listeners.filter fun l => l != t }
  { w with timers := w.timers.filter fun e => e.2 != t }

/-- The context is cancelled, and whoever waited for that is woken. -/
def cancel (w : World) (c : Nat) : World :=
  let x := w.contexts.get c
  if x.cancelled then w
  else
    let w := w.changeContext c fun x => { x with cancelled := true, listeners := [] }
    w.wakeAll x.listeners

/-! ## Tasks -/

def spawn (w : World) (task : Task) : World :=
  { w with
    tasks := w.tasks.set w.nextTask task
    nextTask := w.nextTask + 1
    ready := w.ready ++ [w.nextTask] }

def spawnIn (w : World) (r : Nat) (task : Task) : World :=
  (w.changeRun r fun run => { run with unfinished := run.unfinished + 1 }).spawn task

def spawnArrivals (w : World) (r : Nat) (source : String) (live : Bool) : World :=
  (List.range ((w.runs.get r).outDegree source)).foldl
    (fun w edge => w.spawnIn r (.arriving r source edge live)) w

/-- The task of a run is over. The last one wakes the task that waits for the run. -/
def close (w : World) (t r : Nat) : World :=
  let w := { w with tasks := w.tasks.clear t }
  let w := w.changeRun r fun run => { run with unfinished := run.unfinished - 1 }
  if (w.runs.get r).unfinished = 0 then w.wake (w.runs.get r).supervisor else w

/-! ## Permits -/

/-- A permit is given back. It goes to the task that waits longest. -/
def release (w : World) (r : Nat) : World :=
  match (w.runs.get r).waiting with
  | [] => w.changeRun r fun run => { run with free := run.free + 1 }
  | t :: rest =>
    (w.changeRun r fun run => { run with waiting := rest, granted := t :: run.granted }).wake t

/-! ## What the operations leave -/

@[simp] theorem wake_now (w : World) (t : Nat) : (w.wake t).now = w.now := by
  unfold wake
  split <;> rfl

theorem mem_ready_wake (w : World) (t : Nat) : t ∈ (w.wake t).ready := by
  unfold wake
  split
  · next h => exact List.contains_iff_mem.1 h
  · exact List.mem_append_right _ (List.mem_singleton.2 rfl)

theorem mem_ready_wake_of_mem (w : World) {s : Nat} (t : Nat) (h : s ∈ w.ready) :
    s ∈ (w.wake t).ready := by
  unfold wake
  split
  · exact h
  · exact List.mem_append_left _ h

@[simp] theorem emit_events (w : World) (r : Nat) (h : Happening) :
    (w.emit r h).events = ⟨r, w.now, h⟩ :: w.events := rfl

@[simp] theorem changeRun_events (w : World) (r : Nat) (f : Run → Run) :
    (w.changeRun r f).events = w.events := rfl

theorem get_runs_changeRun (w : World) (r s : Nat) (f : Run → Run) :
    (w.changeRun r f).runs.get s = if r = s then f (w.runs.get r) else w.runs.get s :=
  Table.get_change w.runs r s f

end World

end Conduit
