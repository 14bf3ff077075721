import Conduit.Proofs.Run.Course
import Mathlib.Data.Multiset.Range
import Mathlib.Logic.Relation

/-!
# Stages

A stage shows of a world what matters to its runs: the runs, the values and the cancellation of
every context, what the tasks of the runs are about, the events and the deeds. Which task is about
what, who waits for whom and at what time are left out. A move is the least that a task does to a
stage, and every step of a task is a chain of moves.
-/

namespace Conduit

theorem Entries.insert_insert {α : Type} (entries : Entries α) (key : String) (a b : α) :
    insert key b (insert key a entries) = insert key b entries := by
  induction entries with
  | nil => simp [insert]
  | cons e rest ih =>
    obtain ⟨k, v⟩ := e
    simp only [insert]
    split
    · simp [insert]
    · next hk =>
      split
      · simp [insert]
      · next hlt => simp only [insert, hk, hlt, if_false, ih]

/-! ## Duties -/

/-- What a task of a run is about, also in the midst of its step. -/
inductive Duty where
  | arriving (source : String) (place : Nat) (live : Bool)
  /-- All arrivals at the node were dead. -/
  | skipping (node : String)
  | dispatched (node : String)
  | awaiting (node : String)
  /-- Holds a permit. -/
  | admitted (node : String)
  | performing (node : String) (activity : Activity)
  | pausing (node : String) (wakeAt : Nat) (next stopped : Activity)
  | nesting (node : String) (inner : Nat)
  /-- The execution has ended, and still holds its permit. -/
  | ended (node : String) (result : Result)
  /-- The node is done, and the run goes on from it. -/
  | going (node : String)
  /-- Nothing is left to do. -/
  | leaving

/-- How far a task has come. -/
inductive Phase where
  | over
  | launching
  | conducting (run : Nat) (deadline : Option Nat)
  | duty (run : Nat) (d : Duty)

def Task.phase : Task → Phase
  | .over => .over
  | .launching => .launching
  | .conducting r deadline => .conducting r deadline
  | .arriving r source place live => .duty r (.arriving source place live)
  | .dispatched r node => .duty r (.dispatched node)
  | .awaiting r node => .duty r (.awaiting node)
  | .pausing r node wakeAt next stopped => .duty r (.pausing node wakeAt next stopped)
  | .nesting r node inner => .duty r (.nesting node inner)

def Phase.crew : Phase → Multiset (Nat × Duty)
  | .duty r d => {(r, d)}
  | _ => 0

def Phase.posts (t : Nat) : Phase → Multiset (Nat × Nat)
  | .conducting r _ => {(t, r)}
  | _ => 0

/-! ## Stages -/

structure Stage where
  network : Http.Network
  runs : Nat → Run
  /-- The values of every context. -/
  values : Nat → Values
  cancelled : Nat → Bool
  /-- What the tasks of the runs are about. -/
  crew : Multiset (Nat × Duty)
  /-- The tasks that conduct runs. -/
  posts : Multiset (Nat × Nat)
  endings : Nat → Option Ending
  /-- What happened in the runs, the newest first. -/
  events : List (Nat × Happening)
  /-- The deeds, the newest first. -/
  deeds : List Deed
  nextRun : Nat

/-! ## Operations on a run -/

namespace Run

theorem changeNode_eq (run : Run) (id : String) (f : NodeState → NodeState) :
    run.changeNode id f = { run with nodes := (run.changeNode id f).nodes } := by
  unfold changeNode
  split <;> rfl

theorem get?_changeNode (run : Run) (id other : String) (f : NodeState → NodeState) :
    (run.changeNode id f).nodes.get? other =
      if id = other then (run.nodes.get? id).map f else run.nodes.get? other := by
  unfold changeNode
  split
  · next s h =>
    rw [h]
    exact Entries.get?_insert _ _ _ _
  · next h =>
    split
    · next he => rw [← he, h, Option.map_none]
    · rfl

@[simp] theorem context_setStatus (run : Run) (id : String) (s : NodeStatus) :
    (run.setStatus id s).context = run.context := by
  rw [setStatus, changeNode_eq]

@[simp] theorem limits_setStatus (run : Run) (id : String) (s : NodeStatus) :
    (run.setStatus id s).limits = run.limits := by
  rw [setStatus, changeNode_eq]

@[simp] theorem graph_setStatus (run : Run) (id : String) (s : NodeStatus) :
    (run.setStatus id s).graph = run.graph := by
  rw [setStatus, changeNode_eq]

end Run

/-- The run with a permit given back. -/
def Run.released (run : Run) : Run :=
  match run.waiting with
  | [] => { run with free := run.free + 1 }
  | t :: rest => { run with waiting := rest, granted := t :: run.granted }

/-- A permit that is given back changes nothing but the permits and the queue for them. -/
theorem Run.apply_released {α : Type*} {f : Run → α}
    (hf : ∀ (run : Run) (free : Nat) (waiting granted : List Nat),
      f { run with free := free, waiting := waiting, granted := granted } = f run) (run : Run) :
    f run.released = f run := by
  unfold released
  split
  · exact hf run _ _ _
  · exact hf run _ _ _

@[simp] theorem Run.context_released (run : Run) : run.released.context = run.context :=
  apply_released (fun _ _ _ _ => rfl) run

theorem Run.failure_released (run : Run) : run.released.failure = run.failure :=
  apply_released (fun _ _ _ _ => rfl) run

def Run.completed (run : Run) (node : String) : Run :=
  { run.setStatus node .done with executed := run.executed ++ [node] }

def Run.joinedBy (run : Run) (n : Nat) : Run := { run with unfinished := run.unfinished + n }

/-- The run with an arrival counted at a node. One that waits for more blocks a pending node. -/
def Run.counted (run : Run) (node : String) (live : Bool) : Run :=
  run.changeNode node fun s =>
    ⟨(s.gate.arrive live).1,
      if (s.gate.arrive live).2 = .waiting ∧ s.status = .pending then .blocked else s.status⟩

theorem Run.arriveAt_eq (run : Run) {id : String} {s : NodeState} (live : Bool)
    (h : run.nodes.get? id = some s) :
    ∃ run', run.arriveAt id live = (run', some (s.gate.arrive live).2) ∧
      (if (s.gate.arrive live).2 = .waiting then run'.markBlocked id else run') =
        run.counted id live := by
  refine ⟨{ run with nodes := run.nodes.insert id { s with gate := (s.gate.arrive live).1 } },
    by simp only [arriveAt, h], ?_⟩
  by_cases hw : (s.gate.arrive live).2 = .waiting
  · rw [if_pos hw]
    simp only [markBlocked, counted, changeNode, h, hw, Entries.get?_insert_self,
      Entries.insert_insert, true_and]
  · rw [if_neg hw]
    simp only [counted, changeNode, h, hw, false_and, if_false]

/-- What an arrival at a node leads its task to. -/
def Arrival.duty (node : String) : Arrival → Duty
  | .waiting => .leaving
  | .fire => .dispatched node
  | .skip => .skipping node

/-- Whether an arrival over an edge is live, in a context of values. -/
def Edge.isLive (edge : Edge) (values : Values) (live : Bool) : Except Condition.EvalError Bool :=
  match edge.condition, live with
  | _, false => .ok false
  | none, true => .ok true
  | some condition, true => condition.evaluate values

/-- What an execution came to in a context of values, in a run with or without a failure. -/
def Result.verdict (values : Values) (failed : Bool) : Result → Except ComponentError Unit
  | .failed e => .error e
  | .panicked => .error (.executionFailed "component panicked")
  | .succeeded =>
    match Entries.get? values Values.errorKey with
    | none => .ok ()
    | some reported =>
      if failed then .ok ()
      else
        match reported with
        | .string s => .error (.executionFailed s)
        | v => .error (.executionFailed v.toJson.compact)

def Run.arrivals (run : Run) (r : Nat) (source : String) (live : Bool) : Multiset (Nat × Duty) :=
  (Multiset.range (run.outDegree source)).map fun place => (r, .arriving source place live)

namespace Stage

/-- Nothing more is dispatched in the run. -/
def stops (S : Stage) (r : Nat) : Bool := (S.runs r).halted || S.cancelled (S.runs r).context

def valuesOf (S : Stage) (r : Nat) : Values := S.values (S.runs r).context

def change (S : Stage) (r : Nat) (f : Run → Run) : Stage :=
  { S with runs := Function.update S.runs r (f (S.runs r)) }

def setValues (S : Stage) (c : Nat) (f : Values → Values) : Stage :=
  { S with values := Function.update S.values c (f (S.values c)) }

def say (S : Stage) (r : Nat) (h : Happening) : Stage := { S with events := (r, h) :: S.events }

def record (S : Stage) (deeds : List Deed) : Stage := { S with deeds := deeds ++ S.deeds }

def withCrew (S : Stage) (crew : Multiset (Nat × Duty)) : Stage := { S with crew := crew }

/-- A context is cancelled, unless `b` is false. -/
def cancel (S : Stage) (c : Nat) (b : Bool) : Stage :=
  { S with cancelled := Function.update S.cancelled c (S.cancelled c || b) }

def keepFailure (S : Stage) (r : Nat) (e : PipelineError) : Stage :=
  if (S.runs r).failure.isSome then S
  else
    (S.setValues (S.runs r).context fun v =>
      v.setIfAbsent Values.errorKey (.string e.message)).change r fun run =>
        { run with failure := some e }

/-- A node fails for a reason of its own. -/
def fail (S : Stage) (r : Nat) (node : String) (e : PipelineError) : Stage :=
  let S := (S.change r fun run => run.setStatus node .failed).say r (.nodeFailed node e.message)
  ((S.keepFailure r e).change r fun run => { run with halted := true }).record [.failed r node e]

/-- A new run begins at the root of a graph. Its first task is still to be added to the crew. -/
def begin (S : Stage) (graph : Graph Component) (context supervisor : Nat) (limits : Limits) :
    Stage :=
  { S with
    runs := Function.update S.runs S.nextRun
      ((Run.new graph context supervisor limits.atLeastOne).joinedBy 1)
    events := (S.nextRun, .runStarted graph.pipeline) :: S.events
    nextRun := S.nextRun + 1 }

/-- Whether a run is over, and if so whether by cancellation. -/
def isOver (S : Stage) (r : Nat) : Option Bool :=
  if (S.runs r).unfinished = 0 then some false
  else if S.cancelled (S.runs r).context then some true
  else none

/-- What a run comes to if it is concluded now. -/
def resultOf (S : Stage) (r : Nat) (cancelled : Bool) : RunResult :=
  match (S.runs r).failure with
  | some e => .error e
  | none =>
    if cancelled || S.cancelled (S.runs r).context then .error .cancelled
    else .ok (S.runs r).outcome

def conclude (S : Stage) (r : Nat) (cancelled : Bool) : Stage :=
  let run := S.runs r
  let stopped := cancelled || S.cancelled run.context
  let S' := (S.change r fun run => { run with failure := none }).say r
    (.runCompleted (run.failure.isNone && !stopped) run.ended)
  let S' :=
    if run.failure.isNone && stopped then
      (S'.change r fun run => { run with halted := true }).setValues run.context fun v =>
        v.setIfAbsent Values.errorKey (.string PipelineError.cancelled.message)
    else S'
  S'.record [.concluded r (S.resultOf r cancelled)]

theorem endings_conclude (S : Stage) (r : Nat) (cancelled : Bool) :
    (S.conclude r cancelled).endings = S.endings := by
  unfold conclude
  dsimp only
  split <;> rfl

theorem change_change (S : Stage) (r : Nat) (f g : Run → Run) :
    (S.change r f).change r g = S.change r fun run => g (f run) := by
  simp only [change, Function.update_self, Function.update_idem]

end Stage

/-! ## Moves -/

/-- The duties that are given up when the run stops. -/
def Duty.isOpen : Duty → Bool
  | .arriving _ _ _ => true
  | .dispatched _ => true
  | _ => false

theorem Duty.eq_of_isOpen {d : Duty} (h : d.isOpen) :
    (∃ source place live, d = .arriving source place live) ∨ ∃ node, d = .dispatched node := by
  cases d with
  | arriving source place live => exact .inl ⟨source, place, live, rfl⟩
  | dispatched node => exact .inr ⟨node, rfl⟩
  | _ => cases h

/-- What a task of the run `r`, or the task that conducts it, does at the least. -/
inductive Move (r : Nat) : Stage → Stage → Prop where
  /-- A task gives up, because its run stops. -/
  | giveUp {S : Stage} {d : Duty} {rest : Multiset (Nat × Duty)}
      (crew : S.crew = (r, d) ::ₘ rest) (isOpen : d.isOpen) (stops : S.stops r) :
      Move r S (S.withCrew ((r, .leaving) ::ₘ rest))
  /-- There is no such edge. -/
  | stray {S : Stage} {source : String} {place : Nat} {live : Bool}
      {rest : Multiset (Nat × Duty)} (crew : S.crew = (r, .arriving source place live) ::ₘ rest)
      (goesOn : S.stops r = false) (edge : (S.runs r).edge? source place = none) :
      Move r S (S.withCrew ((r, .leaving) ::ₘ rest))
  /-- The target of the edge is no node. -/
  | lost {S : Stage} {source : String} {place : Nat} {live : Bool}
      {rest : Multiset (Nat × Duty)} {edge : Edge} {passed : Bool}
      (crew : S.crew = (r, .arriving source place live) ::ₘ rest)
      (goesOn : S.stops r = false) (edge_eq : (S.runs r).edge? source place = some edge)
      (isLive : edge.isLive (S.valuesOf r) live = .ok passed)
      (state : (S.runs r).nodes.get? edge.target = none) :
      Move r S ((S.record (World.askDeeds r source edge live)).withCrew ((r, .leaving) ::ₘ rest))
  /-- The condition of the edge cannot be evaluated. -/
  | refuse {S : Stage} {source : String} {place : Nat} {live : Bool}
      {rest : Multiset (Nat × Duty)} {edge : Edge} {e : Condition.EvalError}
      (crew : S.crew = (r, .arriving source place live) ::ₘ rest)
      (goesOn : S.stops r = false) (edge_eq : (S.runs r).edge? source place = some edge)
      (isLive : edge.isLive (S.valuesOf r) live = .error e) :
      Move r S (((S.record (World.askDeeds r source edge live)).fail r edge.target
        (.conditionEval source edge.target e.message)).withCrew ((r, .leaving) ::ₘ rest))
  /-- An arrival is counted at the target's gate. -/
  | count {S : Stage} {source : String} {place : Nat} {live : Bool}
      {rest : Multiset (Nat × Duty)} {edge : Edge} {passed : Bool} {s : NodeState}
      (crew : S.crew = (r, .arriving source place live) ::ₘ rest)
      (goesOn : S.stops r = false) (edge_eq : (S.runs r).edge? source place = some edge)
      (isLive : edge.isLive (S.valuesOf r) live = .ok passed)
      (state : (S.runs r).nodes.get? edge.target = some s) :
      Move r S (((S.change r fun run => run.counted edge.target passed).record
        (.delivered r source edge.target passed :: World.askDeeds r source edge live)).withCrew
          ((r, (s.gate.arrive passed).2.duty edge.target) ::ₘ rest))
  /-- A node is skipped. -/
  | skip {S : Stage} {node : String} {rest : Multiset (Nat × Duty)}
      (crew : S.crew = (r, .skipping node) ::ₘ rest) :
      Move r S (((S.change r fun run =>
        (run.setStatus node .skipped).joinedBy (run.outDegree node)).say r
          (.nodeSkipped node)).withCrew
            ((r, .leaving) ::ₘ ((S.runs r).arrivals r node false + rest)))
  /-- The dispatched node does not exist. -/
  | unknown {S : Stage} {node : String} {rest : Multiset (Nat × Duty)}
      (crew : S.crew = (r, .dispatched node) ::ₘ rest) (goesOn : S.stops r = false)
      (node_eq : (S.runs r).graph.node? node = none) :
      Move r S ((S.fail r node (.graph (.nodeNotFound node))).withCrew ((r, .leaving) ::ₘ rest))
  /-- The dispatched node has no usable component. -/
  | unusable {S : Stage} {node : String} {rest : Multiset (Nat × Duty)}
      {n : GraphNode Component} {reason : String}
      (crew : S.crew = (r, .dispatched node) ::ₘ rest) (goesOn : S.stops r = false)
      (node_eq : (S.runs r).graph.node? node = some n) (slot : n.slot = .unusable reason) :
      Move r S ((S.fail r node (.missingComponent node reason)).withCrew ((r, .leaving) ::ₘ rest))
  /-- The run has no steps left. -/
  | exceed {S : Stage} {node : String} {rest : Multiset (Nat × Duty)}
      {n : GraphNode Component} {component : Component} {origin : Origin}
      (crew : S.crew = (r, .dispatched node) ::ₘ rest) (goesOn : S.stops r = false)
      (node_eq : (S.runs r).graph.node? node = some n) (slot : n.slot = .ready component origin)
      (steps : (S.runs r).limits.steps < (S.runs r).steps + 1) :
      Move r S (((S.change r fun run => { run with steps := run.steps + 1 }).fail r node
        (.stepLimitExceeded (S.runs r).limits.steps)).withCrew ((r, .leaving) ::ₘ rest))
  /-- A task takes a free permit. -/
  | take {S : Stage} {node : String} {rest : Multiset (Nat × Duty)}
      {n : GraphNode Component} {component : Component} {origin : Origin}
      (crew : S.crew = (r, .dispatched node) ::ₘ rest) (goesOn : S.stops r = false)
      (node_eq : (S.runs r).graph.node? node = some n) (slot : n.slot = .ready component origin)
      (steps : (S.runs r).steps + 1 ≤ (S.runs r).limits.steps) (free : 0 < (S.runs r).free) :
      Move r S ((S.change r fun run =>
        { run with steps := run.steps + 1, free := run.free - 1 }).withCrew
          ((r, .admitted node) ::ₘ rest))
  /-- A task waits for a permit. -/
  | queue {S : Stage} {t : Nat} {node : String} {rest : Multiset (Nat × Duty)}
      {n : GraphNode Component} {component : Component} {origin : Origin}
      (crew : S.crew = (r, .dispatched node) ::ₘ rest) (goesOn : S.stops r = false)
      (node_eq : (S.runs r).graph.node? node = some n) (slot : n.slot = .ready component origin)
      (steps : (S.runs r).steps + 1 ≤ (S.runs r).limits.steps) (free : (S.runs r).free = 0) :
      Move r S ((S.change r fun run =>
        { run with steps := run.steps + 1, waiting := run.waiting ++ [t] }).withCrew
          ((r, .awaiting node) ::ₘ rest))
  /-- A task takes the permit that it was handed. -/
  | grant {S : Stage} {t : Nat} {node : String} {rest : Multiset (Nat × Duty)}
      (crew : S.crew = (r, .awaiting node) ::ₘ rest) (granted : t ∈ (S.runs r).granted) :
      Move r S ((S.change r fun run => { run with granted := run.granted.erase t }).withCrew
        ((r, .admitted node) ::ₘ rest))
  /-- A task does not wait for a permit any more. -/
  | withdraw {S : Stage} {t : Nat} {node : String} {rest : Multiset (Nat × Duty)}
      (crew : S.crew = (r, .awaiting node) ::ₘ rest)
      (cancelled : S.cancelled (S.runs r).context) (waiting : t ∈ (S.runs r).waiting) :
      Move r S ((S.change r fun run => { run with waiting := run.waiting.erase t }).withCrew
        ((r, .leaving) ::ₘ rest))
  /-- A task gives its permit back unused. -/
  | retreat {S : Stage} {node : String} {rest : Multiset (Nat × Duty)}
      (crew : S.crew = (r, .admitted node) ::ₘ rest)
      (reason : S.stops r ∨ ∀ n, (S.runs r).graph.node? node = some n → n.slot.isUsable = false) :
      Move r S ((S.change r Run.released).withCrew ((r, .leaving) ::ₘ rest))
  /-- The execution of a component starts. -/
  | start {S : Stage} {node : String} {rest : Multiset (Nat × Duty)}
      {n : GraphNode Component} {kind : String} {activity : Activity} {origin : Origin}
      (crew : S.crew = (r, .admitted node) ::ₘ rest) (goesOn : S.stops r = false)
      (node_eq : (S.runs r).graph.node? node = some n)
      (slot : n.slot = .ready (.basic kind activity) origin) :
      Move r S (((S.change r fun run => run.setStatus node .running).say r
        (.nodeStarted node n.componentId)).withCrew ((r, .performing node activity) ::ₘ rest))
  /-- The run of a pipeline begins as the execution of a node. -/
  | enter {S : Stage} {t : Nat} {node : String} {rest : Multiset (Nat × Duty)}
      {n : GraphNode Component} {graph : Graph Component} {origin : Origin}
      (crew : S.crew = (r, .admitted node) ::ₘ rest) (goesOn : S.stops r = false)
      (node_eq : (S.runs r).graph.node? node = some n)
      (slot : n.slot = .ready (.pipeline graph) origin) :
      Move r S ((((S.change r fun run => run.setStatus node .running).say r
        (.nodeStarted node n.componentId)).begin graph (S.runs r).context t
          (S.runs r).limits).withCrew
            ((r, .nesting node S.nextRun) ::ₘ (S.nextRun, .dispatched graph.root) ::ₘ rest))
  /-- An execution ends. -/
  | finish {S : Stage} {node : String} {rest : Multiset (Nat × Duty)}
      {activity : Activity} {scene : Scene} {result : Result}
      (crew : S.crew = (r, .performing node activity) ::ₘ rest)
      (burst : activity.burst S.network
        ⟨S.valuesOf r, S.cancelled (S.runs r).context, [], []⟩ = (scene, .finished result)) :
      Move r S ((((S.setValues (S.runs r).context fun _ => scene.values).cancel (S.runs r).context
        scene.cancelled).record [.performed r node (activity.touches S.network
          ⟨S.valuesOf r, S.cancelled (S.runs r).context, [], []⟩) (some result)]).withCrew
            ((r, .ended node result) ::ₘ rest))
  /-- An execution has to wait. -/
  | doze {S : Stage} {ms : Nat} {node : String} {rest : Multiset (Nat × Duty)}
      {activity next stopped : Activity} {scene : Scene} (wakeAt : Nat)
      (crew : S.crew = (r, .performing node activity) ::ₘ rest)
      (burst : activity.burst S.network
        ⟨S.valuesOf r, S.cancelled (S.runs r).context, [], []⟩ =
          (scene, .asleep ms next stopped)) :
      Move r S ((((S.setValues (S.runs r).context fun _ => scene.values).cancel (S.runs r).context
        scene.cancelled).record [.performed r node (activity.touches S.network
          ⟨S.valuesOf r, S.cancelled (S.runs r).context, [], []⟩) none]).withCrew
            ((r, .pausing node wakeAt next stopped) ::ₘ rest))
  /-- An execution goes on after its wait. -/
  | resume {S : Stage} {wakeAt : Nat} {node : String} {rest : Multiset (Nat × Duty)}
      {next stopped : Activity}
      (crew : S.crew = (r, .pausing node wakeAt next stopped) ::ₘ rest) :
      Move r S (S.withCrew ((r, .performing node next) ::ₘ rest))
  /-- An execution is woken from its wait by a cancellation. -/
  | interrupt {S : Stage} {wakeAt : Nat} {node : String} {rest : Multiset (Nat × Duty)}
      {next stopped : Activity}
      (crew : S.crew = (r, .pausing node wakeAt next stopped) ::ₘ rest)
      (cancelled : S.cancelled (S.runs r).context) :
      Move r S (S.withCrew ((r, .performing node stopped) ::ₘ rest))
  /-- The run of a pipeline is over, and with it the execution of its node. -/
  | surface {S : Stage} {inner : Nat} {node : String} {rest : Multiset (Nat × Duty)}
      {cancelled : Bool} (crew : S.crew = (r, .nesting node inner) ::ₘ rest)
      (isOver : S.isOver inner = some cancelled) :
      Move r S (((S.conclude inner cancelled).setValues (S.runs inner).context fun v =>
        Entries.erase v Values.endKey).withCrew
          ((r, .ended node (World.nestedResult (S.runs inner).graph.pipeline
            (S.resultOf inner cancelled))) ::ₘ rest))
  /-- The outcome of an execution is void, because its run was cancelled. -/
  | abandon {S : Stage} {node : String} {result : Result}
      {rest : Multiset (Nat × Duty)} (crew : S.crew = (r, .ended node result) ::ₘ rest)
      (cancelled : S.cancelled (S.runs r).context) :
      Move r S (((S.change r fun run => run.released.setStatus node .failed).say r
        (.nodeFailed node PipelineError.cancelled.message)).withCrew ((r, .leaving) ::ₘ rest))
  /-- An execution came to a failure. -/
  | blame {S : Stage} {node : String} {result : Result} {e : ComponentError}
      {rest : Multiset (Nat × Duty)} (crew : S.crew = (r, .ended node result) ::ₘ rest)
      (goesOn : S.cancelled (S.runs r).context = false)
      (verdict : result.verdict (S.valuesOf r) (S.runs r).failure.isSome = .error e) :
      Move r S (((S.change r Run.released).fail r node (.componentExecution node e)).withCrew
        ((r, .leaving) ::ₘ rest))
  /-- A node is done. -/
  | settle {S : Stage} {node : String} {result : Result}
      {rest : Multiset (Nat × Duty)} (crew : S.crew = (r, .ended node result) ::ₘ rest)
      (goesOn : S.cancelled (S.runs r).context = false)
      (verdict : result.verdict (S.valuesOf r) (S.runs r).failure.isSome = .ok ()) :
      Move r S (((S.change r fun run => run.released.completed node).say r
        (.nodeCompleted node)).withCrew ((r, .going node) ::ₘ rest))
  /-- The run ends early. -/
  | halt {S : Stage} {node : String} {rest : Multiset (Nat × Duty)}
      (crew : S.crew = (r, .going node) ::ₘ rest) (ends : (S.valuesOf r).endRequested) :
      Move r S ((S.change r fun run => { run with ended := true, halted := true }).withCrew
        ((r, .leaving) ::ₘ rest))
  /-- The run does not go on from the node, because it stops. -/
  | rest {S : Stage} {node : String} {rest : Multiset (Nat × Duty)}
      (crew : S.crew = (r, .going node) ::ₘ rest) (stops : S.stops r) :
      Move r S (S.withCrew ((r, .leaving) ::ₘ rest))
  /-- The run goes on at the node that an execution asked for. -/
  | jump {S : Stage} {node target : String} {rest : Multiset (Nat × Duty)}
      (crew : S.crew = (r, .going node) ::ₘ rest)
      (ends : (S.valuesOf r).endRequested = false) (goesOn : S.stops r = false)
      (next : (S.valuesOf r).override? = some target) :
      Move r S (((S.setValues (S.runs r).context fun v =>
        Entries.erase v Values.overrideKey).change r fun run => run.joinedBy 1).withCrew
          ((r, .leaving) ::ₘ (r, .dispatched target) ::ₘ rest))
  /-- The run goes on down the edges of the node. -/
  | spread {S : Stage} {node : String} {rest : Multiset (Nat × Duty)}
      (crew : S.crew = (r, .going node) ::ₘ rest)
      (ends : (S.valuesOf r).endRequested = false) (goesOn : S.stops r = false)
      (next : (S.valuesOf r).override? = none) :
      Move r S (((S.setValues (S.runs r).context fun v =>
        Entries.erase v Values.overrideKey).change r fun run =>
          run.joinedBy (run.outDegree node)).withCrew
            ((r, .leaving) ::ₘ ((S.runs r).arrivals r node true + rest)))
  /-- A task of a run is over. -/
  | close {S : Stage} {rest : Multiset (Nat × Duty)}
      (crew : S.crew = (r, .leaving) ::ₘ rest) :
      Move r S ((S.change r fun run => { run with unfinished := run.unfinished - 1 }).withCrew rest)
  /-- The task that conducts a run is over with it. -/
  | conclude {S : Stage} {t : Nat} {posts : Multiset (Nat × Nat)} {cancelled : Bool}
      (post : S.posts = (t, r) ::ₘ posts) (isOver : S.isOver r = some cancelled) :
      Move r S { S.conclude r cancelled with
        posts := posts
        endings := Function.update S.endings t (some (.over (S.resultOf r cancelled))) }
  /-- The task that conducts a run cancels it at its deadline, and is over with it. -/
  | expire {S : Stage} {t : Nat} {posts : Multiset (Nat × Nat)}
      (post : S.posts = (t, r) ::ₘ posts) (goesOn : S.isOver r = none) :
      Move r S { (S.cancel (S.runs r).context true).conclude r true with
        posts := posts
        endings := Function.update S.endings t
          (some (.over ((S.cancel (S.runs r).context true).resultOf r true))) }

/-- At least one move. -/
inductive Moves : Stage → Stage → Prop where
  | single {S S' : Stage} {r : Nat} (h : Move r S S') : Moves S S'
  | head {S S' S'' : Stage} {r : Nat} (h : Move r S S') (rest : Moves S' S'') : Moves S S''

end Conduit
