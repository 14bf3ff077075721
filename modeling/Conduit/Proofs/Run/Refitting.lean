import Conduit.Proofs.Graph.Sound
import Conduit.Proofs.Run.Dispatching

/-!
# Other slots

The slot of a node is looked at when the node is dispatched and when its execution starts, and by
nothing else: neither gates nor arrivals nor skips depend on it. So a world whose runs go over graphs
with other slots goes on as it would with the old ones, until a node is dispatched whose slot differs.
-/

namespace Conduit

/-! ## Graphs with other slots -/

section

variable {κ : Type}

def GraphNode.refit (ρ : String → Slot κ → Slot κ) (n : GraphNode κ) : GraphNode κ :=
  { n with slot := ρ n.id n.slot }

/-- The graph with other slots. -/
def Graph.refit (ρ : String → Slot κ → Slot κ) (g : Graph κ) : Graph κ :=
  { g with nodes := g.nodes.map (GraphNode.refit ρ) }

variable {ρ : String → Slot κ → Slot κ}

theorem Graph.node?_refit (g : Graph κ) (id : String) :
    (g.refit ρ).node? id = (g.node? id).map (GraphNode.refit ρ) :=
  List.find?_map ..

theorem Graph.node?_refit_of_fixed (g : Graph κ) {id : String} (h : ∀ s, ρ id s = s) :
    (g.refit ρ).node? id = g.node? id := by
  rw [g.node?_refit]
  cases hn : g.node? id with
  | none => rfl
  | some n =>
    have hid : n.id = id := eq_of_beq (List.find?_some (p := fun n : GraphNode κ => n.id == id) hn)
    subst hid
    rw [Option.map_some, GraphNode.refit, h]

theorem Graph.refit_of_fixed (g : Graph κ) (h : ∀ id s, ρ id s = s) : g.refit ρ = g := by
  unfold refit
  rw [show GraphNode.refit ρ = id from funext fun n => by rw [GraphNode.refit, h]; rfl, List.map_id]

end

def Run.refit (ρ : String → Slot Component → Slot Component) (run : Run) : Run :=
  { run with graph := run.graph.refit ρ }

namespace Run

variable (ρ : String → Slot Component → Slot Component) (run : Run)

@[simp] theorem graph_refit : (run.refit ρ).graph = run.graph.refit ρ := rfl

@[simp] theorem context_refit : (run.refit ρ).context = run.context := rfl

@[simp] theorem supervisor_refit : (run.refit ρ).supervisor = run.supervisor := rfl

@[simp] theorem limits_refit : (run.refit ρ).limits = run.limits := rfl

@[simp] theorem nodes_refit : (run.refit ρ).nodes = run.nodes := rfl

@[simp] theorem free_refit : (run.refit ρ).free = run.free := rfl

@[simp] theorem waiting_refit : (run.refit ρ).waiting = run.waiting := rfl

@[simp] theorem granted_refit : (run.refit ρ).granted = run.granted := rfl

@[simp] theorem steps_refit : (run.refit ρ).steps = run.steps := rfl

@[simp] theorem ended_refit : (run.refit ρ).ended = run.ended := rfl

@[simp] theorem failure_refit : (run.refit ρ).failure = run.failure := rfl

@[simp] theorem unfinished_refit : (run.refit ρ).unfinished = run.unfinished := rfl

@[simp] theorem outcome_refit : (run.refit ρ).outcome = run.outcome := rfl

@[simp] theorem edge?_refit (source : String) (place : Nat) :
    (run.refit ρ).edge? source place = run.edge? source place := by
  unfold edge?
  rw [graph_refit, Graph.node?_refit]
  cases run.graph.node? source <;> rfl

@[simp] theorem outDegree_refit (source : String) :
    (run.refit ρ).outDegree source = run.outDegree source := by
  unfold outDegree
  rw [graph_refit, Graph.node?_refit]
  cases run.graph.node? source <;> rfl

theorem new_refit (g : Graph Component) (context supervisor : Nat) (limits : Limits) :
    new (g.refit ρ) context supervisor limits = (new g context supervisor limits).refit ρ := by
  have hnodes : initialNodes (g.refit ρ) = initialNodes g :=
    congrArg Entries.ofPairs List.map_map
  unfold new refit
  rw [hnodes]

theorem refit_changeNode (id : String) (f : NodeState → NodeState) :
    (run.refit ρ).changeNode id f = (run.changeNode id f).refit ρ := by
  unfold changeNode
  rw [nodes_refit]
  split <;> rfl

theorem refit_arriveAt (id : String) (live : Bool) :
    (run.refit ρ).arriveAt id live =
      ((run.arriveAt id live).1.refit ρ, (run.arriveAt id live).2) := by
  unfold arriveAt
  rw [nodes_refit]
  split <;> rfl

end Run

/-! ## Worlds with other slots -/

def Table.map {α : Type} (f : Nat → α → α) (t : Table α) : Table α :=
  ⟨t.entries.map fun e => (e.1, f e.1 e.2)⟩

namespace Table

variable {α : Type} (f : Nat → α → α) (t : Table α) (n : Nat)

theorem get_map [Inhabited α] (h : f n default = default) : (t.map f).get n = f n (t.get n) := by
  unfold get map
  rw [List.find?_map]
  rw [show ((fun e : Nat × α => e.1 == n) ∘ fun e : Nat × α => (e.1, f e.1 e.2)) =
    fun e => e.1 == n from rfl]
  cases he : t.entries.find? fun e => e.1 == n with
  | none => exact h.symm
  | some e =>
    have hn : e.1 = n := eq_of_beq (List.find?_some (p := fun e : Nat × α => e.1 == n) he)
    subst hn
    rfl

theorem map_set (a : α) : (t.set n a).map f = (t.map f).set n (f n a) := by
  unfold set clear map
  rw [List.map_cons, List.filter_map]
  rfl

end Table

namespace World

/-- The world in which the runs go over graphs with other slots. -/
def refit (ρ : Nat → String → Slot Component → Slot Component) (w : World) : World :=
  { w with runs := w.runs.map fun r run => run.refit (ρ r) }

section

variable (ρ : Nat → String → Slot Component → Slot Component) (w : World)

@[simp] theorem get_refit (r : Nat) : (w.refit ρ).runs.get r = (w.runs.get r).refit (ρ r) :=
  Table.get_map _ w.runs r rfl

@[simp] theorem contextOf_refit (r : Nat) : (w.refit ρ).contextOf r = w.contextOf r := by
  unfold contextOf
  rw [get_refit]
  rfl

@[simp] theorem shouldStop_refit (r : Nat) : (w.refit ρ).shouldStop r = w.shouldStop r := by
  unfold shouldStop
  rw [contextOf_refit, get_refit]
  rfl

@[simp] theorem isOver_refit (r : Nat) : (w.refit ρ).isOver r = w.isOver r := by
  unfold isOver
  rw [contextOf_refit, get_refit]
  rfl

@[simp] theorem isLive_refit (r : Nat) (edge : Edge) (live : Bool) :
    (w.refit ρ).isLive r edge live = w.isLive r edge live := by
  unfold isLive
  rw [contextOf_refit]

@[simp] theorem verdict_refit (r : Nat) (result : Result) :
    (w.refit ρ).verdict r result = w.verdict r result := by
  unfold verdict
  rw [contextOf_refit, get_refit]
  rfl

/-! ### Operations that look at no slot -/

theorem refit_set {r : Nat} {f g : Run → Run}
    (h : f ((w.runs.get r).refit (ρ r)) = (g (w.runs.get r)).refit (ρ r)) :
    (w.refit ρ).changeRun r f = (w.changeRun r g).refit ρ := by
  have hset := Table.map_set (fun r run => Run.refit (ρ r) run) w.runs r (g (w.runs.get r))
  unfold changeRun Table.change
  rw [get_refit, h]
  exact congrArg (fun runs => { w with runs := runs }) hset.symm

theorem refit_changeRun {r : Nat} {f : Run → Run}
    (h : ∀ run, f (run.refit (ρ r)) = (f run).refit (ρ r)) :
    (w.refit ρ).changeRun r f = (w.changeRun r f).refit ρ :=
  w.refit_set ρ (h _)

theorem refit_setStatus (r : Nat) (node : String) (status : NodeStatus) :
    (w.refit ρ).changeRun r (fun run => run.setStatus node status) =
      (w.changeRun r fun run => run.setStatus node status).refit ρ :=
  w.refit_changeRun ρ fun run => run.refit_changeNode ..

theorem refit_emit (r : Nat) (h : Happening) : (w.refit ρ).emit r h = (w.emit r h).refit ρ := rfl

theorem refit_setValues (c : Nat) (f : Values → Values) :
    (w.refit ρ).setValues c f = (w.setValues c f).refit ρ := rfl

theorem refit_wake (t : Nat) : (w.refit ρ).wake t = (w.wake t).refit ρ := by
  unfold wake
  rw [show (w.refit ρ).ready = w.ready from rfl]
  split <;> rfl

theorem refit_wakeAll (ts : List Nat) : (w.refit ρ).wakeAll ts = (w.wakeAll ts).refit ρ := by
  unfold wakeAll
  induction ts generalizing w with
  | nil => rfl
  | cons t ts ih => rw [List.foldl_cons, refit_wake, ih, List.foldl_cons]

theorem refit_leave (c t : Nat) : (w.refit ρ).leave c t = (w.leave c t).refit ρ := rfl

theorem refit_cancel (c : Nat) : (w.refit ρ).cancel c = (w.cancel c).refit ρ := by
  unfold cancel
  dsimp only
  rw [show (w.refit ρ).contexts = w.contexts from rfl]
  split
  · rfl
  · exact refit_wakeAll ρ (w.changeContext c fun x => { x with cancelled := true, listeners := [] }) _

theorem refit_spawnIn (r : Nat) (task : Task) :
    (w.refit ρ).spawnIn r task = (w.spawnIn r task).refit ρ := by
  unfold spawnIn
  rw [refit_changeRun]
  · rfl
  · exact fun _ => rfl

theorem refit_spawnArrivals (r : Nat) (source : String) (live : Bool) :
    (w.refit ρ).spawnArrivals r source live = (w.spawnArrivals r source live).refit ρ := by
  unfold spawnArrivals
  rw [get_refit, Run.outDegree_refit]
  generalize List.range _ = places
  induction places generalizing w with
  | nil => rfl
  | cons place places ih => rw [List.foldl_cons, refit_spawnIn, ih, List.foldl_cons]

theorem refit_close (t r : Nat) : (w.refit ρ).close t r = (w.close t r).refit ρ := by
  unfold close
  dsimp only
  rw [show ({ w.refit ρ with tasks := (w.refit ρ).tasks.clear t } : World) =
    refit ρ { w with tasks := w.tasks.clear t } from rfl, refit_changeRun, get_refit,
    Run.unfinished_refit, Run.supervisor_refit, refit_wake]
  · split <;> rfl
  · exact fun _ => rfl

theorem refit_release (r : Nat) : (w.refit ρ).release r = (w.release r).refit ρ := by
  unfold release
  rw [get_refit, Run.waiting_refit]
  split
  · exact w.refit_changeRun ρ fun _ => rfl
  · rw [← refit_wake, refit_changeRun]
    exact fun _ => rfl

theorem refit_reportError (c : Nat) (e : PipelineError) :
    (w.refit ρ).reportError c e = (w.reportError c e).refit ρ := rfl

theorem refit_fail (r : Nat) (node : String) (e : PipelineError) :
    (w.refit ρ).fail r node e = (w.fail r node e).refit ρ := by
  unfold fail
  dsimp only
  rw [refit_setStatus, refit_emit, get_refit, Run.failure_refit, Run.context_refit]
  split
  · exact refit_changeRun ρ _ fun _ => rfl
  · rw [refit_reportError, refit_changeRun, refit_changeRun]
    all_goals exact fun _ => rfl

theorem refit_abandon (r : Nat) (node : String) :
    (w.refit ρ).abandon r node = (w.abandon r node).refit ρ := by
  unfold abandon
  rw [refit_setStatus, refit_emit]

theorem refit_skip (r : Nat) (node : String) : (w.refit ρ).skip r node = (w.skip r node).refit ρ := by
  unfold skip
  dsimp only
  rw [refit_setStatus, refit_emit, refit_spawnArrivals]

theorem refit_goOn (r : Nat) (node : String) : (w.refit ρ).goOn r node = (w.goOn r node).refit ρ := by
  unfold goOn
  dsimp only
  rw [contextOf_refit, shouldStop_refit, get_refit, Run.context_refit, refit_setValues]
  split
  · exact w.refit_changeRun ρ fun _ => rfl
  · split
    · rfl
    · split
      · exact refit_spawnIn ρ _ r _
      · exact refit_spawnArrivals ρ _ r node true

theorem refit_complete (t r : Nat) (node : String) (result : Result) :
    (w.refit ρ).complete t r node result = (w.complete t r node result).refit ρ := by
  unfold complete
  dsimp only
  rw [refit_release, contextOf_refit, verdict_refit]
  split
  · rw [refit_abandon, refit_close]
  · split
    · rw [refit_fail, refit_close]
    · rw [refit_changeRun, refit_emit, refit_goOn, refit_close]
      intro run
      unfold Run.setStatus
      rw [Run.refit_changeNode]
      rfl

theorem refit_apply (c : Nat) (scene : Scene) :
    (w.refit ρ).apply c scene = (w.apply c scene).refit ρ := by
  unfold apply
  dsimp only
  rw [refit_setValues]
  generalize w.setValues c _ = v
  rw [show (v.refit ρ).contexts = v.contexts from rfl]
  cases (v.contexts.get c).sink with
  | none =>
    split
    · exact refit_cancel ρ { v with notes := scene.notes.reverse ++ v.notes } c
    · rfl
  | some s =>
    split
    · exact refit_cancel ρ { v with
        sinks := v.sinks.change s fun sent => sent ++ scene.emitted
        notes := scene.notes.reverse ++ v.notes } c
    · rfl

theorem refit_perform (t r : Nat) (node : String) (activity : Activity) :
    (w.refit ρ).perform t r node activity = (w.perform t r node activity).refit ρ := by
  unfold perform
  dsimp only
  rw [get_refit, Run.context_refit, show (w.refit ρ).contexts = w.contexts from rfl,
    show (w.refit ρ).network = w.network from rfl, refit_apply]
  split
  · exact refit_complete ρ _ t r node _
  · rfl

/-! ### Runs -/

theorem refit_begin (graph : Graph Component) (context supervisor : Nat) (limits : Limits) :
    (w.refit ρ).begin (graph.refit (ρ w.nextRun)) context supervisor limits =
      (w.begin graph context supervisor limits).refit ρ := by
  have hset := Table.map_set (fun r run => Run.refit (ρ r) run) w.runs w.nextRun
    (Run.new graph context supervisor limits.atLeastOne)
  unfold begin
  dsimp only
  rw [← refit_spawnIn, ← refit_emit, show (w.refit ρ).nextRun = w.nextRun from rfl, Run.new_refit]
  exact congrArg (fun runs => (emit { w with runs := runs, nextRun := w.nextRun + 1 } w.nextRun
    (.runStarted graph.pipeline)).spawnIn w.nextRun (.dispatched w.nextRun graph.root)) hset.symm

theorem refit_begin_of_fixed (h : ∀ v slot, ρ w.nextRun v slot = slot) (graph : Graph Component)
    (context supervisor : Nat) (limits : Limits) :
    (w.refit ρ).begin graph context supervisor limits =
      (w.begin graph context supervisor limits).refit ρ := by
  rw [← refit_begin, graph.refit_of_fixed h]

theorem refit_conclude (r : Nat) (cancelled : Bool) :
    (w.refit ρ).conclude r cancelled =
      ((w.conclude r cancelled).1.refit ρ, (w.conclude r cancelled).2) := by
  unfold conclude
  dsimp only
  rw [get_refit, contextOf_refit, Run.failure_refit, Run.ended_refit, Run.context_refit,
    Run.outcome_refit, refit_changeRun, refit_emit]
  · split
    · rfl
    · split
      · rw [refit_changeRun, refit_reportError]
        exact fun _ => rfl
      · rfl
  · exact fun _ => rfl

theorem refit_pollNesting (t r : Nat) (node : String) (inner : Nat) :
    (w.refit ρ).pollNesting t r node inner = (w.pollNesting t r node inner).refit ρ := by
  unfold pollNesting
  dsimp only
  rw [get_refit, Run.context_refit, isOver_refit]
  split
  · rfl
  · rw [refit_conclude, refit_leave, refit_setValues, get_refit, Run.graph_refit]
    exact refit_complete ρ _ t r node _

theorem refit_finish (t : Nat) (ending : Ending) :
    (w.refit ρ).finish t ending = (w.finish t ending).refit ρ := rfl

theorem refit_pollConducting (t r : Nat) (deadline : Option Nat) :
    (w.refit ρ).pollConducting t r deadline = (w.pollConducting t r deadline).refit ρ := by
  unfold pollConducting
  dsimp only
  rw [get_refit, Run.context_refit, isOver_refit, show (w.refit ρ).now = w.now from rfl]
  split
  · rw [refit_conclude, refit_leave, refit_finish]
  · split
    · rw [refit_cancel, refit_conclude, refit_leave, refit_finish]
    · rfl

theorem refit_breakOff (t : Nat) (graph : Graph Component) (σ : String → Slot Component → Slot Component) :
    (w.refit ρ).breakOff t (graph.refit σ) = (w.breakOff t graph).refit ρ := rfl

theorem refit_conduct (t : Nat) (graph : Graph Component) (context : Nat) (limits : Limits)
    (timeout : Option Nat) :
    (w.refit ρ).conduct t (graph.refit (ρ w.nextRun)) context limits timeout =
      (w.conduct t graph context limits timeout).refit ρ := by
  unfold conduct
  dsimp only
  rw [refit_begin, refit_breakOff, show (w.refit ρ).nextRun = w.nextRun from rfl,
    show (w.refit ρ).now = w.now from rfl]
  split
  · rfl
  · cases timeout.map fun ms => w.now + waitOf ms with
    | none => exact refit_pollConducting ρ (w.begin graph context t limits) t w.nextRun none
    | some d =>
      exact refit_pollConducting ρ ((w.begin graph context t limits).addTimer d t) t w.nextRun (some d)

/-! ### Nodes whose slot stays -/

section

variable {r : Nat} {node : String}

theorem refit_start (fresh : ∀ v slot, ρ w.nextRun v slot = slot)
    (fixed : ∀ slot, ρ r node slot = slot) (t : Nat) :
    (w.refit ρ).start t r node = (w.start t r node).refit ρ := by
  unfold start
  rw [shouldStop_refit, get_refit, Run.graph_refit, Graph.node?_refit_of_fixed _ fixed, refit_release,
    refit_close]
  split
  · rfl
  split
  · rfl
  split
  · rfl
  next component _ _ =>
  dsimp only
  rw [refit_setStatus, refit_emit]
  cases component with
  | basic kind activity => exact refit_perform ρ _ t r node activity
  | pipeline graph =>
    -- The nested run has a new number, and its slots stay.
    dsimp only
    rw [get_refit, Run.context_refit, Run.limits_refit, refit_begin_of_fixed]
    · exact refit_pollNesting ρ _ t r node _
    · exact fresh

theorem refit_acquire (fresh : ∀ v slot, ρ w.nextRun v slot = slot)
    (fixed : ∀ slot, ρ r node slot = slot) (t : Nat) :
    (w.refit ρ).acquire t r node = (w.acquire t r node).refit ρ := by
  unfold acquire
  dsimp only
  rw [get_refit, Run.free_refit, Run.context_refit, refit_changeRun, refit_changeRun]
  · split
    · exact refit_start ρ (w.changeRun r _) fresh fixed t
    · rfl
  all_goals exact fun _ => rfl

theorem refit_dispatch (fresh : ∀ v slot, ρ w.nextRun v slot = slot)
    (fixed : w.shouldStop r = false → ∀ slot, ρ r node slot = slot) (t : Nat) :
    (w.refit ρ).dispatch t r node = (w.dispatch t r node).refit ρ := by
  unfold dispatch
  rw [shouldStop_refit, get_refit, Run.graph_refit, Run.limits_refit]
  split
  · exact refit_close ..
  next goesOn =>
  have fixed := fixed (Bool.eq_false_iff.2 goesOn)
  rw [Graph.node?_refit_of_fixed _ fixed]
  split
  · rw [refit_fail, refit_close]
  split
  · rw [refit_fail, refit_close]
  dsimp only
  rw [refit_changeRun, get_refit, Run.steps_refit]
  · split
    · rw [refit_fail, refit_close]
    · exact refit_acquire ρ (w.changeRun r _) fresh fixed t
  · exact fun _ => rfl

theorem refit_arrive {source : String} {place : Nat} {live : Bool}
    (fresh : ∀ v slot, ρ w.nextRun v slot = slot)
    (fixed : w.shouldStop r = false → ∀ v, w.opened? r source place live = some v →
      ∀ slot, ρ r v slot = slot) (t : Nat) :
    (w.refit ρ).arrive t r source place live = (w.arrive t r source place live).refit ρ := by
  unfold opened? at fixed
  unfold arrive
  rw [shouldStop_refit, get_refit, Run.edge?_refit]
  split
  · exact refit_close ..
  next goesOn =>
  cases hedge : (w.runs.get r).edge? source place with
  | none => exact refit_close ..
  | some edge =>
  rw [hedge] at fixed
  dsimp only at fixed ⊢
  rw [isLive_refit]
  cases hlive : w.isLive r edge live with
  | error e =>
    dsimp only
    rw [refit_fail, refit_close]
  | ok passed =>
  rw [hlive] at fixed
  dsimp only at fixed ⊢
  rw [Run.refit_arriveAt]
  dsimp only
  rw [refit_set ρ w (g := fun _ => ((w.runs.get r).arriveAt edge.target passed).1) rfl]
  cases harrival : ((w.runs.get r).arriveAt edge.target passed).2 with
  | none => exact refit_close ..
  | some arrival =>
  rw [harrival] at fixed
  cases arrival with
  | waiting =>
    dsimp only
    rw [refit_changeRun, refit_close]
    exact fun run => run.refit_changeNode ..
  | fire =>
    refine refit_dispatch ρ (w.changeRun r _) fresh (fun _ => ?_) t
    exact fixed (Bool.eq_false_iff.2 goesOn) _ rfl
  | skip =>
    dsimp only
    rw [refit_skip, refit_close]

theorem refit_pollAwaiting (fresh : ∀ v slot, ρ w.nextRun v slot = slot)
    (fixed : ∀ slot, ρ r node slot = slot) (t : Nat) :
    (w.refit ρ).pollAwaiting t r node = (w.pollAwaiting t r node).refit ρ := by
  unfold pollAwaiting
  dsimp only
  rw [get_refit, Run.granted_refit, Run.context_refit, contextOf_refit, refit_changeRun, refit_changeRun,
    refit_leave, refit_leave]
  · split
    · exact refit_start ρ ((w.changeRun r _).leave _ t) fresh fixed t
    split
    · exact refit_close ..
    · rfl
  all_goals exact fun _ => rfl

theorem refit_pollPausing (t wakeAt : Nat) (next stopped : Activity) :
    (w.refit ρ).pollPausing t r node wakeAt next stopped =
      (w.pollPausing t r node wakeAt next stopped).refit ρ := by
  unfold pollPausing
  dsimp only
  rw [get_refit, Run.context_refit, contextOf_refit, refit_leave, refit_perform, refit_perform,
    show (w.refit ρ).now = w.now from rfl]
  split
  · rfl
  · split <;> rfl

end

/-! ### Acts -/

theorem refit_pass (ms : Nat) : (w.refit ρ).pass ms = (w.pass ms).refit ρ := by
  unfold pass
  dsimp only
  rw [← refit_wakeAll]
  rfl

/-- An act does with other slots what it does with the old ones, unless it dispatches a node whose slot
differs or such a node waits for its permit. -/
theorem refit_act (awake : w.Awake) (later : ∀ r, 0 < r → ∀ v slot, ρ r v slot = slot)
    (awaiting : ∀ t r v, w.tasks.get t = .awaiting r v → ∀ slot, ρ r v slot = slot) {a : Act}
    (unseen : ∀ r v, w.dispatched? a = some (r, v) → ∀ slot, ρ r v slot = slot) :
    (w.refit ρ).act a = (w.act a).refit ρ := by
  cases a with
  | pass ms => exact w.refit_pass ρ ms
  | cancel c => exact w.refit_cancel ρ c
  | step t =>
    have needs := awake.alert t
    -- The run of the task has begun, so one that begins in this step is not the first.
    have fresh : ∀ {r}, r < w.nextRun → ∀ v slot, ρ w.nextRun v slot = slot :=
      fun hr => later _ (Nat.zero_lt_of_lt hr)
    unfold Alert at needs
    change poll (refit ρ { w with ready := w.ready.erase t }) t =
      refit ρ (poll { w with ready := w.ready.erase t } t)
    unfold poll
    rw [show (refit ρ { w with ready := w.ready.erase t }).tasks.get t = w.tasks.get t from rfl]
    dsimp only
    cases htask : w.tasks.get t with
    | «over» | launching => rfl
    | conducting r deadline => exact refit_pollConducting ρ _ t r deadline
    | arriving r source place live =>
      rw [htask] at needs
      refine refit_arrive ρ { w with ready := w.ready.erase t } (fresh needs.1)
        (fun goesOn v hv => unseen r v ?_) t
      exact dispatched?_eq_some.2 ⟨t, rfl, goesOn, .inr ⟨source, place, live, htask, hv⟩⟩
    | dispatched r node =>
      rw [htask] at needs
      refine refit_dispatch ρ { w with ready := w.ready.erase t } (fresh needs.1)
        (fun goesOn => unseen r node ?_) t
      exact dispatched?_eq_some.2 ⟨t, rfl, goesOn, .inl htask⟩
    | awaiting r node =>
      rw [htask] at needs
      exact refit_pollAwaiting ρ { w with ready := w.ready.erase t } (fresh needs.1)
        (awaiting t r node htask) t
    | pausing r node wakeAt next stopped => exact refit_pollPausing ρ _ t wakeAt next stopped
    | nesting r node inner => exact refit_pollNesting ρ _ t r node inner

end

end World

/-! ## Courses with other slots -/

theorem Course.dispatched_of_awaiting {l : Launch} {past : List (World × Act)} {w : World}
    (h : Course l.world past w) {t r : Nat} {v : String} (ht : w.tasks.get t = .awaiting r v) :
    ∃ p ∈ past, p.1.dispatched? p.2 = some (r, v) := by
  have hall : ∀ q ∈ w.inLine, ∃ p ∈ past, p.1.dispatched? p.2 = some q := by
    clear ht
    induction h with
    | start =>
      intro q hq
      obtain ⟨t, ht⟩ := World.inLine_conduct _ 0 l.graph 0 l.limits l.timeout hq
      change ((default : Table Task).set 0 .launching).get t = _ at ht
      rw [Table.get_set] at ht
      split at ht <;> cases ht
    | next a _ _ ih =>
      intro q hq
      rcases World.inLine_act _ a hq with hq | hq
      · obtain ⟨p, hp, hd⟩ := ih q hq
        exact ⟨p, List.mem_cons_of_mem _ hp, hd⟩
      · exact ⟨_, List.mem_cons_self, hq⟩
  exact hall (r, v) ⟨t, ht⟩

section

variable {l : Launch} {past : List (World × Act)} {w : World}
  {ρ : Nat → String → Slot Component → Slot Component}

theorem Launch.refit_world : ({ l with graph := l.graph.refit (ρ 0) } : Launch).world = l.world.refit ρ :=
  World.refit_conduct ρ (l.before.step 0) 0 l.graph 0 l.limits l.timeout

/-- A course in which no node is dispatched whose slot differs is one with the other slots as well. -/
theorem Course.refit (h : Course l.world past w) (later : ∀ r, 0 < r → ∀ v slot, ρ r v slot = slot)
    (unseen : ∀ p ∈ past, ∀ r v, p.1.dispatched? p.2 = some (r, v) → ∀ slot, ρ r v slot = slot) :
    Course ({ l with graph := l.graph.refit (ρ 0) } : Launch).world
      (past.map fun p => (p.1.refit ρ, p.2)) (w.refit ρ) := by
  induction h with
  | start => exact l.refit_world ▸ .start
  | @next past u a before allowed ih =>
    have seen := fun p hp => unseen p (List.mem_cons_of_mem _ hp)
    -- Whoever waits for a permit was dispatched in the past, so its slot is the same as well.
    have hact := u.refit_act ρ before.awake later (fun t r v ht => by
      obtain ⟨p, hp, hd⟩ := before.dispatched_of_awaiting ht
      exact seen p hp r v hd) (unseen _ List.mem_cons_self)
    rw [← hact]
    refine .next a (ih seen) ?_
    cases a <;> exact allowed

end

/-! ## Graphs that differ in slots -/

/-- The graphs differ at most in the slots of some nodes. -/
structure Graph.AgreesBut (U : String → Prop) (g g' : Graph Component) : Prop where
  pipeline : g'.pipeline = g.pipeline
  root : g'.root = g.root
  nodes : List.Forall₂ (fun n n' => n' = { n with slot := n'.slot } ∧ (¬U n.id → n'.slot = n.slot))
    g.nodes g'.nodes

theorem Graph.AgreesBut.exists_refit {U : String → Prop} {g g' : Graph Component}
    (h : g.AgreesBut U g') (ids : (g.nodes.map GraphNode.id).Nodup) :
    ∃ ρ, g' = g.refit ρ ∧ ∀ v, ¬U v → ∀ slot, ρ v slot = slot := by
  classical
  have hids : g'.nodes.map GraphNode.id = g.nodes.map GraphNode.id := by
    refine List.forall₂_eq_eq_eq.le _ _ ?_
    rw [List.forall₂_map_left_iff, List.forall₂_map_right_iff]
    exact h.nodes.flip.imp fun n' n hn => by rw [hn.1]
  have hmem := (List.forall₂_and_left _ _).2 ⟨fun n' (hn : n' ∈ g'.nodes) => hn, h.nodes.flip⟩
  -- A node of the set gets the slot that the other graph has for it.
  refine ⟨fun v slot => if U v then ((g'.node? v).map GraphNode.slot).getD slot else slot, ?_,
    fun v hv slot => if_neg hv⟩
  have hnodes : g'.nodes = g.nodes.map (GraphNode.refit fun v slot =>
      if U v then ((g'.node? v).map GraphNode.slot).getD slot else slot) := by
    refine List.forall₂_eq_eq_eq.le _ _ ?_
    rw [List.forall₂_map_right_iff]
    refine hmem.imp fun n' n ⟨hn', hn, hslot⟩ => ?_
    have hid : n'.id = n.id := by rw [hn]
    have hfound : g'.node? n.id = some n' := hid ▸ Graph.node?_of_mem (hids ▸ ids) hn'
    rw [hn, GraphNode.refit, hfound]
    split
    · rfl
    · next hU => rw [hslot hU]
  obtain ⟨pipeline, root, nodes⟩ := g'
  unfold Graph.refit
  rw [← hnodes, ← h.pipeline, ← h.root]

/-- The world without the graphs that its runs go over. -/
def World.bare (w : World) : World :=
  { w with runs := w.runs.map fun _ run => { run with graph := default } }

theorem World.bare_refit (ρ : Nat → String → Slot Component → Slot Component) (w : World) :
    (w.refit ρ).bare = w.bare :=
  congrArg (fun entries => { w with runs := ⟨entries⟩ }) List.map_map

theorem Course.of_agreesBut {l : Launch} {past : List (World × Act)} {w : World}
    (h : Course l.world past w) {U : String → Prop} {g : Graph Component}
    (agrees : l.graph.AgreesBut U g) (ids : (l.graph.nodes.map GraphNode.id).Nodup)
    (unseen : ∀ p ∈ past, ∀ v, p.1.dispatched? p.2 = some (0, v) → ¬U v) :
    ∃ past' w', Course ({ l with graph := g } : Launch).world past' w' ∧
      (past'.map fun p => (p.1.bare, p.2)) = (past.map fun p => (p.1.bare, p.2)) ∧
      w'.bare = w.bare := by
  obtain ⟨ρ, rfl, fixed⟩ := agrees.exists_refit ids
  have hrefit := h.refit (ρ := fun r => if r = 0 then ρ else fun _ slot => slot)
    (fun r hr v slot => by rw [if_neg (Nat.ne_of_gt hr)]) fun p hp r v hd slot => by
      split
      · next hr => exact fixed v (unseen p hp v (hr ▸ hd)) slot
      · rfl
  refine ⟨_, _, hrefit, ?_, World.bare_refit ..⟩
  rw [List.map_map]
  exact List.map_congr_left fun p _ => congrArg (·, p.2) (World.bare_refit ..)

end Conduit
