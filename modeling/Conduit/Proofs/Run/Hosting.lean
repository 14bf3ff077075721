import Conduit.Proofs.Run.History

/-!
# Hosting

A run can be the execution of a node. The world that hosts it has the same runs and tasks as the
world in which the run is on its own, all of them one number later, because its first run and its
first task are those that the node belongs to. What a task does in one world, it does in the other.
-/

namespace Conduit

/-! ## Numbers -/

/-- The tasks of one list stand in the other one number later, and nobody else but the first task. -/
def Raised (xs ys : List Nat) : Prop := ys.filter (· != 0) = xs.map (· + 1)

namespace Raised

variable {xs ys xs' ys' : List Nat}

theorem contains (h : Raised xs ys) (t : Nat) : ys.contains (t + 1) = xs.contains t := by
  rw [Bool.eq_iff_iff, List.contains_iff_mem, List.contains_iff_mem]
  have hm : t + 1 ∈ ys.filter (· != 0) ↔ t ∈ xs := by
    rw [h, List.mem_map_of_injective (fun _ _ => Nat.succ.inj)]
  rw [← hm, List.mem_filter]
  simp

theorem mem (h : Raised xs ys) (t : Nat) : t + 1 ∈ ys ↔ t ∈ xs := by
  rw [← List.contains_iff_mem, h.contains, List.contains_iff_mem]

theorem append (h : Raised xs ys) (h' : Raised xs' ys') : Raised (xs ++ xs') (ys ++ ys') := by
  unfold Raised at h h' ⊢
  rw [List.filter_append, List.map_append, h, h']

theorem map_succ (xs : List Nat) : Raised xs (xs.map (· + 1)) :=
  List.filter_eq_self.2 fun t ht => by
    obtain ⟨s, -, rfl⟩ := List.mem_map.1 ht
    rfl

theorem erase (h : Raised xs ys) (t : Nat) : Raised (xs.erase t) (ys.erase (t + 1)) := by
  unfold Raised at h ⊢
  rw [← List.erase_filter, h, List.map_erase (fun _ _ => Nat.succ.inj)]

theorem remove (h : Raised xs ys) (t : Nat) :
    Raised (xs.filter (· != t)) (ys.filter (· != t + 1)) := by
  unfold Raised at h ⊢
  rw [List.filter_comm, h, List.filter_map]
  congr 1
  refine List.filter_congr fun s _ => ?_
  simp

theorem including (h : Raised xs ys) (t : Nat) :
    Raised (if xs.contains t then xs else xs ++ [t])
      (if ys.contains (t + 1) then ys else ys ++ [t + 1]) := by
  rw [h.contains]
  split
  · exact h
  · exact h.append (map_succ [t])

end Raised

/-- The run in the world that hosts it. -/
def Run.raised (run : Run) : Run :=
  { run with
    supervisor := run.supervisor + 1
    waiting := run.waiting.map (· + 1)
    granted := run.granted.map (· + 1) }

namespace Run

variable (run : Run)

@[simp] theorem context_raised : run.raised.context = run.context := rfl

@[simp] theorem graph_raised : run.raised.graph = run.graph := rfl

@[simp] theorem limits_raised : run.raised.limits = run.limits := rfl

@[simp] theorem failure_raised : run.raised.failure = run.failure := rfl

@[simp] theorem halted_raised : run.raised.halted = run.halted := rfl

@[simp] theorem ended_raised : run.raised.ended = run.ended := rfl

@[simp] theorem unfinished_raised : run.raised.unfinished = run.unfinished := rfl

@[simp] theorem free_raised : run.raised.free = run.free := rfl

@[simp] theorem steps_raised : run.raised.steps = run.steps := rfl

@[simp] theorem outcome_raised : run.raised.outcome = run.outcome := rfl

theorem raised_changeNode (id : String) (f : NodeState → NodeState) :
    run.raised.changeNode id f = (run.changeNode id f).raised := by
  unfold changeNode
  simp only [show run.raised.nodes = run.nodes from rfl]
  split <;> rfl

theorem raised_arriveAt (id : String) (live : Bool) :
    run.raised.arriveAt id live =
      ((run.arriveAt id live).1.raised, (run.arriveAt id live).2) := by
  unfold arriveAt
  simp only [show run.raised.nodes = run.nodes from rfl]
  split <;> rfl

end Run

/-- The task in the world that hosts it. The task that conducts the run executes a node there. -/
def Task.raised (node : String) : Task → Task
  | .over => .over
  | .launching => .launching
  | .conducting r _ => .nesting 0 node (r + 1)
  | .arriving r source edge live => .arriving (r + 1) source edge live
  | .dispatched r node => .dispatched (r + 1) node
  | .awaiting r node => .awaiting (r + 1) node
  | .pausing r node wakeAt next stopped => .pausing (r + 1) node wakeAt next stopped
  | .nesting r node inner => .nesting (r + 1) node (inner + 1)

/-- Two contexts hold the same, and the same tasks wait for their cancellation. -/
structure Context.Mirrors (x y : Context) : Prop where
  values : y.values = x.values
  cancelled : y.cancelled = x.cancelled
  listeners : Raised x.listeners y.listeners

namespace World

/-- The world `v` runs as the execution of a node what the world `w` runs on its own. The run of the
node is `outer`. -/
structure Hosts (outer : Run) (node : String) (w v : World) : Prop where
  network : v.network = w.network
  now : v.now = w.now
  contexts : ∀ c, (w.contexts.get c).Mirrors (v.contexts.get c)
  runs : ∀ r, r < w.nextRun → v.runs.get (r + 1) = (w.runs.get r).raised
  outerRun : v.runs.get 0 = outer
  tasks : ∀ t, v.tasks.get (t + 1) = (w.tasks.get t).raised node
  outerTask : v.tasks.get 0 = .conducting 0 none
  conducting : ∀ t r d, w.tasks.get t = .conducting r d → t = 0 ∧ r = 0 ∧ d = none
  endings : w.endings.get 0 = none ∧ v.endings.get 0 = none
  nextRun : v.nextRun = w.nextRun + 1
  nextTask : v.nextTask = w.nextTask + 1
  ready : Raised w.ready v.ready
  timers : v.timers = w.timers.map fun e => (e.1, e.2 + 1)

/-! ## Runs that have begun -/

section

variable (w : World)

@[simp] theorem nextRun_wake (t : Nat) : (w.wake t).nextRun = w.nextRun := (wake_frame w t).2.2.1

@[simp] theorem nextRun_cancel (c : Nat) : (w.cancel c).nextRun = w.nextRun := by
  unfold cancel
  dsimp only
  split
  · rfl
  · exact (wakeAll_frame _ _).2.2.1

@[simp] theorem nextRun_release (r : Nat) : (w.release r).nextRun = w.nextRun := by
  unfold release
  split
  · rfl
  · exact nextRun_wake _ _

@[simp] theorem nextRun_fail (r : Nat) (node : String) (e : PipelineError) :
    (w.fail r node e).nextRun = w.nextRun := by
  unfold fail
  dsimp only
  split <;> rfl

@[simp] theorem nextRun_spawnArrivals (r : Nat) (source : String) (live : Bool) :
    (w.spawnArrivals r source live).nextRun = w.nextRun := by
  unfold spawnArrivals
  generalize List.range _ = places
  induction places generalizing w with
  | nil => rfl
  | cons place places ih => exact ih _

@[simp] theorem nextRun_goOn (r : Nat) (node : String) : (w.goOn r node).nextRun = w.nextRun := by
  unfold goOn
  dsimp only
  split
  · rfl
  · split
    · rfl
    · split
      · rfl
      · exact nextRun_spawnArrivals _ _ _ _

@[simp] theorem nextRun_apply (c : Nat) (scene : Scene) :
    (w.apply c scene).nextRun = w.nextRun := by
  unfold apply
  dsimp only
  split
  · split <;> exact nextRun_cancel _ _
  · split <;> rfl

@[simp] theorem nextRun_conclude (r : Nat) (cancelled : Bool) :
    (w.conclude r cancelled).1.nextRun = w.nextRun := by
  unfold conclude
  dsimp only
  split
  · rfl
  · split <;> rfl

end

namespace Hosts

variable {outer : Run} {host : String} {w v : World}

/-! ## Contexts and runs -/

theorem changeRun (h : Hosts outer host w v) {r : Nat} (hr : r < w.nextRun) {f g : Run → Run}
    (hf : g (w.runs.get r).raised = (f (w.runs.get r)).raised) :
    Hosts outer host (w.changeRun r f) (v.changeRun (r + 1) g) :=
  { h with
    runs := fun s hs => by
      rw [get_runs_changeRun, get_runs_changeRun]
      by_cases he : r = s
      · subst he
        rw [if_pos rfl, if_pos rfl, h.runs r hr, hf]
      · rw [if_neg he, if_neg (fun h => he (Nat.succ.inj h))]
        exact h.runs s hs
    outerRun := by
      rw [get_runs_changeRun, if_neg (Nat.succ_ne_zero r)]
      exact h.outerRun }

theorem changeContext (h : Hosts outer host w v) (c : Nat) {f g : Context → Context}
    (hf : (f (w.contexts.get c)).Mirrors (g (v.contexts.get c))) :
    Hosts outer host (w.changeContext c f) (v.changeContext c g) :=
  { h with
    contexts := fun d => by
      change ((w.contexts.change c f).get d).Mirrors ((v.contexts.change c g).get d)
      rw [Table.get_change, Table.get_change]
      split
      · exact hf
      · exact h.contexts d }

theorem setValues (h : Hosts outer host w v) (c : Nat) (f : Values → Values) :
    Hosts outer host (w.setValues c f) (v.setValues c f) :=
  h.changeContext c
    ⟨congrArg f (h.contexts c).values, (h.contexts c).cancelled, (h.contexts c).listeners⟩

theorem emit (h : Hosts outer host w v) (r s : Nat) (e : Happening) :
    Hosts outer host (w.emit r e) (v.emit s e) :=
  { h with }

theorem setTask (h : Hosts outer host w v) (t : Nat) (task : Task)
    (hc : ∀ r d, task = .conducting r d → t = 0 ∧ r = 0 ∧ d = none) :
    Hosts outer host (w.setTask t task) (v.setTask (t + 1) (task.raised host)) :=
  { h with
    tasks := fun s => by
      change (v.tasks.set _ _).get _ = ((w.tasks.set _ _).get _).raised host
      rw [Table.get_set, Table.get_set]
      by_cases he : t = s
      · rw [if_pos he, if_pos (congrArg (· + 1) he)]
      · rw [if_neg he, if_neg (fun h => he (Nat.succ.inj h))]
        exact h.tasks s
    outerTask := by
      change (v.tasks.set _ _).get _ = _
      rw [Table.get_set, if_neg (Nat.succ_ne_zero t)]
      exact h.outerTask
    conducting := fun s r d hs => by
      change (w.tasks.set _ _).get _ = _ at hs
      rw [Table.get_set] at hs
      split at hs
      · next he => exact he ▸ hc r d hs
      · exact h.conducting s r d hs }

/-! ## Waking -/

theorem wake (h : Hosts outer host w v) (t : Nat) : Hosts outer host (w.wake t) (v.wake (t + 1)) := by
  unfold World.wake
  rw [h.ready.contains]
  split
  · exact h
  · exact { h with ready := h.ready.append (Raised.map_succ [t]) }

theorem wake_first (h : Hosts outer host w v) : Hosts outer host w (v.wake 0) := by
  unfold World.wake
  split
  · exact h
  · refine { h with ready := ?_ }
    have hready : Raised (w.ready ++ []) (v.ready ++ [0]) := h.ready.append rfl
    rwa [List.append_nil] at hready

theorem wakeAll (h : Hosts outer host w v) {xs ys : List Nat} (hx : Raised xs ys) :
    Hosts outer host (w.wakeAll xs) (v.wakeAll ys) := by
  induction ys generalizing xs w v with
  | nil =>
    cases xs with
    | nil => exact h
    | cons x xs => cases hx
  | cons y ys ih =>
    cases y with
    | zero => exact ih h.wake_first hx
    | succ y =>
      cases xs with
      | nil => cases hx
      | cons x xs =>
        obtain ⟨he, hrest⟩ := List.cons.inj hx
        cases he
        exact ih (h.wake y) hrest

theorem listen (h : Hosts outer host w v) (c t : Nat) :
    Hosts outer host (w.listen c t) (v.listen c (t + 1)) := by
  refine h.changeContext c ?_
  have hl := (h.contexts c).listeners
  rw [hl.contains]
  split
  · exact h.contexts c
  · exact { h.contexts c with listeners := hl.append (Raised.map_succ [t]) }

theorem addTimer (h : Hosts outer host w v) (time t : Nat) :
    Hosts outer host (w.addTimer time t) (v.addTimer time (t + 1)) :=
  { h with
    timers := by
      change v.timers ++ _ = (w.timers ++ _).map _
      rw [h.timers, List.map_append]
      rfl }

theorem leave (h : Hosts outer host w v) (c t : Nat) :
    Hosts outer host (w.leave c t) (v.leave c (t + 1)) := by
  have h' := h.changeContext c (f := fun x => { x with listeners := x.listeners.filter (· != t) })
    (g := fun x => { x with listeners := x.listeners.filter (· != t + 1) })
    { h.contexts c with listeners := (h.contexts c).listeners.remove t }
  refine { h' with timers := ?_ }
  change v.timers.filter _ = (w.timers.filter _).map _
  rw [h.timers, List.filter_map]
  congr 1
  refine List.filter_congr fun e _ => ?_
  simp

theorem cancel (h : Hosts outer host w v) (c : Nat) : Hosts outer host (w.cancel c) (v.cancel c) := by
  unfold World.cancel
  dsimp only
  rw [(h.contexts c).cancelled]
  split
  · exact h
  · have h' := h.changeContext c (f := fun x => { x with cancelled := true, listeners := [] })
      (g := fun x => { x with cancelled := true, listeners := [] })
      ⟨(h.contexts c).values, rfl, rfl⟩
    exact h'.wakeAll (h.contexts c).listeners

/-! ## Tasks and permits -/

theorem spawn (h : Hosts outer host w v) (task : Task) (hc : ∀ r d, task ≠ .conducting r d) :
    Hosts outer host (w.spawn task) (v.spawn (task.raised host)) := by
  have h' := h.setTask w.nextTask task fun r d he => absurd he (hc r d)
  unfold World.spawn
  rw [h.nextTask]
  exact { h' with
    nextTask := rfl
    ready := h.ready.append (Raised.map_succ [w.nextTask]) }

theorem spawnIn (h : Hosts outer host w v) {r : Nat} (hr : r < w.nextRun) (task : Task)
    (hc : ∀ r d, task ≠ .conducting r d) :
    Hosts outer host (w.spawnIn r task) (v.spawnIn (r + 1) (task.raised host)) :=
  (h.changeRun hr (by rfl)).spawn task hc

theorem spawnArrivals (h : Hosts outer host w v) {r : Nat} (hr : r < w.nextRun) (source : String)
    (live : Bool) :
    Hosts outer host (w.spawnArrivals r source live) (v.spawnArrivals (r + 1) source live) := by
  unfold World.spawnArrivals
  rw [h.runs r hr,
    show (w.runs.get r).raised.outDegree source = (w.runs.get r).outDegree source from rfl]
  generalize List.range _ = places
  induction places generalizing w v with
  | nil => exact h
  | cons place places ih =>
    exact ih (h.spawnIn hr (.arriving r source place live) (by simp)) hr

theorem close (h : Hosts outer host w v) {r : Nat} (hr : r < w.nextRun) (t : Nat) :
    Hosts outer host (w.close t r) (v.close (t + 1) (r + 1)) := by
  have hclear : Hosts outer host { w with tasks := w.tasks.clear t }
      { v with tasks := v.tasks.clear (t + 1) } :=
    { h with
      tasks := fun s => by
        rw [Table.get_clear, Table.get_clear]
        by_cases he : t = s
        · rw [if_pos he, if_pos (congrArg (· + 1) he)]
          rfl
        · rw [if_neg he, if_neg (fun h => he (Nat.succ.inj h))]
          exact h.tasks s
      outerTask := by
        rw [Table.get_clear, if_neg (Nat.succ_ne_zero t)]
        exact h.outerTask
      conducting := fun s r d hs => by
        rw [Table.get_clear] at hs
        split at hs
        · cases hs
        · exact h.conducting s r d hs }
  have h' := hclear.changeRun (r := r) hr
    (f := fun run => { run with unfinished := run.unfinished - 1 })
    (g := fun run => { run with unfinished := run.unfinished - 1 }) rfl
  unfold World.close
  dsimp only
  rw [h'.runs r hr, Run.unfinished_raised]
  split
  · exact h'.wake _
  · exact h'

theorem release (h : Hosts outer host w v) {r : Nat} (hr : r < w.nextRun) :
    Hosts outer host (w.release r) (v.release (r + 1)) := by
  unfold World.release
  rw [h.runs r hr]
  cases hw : (w.runs.get r).waiting with
  | nil =>
    rw [show (w.runs.get r).raised.waiting = [] from congrArg (List.map _) hw]
    exact h.changeRun hr rfl
  | cons t rest =>
    rw [show (w.runs.get r).raised.waiting = (t + 1) :: rest.map (· + 1) from
      congrArg (List.map _) hw]
    exact (h.changeRun hr (by rfl)).wake t

/-! ## What becomes of a node -/

theorem contextOf (h : Hosts outer host w v) {r : Nat} (hr : r < w.nextRun) :
    (w.contextOf r).Mirrors (v.contextOf (r + 1)) := by
  unfold World.contextOf
  rw [h.runs r hr]
  exact h.contexts _

theorem shouldStop (h : Hosts outer host w v) {r : Nat} (hr : r < w.nextRun) :
    v.shouldStop (r + 1) = w.shouldStop r := by
  unfold World.shouldStop
  rw [(h.contextOf hr).cancelled, h.runs r hr, Run.halted_raised]

theorem setStatus (h : Hosts outer host w v) {r : Nat} (hr : r < w.nextRun) (id : String)
    (status : NodeStatus) :
    Hosts outer host (w.changeRun r fun run => run.setStatus id status)
      (v.changeRun (r + 1) fun run => run.setStatus id status) :=
  h.changeRun hr (Run.raised_changeNode _ _ _)

theorem reportError (h : Hosts outer host w v) (c : Nat) (e : PipelineError) :
    Hosts outer host (w.reportError c e) (v.reportError c e) :=
  h.setValues c _

theorem fail (h : Hosts outer host w v) {r : Nat} (hr : r < w.nextRun) (node : String)
    (e : PipelineError) : Hosts outer host (w.fail r node e) (v.fail (r + 1) node e) := by
  have h' := (h.setStatus hr node .failed).emit r (r + 1) (.nodeFailed node e.message)
  unfold World.fail
  dsimp only
  rw [h'.runs r hr, Run.failure_raised, Run.context_raised]
  refine changeRun ?_ ?_ rfl
  · split
    · exact h'
    · exact (h'.reportError _ e).changeRun hr rfl
  · split <;> exact hr

theorem abandon (h : Hosts outer host w v) {r : Nat} (hr : r < w.nextRun) (node : String) :
    Hosts outer host (w.abandon r node) (v.abandon (r + 1) node) :=
  (h.setStatus hr node .failed).emit r (r + 1) _

theorem skip (h : Hosts outer host w v) {r : Nat} (hr : r < w.nextRun) (node : String) :
    Hosts outer host (w.skip r node) (v.skip (r + 1) node) :=
  ((h.setStatus hr node .skipped).emit r (r + 1) _).spawnArrivals hr node false

theorem verdict (h : Hosts outer host w v) {r : Nat} (hr : r < w.nextRun) (result : Result) :
    v.verdict (r + 1) result = w.verdict r result := by
  unfold World.verdict
  rw [(h.contextOf hr).values, h.runs r hr, Run.failure_raised]

theorem goOn (h : Hosts outer host w v) {r : Nat} (hr : r < w.nextRun) (node : String) :
    Hosts outer host (w.goOn r node) (v.goOn (r + 1) node) := by
  unfold World.goOn
  dsimp only
  rw [(h.contextOf hr).values, h.shouldStop hr, h.runs r hr, Run.context_raised]
  split
  · exact h.changeRun hr rfl
  · split
    · exact h
    · have h' := h.setValues (w.runs.get r).context fun v => Entries.erase v Values.overrideKey
      split
      · exact h'.spawnIn hr (.dispatched r _) (by simp)
      · exact h'.spawnArrivals hr node true

theorem complete (h : Hosts outer host w v) {r : Nat} (hr : r < w.nextRun) (t : Nat) (node : String)
    (result : Result) :
    Hosts outer host (w.complete t r node result) (v.complete (t + 1) (r + 1) node result) := by
  have h' := h.release hr
  have hr' : r < (w.release r).nextRun := (w.nextRun_release r).symm ▸ hr
  unfold World.complete
  dsimp only
  rw [(h'.contextOf hr').cancelled, h'.verdict hr']
  split
  · exact (h'.abandon hr' node).close hr' t
  · split
    · exact (h'.fail hr' node _).close (by rwa [nextRun_fail]) t
    · have hdone := h'.changeRun hr'
        (f := fun run => { run.setStatus node .done with executed := run.executed ++ [node] })
        (g := fun run => { run.setStatus node .done with executed := run.executed ++ [node] })
        (by rw [show (((w.release r).runs.get r).raised.setStatus node .done) =
          (((w.release r).runs.get r).setStatus node .done).raised from
            Run.raised_changeNode _ _ _]; rfl)
      exact ((hdone.emit r (r + 1) (.nodeCompleted node)).goOn hr' node).close
        (by rw [nextRun_goOn]; exact hr') t

/-! ## Executions -/

theorem apply (h : Hosts outer host w v) (c : Nat) (scene : Scene) :
    Hosts outer host (w.apply c scene) (v.apply c scene) := by
  have h' := h.setValues c fun _ => scene.values
  unfold World.apply
  dsimp only
  have hs : ∀ sinks sinks' notes notes', Hosts outer host
      { w.setValues c fun _ => scene.values with sinks := sinks, notes := notes }
      { v.setValues c fun _ => scene.values with sinks := sinks', notes := notes' } :=
    fun _ _ _ _ => { h' with }
  split
  · split <;> split <;> exact (hs _ _ _ _).cancel c
  · split <;> split <;> exact hs _ _ _ _

theorem perform (h : Hosts outer host w v) {r : Nat} (hr : r < w.nextRun) (t : Nat) (node : String)
    (activity : Activity) :
    Hosts outer host (w.perform t r node activity) (v.perform (t + 1) (r + 1) node activity) := by
  unfold World.perform
  dsimp only
  have h' := h.apply (w.runs.get r).context (activity.burst w.network
    ⟨(w.contexts.get (w.runs.get r).context).values,
      (w.contexts.get (w.runs.get r).context).cancelled, [], []⟩).1
  rw [h.runs r hr, Run.context_raised, h.network, (h.contexts _).values, (h.contexts _).cancelled,
    h'.now]
  split
  · exact h'.complete (by rwa [nextRun_apply]) t node _
  · exact ((h'.setTask t (.pausing r node _ _ _) (by simp)).listen _ t).addTimer _ t

/-! ## Runs -/

theorem begin (h : Hosts outer host w v) (graph : Graph Component) (context t : Nat) (limits : Limits) :
    Hosts outer host (w.begin graph context t limits) (v.begin graph context (t + 1) limits) := by
  unfold World.begin
  dsimp only
  rw [h.nextRun]
  refine spawnIn (r := w.nextRun) (emit ?_ w.nextRun (w.nextRun + 1) _) (Nat.lt_succ_self _)
    (.dispatched w.nextRun graph.root) (by simp)
  exact { h with
    runs := fun r hr => by
      rw [Table.get_set, Table.get_set]
      by_cases he : w.nextRun = r
      · rw [if_pos he, if_pos (congrArg (· + 1) he)]
        rfl
      · rw [if_neg he, if_neg (fun h => he (Nat.succ.inj h))]
        exact h.runs r (Nat.lt_of_le_of_ne (Nat.le_of_lt_succ hr) (Ne.symm he))
    outerRun := by
      rw [Table.get_set, if_neg (Nat.succ_ne_zero _)]
      exact h.outerRun
    nextRun := rfl }

theorem isOver (h : Hosts outer host w v) {r : Nat} (hr : r < w.nextRun) :
    v.isOver (r + 1) = w.isOver r := by
  unfold World.isOver
  rw [(h.contextOf hr).cancelled, h.runs r hr, Run.unfinished_raised]

theorem conclude (h : Hosts outer host w v) {r : Nat} (hr : r < w.nextRun) (cancelled : Bool) :
    Hosts outer host (w.conclude r cancelled).1 (v.conclude (r + 1) cancelled).1 ∧
      (v.conclude (r + 1) cancelled).2 = (w.conclude r cancelled).2 := by
  have h' := h.changeRun hr (f := fun run => { run with failure := none })
    (g := fun run => { run with failure := none }) rfl
  unfold World.conclude
  dsimp only
  rw [(h.contextOf hr).cancelled, h.runs r hr, Run.failure_raised, Run.context_raised,
    Run.outcome_raised, Run.ended_raised]
  split
  · exact ⟨h'.emit _ _ _, rfl⟩
  · split
    · exact ⟨((h'.emit _ _ _).changeRun hr (by rfl)).reportError _ _, rfl⟩
    · exact ⟨h'.emit _ _ _, rfl⟩

theorem pollNesting (h : Hosts outer host w v) {r inner : Nat} (hr : r < w.nextRun)
    (hi : inner < w.nextRun) (t : Nat) (node : String) :
    Hosts outer host (w.pollNesting t r node inner)
      (v.pollNesting (t + 1) (r + 1) node (inner + 1)) := by
  unfold World.pollNesting
  dsimp only
  rw [h.isOver hi, h.runs inner hi, Run.context_raised]
  split
  · exact (h.setTask t (.nesting r node inner) (by simp)).listen _ t
  · next cancelled _ =>
    obtain ⟨hc, he⟩ := h.conclude hi cancelled
    have h' := (hc.leave (w.runs.get inner).context t).setValues (w.runs.get inner).context
      fun v => Entries.erase v Values.endKey
    have hi' : inner < (w.conclude inner cancelled).1.nextRun := (w.nextRun_conclude inner _).symm ▸ hi
    rw [he, h'.runs inner hi', Run.graph_raised]
    exact h'.complete ((w.nextRun_conclude inner _).symm ▸ hr) t node _

theorem start (h : Hosts outer host w v) {r : Nat} (hr : r < w.nextRun) (t : Nat) (node : String) :
    Hosts outer host (w.start t r node) (v.start (t + 1) (r + 1) node) := by
  have hback : Hosts outer host ((w.release r).close t r)
      ((v.release (r + 1)).close (t + 1) (r + 1)) :=
    (h.release hr).close (by rwa [nextRun_release]) t
  unfold World.start
  rw [h.shouldStop hr, h.runs r hr, Run.graph_raised]
  split
  · exact hback
  · split
    · exact hback
    · split
      · exact hback
      · next n _ _ component _ _ =>
        have h' := (h.setStatus hr node .running).emit r (r + 1) (.nodeStarted node n.componentId)
        cases component with
        | basic kind activity => exact h'.perform hr t node activity
        | pipeline graph =>
          dsimp only
          rw [h'.runs r hr, Run.context_raised, Run.limits_raised, h'.nextRun]
          exact (h'.begin graph _ t _).pollNesting (Nat.lt_succ_of_lt hr) (Nat.lt_succ_self _) t node

theorem acquire (h : Hosts outer host w v) {r : Nat} (hr : r < w.nextRun) (t : Nat) (node : String) :
    Hosts outer host (w.acquire t r node) (v.acquire (t + 1) (r + 1) node) := by
  unfold World.acquire
  dsimp only
  rw [h.runs r hr, Run.free_raised, Run.context_raised]
  split
  · exact (h.changeRun hr (by rfl)).start hr t node
  · have h' := h.changeRun hr (f := fun run => { run with waiting := run.waiting ++ [t] })
      (g := fun run => { run with waiting := run.waiting ++ [t + 1] })
      (by simp only [Run.raised, List.map_append, List.map_cons, List.map_nil])
    exact (h'.setTask t (.awaiting r node) (by simp)).listen _ t

theorem dispatch (h : Hosts outer host w v) {r : Nat} (hr : r < w.nextRun) (t : Nat) (node : String) :
    Hosts outer host (w.dispatch t r node) (v.dispatch (t + 1) (r + 1) node) := by
  have hfail : ∀ e, Hosts outer host ((w.fail r node e).close t r)
      ((v.fail (r + 1) node e).close (t + 1) (r + 1)) :=
    fun e => (h.fail hr node e).close (by rwa [nextRun_fail]) t
  unfold World.dispatch
  rw [h.shouldStop hr, h.runs r hr, Run.graph_raised, Run.limits_raised]
  split
  · exact h.close hr t
  · split
    · exact hfail _
    · split
      · exact hfail _
      · have h' := h.changeRun hr (f := fun run => { run with steps := run.steps + 1 })
          (g := fun run => { run with steps := run.steps + 1 }) rfl
        dsimp only
        rw [h'.runs r hr, Run.steps_raised]
        split
        · exact (h'.fail hr node _).close (by rw [nextRun_fail]; exact hr) t
        · exact h'.acquire hr t node

theorem isLive (h : Hosts outer host w v) {r : Nat} (hr : r < w.nextRun) (edge : Edge) (live : Bool) :
    v.isLive (r + 1) edge live = w.isLive r edge live := by
  unfold World.isLive
  rw [(h.contextOf hr).values]

theorem arrive (h : Hosts outer host w v) {r : Nat} (hr : r < w.nextRun) (t : Nat) (source : String)
    (place : Nat) (live : Bool) :
    Hosts outer host (w.arrive t r source place live)
      (v.arrive (t + 1) (r + 1) source place live) := by
  unfold World.arrive
  rw [h.shouldStop hr, h.runs r hr,
    show (w.runs.get r).raised.edge? source place = (w.runs.get r).edge? source place from rfl]
  split
  · exact h.close hr t
  · split
    · exact h.close hr t
    · next edge _ =>
      dsimp only
      rw [h.isLive hr]
      split
      · exact (h.fail hr _ _).close (by rwa [nextRun_fail]) t
      · next passed _ =>
        rw [Run.raised_arriveAt]
        have h' := h.changeRun hr (f := fun _ => ((w.runs.get r).arriveAt edge.target passed).1)
          (g := fun _ => ((w.runs.get r).arriveAt edge.target passed).1.raised) rfl
        dsimp only
        split
        · exact h'.close hr t
        · exact (h'.changeRun hr (Run.raised_changeNode _ _ _)).close hr t
        · exact h'.dispatch hr t _
        · exact (h'.skip hr _).close (by unfold World.skip; rw [nextRun_spawnArrivals]; exact hr) t

theorem pollAwaiting (h : Hosts outer host w v) {r : Nat} (hr : r < w.nextRun) (t : Nat)
    (node : String) :
    Hosts outer host (w.pollAwaiting t r node) (v.pollAwaiting (t + 1) (r + 1) node) := by
  unfold World.pollAwaiting
  dsimp only
  rw [(h.contextOf hr).cancelled, h.runs r hr, Run.context_raised,
    show (w.runs.get r).raised.granted.contains (t + 1) = (w.runs.get r).granted.contains t from
      (Raised.map_succ _).contains t]
  split
  · have h' := h.changeRun hr (f := fun run => { run with granted := run.granted.erase t })
      (g := fun run => { run with granted := run.granted.erase (t + 1) })
      (by simp only [Run.raised, List.map_erase (fun _ _ => Nat.succ.inj)])
    exact (h'.leave _ t).start hr t node
  · split
    · have h' := h.changeRun hr (f := fun run => { run with waiting := run.waiting.erase t })
        (g := fun run => { run with waiting := run.waiting.erase (t + 1) })
        (by simp only [Run.raised, List.map_erase (fun _ _ => Nat.succ.inj)])
      exact (h'.leave _ t).close hr t
    · exact h

theorem pollPausing (h : Hosts outer host w v) {r : Nat} (hr : r < w.nextRun) (t : Nat) (node : String)
    (wakeAt : Nat) (next stopped : Activity) :
    Hosts outer host (w.pollPausing t r node wakeAt next stopped)
      (v.pollPausing (t + 1) (r + 1) node wakeAt next stopped) := by
  unfold World.pollPausing
  dsimp only
  rw [(h.contextOf hr).cancelled, h.runs r hr, Run.context_raised, h.now]
  split
  · exact (h.leave _ t).perform hr t node next
  · split
    · exact (h.leave _ t).perform hr t node stopped
    · exact h

/-! ## Going on -/

theorem step (h : Hosts outer host w v) (awake : w.Awake) {t : Nat} (ht : t ≠ 0) :
    Hosts outer host (w.step t) (v.step (t + 1)) := by
  have h' : Hosts outer host { w with ready := w.ready.erase t }
      { v with ready := v.ready.erase (t + 1) } :=
    { h with ready := h.ready.erase t }
  -- A task works for a run that has begun, and those runs correspond.
  have needs : w.Needs t (w.tasks.get t) := awake.alert t
  have hv := h.tasks t
  unfold World.step World.poll
  dsimp only
  rw [hv]
  cases htask : w.tasks.get t with
  | «over» => exact h'
  | launching => exact h'
  | conducting r deadline => exact absurd (h.conducting t r deadline htask).1 ht
  | arriving r source place live =>
    rw [htask] at needs
    exact h'.arrive needs.1 t source place live
  | dispatched r node =>
    rw [htask] at needs
    exact h'.dispatch needs.1 t node
  | awaiting r node =>
    rw [htask] at needs
    exact h'.pollAwaiting needs.1 t node
  | pausing r node wakeAt next stopped =>
    rw [htask] at needs
    exact h'.pollPausing needs.1 t node wakeAt next stopped
  | nesting r node inner =>
    rw [htask] at needs
    exact h'.pollNesting needs.1 needs.2.1 t node

theorem pass (h : Hosts outer host w v) (ms : Nat) :
    Hosts outer host (w.pass ms) (v.pass ms) := by
  unfold World.pass
  dsimp only
  rw [h.now, h.timers, List.filter_map, List.filter_map, List.map_map]
  refine wakeAll ?_ ?_
  · exact { h with
      now := rfl
      timers := rfl }
  · have := Raised.map_succ ((w.timers.filter fun e => decide (e.1 ≤ w.now + ms)).map Prod.snd)
    rwa [List.map_map] at this

end Hosts

end World

end Conduit
