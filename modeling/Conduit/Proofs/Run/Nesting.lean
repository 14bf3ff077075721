import Conduit.Proofs.Run.Hosting
import Conduit.Proofs.Run.Returning

/-!
# Nesting

How a run begins as the execution of a node, and how it ends there. It begins as it does on its own, and
when nothing of it is left to do the node is complete with what the run comes to.
-/

namespace Conduit

namespace World

theorem get_contexts_cancel (w : World) (c d : Nat) : (w.cancel c).contexts.get d =
    if c = d ∧ (w.contexts.get c).cancelled = false then
      { w.contexts.get c with cancelled := true, listeners := [] }
    else w.contexts.get d := by
  unfold cancel
  dsimp only
  split
  · next hc => rw [if_neg fun hd => Bool.false_ne_true (hd.2.symm.trans hc)]
  · next hc =>
    rw [(wakeAll_frame _ _).1]
    refine (Table.get_change _ _ _ _).trans ?_
    simp only [Bool.not_eq_true _ ▸ hc, and_true]

section

variable (w : World) (g : Graph Component) (c t : Nat) (l : Limits)

/-- The world in which a task has taken a permit of a run and has started to execute a node. -/
def admitted (r : Nat) (n : GraphNode Component) (node : String) : World :=
  (((w.changeRun r fun run => { run with steps := run.steps + 1 }).changeRun r fun run =>
    { run with free := run.free - 1 }).changeRun r fun run =>
      run.setStatus node .running).emit r (.nodeStarted node n.componentId)

end

end World

namespace Launch

/-! ## Before the first step -/

/-- The run was launched, and nothing has happened but that time has passed and that other contexts
were cancelled. -/
structure Poised (l : Launch) (w : World) : Prop where
  network : w.network = l.network
  listeners : ∀ c, (w.contexts.get c).listeners = if c = 0 then [0] else []
  goesOn : (w.contexts.get 0).cancelled = false
  run : w.runs.get 0 = (Run.new l.graph 0 0 l.limits.atLeastOne).joinedBy 1
  tasks : ∀ t, w.tasks.get t =
    if t = 0 then .conducting 0 none else if t = 1 then .dispatched 0 l.graph.root else .over
  endings : w.endings.get 0 = none
  nextRun : w.nextRun = 1
  nextTask : w.nextTask = 2
  ready : w.ready = [1]
  timers : w.timers = []

namespace Poised

variable {l : Launch} {w : World}

theorem pass (h : l.Poised w) (ms : Nat) : l.Poised (w.pass ms) := by
  have hw : w.pass ms = { w with now := w.now + ms } := by
    unfold World.pass
    rw [h.timers]
    rfl
  rw [hw]
  exact { h with }

theorem cancel (h : l.Poised w) {c : Nat} (hc : c ≠ 0) : l.Poised (w.cancel c) := by
  have hcontexts := w.get_contexts_cancel c
  have hw : w.cancel c = { w with contexts := (w.cancel c).contexts } := by
    unfold World.cancel
    dsimp only
    split
    · rfl
    · rw [h.listeners c, if_neg hc]
      rfl
  rw [hw]
  exact { h with
    listeners := fun d => by
      rw [hcontexts d]
      split
      · next hd => rw [if_neg (hd.1 ▸ hc)]
      · exact h.listeners d
    goesOn := by
      rw [hcontexts 0, if_neg fun hd => hc hd.1]
      exact h.goesOn }

end Poised

/-! ## Side by side -/

/-- What was launched on its own and within a node has come equally far. -/
structure Abreast (l : Launch) (p : Graph Component) (w v : World) : Prop where
  alone : l.Poised w
  within : { l with graph := p }.Poised v
  contexts : ∀ c, v.contexts.get c = w.contexts.get c
  now : v.now = w.now

namespace Abreast

variable {l : Launch} {p : Graph Component} {w v : World}

theorem pass (h : l.Abreast p w v) (ms : Nat) : l.Abreast p (w.pass ms) (v.pass ms) where
  alone := h.alone.pass ms
  within := h.within.pass ms
  contexts c := by
    unfold World.pass
    rw [(World.wakeAll_frame _ _).1, (World.wakeAll_frame _ _).1]
    exact h.contexts c
  now := by
    unfold World.pass
    rw [(World.wakeAll_frame _ _).2.2.2.1, (World.wakeAll_frame _ _).2.2.2.1]
    exact congrArg (· + ms) h.now

theorem cancel (h : l.Abreast p w v) {c : Nat} (hc : c ≠ 0) : l.Abreast p (w.cancel c) (v.cancel c) where
  alone := h.alone.cancel hc
  within := h.within.cancel hc
  contexts d := by
    rw [World.get_contexts_cancel, World.get_contexts_cancel, h.contexts c, h.contexts d]
  now := by
    have now : ∀ u : World, (u.cancel c).now = u.now := by
      intro u
      unfold World.cancel
      dsimp only
      split
      · rfl
      · exact (World.wakeAll_frame _ _).2.2.2.1
    rw [now, now, h.now]

end Abreast

/-- The run of a node at the root of a graph that executes a pipeline. -/
def outer (l : Launch) (p : Graph Component) : Run :=
  { (Run.new p 0 0 l.limits.atLeastOne).joinedBy 1 with
    steps := 1
    free := l.limits.atLeastOne.parallel - 1 }.setStatus p.root .running

end Launch

/-! ## How a run ends -/

/-- The run executes the node and is going to be over with it. -/
structure Run.Sole (node : String) (run : Run) : Prop where
  context : run.context = 0
  supervisor : run.supervisor = 0
  waiting : run.waiting = []
  halted : run.halted = false
  ended : run.ended = false
  failure : run.failure = none
  executed : run.executed = []
  unfinished : run.unfinished = 1
  outDegree : run.outDegree node = 0

namespace World

/-- Nothing is left to do but to conclude the first run, which comes to the result. -/
structure Concluding (result : RunResult) (values : Values) (w : World) : Prop where
  context : (w.runs.get 0).context = 0
  unfinished : (w.runs.get 0).unfinished = 0
  result : (w.runs.get 0).resultIf false = result
  values : (w.contexts.get 0).values = values
  goesOn : (w.contexts.get 0).cancelled = false
  idle : ∀ t, t ≠ 0 → w.tasks.get t = .over
  conducting : w.tasks.get 0 = .conducting 0 none
  returned : w.returned = none
  ready : 0 ∈ w.ready

/-- The first run was concluded, and nothing is left to do. -/
structure Finished (result : RunResult) (values : Values) (w : World) : Prop where
  returned : w.returned = some (.over result)
  values : (w.contexts.get 0).values = values
  goesOn : (w.contexts.get 0).cancelled = false
  idle : ∀ t, w.tasks.get t = .over

section

variable {w : World} {result : RunResult} {values : Values}

theorem frame_act (w : World) {a : Act} (ha : ∀ t, a ≠ .step t) :
    (w.act a).runs.get = w.runs.get ∧
      ((w.act a).contexts.get 0).values = (w.contexts.get 0).values ∧
      (w.act a).tasks = w.tasks ∧ (w.act a).returned = w.returned ∧
      ∀ t ∈ w.ready, t ∈ (w.act a).ready := by
  cases a with
  | step t => exact absurd rfl (ha t)
  | pass ms =>
    have hv := w.view_pass ms []
    exact ⟨congrArg Stage.runs hv, congrArg (fun S => S.values 0) hv,
      (Prod.mk.inj (roster_wakeAll _ _)).1, congrArg (fun S => S.endings 0) hv,
      fun t ht => mem_ready_wakeAll _ (.inr ht)⟩
  | cancel c =>
    have hv := w.view_cancel c []
    refine ⟨congrArg Stage.runs hv, congrArg (fun S => S.values 0) hv,
      (Prod.mk.inj (w.roster_cancel c)).1, congrArg (fun S => S.endings 0) hv, fun t ht => ?_⟩
    change t ∈ (w.cancel c).ready
    unfold cancel
    dsimp only
    split
    · exact ht
    · exact mem_ready_wakeAll _ (.inr ht)

theorem step_of_over {t : Nat} (h : w.tasks.get t = .over) :
    w.step t = { w with ready := w.ready.erase t } := by
  unfold step poll
  dsimp only
  rw [h]

theorem Finished.act (h : Finished result values w) (a : Act)
    (goesOn : ((w.act a).contexts.get 0).cancelled = false) : Finished result values (w.act a) := by
  by_cases ha : ∃ t, a = .step t
  · obtain ⟨t, rfl⟩ := ha
    change Finished result values (w.step t)
    rw [step_of_over (h.idle t)]
    exact { h with }
  · obtain ⟨-, hvalues, htasks, hreturned, -⟩ := w.frame_act fun t he => ha ⟨t, he⟩
    exact ⟨hreturned.trans h.returned, hvalues.trans h.values, goesOn, htasks.symm ▸ h.idle⟩

theorem conclude_of_open {r : Nat} (goesOn : (w.contextOf r).cancelled = false) :
    (w.conclude r false).1.contexts = w.contexts ∧
      (w.conclude r false).2 = (w.runs.get r).resultIf false := by
  unfold conclude Run.resultIf
  dsimp only
  rw [goesOn]
  cases (w.runs.get r).failure with
  | some e => exact ⟨rfl, rfl⟩
  | none => exact ⟨rfl, rfl⟩

theorem Concluding.finishes (h : Concluding result values w) : Finished result values (w.step 0) := by
  have hover : isOver { w with ready := w.ready.erase 0 } 0 = some false := if_pos h.unfinished
  have hopen : (contextOf { w with ready := w.ready.erase 0 } 0).cancelled = false := by
    rw [← h.goesOn]
    exact congrArg (fun c => (w.contexts.get c).cancelled) h.context
  obtain ⟨hcontexts, hresult⟩ := conclude_of_open hopen
  have hstep : w.step 0 = ((conclude { w with ready := w.ready.erase 0 } 0 false).1.leave 0 0).finish 0
      (.over result) := by
    unfold step poll
    dsimp only
    rw [h.conducting]
    unfold pollConducting
    dsimp only
    rw [hover, h.context]
    dsimp only
    rw [hresult, h.result]
  have hleave : ((w.step 0).contexts.get 0) = { w.contexts.get 0 with
      listeners := (w.contexts.get 0).listeners.filter fun u => u != 0 } := by
    rw [hstep]
    unfold finish leave changeContext
    dsimp only
    rw [Table.get_change, if_pos rfl, hcontexts]
  refine ⟨?_, ?_, ?_, fun t => ?_⟩
  · rw [hstep]
    exact congrArg (Option.map Prod.fst) (Table.get_set_self _ _ _)
  · rw [hleave, ← h.values]
  · rw [hleave, ← h.goesOn]
  · have htasks : (conclude { w with ready := w.ready.erase 0 } 0 false).1.tasks = w.tasks :=
      (Prod.mk.inj (roster_conclude _ 0 false)).1
    rw [hstep]
    unfold finish leave changeContext
    dsimp only
    rw [htasks, Table.get_clear]
    split
    · rfl
    · next ht => exact h.idle t (Ne.symm ht)

theorem Concluding.act (h : Concluding result values w) (a : Act)
    (goesOn : ((w.act a).contexts.get 0).cancelled = false) :
    Concluding result values (w.act a) ∨ Finished result values (w.act a) := by
  by_cases ha : ∃ t, a = .step t
  · obtain ⟨t, rfl⟩ := ha
    by_cases ht : t = 0
    · subst ht
      exact .inr h.finishes
    · left
      change Concluding result values (w.step t)
      rw [step_of_over (h.idle t ht)]
      exact { h with ready := (List.mem_erase_of_ne (Ne.symm ht)).2 h.ready }
  · obtain ⟨hruns, hvalues, htasks, hreturned, hready⟩ := w.frame_act fun t he => ha ⟨t, he⟩
    left
    exact ⟨hruns.symm ▸ h.context, hruns.symm ▸ h.unfinished, hruns.symm ▸ h.result,
      hvalues.trans h.values, goesOn, htasks.symm ▸ h.idle, htasks.symm ▸ h.conducting,
      hreturned.trans h.returned, hready 0 h.ready⟩

variable {t : Nat} {node : String}

/-- The first run is over with the execution of the node by the task. -/
structure Closing (t : Nat) (node : String) (w : World) : Prop where
  run : (w.runs.get 0).Sole node
  goesOn : (w.contexts.get 0).cancelled = false
  other : t ≠ 0
  idle : ∀ u, u ≠ 0 → u ≠ t → w.tasks.get u = .over
  conducting : w.tasks.get 0 = .conducting 0 none
  returned : w.returned = none

theorem Closing.contextOf_release (h : Closing t node w) :
    (w.release 0).contextOf 0 = w.contexts.get 0 :=
  (World.contextOf_release w 0).trans (congrArg w.contexts.get h.run.context)

end

end World

end Conduit
