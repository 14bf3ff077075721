import Conduit.Proofs.Run.Telling
import Conduit.Proofs.Run.Turns

/-!
# Causes

What a deed of an act says of the world in which it is done: something was executed, a task took an
edge, or a node was dispatched that could not be executed.
-/

namespace Conduit

/-- The node has no component that could be executed. -/
def Graph.Lacks (g : Graph Component) (v reason : String) : Prop :=
  ∃ n, g.node? v = some n ∧ n.slot = .unusable reason

theorem arriveAt_eq_nodes (run : Run) (id : String) (live : Bool) :
    (run.arriveAt id live).1 = { run with nodes := (run.arriveAt id live).1.nodes } := by
  unfold Run.arriveAt
  split <;> rfl

namespace World

/-! ## What is dispatched -/

/-- The node whose gate an arrival opens for its execution. -/
def opened? (w : World) (r : Nat) (source : String) (place : Nat) (live : Bool) : Option String :=
  match (w.runs.get r).edge? source place with
  | none => none
  | some edge =>
    match w.isLive r edge live with
    | .error _ => none
    | .ok passed =>
      match ((w.runs.get r).arriveAt edge.target passed).2 with
      | some .fire => some edge.target
      | _ => none

theorem opened?_eq_some {w : World} {r : Nat} {source : String} {place : Nat} {live : Bool}
    {v : String} : w.opened? r source place live = some v ↔ ∃ edge passed,
      (w.runs.get r).edge? source place = some edge ∧ w.isLive r edge live = .ok passed ∧
        ((w.runs.get r).arriveAt edge.target passed).2 = some .fire ∧ edge.target = v := by
  constructor
  · intro h
    unfold opened? at h
    split at h
    · cases h
    next edge hedge =>
    split at h
    · cases h
    next passed hlive =>
    split at h
    · next hfire =>
      cases h
      exact ⟨edge, passed, hedge, hlive, hfire, rfl⟩
    · cases h
  · rintro ⟨edge, passed, hedge, hlive, hfire, rfl⟩
    simp only [opened?, hedge, hlive, hfire]

/-- The node that an act dispatches, and its run: the root, one that a node before it asked for, or
one whose gate opens. A run that should stop dispatches no more. -/
def dispatched? (w : World) : Act → Option (Nat × String)
  | .step t =>
    match w.tasks.get t with
    | .dispatched r node => if w.shouldStop r then none else some (r, node)
    | .arriving r source place live =>
      if w.shouldStop r then none else (w.opened? r source place live).map fun v => (r, v)
    | _ => none
  | .pass _ => none
  | .cancel _ => none

theorem dispatched?_eq_some {w : World} {a : Act} {r : Nat} {v : String} :
    w.dispatched? a = some (r, v) ↔ ∃ t, a = .step t ∧ w.shouldStop r = false ∧
      (w.tasks.get t = .dispatched r v ∨ ∃ source place live,
        w.tasks.get t = .arriving r source place live ∧ w.opened? r source place live = some v) := by
  constructor
  · intro h
    unfold dispatched? at h
    split at h
    · next t =>
      split at h
      · next s node htask =>
        split at h
        · cases h
        next goesOn =>
        cases h
        exact ⟨t, rfl, Bool.eq_false_iff.2 goesOn, .inl htask⟩
      · next s source place live htask =>
        split at h
        · cases h
        next goesOn =>
        obtain ⟨u, hu, he⟩ := Option.map_eq_some_iff.1 h
        cases he
        exact ⟨t, rfl, Bool.eq_false_iff.2 goesOn, .inr ⟨source, place, live, htask, hu⟩⟩
      · cases h
    · cases h
    · cases h
  · rintro ⟨t, rfl, goesOn, htask | ⟨source, place, live, htask, hv⟩⟩
    · simp [dispatched?, htask, goesOn]
    · simp [dispatched?, htask, goesOn, hv]

def arrived (w : World) (r : Nat) (v : String) (passed : Bool) : World :=
  w.changeRun r fun _ => ((w.runs.get r).arriveAt v passed).1

theorem get_arrived (w : World) (r : Nat) (v : String) (passed : Bool) :
    ∃ nodes, (w.arrived r v passed).runs.get r = { w.runs.get r with nodes := nodes } := by
  unfold arrived
  rw [get_runs_changeRun, if_pos rfl]
  exact ⟨_, arriveAt_eq_nodes ..⟩

theorem shouldStop_arrived (w : World) (r : Nat) (v : String) (passed : Bool) :
    (w.arrived r v passed).shouldStop r = w.shouldStop r := by
  obtain ⟨nodes, h⟩ := w.get_arrived r v passed
  unfold shouldStop contextOf
  rw [h]
  rfl

/-! ## What deeds come from -/

/-- Why the dispatch of a node fails. -/
inductive Refuses (w : World) (r : Nat) (v : String) : PipelineError → Prop where
  | unknown (absent : (w.runs.get r).graph.node? v = none) : Refuses w r v (.graph (.nodeNotFound v))
  | unusable {reason : String} (lacks : (w.runs.get r).graph.Lacks v reason) :
      Refuses w r v (.missingComponent v reason)
  | exhausted {n : GraphNode Component} (known : (w.runs.get r).graph.node? v = some n)
      (spent : (w.runs.get r).limits.steps ≤ (w.runs.get r).steps) :
      Refuses w r v (.stepLimitExceeded (w.runs.get r).limits.steps)

theorem Refuses.of_arrived {w : World} {r : Nat} {u v : String} {passed : Bool} {e : PipelineError}
    (h : (w.arrived r u passed).Refuses r v e) : w.Refuses r v e := by
  obtain ⟨nodes, hr⟩ := w.get_arrived r u passed
  cases h with
  | unknown absent => exact .unknown (by rwa [hr] at absent)
  | unusable lacks => exact .unusable (by rwa [hr] at lacks)
  | exhausted known spent =>
    rw [hr] at known spent ⊢
    exact .exhausted known spent

theorem Refuses.of_ready {w : World} {ready : List Nat} {r : Nat} {v : String} {e : PipelineError}
    (h : ({ w with ready := ready } : World).Refuses r v e) : w.Refuses r v e := by
  cases h with
  | unknown absent => exact .unknown absent
  | unusable lacks => exact .unusable lacks
  | exhausted known spent => exact .exhausted (w := w) known spent

/-- The task takes an edge of a run that goes on. -/
structure Takes (w : World) (t r : Nat) (source : String) (place : Nat) (live : Bool) (edge : Edge) :
    Prop where
  task : w.tasks.get t = .arriving r source place live
  goesOn : w.shouldStop r = false
  edge : (w.runs.get r).edge? source place = some edge

namespace Takes

variable {w : World} {t r place : Nat} {source : String} {live passed : Bool} {edge : Edge}

theorem with_ready (takes : w.Takes t r source place live edge) (ready : List Nat) :
    ({ w with ready := ready } : World).Takes t r source place live edge :=
  ⟨takes.task, takes.goesOn, takes.edge⟩

theorem act_eq (takes : w.Takes t r source place live edge) :
    w.act (.step t) = arrive { w with ready := w.ready.erase t } t r source place live := by
  change poll { w with ready := w.ready.erase t } t = _
  unfold poll
  dsimp only
  rw [takes.task]

theorem deeds_eq (takes : w.Takes t r source place live edge) :
    w.deeds (.step t) = arriveDeeds { w with ready := w.ready.erase t } t r source place live := by
  change pollDeeds { w with ready := w.ready.erase t } t = _
  unfold pollDeeds
  dsimp only
  rw [takes.task]

theorem arrive_eq (takes : w.Takes t r source place live edge)
    (answer : w.isLive r edge live = .ok passed) :
    w.arrive t r source place live =
      match ((w.runs.get r).arriveAt edge.target passed).2 with
      | none => (w.arrived r edge.target passed).close t r
      | some .waiting =>
        ((w.arrived r edge.target passed).changeRun r fun run => run.markBlocked edge.target).close t r
      | some .fire => (w.arrived r edge.target passed).dispatch t r edge.target
      | some .skip => ((w.arrived r edge.target passed).skip r edge.target).close t r := by
  unfold arrive
  rw [takes.goesOn, if_neg Bool.false_ne_true, takes.edge]
  dsimp only
  rw [answer]
  rfl

theorem arriveDeeds_eq (takes : w.Takes t r source place live edge)
    (answer : w.isLive r edge live = .ok passed) :
    w.arriveDeeds t r source place live =
      match ((w.runs.get r).arriveAt edge.target passed).2 with
      | none => askDeeds r source edge live
      | some .fire => (w.arrived r edge.target passed).dispatchDeeds t r edge.target ++
          .delivered r source edge.target passed :: askDeeds r source edge live
      | _ => .delivered r source edge.target passed :: askDeeds r source edge live := by
  unfold arriveDeeds
  rw [takes.goesOn, if_neg Bool.false_ne_true, takes.edge]
  dsimp only
  rw [answer]
  dsimp only
  cases ((w.runs.get r).arriveAt edge.target passed).2 with
  | none => rfl
  | some arrival => cases arrival <;> rfl

end Takes

/-- What a deed of an act comes from. -/
inductive Causes (w : World) : Act → Deed → Prop where
  | execution {a : Act} {d : Deed} (h : d.isOfExecution) : Causes w a d
  | question {t r place : Nat} {source : String} {live : Bool} {edge : Edge}
      (takes : w.Takes t r source place live edge) : Causes w (.step t) (.asked r source edge.target)
  | unclear {t r place : Nat} {source : String} {live : Bool} {edge : Edge} {e : Condition.EvalError}
      (takes : w.Takes t r source place live edge) (failed : w.isLive r edge live = .error e) :
      Causes w (.step t) (.failed r edge.target (.conditionEval source edge.target e.message))
  | arrival {t r place : Nat} {source : String} {live passed : Bool} {edge : Edge} {s : NodeState}
      (takes : w.Takes t r source place live edge) (answer : w.isLive r edge live = .ok passed)
      (known : (w.runs.get r).nodes.get? edge.target = some s) :
      Causes w (.step t) (.delivered r source edge.target passed)
  | refusal {a : Act} {r : Nat} {v : String} {e : PipelineError}
      (dispatched : w.dispatched? a = some (r, v)) (refuses : w.Refuses r v e) :
      Causes w a (.failed r v e)

section

variable {w : World} {t r : Nat} {d : Deed}

theorem Causes.of_ready {ready : List Nat} {a : Act}
    (h : ({ w with ready := ready } : World).Causes a d) : w.Causes a d := by
  cases h with
  | execution h => exact .execution h
  | question takes => exact .question (takes.with_ready w.ready)
  | unclear takes failed => exact .unclear (takes.with_ready w.ready) failed
  | arrival takes answer known => exact .arrival (takes.with_ready w.ready) answer known
  | refusal dispatched refuses => exact .refusal dispatched refuses.of_ready

theorem cases_dispatchDeeds {node : String} (h : d ∈ w.dispatchDeeds t r node) :
    d.isOfExecution ∨ w.shouldStop r = false ∧ ∃ e, d = .failed r node e ∧ w.Refuses r node e := by
  unfold dispatchDeeds at h
  split at h
  · cases h
  next goesOn =>
  have refused : ∀ {e : PipelineError}, d ∈ [Deed.failed r node e] → w.Refuses r node e →
      d.isOfExecution ∨ w.shouldStop r = false ∧ ∃ e, d = .failed r node e ∧ w.Refuses r node e :=
    fun hd hr => .inr ⟨Bool.eq_false_iff.2 goesOn, _, List.mem_singleton.1 hd, hr⟩
  split at h
  · next absent => exact refused h (.unknown absent)
  next n known =>
  split at h
  · next slot => exact refused h (.unusable ⟨n, known, slot⟩)
  dsimp only at h
  split at h
  · next spent =>
    -- The limit is compared with the steps after this one was counted.
    rw [get_runs_changeRun, if_pos rfl] at spent
    exact refused h (.exhausted known (Nat.le_of_lt_succ spent))
  unfold acquireDeeds at h
  split at h
  · exact .inl (ofExecution_startDeeds _ t r node d h)
  · cases h

theorem cause_of_mem_arriveDeeds {source : String} {place : Nat} {live : Bool}
    (task : w.tasks.get t = .arriving r source place live)
    (h : d ∈ w.arriveDeeds t r source place live) : w.Causes (.step t) d := by
  by_cases stops : w.shouldStop r
  · rw [arriveDeeds, if_pos stops] at h
    cases h
  have goesOn : w.shouldStop r = false := Bool.eq_false_iff.2 stops
  cases hedge : (w.runs.get r).edge? source place with
  | none =>
    rw [arriveDeeds, if_neg stops, hedge] at h
    cases h
  | some edge =>
  have takes : w.Takes t r source place live edge := ⟨task, goesOn, hedge⟩
  have asks : d ∈ askDeeds r source edge live → w.Causes (.step t) d := by
    intro hd
    rcases askDeeds_cases r source edge live with hn | ⟨-, hn⟩ <;> rw [hn] at hd
    · cases hd
    · rw [List.mem_singleton.1 hd]
      exact .question takes
  cases answer : w.isLive r edge live with
  | error e =>
    rw [arriveDeeds, if_neg stops, hedge] at h
    dsimp only at h
    rw [answer] at h
    rcases List.mem_cons.1 h with rfl | h
    · exact .unclear takes answer
    · exact asks h
  | ok passed =>
  rw [takes.arriveDeeds_eq answer] at h
  cases known : (w.runs.get r).nodes.get? edge.target with
  | none =>
    -- Without a gate no arrival is counted, and only the question is left.
    rw [show (w.runs.get r).arriveAt edge.target passed = (w.runs.get r, none) by
      simp only [Run.arriveAt, known]] at h
    exact asks h
  | some s =>
  have counts : d ∈ .delivered r source edge.target passed :: askDeeds r source edge live →
      w.Causes (.step t) d := by
    intro hd
    rcases List.mem_cons.1 hd with rfl | hd
    · exact .arrival takes answer known
    · exact asks hd
  split at h
  · exact asks h
  · next fires =>
    rcases List.mem_append.1 h with h | h
    · rcases cases_dispatchDeeds h with h | ⟨-, e, rfl, refuses⟩
      · exact .execution h
      · have hopened : w.opened? r source place live = some edge.target :=
          opened?_eq_some.2 ⟨edge, passed, hedge, answer, fires, rfl⟩
        exact .refusal (dispatched?_eq_some.2 ⟨t, rfl, goesOn, .inr ⟨source, place, live, task,
          hopened⟩⟩) refuses.of_arrived
    · exact counts h
  · exact counts h

theorem cause_of_mem_deeds {a : Act} (h : d ∈ w.deeds a) : w.Causes a d := by
  cases a with
  | pass ms => cases h
  | cancel c => cases h
  | step t =>
    change d ∈ pollDeeds { w with ready := w.ready.erase t } t at h
    unfold pollDeeds at h
    split at h
    · cases h
    · cases h
    · exact .execution (ofExecution_conductingDeeds _ _ _ d h)
    · next task => exact (cause_of_mem_arriveDeeds task h).of_ready
    · next task =>
      rcases cases_dispatchDeeds h with h | ⟨goesOn, e, rfl, refuses⟩
      · exact .execution h
      · exact .refusal (dispatched?_eq_some.2 ⟨t, rfl, goesOn, .inl task⟩) refuses.of_ready
    · exact .execution (ofExecution_awaitingDeeds _ t _ _ d h)
    · exact .execution (ofExecution_pausingDeeds _ _ _ _ _ _ _ d h)
    · exact .execution (ofExecution_nestingDeeds _ t _ _ _ d h)

end

end World

end Conduit
