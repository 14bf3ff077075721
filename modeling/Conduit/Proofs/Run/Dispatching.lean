import Conduit.Proofs.Run.Causes
import Conduit.Proofs.Run.Failures

/-!
# Dispatching

A step dispatches at most one node. Only a node that was dispatched waits for a permit, and a node
that cannot be used fails when it is dispatched, at the cost of no step.
-/

namespace Conduit

namespace World

/-! ## Who waits for a permit -/

def inLine (w : World) : Set (Nat × String) := {p | ∃ t, w.tasks.get t = .awaiting p.1 p.2}

theorem inLine_congr {v w : World} (h : v.roster = w.roster) : v.inLine = w.inLine := by
  unfold inLine
  rw [(Prod.mk.inj h).1]

section

variable (w : World) {t r : Nat} {node : String}

theorem inLine_setTask (t : Nat) {task : Task} (h : ∀ r v, task ≠ .awaiting r v) :
    (w.setTask t task).inLine ⊆ w.inLine := by
  rintro p ⟨s, hs⟩
  change (w.tasks.set t task).get s = _ at hs
  rw [Table.get_set] at hs
  split at hs
  · exact absurd hs (h _ _)
  · exact ⟨s, hs⟩

theorem inLine_clear (t : Nat) : ({ w with tasks := w.tasks.clear t } : World).inLine ⊆ w.inLine := by
  rintro p ⟨s, hs⟩
  change (w.tasks.clear t).get s = _ at hs
  rw [Table.get_clear] at hs
  split at hs
  · cases hs
  · exact ⟨s, hs⟩

theorem inLine_close (t r : Nat) : (w.close t r).inLine ⊆ w.inLine := by
  rcases close_eq w t r with h | h <;> rw [h]
  · exact w.inLine_clear t
  · rw [inLine_congr (roster_wake ..)]
    exact w.inLine_clear t

theorem inLine_spawnIn (r : Nat) {task : Task} (h : ∀ r v, task ≠ .awaiting r v) :
    (w.spawnIn r task).inLine ⊆ w.inLine :=
  w.inLine_setTask w.nextTask h

theorem inLine_spawnArrivals (r : Nat) (source : String) (live : Bool) :
    (w.spawnArrivals r source live).inLine ⊆ w.inLine := by
  unfold spawnArrivals
  generalize List.range _ = places
  induction places generalizing w with
  | nil => exact subset_rfl
  | cons place places ih => exact (ih _).trans (w.inLine_spawnIn r nofun)

theorem inLine_skip (r : Nat) (node : String) : (w.skip r node).inLine ⊆ w.inLine := by
  unfold skip
  exact inLine_spawnArrivals _ r node false

theorem inLine_goOn (r : Nat) (node : String) : (w.goOn r node).inLine ⊆ w.inLine := by
  unfold goOn
  dsimp only
  split
  · exact subset_rfl
  split
  · exact subset_rfl
  split
  · exact inLine_spawnIn _ r nofun
  · exact inLine_spawnArrivals _ r node true

theorem inLine_complete (t r : Nat) (node : String) (result : Result) :
    (w.complete t r node result).inLine ⊆ w.inLine := by
  unfold complete
  dsimp only
  refine (inLine_close _ t r).trans ?_
  rw [← inLine_congr (roster_release w r)]
  split
  · rw [inLine_congr (roster_abandon ..)]
  split
  · rw [inLine_congr (roster_fail ..)]
  · exact inLine_goOn _ r node

theorem inLine_perform (t r : Nat) (node : String) (activity : Activity) :
    (w.perform t r node activity).inLine ⊆ w.inLine := by
  unfold perform
  dsimp only
  rw [← inLine_congr (roster_apply w (w.runs.get r).context (activity.burst w.network
    ⟨(w.contexts.get (w.runs.get r).context).values,
      (w.contexts.get (w.runs.get r).context).cancelled, [], []⟩).1)]
  split
  · exact inLine_complete _ t r node _
  · exact inLine_setTask _ t nofun

theorem inLine_pollNesting (t r : Nat) (node : String) (inner : Nat) :
    (w.pollNesting t r node inner).inLine ⊆ w.inLine := by
  unfold pollNesting
  dsimp only
  split
  · exact w.inLine_setTask t nofun
  · refine (inLine_complete _ t r node _).trans ?_
    exact (inLine_congr (roster_conclude ..)).subset

theorem inLine_finish (t : Nat) (ending : Ending) : (w.finish t ending).inLine ⊆ w.inLine :=
  w.inLine_clear t

theorem inLine_pollConducting (t r : Nat) (deadline : Option Nat) :
    (w.pollConducting t r deadline).inLine ⊆ w.inLine := by
  unfold pollConducting
  dsimp only
  split
  · exact (inLine_finish _ t _).trans (inLine_congr (roster_conclude ..)).subset
  split
  · refine (inLine_finish _ t _).trans ?_
    exact (inLine_congr ((roster_conclude ..).trans (roster_cancel ..))).subset
  · exact w.inLine_setTask t nofun

theorem inLine_begin (graph : Graph Component) (context supervisor : Nat) (limits : Limits) :
    (w.begin graph context supervisor limits).inLine ⊆ w.inLine := by
  unfold begin
  exact inLine_spawnIn _ w.nextRun nofun

theorem inLine_conduct (t : Nat) (graph : Graph Component) (context : Nat) (limits : Limits)
    (timeout : Option Nat) : (w.conduct t graph context limits timeout).inLine ⊆ w.inLine := by
  unfold conduct
  dsimp only
  split
  · exact inLine_finish _ t .brokenOff
  · refine (inLine_pollConducting _ t _ _).trans (Set.Subset.trans ?_ (w.inLine_begin graph context t limits))
    split <;> exact subset_rfl

theorem inLine_start (t r : Nat) (node : String) : (w.start t r node).inLine ⊆ w.inLine := by
  have hback : ((w.release r).close t r).inLine ⊆ w.inLine :=
    (inLine_close _ t r).trans (inLine_congr (roster_release ..)).subset
  unfold start
  split
  · exact hback
  split
  · exact hback
  split
  · exact hback
  next component _ _ =>
  cases component with
  | basic kind activity => exact inLine_perform _ t r node activity
  | pipeline graph => exact (inLine_pollNesting _ t r node _).trans (inLine_begin ..)

theorem inLine_dispatch (t r : Nat) (node : String) :
    (w.dispatch t r node).inLine ⊆ w.inLine ∪ {p | w.shouldStop r = false ∧ p = (r, node)} := by
  have hfail : ∀ (v : World) e, ((v.fail r node e).close t r).inLine ⊆ v.inLine :=
    fun v e => (inLine_close _ t r).trans (inLine_congr (roster_fail ..)).subset
  unfold dispatch acquire
  split
  · exact (w.inLine_close t r).trans Set.subset_union_left
  next goesOn =>
  split
  · exact (hfail w _).trans Set.subset_union_left
  split
  · exact (hfail w _).trans Set.subset_union_left
  dsimp only
  split
  · exact (hfail _ _).trans Set.subset_union_left
  split
  · exact (inLine_start _ t r node).trans Set.subset_union_left
  · rintro p ⟨s, hs⟩
    change (w.tasks.set t (.awaiting r node)).get s = _ at hs
    rw [Table.get_set] at hs
    split at hs
    · cases hs
      exact .inr ⟨Bool.eq_false_iff.2 goesOn, rfl⟩
    · exact .inl ⟨s, hs⟩

theorem inLine_arrive (t r : Nat) (source : String) (place : Nat) (live : Bool) :
    (w.arrive t r source place live).inLine ⊆ w.inLine ∪
      {p | w.shouldStop r = false ∧ p.1 = r ∧ w.opened? r source place live = some p.2} := by
  unfold arrive
  split
  · exact (w.inLine_close t r).trans Set.subset_union_left
  next goesOn =>
  split
  · exact (w.inLine_close t r).trans Set.subset_union_left
  next edge hedge =>
  dsimp only
  split
  · refine ((inLine_close _ t r).trans ?_).trans Set.subset_union_left
    exact (inLine_congr (roster_fail ..)).subset
  next passed hlive =>
  split
  · exact (inLine_close _ t r).trans Set.subset_union_left
  · exact (inLine_close _ t r).trans Set.subset_union_left
  · next hfire =>
    refine (inLine_dispatch _ t r _).trans (Set.union_subset_union_right _ ?_)
    rintro p ⟨-, rfl⟩
    exact ⟨Bool.eq_false_iff.2 goesOn, rfl, opened?_eq_some.2 ⟨edge, passed, hedge, hlive, hfire, rfl⟩⟩
  · exact ((inLine_close _ t r).trans (inLine_skip ..)).trans Set.subset_union_left

theorem inLine_pollAwaiting (t r : Nat) (node : String) :
    (w.pollAwaiting t r node).inLine ⊆ w.inLine := by
  unfold pollAwaiting
  dsimp only
  split
  · exact inLine_start _ t r node
  split
  · exact inLine_close _ t r
  · exact subset_rfl

theorem inLine_pollPausing (t r : Nat) (node : String) (wakeAt : Nat) (next stopped : Activity) :
    (w.pollPausing t r node wakeAt next stopped).inLine ⊆ w.inLine := by
  unfold pollPausing
  dsimp only
  split
  · exact inLine_perform _ t r node next
  split
  · exact inLine_perform _ t r node stopped
  · exact subset_rfl

theorem inLine_act (a : Act) : (w.act a).inLine ⊆ w.inLine ∪ {p | w.dispatched? a = some p} := by
  cases a with
  | pass ms => exact (inLine_congr (roster_wakeAll ..)).subset.trans Set.subset_union_left
  | cancel c => exact (inLine_congr (roster_cancel ..)).subset.trans Set.subset_union_left
  | step t =>
    change (poll { w with ready := w.ready.erase t } t).inLine ⊆ _
    unfold poll
    dsimp only
    cases htask : w.tasks.get t with
    | «over» | launching => exact Set.subset_union_left
    | conducting r deadline => exact (inLine_pollConducting _ t r deadline).trans Set.subset_union_left
    | arriving r source place live =>
      refine (inLine_arrive _ t r source place live).trans (Set.union_subset_union_right _ ?_)
      rintro ⟨_, v⟩ ⟨goesOn, rfl, hv⟩
      exact dispatched?_eq_some.2 ⟨t, rfl, goesOn, .inr ⟨source, place, live, htask, hv⟩⟩
    | dispatched r node =>
      refine (inLine_dispatch _ t r node).trans (Set.union_subset_union_right _ ?_)
      rintro _ ⟨goesOn, rfl⟩
      exact dispatched?_eq_some.2 ⟨t, rfl, goesOn, .inl htask⟩
    | awaiting r node => exact (inLine_pollAwaiting _ t r node).trans Set.subset_union_left
    | pausing r node wakeAt next stopped =>
      exact (inLine_pollPausing _ t r node wakeAt next stopped).trans Set.subset_union_left
    | nesting r node inner => exact (inLine_pollNesting _ t r node inner).trans Set.subset_union_left

end

/-! ## Nodes that cannot be used -/

section

variable {w : World} {t r s : Nat} {node u v reason : String}

theorem dispatched?_of_missing {a : Act}
    (h : .failed r u (.missingComponent v reason) ∈ w.deeds a) :
    u = v ∧ w.dispatched? a = some (r, v) ∧ (w.runs.get r).graph.Lacks v reason := by
  cases cause_of_mem_deeds h with
  | execution h => cases h
  | refusal dispatched refuses =>
    cases refuses with
    | unusable lacks => exact ⟨rfl, dispatched, lacks⟩

/-- An act that dispatches a node has at most counted an arrival at its gate before. -/
theorem dispatch_of_act {a : Act} (h : w.dispatched? a = some (r, v)) :
    ∃ t x news, w.act a = dispatch x t r v ∧ w.deeds a = x.dispatchDeeds t r v ++ news ∧
      (∀ d ∈ news, d.isPlain) ∧ x.shouldStop r = false ∧
      ∃ nodes, x.runs.get r = { w.runs.get r with nodes := nodes } := by
  obtain ⟨t, rfl, goesOn, htask | ⟨source, place, live, htask, opened⟩⟩ := dispatched?_eq_some.1 h
  · refine ⟨t, { w with ready := w.ready.erase t }, [], ?_, ?_, nofun, goesOn, _, rfl⟩
    · change poll { w with ready := w.ready.erase t } t = _
      unfold poll
      dsimp only
      rw [htask]
    · change pollDeeds { w with ready := w.ready.erase t } t = _
      unfold pollDeeds
      dsimp only
      rw [htask, List.append_nil]
  · obtain ⟨edge, passed, hedge, answer, fires, rfl⟩ := opened?_eq_some.1 opened
    have takes : w.Takes t r source place live edge := ⟨htask, goesOn, hedge⟩
    have hact := takes.act_eq.trans ((takes.with_ready (w.ready.erase t)).arrive_eq answer)
    have hdeeds := takes.deeds_eq.trans ((takes.with_ready (w.ready.erase t)).arriveDeeds_eq answer)
    rw [fires] at hact hdeeds
    refine ⟨t, arrived { w with ready := w.ready.erase t } r edge.target passed,
      .delivered r source edge.target passed :: askDeeds r source edge live, hact, hdeeds, ?_,
      (shouldStop_arrived ..).trans goesOn, get_arrived ..⟩
    refine List.forall_mem_cons.2 ⟨rfl, fun d hd => ?_⟩
    rcases askDeeds_cases r source edge live with hn | ⟨-, hn⟩ <;> rw [hn] at hd
    · cases hd
    · rw [List.mem_singleton.1 hd]
      rfl

theorem deeds_of_lacks {a : Act} (h : w.dispatched? a = some (r, v))
    (lacks : (w.runs.get r).graph.Lacks v reason) :
    ∃ news, w.deeds a = .failed r v (.missingComponent v reason) :: news ∧ ∀ d ∈ news, d.isPlain := by
  obtain ⟨t, x, news, -, hd, plain, goesOn, nodes, hx⟩ := dispatch_of_act h
  obtain ⟨n, hn, slot⟩ := lacks
  refine ⟨news, ?_, plain⟩
  rw [hd]
  unfold dispatchDeeds
  rw [goesOn, if_neg Bool.false_ne_true, hx, hn]
  dsimp only
  rw [slot]
  rfl

theorem steps_close (t q : Nat) : ((w.close t q).runs.get r).steps = (w.runs.get r).steps := by
  have hclosed : ((w.closed t q).runs.get r).steps = (w.runs.get r).steps := by
    unfold closed
    rw [get_runs_changeRun]
    split
    · next h => rw [h]
    · rfl
  rcases close_eq w t q with h | h <;> rw [h]
  · exact hclosed
  · rw [runs_wake]
    exact hclosed

theorem steps_fail (q : Nat) (node : String) (e : PipelineError) :
    ((w.fail q node e).runs.get r).steps = (w.runs.get r).steps := by
  have hs := congrArg (fun S => (S.runs r).steps) (stage_fail w 0 .over [] q node e)
  exact hs.trans (Stage.lasting_fail (f := Run.steps) _ q (fun _ _ _ _ => rfl) node e)

theorem steps_of_lacks {a : Act} (h : w.dispatched? a = some (r, v))
    (lacks : (w.runs.get r).graph.Lacks v reason) :
    ((w.act a).runs.get r).steps = (w.runs.get r).steps := by
  obtain ⟨t, x, news, ha, -, -, goesOn, nodes, hx⟩ := dispatch_of_act h
  obtain ⟨n, hn, slot⟩ := lacks
  rw [ha]
  unfold dispatch
  rw [goesOn, if_neg Bool.false_ne_true, hx, hn]
  dsimp only
  rw [slot]
  dsimp only
  rw [steps_close, steps_fail, hx]

end

end World

end Conduit
