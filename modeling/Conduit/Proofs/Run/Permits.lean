import Conduit.Proofs.Run.Protocol

/-!
# Permits

A run has so many permits, and whoever executes a node for it holds one. A permit is free, handed to a
task that has been woken, or held by an execution until the step in which the execution ends, so none
is lost and none is given back twice. Nobody is left waiting for permits that nobody has.
-/

namespace Conduit

/-! ## Permits and executions -/

theorem Matched.card_le {pipeline : String} {limit : Nat} {events : List Happening}
    {executing : Multiset String} {refused : List (String × String)}
    (h : Matched pipeline limit events executing refused) : executing.card ≤ limit := by
  induction h with
  | begin => exact Nat.zero_le _
  | start node _ _ room _ => exact (Multiset.card_cons node _).trans_le room
  | complete _ ih | fail _ _ ih =>
    rw [Multiset.card_cons] at ih
    exact (Nat.le_succ _).trans ih
  | refuse _ _ _ ih | skip _ _ ih | conclude _ _ _ ih => exact ih

namespace World

variable {w : World} {r t : Nat}

/-- Between two steps, who holds a permit executes a node. -/
theorem card_executing (w : World) (L : List Deed) (r : Nat) :
    (w.executing r).card = crewCount Duty.holds r (w.view L).crew := by
  rw [crewCount_view, ← Multiset.countP_eq_card_filter]
  unfold executing
  induction Multiset.range w.nextTask using Multiset.induction with
  | empty => rfl
  | cons t ts ih =>
    rw [Multiset.cons_bind, Multiset.card_add, ih, Multiset.countP_cons, add_comm]
    congr 1
    cases w.tasks.get t with
    | pausing s node wakeAt next stopped | nesting s node inner =>
      by_cases hs : s = r <;>
        simp [Task.executing, Task.phase, Phase.worksFor, Duty.holds, hs]
    | _ => simp [Task.executing, Task.phase, Phase.worksFor, Duty.holds]

/-- The tasks of a run that wait for a permit or have not taken the one that they were handed. -/
def queue (w : World) (r : Nat) : List Nat := (w.runs.get r).waiting ++ (w.runs.get r).granted

theorem worksFor_queues (task : Task) (r : Nat) :
    task.phase.worksFor Duty.queues r = task.awaits r := by
  cases task <;> simp [Task.phase, Phase.worksFor, Duty.queues, Task.awaits]

/-! ## Executions end in their own steps -/

theorem executing_complete (w : World) (t r : Nat) (node : String) (result : Result) :
    (w.complete t r node result).tasks.get t = .over := get_tasks_close ..

theorem executing_perform (w : World) (t r : Nat) (node : String) (activity : Activity) :
    ((w.perform t r node activity).tasks.get t).executing r = {node} ∨
      (w.perform t r node activity).tasks.get t = .over := by
  unfold perform
  dsimp only
  split
  · exact .inr (executing_complete ..)
  · refine .inl ((congrArg (Task.executing r) (Table.get_set_self _ _ _)).trans ?_)
    exact if_pos rfl

theorem executing_pollPausing {wakeAt : Nat} {node : String} {next stopped : Activity}
    (ht : w.tasks.get t = .pausing r node wakeAt next stopped) :
    ((w.pollPausing t r node wakeAt next stopped).tasks.get t).executing r = {node} ∨
      (w.pollPausing t r node wakeAt next stopped).tasks.get t = .over := by
  unfold pollPausing
  dsimp only
  split
  · exact executing_perform ..
  split
  · exact executing_perform ..
  · exact .inl (ht ▸ if_pos rfl)

theorem executing_pollNesting (w : World) (t r : Nat) (node : String) (inner : Nat) :
    ((w.pollNesting t r node inner).tasks.get t).executing r = {node} ∨
      (w.pollNesting t r node inner).tasks.get t = .over := by
  unfold pollNesting
  dsimp only
  split
  · refine .inl ((congrArg (Task.executing r) (Table.get_set_self _ _ _)).trans ?_)
    exact if_pos rfl
  · exact .inr (executing_complete ..)

theorem eq_of_executing {s : Nat} {v node : String} {task : Task}
    (he : (w.tasks.get t).executing r = {node}) (ht : w.tasks.get t = task)
    (hv : task.executing r = if s = r then {v} else 0) : s = r ∧ v = node := by
  rw [ht, hv] at he
  split at he
  · next hs => exact ⟨hs, Multiset.singleton_inj.1 he⟩
  · exact absurd he (Multiset.singleton_ne_zero node).symm

theorem executing_step {node : String} (he : (w.tasks.get t).executing r = {node}) :
    ((w.step t).tasks.get t).executing r = {node} ∨ (w.step t).tasks.get t = .over := by
  unfold step poll
  dsimp only
  cases ht : w.tasks.get t with
  | pausing s v wakeAt next stopped =>
    obtain ⟨rfl, rfl⟩ := eq_of_executing he ht rfl
    exact executing_pollPausing ht
  | nesting s v inner =>
    obtain ⟨rfl, rfl⟩ := eq_of_executing he ht rfl
    exact executing_pollNesting ..
  | _ =>
    rw [ht] at he
    exact absurd he (Multiset.singleton_ne_zero node).symm

end World

section

variable {l : Launch} {past : List (World × Act)} {w : World} {r : Nat}

theorem Course.executing_act (h : Course l.world past w) (a : Act) {t : Nat} {node : String}
    (he : (w.tasks.get t).executing r = {node}) :
    ((w.act a).tasks.get t).executing r = {node} ∨
      a = .step t ∧ (w.act a).tasks.get t = .over := by
  have hlt : t < w.nextTask := by
    by_contra hge
    rw [h.awake.beyond t (Nat.le_of_not_lt hge)] at he
    exact absurd he (Multiset.singleton_ne_zero node).symm
  cases a with
  | step u =>
    by_cases hu : t = u
    · subst hu
      exact (World.executing_step he).imp_right fun ho => ⟨rfl, ho⟩
    · exact .inl (h.awake.tasks_step hu hlt ▸ he)
  | pass ms =>
    have hk : (w.pass ms).tasks = w.tasks := (Prod.mk.inj (World.roster_wakeAll _ _)).1
    exact .inl ((congrArg (fun tasks => (Table.get tasks t).executing r) hk).trans he)
  | cancel c =>
    have hk : (w.cancel c).tasks = w.tasks := (Prod.mk.inj (w.roster_cancel c)).1
    exact .inl ((congrArg (fun tasks => (Table.get tasks t).executing r) hk).trans he)

/-- The tasks that wait for a permit stand in the queue, each once. -/
theorem Course.queue_exact (h : Course l.world past w) (hr : r < w.nextRun) :
    (w.queue r).Nodup ∧ ∀ t, t ∈ w.queue r ↔ (w.tasks.get t).awaits r := by
  have hperm : ((List.range w.nextTask).filter fun t => (w.tasks.get t).awaits r).Perm
      (w.queue r) := by
    refine (List.subperm_of_subset (List.nodup_range.filter _) fun t ht => ?_).perm_of_length_le ?_
    · have hw := (List.mem_filter.1 ht).2
      have ha := h.awake.alert t
      unfold World.Alert World.Needs at ha
      cases htask : w.tasks.get t with
      | awaiting s node =>
        rw [htask] at hw ha
        obtain rfl : s = r := eq_of_beq hw
        exact List.mem_append.2 (ha.2.1.imp_right And.left)
      | _ =>
        rw [htask] at hw
        cases hw
    · have hq := (h.tally hr).queue
      rw [World.crewCount_view] at hq
      simp only [World.worksFor_queues] at hq
      rw [World.queue, List.length_append]
      refine (hq.trans (congrArg List.length (List.filter_congr fun t _ => ?_))).le
      exact Bool.decide_eq_true
  refine ⟨hperm.nodup_iff.1 (List.nodup_range.filter _), fun t => ?_⟩
  rw [← hperm.mem_iff, List.mem_filter, List.mem_range]
  refine and_iff_right_of_imp fun hw => ?_
  by_contra hge
  rw [h.awake.beyond t (Nat.le_of_not_lt hge)] at hw
  cases hw

/-- Every permit of a run is free, handed to a task in the queue, or held by an execution. -/
theorem Course.permits_add (h : Course l.world past w) (hr : r < w.nextRun) :
    (w.runs.get r).free + (w.runs.get r).granted.length + (w.executing r).card =
      (w.runs.get r).limits.parallel := by
  rw [w.card_executing (l.allDeeds past)]
  exact (h.tally hr).permits

theorem Course.matched (h : Course l.world past w) (hr : r < w.nextRun) :
    ∃ pipeline refused, Matched pipeline (max l.limits.parallel 1) (w.happenings r) (w.executing r)
      refused := by
  by_cases fits : l.Fits
  · exact ⟨_, _, (h.sound fits hr).matched⟩
  · obtain ⟨cancelled, hv⟩ := h.view_of_not_fits fits
    have hn : w.nextRun = 1 := congrArg Stage.nextRun hv
    obtain rfl : r = 0 := Nat.lt_one_iff.1 (hr.trans_eq hn)
    rw [← w.happeningsIn_view (l.allDeeds past), ← w.executingIn_view (l.allDeeds past), hv]
    exact ⟨l.graph.pipeline, [], .begin⟩

theorem Course.ready_of_granted (h : Course l.world past w) (hr : r < w.nextRun) {t : Nat}
    (ht : t ∈ (w.runs.get r).granted) : t ∈ w.ready := by
  obtain ⟨hnodup, hmem⟩ := h.queue_exact hr
  have hw := (hmem t).1 (List.mem_append_right _ ht)
  have ha := h.awake.alert t
  unfold World.Alert World.Needs at ha
  cases htask : w.tasks.get t with
  | awaiting s node =>
    rw [htask] at hw ha
    obtain rfl : s = r := eq_of_beq hw
    refine (ha.2.1.resolve_left fun hwait => ?_).2
    exact (List.nodup_append.1 hnodup).2.2 t hwait t ht rfl
  | _ =>
    rw [htask] at hw
    cases hw

/-- At no moment more nodes are executed for a run than it has permits. Every permit is free, handed
to a task that waits for one, or held by an execution, which keeps it until a step of its own task ends
it. While a task waits for a permit, one is held by an execution or was handed to a task that is
ready to go on. When nothing is left to happen, all permits are free and nobody waits. -/
theorem Course.permits_kept (h : Course l.world past w) (hr : r < w.nextRun) :
    (w.executing r).card ≤ max l.limits.parallel 1 ∧
    (∃ pipeline refused, Matched pipeline (max l.limits.parallel 1) (w.happenings r)
      (w.executing r) refused) ∧
    (w.runs.get r).free + (w.runs.get r).granted.length + (w.executing r).card =
      (w.runs.get r).limits.parallel ∧
    (l.Fits → (w.runs.get r).limits.parallel = max l.limits.parallel 1) ∧
    (∀ a t node, w.Allows a → (w.tasks.get t).executing r = {node} →
      ((w.act a).tasks.get t).executing r = {node} ∨
        a = .step t ∧ (w.act a).tasks.get t = .over) ∧
    (w.queue r).Nodup ∧ (∀ t, t ∈ w.queue r ↔ (w.tasks.get t).awaits r) ∧
    (∀ t, (w.tasks.get t).awaits r →
      w.executing r ≠ 0 ∨ ∃ u ∈ (w.runs.get r).granted, u ∈ w.ready) ∧
    (w.Quiet → (w.runs.get r).free = (w.runs.get r).limits.parallel ∧ w.queue r = []) := by
  obtain ⟨pipeline, refused, matched⟩ := h.matched hr
  obtain ⟨hnodup, hmem⟩ := h.queue_exact hr
  have hadd := h.permits_add hr
  refine ⟨matched.card_le, ⟨pipeline, refused, matched⟩, hadd,
    fun fits => congrArg Limits.parallel (h.limits fits hr), fun a t node _ => h.executing_act a,
    hnodup, hmem, fun t hw => ?_, fun hq => ?_⟩
  · have tally := h.tally hr
    cases hg : (w.runs.get r).granted with
    | cons u us => exact .inr ⟨u, List.mem_cons_self, h.ready_of_granted hr (hg ▸ List.mem_cons_self)⟩
    | nil =>
      have hwait : t ∈ (w.runs.get r).waiting := by
        have hm := (hmem t).2 hw
        rwa [World.queue, hg, List.append_nil] at hm
      -- Someone waits, so that no permit is free and all of them are held.
      have hfree : (w.runs.get r).free = 0 := tally.busy (List.ne_nil_of_mem hwait)
      have hcap : 0 < (w.runs.get r).limits.parallel := tally.capacity
      refine .inl fun hz => ?_
      rw [hg, hz, hfree, List.length_nil, Multiset.card_zero] at hadd
      omega
  · have hover := h.over_of_quiet hq
    have hqueue : w.queue r = [] := List.eq_nil_iff_forall_not_mem.2 fun t ht => by
      have hw := (hmem t).1 ht
      rw [hover t] at hw
      cases hw
    have hz : w.executing r = 0 :=
      World.bind_tasks_eq_zero hover (f := fun _ task => task.executing r) fun _ => rfl
    rw [(List.append_eq_nil_iff.1 hqueue).2, hz] at hadd
    exact ⟨hadd, hqueue⟩

end

/-- With one permit a run, a node executes a pipeline whose only node is executed, and the node beside
it waits for that. -/
theorem permits_kept_beside : ∃ past w,
    Course { Beside.launch Fork.wait with limits := ⟨0, 8⟩ }.world past w ∧ 1 < w.nextRun ∧
    (w.tasks.get 3).awaits 0 ∧ w.executing 0 = {"s"} ∧ w.executing 1 = {"x"} ∧
    (w.executing 0).card ≤ 1 ∧ (w.executing 1).card ≤ 1 ∧
    (w.executing 0 ≠ 0 ∨ ∃ u ∈ (w.runs.get 0).granted, u ∈ w.ready) ∧
    (∀ t, t ∈ w.queue 0 ↔ (w.tasks.get t).awaits 0) := by
  have h := (((Course.start : Course { Beside.launch Fork.wait with limits := ⟨0, 8⟩ }.world [] _).step
    1 (by decide)).step 2 (by decide)).step 3 (by decide) |>.step 4 (by decide)
  obtain ⟨outer, -, -, -, -, -, queue, waits, -⟩ := Course.permits_kept h (r := 0) (by decide)
  obtain ⟨inner, -⟩ := Course.permits_kept h (r := 1) (by decide)
  exact ⟨_, _, h, by decide, rfl, rfl, rfl, outer, inner, waits 3 rfl, queue⟩

end Conduit
