import Conduit.Proofs.Run.Stage
import Mathlib.Data.Multiset.Bind

/-!
# Steps as moves

A step of a task is a chain of moves. In its midst the task is in hand, in a phase that the world
does not show yet, so a stage is taken of a world with a task in a phase of its own.
-/

namespace Conduit

theorem Table.get_change_eq {α : Type} [Inhabited α] (t : Table α) (n : Nat) (f : α → α) :
    (t.change n f).get = Function.update t.get n (f (t.get n)) := by
  funext m
  rw [Table.get_change, Function.update_apply]
  simp only [eq_comm]

theorem Table.get_set_eq {α : Type} [Inhabited α] (t : Table α) (n : Nat) (a : α) :
    (t.set n a).get = Function.update t.get n a := by
  funext m
  rw [Table.get_set, Function.update_apply]
  simp only [eq_comm]

namespace World

/-! ## The stage of a world -/

/-- The tasks that there are apart from one. -/
def others (w : World) (t : Nat) : Multiset Nat := (Multiset.range w.nextTask).filter (· ≠ t)

/-- What the tasks of the runs are about, apart from one. -/
def colleagues (w : World) (t : Nat) : Multiset (Nat × Duty) :=
  (w.others t).bind fun u => (w.tasks.get u).phase.crew

def otherPosts (w : World) (t : Nat) : Multiset (Nat × Nat) :=
  (w.others t).bind fun u => (w.tasks.get u).phase.posts u

/-- The stage of a world with a task in hand. -/
def stage (w : World) (t : Nat) (p : Phase) (deeds : List Deed) : Stage where
  network := w.network
  runs := w.runs.get
  values c := (w.contexts.get c).values
  cancelled c := (w.contexts.get c).cancelled
  crew := p.crew + w.colleagues t
  posts := p.posts t + w.otherPosts t
  endings u := (w.endings.get u).map Prod.fst
  events := w.events.map fun o => (o.run, o.happening)
  deeds := deeds
  nextRun := w.nextRun

/-- The stage of a world with no task in hand. -/
def view (w : World) (deeds : List Deed) : Stage :=
  { w.stage 0 .over deeds with
    crew := (Multiset.range w.nextTask).bind fun u => (w.tasks.get u).phase.crew
    posts := (Multiset.range w.nextTask).bind fun u => (w.tasks.get u).phase.posts u }

theorem range_eq_cons_others {w : World} {t : Nat} (h : t < w.nextTask) :
    Multiset.range w.nextTask = t ::ₘ w.others t := by
  have hm : t ∈ Multiset.range w.nextTask := Multiset.mem_range.2 h
  rw [others, ← (Multiset.nodup_range _).erase_eq_filter, Multiset.cons_erase hm]

/-- A task in hand is in the phase that the world shows before and after its step. -/
theorem view_eq_stage {w : World} {t : Nat} (h : t < w.nextTask) (L : List Deed) :
    w.view L = w.stage t (w.tasks.get t).phase L := by
  simp only [view, stage, range_eq_cons_others h, Multiset.cons_bind, colleagues, otherPosts]

theorem stage_crew (w : World) (t r : Nat) (d : Duty) (L : List Deed) :
    (w.stage t (.duty r d) L).crew = (r, d) ::ₘ w.colleagues t := rfl

theorem stage_withCrew (w : World) (t r : Nat) (d e : Duty) (L : List Deed) :
    (w.stage t (.duty r d) L).withCrew ((r, e) ::ₘ w.colleagues t) =
      w.stage t (.duty r e) L := rfl

theorem stage_record (w : World) (t : Nat) (p : Phase) (L deeds : List Deed) :
    (w.stage t p L).record deeds = w.stage t p (deeds ++ L) := rfl

/-! ## What operations do to the stage -/

section

variable (w : World) (t : Nat) (p : Phase) (L : List Deed)

theorem stage_changeRun (r : Nat) (f : Run → Run) :
    (w.changeRun r f).stage t p L = (w.stage t p L).change r f := by
  simp only [stage, changeRun, Stage.change, Table.get_change_eq]
  rfl

theorem stage_of_run {r : Nat} {run : Run} {f : Run → Run} (h : run = f (w.runs.get r)) :
    (w.stage t p L).change r f = (w.changeRun r fun _ => run).stage t p L := by
  rw [stage_changeRun, h]
  rfl

theorem stage_setValues (c : Nat) (f : Values → Values) :
    (w.setValues c f).stage t p L = (w.stage t p L).setValues c f := by
  have hv : (fun d => ((w.contexts.change c fun x => { x with values := f x.values }).get d).values)
      = Function.update (fun d => (w.contexts.get d).values) c
        (f (w.contexts.get c).values) := by
    funext d
    rw [Table.get_change, Function.update_apply]
    by_cases h : c = d
    · simp [h]
    · simp [h, Ne.symm h]
  have hc : ∀ d, ((w.contexts.change c fun x => { x with values := f x.values }).get d).cancelled
      = (w.contexts.get d).cancelled := by
    intro d
    rw [Table.get_change]
    split
    · next h => rw [h]
    · rfl
  simp only [stage, setValues, changeContext, Stage.setValues, hv, hc]
  rfl

theorem stage_changeContext (c : Nat) {f : Context → Context}
    (hv : (f (w.contexts.get c)).values = (w.contexts.get c).values)
    (hc : (f (w.contexts.get c)).cancelled = (w.contexts.get c).cancelled) :
    (w.changeContext c f).stage t p L = w.stage t p L := by
  have hv' : ∀ d, ((w.contexts.change c f).get d).values = (w.contexts.get d).values := by
    intro d
    rw [Table.get_change]
    split
    · next h => rw [hv, h]
    · rfl
  have hc' : ∀ d, ((w.contexts.change c f).get d).cancelled = (w.contexts.get d).cancelled := by
    intro d
    rw [Table.get_change]
    split
    · next h => rw [hc, h]
    · rfl
  simp only [stage, changeContext, hv', hc']
  rfl

theorem stage_emit (r : Nat) (h : Happening) :
    (w.emit r h).stage t p L = (w.stage t p L).say r h := rfl

theorem stage_wake (u : Nat) : (w.wake u).stage t p L = w.stage t p L := by
  unfold wake
  split <;> rfl

theorem stage_wakeAll (ts : List Nat) : (w.wakeAll ts).stage t p L = w.stage t p L := by
  unfold wakeAll
  induction ts generalizing w with
  | nil => rfl
  | cons u ts ih => rw [List.foldl_cons, ih, stage_wake]

theorem stage_listen (c u : Nat) : (w.listen c u).stage t p L = w.stage t p L := by
  unfold listen
  apply stage_changeContext <;> split <;> rfl

theorem stage_leave (c u : Nat) : (w.leave c u).stage t p L = w.stage t p L :=
  stage_changeContext w t p L c (f := fun x =>
    { x with listeners := x.listeners.filter fun l => l != u }) rfl rfl

theorem stage_addTimer (time u : Nat) : (w.addTimer time u).stage t p L = w.stage t p L := rfl

theorem stage_tasks (tasks : Table Task) (h : ∀ u, u ≠ t → tasks.get u = w.tasks.get u) :
    { w with tasks := tasks }.stage t p L = w.stage t p L := by
  have hc : { w with tasks := tasks }.colleagues t = w.colleagues t :=
    Multiset.bind_congr fun u hu =>
      congrArg (fun k => (Task.phase k).crew) (h u (Multiset.mem_filter.1 hu).2)
  have hp : { w with tasks := tasks }.otherPosts t = w.otherPosts t :=
    Multiset.bind_congr fun u hu =>
      congrArg (fun k => (Task.phase k).posts u) (h u (Multiset.mem_filter.1 hu).2)
  simp only [stage, hc, hp]

theorem stage_setTask (task : Task) : (w.setTask t task).stage t p L = w.stage t p L :=
  stage_tasks w t p L _ fun u hu => by rw [Table.get_set, if_neg (Ne.symm hu)]

theorem stage_clear : { w with tasks := w.tasks.clear t }.stage t p L = w.stage t p L :=
  stage_tasks w t p L _ fun u hu => by rw [Table.get_clear, if_neg (Ne.symm hu)]

theorem stage_cancel (c : Nat) : (w.cancel c).stage t p L = (w.stage t p L).cancel c true := by
  have hx : ∀ x : Stage, (x.cancelled c = true) → x.cancel c true = x := by
    intro x hx
    have : Function.update x.cancelled c true = x.cancelled := by
      rw [← hx, Function.update_eq_self]
    simp only [Stage.cancel, Bool.or_true, this]
  by_cases h : (w.contexts.get c).cancelled = true
  · rw [cancel, if_pos h]
    exact (hx _ h).symm
  · rw [cancel, if_neg h, stage_wakeAll]
    have hv : ∀ d, ((w.contexts.change c fun x =>
        { x with cancelled := true, listeners := [] }).get d).values
          = (w.contexts.get d).values := by
      intro d
      rw [Table.get_change]
      split
      · next h => rw [h]
      · rfl
    have hc : (fun d => ((w.contexts.change c fun x =>
        { x with cancelled := true, listeners := [] }).get d).cancelled)
          = Function.update (fun d => (w.contexts.get d).cancelled) c true := by
      funext d
      rw [Table.get_change, Function.update_apply]
      by_cases h : c = d
      · simp [h]
      · simp [h, Ne.symm h]
    simp only [stage, changeContext, Stage.cancel, hv, hc, Bool.or_true]
    rfl

theorem stage_release (r : Nat) : (w.release r).stage t p L = (w.stage t p L).change r Run.released
    := by
  unfold release Run.released
  split
  · next h =>
    rw [stage_changeRun]
    simp only [Stage.change, stage, h]
  · next h =>
    rw [stage_wake, stage_changeRun]
    simp only [Stage.change, stage, h]

/-! ## New tasks -/

theorem stage_spawn {r : Nat} {d : Duty} {task : Task} (ht : t < w.nextTask)
    (hd : task.phase = .duty r d) :
    (w.spawn task).stage t p L =
      (w.stage t p L).withCrew ((w.stage t p L).crew + {(r, d)}) := by
  have ho : (w.spawn task).others t = w.nextTask ::ₘ w.others t := by
    have hn : w.nextTask ≠ t := Nat.ne_of_gt ht
    simp only [others, spawn, Multiset.range_succ]
    exact Multiset.filter_cons_of_pos _ hn
  have hg : ∀ u ∈ w.others t, (w.spawn task).tasks.get u = w.tasks.get u := by
    intro u hu
    have hlt : u < w.nextTask := Multiset.mem_range.1 (Multiset.mem_filter.1 hu).1
    simp only [spawn, Table.get_set, Nat.ne_of_gt hlt, if_false]
  have hs : (w.spawn task).tasks.get w.nextTask = task := Table.get_set_self _ _ _
  have hc : (w.spawn task).colleagues t = (r, d) ::ₘ w.colleagues t := by
    rw [colleagues, ho, Multiset.cons_bind, hs, hd, Multiset.bind_congr fun u hu => by rw [hg u hu]]
    rfl
  have hp : (w.spawn task).otherPosts t = w.otherPosts t := by
    rw [otherPosts, ho, Multiset.cons_bind, hs, hd, Multiset.bind_congr fun u hu => by rw [hg u hu]]
    exact zero_add _
  have hcrew : p.crew + (w.spawn task).colleagues t = p.crew + w.colleagues t + {(r, d)} := by
    rw [hc, add_assoc, Multiset.add_comm (w.colleagues t), Multiset.singleton_add]
  simp only [stage, hp, hcrew]
  rfl

theorem stage_spawnIn {r : Nat} {d : Duty} {task : Task} (ht : t < w.nextTask)
    (hd : task.phase = .duty r d) :
    (w.spawnIn r task).stage t p L =
      ((w.stage t p L).change r fun run => run.joinedBy 1).withCrew
        ((w.stage t p L).crew + {(r, d)}) := by
  rw [spawnIn, stage_spawn _ t p L (by exact ht) hd, stage_changeRun]
  rfl

theorem stage_spawnEach (r : Nat) (source : String) (live : Bool) (places : List Nat)
    (ht : t < w.nextTask) :
    (places.foldl (fun w place => w.spawnIn r (.arriving r source place live)) w).stage t p L =
        ((w.stage t p L).change r fun run => run.joinedBy places.length).withCrew
          ((w.stage t p L).crew +
            (places : Multiset Nat).map fun place => (r, .arriving source place live)) ∧
      t < (places.foldl (fun w place => w.spawnIn r (.arriving r source place live)) w).nextTask
    := by
  induction places generalizing w with
  | nil =>
    refine ⟨?_, ht⟩
    simp only [List.foldl_nil, List.length_nil, Multiset.coe_nil, Multiset.map_zero, add_zero,
      Stage.change, Stage.withCrew, Run.joinedBy, Function.update_eq_self]
  | cons place places ih =>
    have ht' : t < (w.spawnIn r (.arriving r source place live)).nextTask :=
      Nat.lt_succ_of_lt ht
    obtain ⟨hs, hlt⟩ := ih _ ht'
    refine ⟨?_, hlt⟩
    rw [List.foldl_cons, hs, stage_spawnIn w t p L ht rfl]
    simp only [Stage.change, Stage.withCrew, Run.joinedBy, Function.update_idem,
      Function.update_self, List.length_cons, ← Multiset.cons_coe, Multiset.map_cons,
      Nat.add_comm 1, add_assoc, Multiset.singleton_add]

theorem stage_spawnArrivals (r : Nat) (source : String) (live : Bool) (ht : t < w.nextTask) :
    (w.spawnArrivals r source live).stage t p L =
        ((w.stage t p L).change r fun run => run.joinedBy (run.outDegree source)).withCrew
          ((w.stage t p L).crew + (w.runs.get r).arrivals r source live) ∧
      t < (w.spawnArrivals r source live).nextTask := by
  have h := stage_spawnEach w t p L r source live (List.range ((w.runs.get r).outDegree source)) ht
  rw [List.length_range] at h
  exact h

theorem get_runs_emit (r : Nat) (f : Run → Run) (h : Happening) :
    ((w.changeRun r f).emit r h).runs.get r = f (w.runs.get r) :=
  (get_runs_changeRun w r r f).trans (if_pos rfl)

/-! ## Failing and concluding -/

theorem stage_keepFailure (r : Nat) (e : PipelineError) :
    (if (w.runs.get r).failure.isSome then w
      else (w.reportError (w.runs.get r).context e).changeRun r fun run =>
        { run with failure := some e }).stage t p L = (w.stage t p L).keepFailure r e := by
  unfold Stage.keepFailure
  split
  · next h => rw [if_pos (by exact h)]
  · next h =>
    rw [if_neg (by exact h), stage_changeRun, reportError, stage_setValues]
    rfl

theorem stage_fail (r : Nat) (node : String) (e : PipelineError) :
    (w.fail r node e).stage t p (.failed r node e :: L) = (w.stage t p L).fail r node e := by
  unfold fail Stage.fail
  rw [← List.singleton_append, ← stage_record, stage_changeRun, stage_keepFailure, stage_emit,
    stage_changeRun]

theorem conclude_snd (r : Nat) (cancelled : Bool) :
    (w.conclude r cancelled).2 = (w.stage t p L).resultOf r cancelled := by
  have hf : (w.stage t p L).runs r = w.runs.get r := rfl
  have hc : (w.stage t p L).cancelled (w.runs.get r).context = (w.contextOf r).cancelled := rfl
  simp only [conclude, Stage.resultOf, hf, hc]
  cases (w.runs.get r).failure with
  | some e => rfl
  | none => cases cancelled || (w.contextOf r).cancelled <;> rfl

theorem stage_conclude (r : Nat) (cancelled : Bool) :
    (w.conclude r cancelled).1.stage t p
        (.concluded r ((w.stage t p L).resultOf r cancelled) :: L) =
      (w.stage t p L).conclude r cancelled := by
  have hf : (w.stage t p L).runs r = w.runs.get r := rfl
  have hc : (w.stage t p L).cancelled (w.runs.get r).context = (w.contextOf r).cancelled := rfl
  simp only [conclude, Stage.conclude, hf, hc]
  rw [← List.singleton_append, ← stage_record]
  cases (w.runs.get r).failure with
  | some e =>
    simp only [Option.isNone_some, Bool.false_and, Bool.false_eq_true, if_false, stage_emit,
      stage_changeRun]
  | none =>
    cases cancelled || (w.contextOf r).cancelled with
    | false =>
      simp only [Bool.and_false, Bool.false_eq_true, if_false, stage_emit, stage_changeRun]
    | true =>
      simp only [Option.isNone_none, Bool.and_true, if_true, reportError, stage_setValues,
        stage_emit, stage_changeRun]

/-! ## What operations leave of the tasks -/

def roster : Table Task × Nat := (w.tasks, w.nextTask)

@[simp] theorem roster_changeRun (r : Nat) (f : Run → Run) :
    (w.changeRun r f).roster = w.roster := rfl

@[simp] theorem roster_setValues (c : Nat) (f : Values → Values) :
    (w.setValues c f).roster = w.roster := rfl

@[simp] theorem roster_emit (r : Nat) (h : Happening) : (w.emit r h).roster = w.roster := rfl

@[simp] theorem roster_leave (c u : Nat) : (w.leave c u).roster = w.roster := rfl

@[simp] theorem roster_wake (u : Nat) : (w.wake u).roster = w.roster := by
  unfold wake
  split <;> rfl

@[simp] theorem roster_wakeAll (ts : List Nat) : (w.wakeAll ts).roster = w.roster := by
  unfold wakeAll
  induction ts generalizing w with
  | nil => rfl
  | cons u ts ih => rw [List.foldl_cons, ih, roster_wake]

@[simp] theorem roster_cancel (c : Nat) : (w.cancel c).roster = w.roster := by
  by_cases h : (w.contexts.get c).cancelled = true
  · rw [cancel, if_pos h]
  · rw [cancel, if_neg h, roster_wakeAll]
    rfl

@[simp] theorem roster_release (r : Nat) : (w.release r).roster = w.roster := by
  unfold release
  split
  · rfl
  · rw [roster_wake]; rfl

@[simp] theorem roster_fail (r : Nat) (node : String) (e : PipelineError) :
    (w.fail r node e).roster = w.roster := by
  unfold fail
  rw [roster_changeRun]
  split <;> rfl

@[simp] theorem roster_abandon (r : Nat) (node : String) :
    (w.abandon r node).roster = w.roster := rfl

@[simp] theorem roster_apply (c : Nat) (scene : Scene) :
    (w.apply c scene).roster = w.roster := by
  have h : ∀ v : World, v.roster = w.roster →
      (if scene.cancelled then v.cancel c else v).roster = w.roster := by
    intro v hv
    split
    · rw [roster_cancel, hv]
    · exact hv
  unfold apply
  apply h
  dsimp only
  split <;> rfl

@[simp] theorem roster_conclude (r : Nat) (cancelled : Bool) :
    (w.conclude r cancelled).1.roster = w.roster := by
  unfold conclude
  dsimp only
  split
  · rfl
  · split <;> rfl

variable {w t} in
theorem colleagues_congr {v : World} (h : v.roster = w.roster) :
    v.colleagues t = w.colleagues t := by
  obtain ⟨ht, hn⟩ := Prod.mk.inj h
  rw [colleagues, colleagues, others, others, ht, hn]

variable {w t} in
theorem otherPosts_congr {v : World} (h : v.roster = w.roster) :
    v.otherPosts t = w.otherPosts t := by
  obtain ⟨ht, hn⟩ := Prod.mk.inj h
  rw [otherPosts, otherPosts, others, others, ht, hn]

variable {w t} in
theorem lt_of_roster {v : World} (h : v.roster = w.roster) (ht : t < w.nextTask) :
    t < v.nextTask := by
  rwa [(Prod.mk.inj h).2]

variable {w t} in
theorem stage_turnTo {v : World} (h : v.roster = w.roster) (r : Nat) (d e : Duty) :
    (v.stage t (.duty r d) L).withCrew ((r, e) ::ₘ w.colleagues t) =
      v.stage t (.duty r e) L := by
  rw [← colleagues_congr h, stage_withCrew]

/-- The world with a task of a run over, before the one that waits for the run is woken. -/
def closed (r : Nat) : World :=
  { w with tasks := w.tasks.clear t }.changeRun r fun run =>
    { run with unfinished := run.unfinished - 1 }

theorem close_eq (r : Nat) :
    w.close t r = w.closed t r ∨ w.close t r = (w.closed t r).wake (w.runs.get r).supervisor := by
  have hs : ((w.closed t r).runs.get r).supervisor = (w.runs.get r).supervisor := by
    rw [closed, get_runs_changeRun, if_pos rfl]
  rw [← hs]
  unfold close closed
  dsimp only
  split
  · exact .inr rfl
  · exact .inl rfl

theorem nextTask_close (r : Nat) : (w.close t r).nextTask = w.nextTask := by
  obtain h | h := close_eq w t r <;> rw [h]
  · rfl
  · exact (Prod.mk.inj (roster_wake _ _)).2

/-! ## The last moves of a task -/

theorem stage_over (r : Nat) (d : Duty) :
    (w.stage t (.duty r d) L).withCrew (w.colleagues t) = w.stage t .over L := by
  simp only [stage, Stage.withCrew, Phase.crew, Phase.posts, zero_add]

theorem get_tasks_close (r : Nat) : (w.close t r).tasks.get t = .over := by
  have h : (w.closed t r).tasks.get t = .over := by
    rw [closed, changeRun, Table.get_clear, if_pos rfl]
    rfl
  obtain hc | hc := close_eq w t r <;> rw [hc]
  · exact h
  · unfold wake
    split <;> exact h

variable {w t}

theorem close_moves (r : Nat) (ht : t < w.nextTask) :
    Moves (w.stage t (.duty r .leaving) L) ((w.close t r).view L) := by
  have hs : (w.close t r).stage t .over L = (w.closed t r).stage t .over L := by
    obtain h | h := close_eq w t r <;> rw [h]
    rw [stage_wake]
  refine .single (r := r) ?_
  rw [view_eq_stage (by rwa [nextTask_close]), get_tasks_close, Task.phase, hs, closed, stage_changeRun,
    stage_clear, ← stage_over w t L r .leaving]
  exact .close rfl

theorem giveUp_moves (r : Nat) (d : Duty) (ht : t < w.nextTask) (hd : d.isOpen)
    (hs : w.shouldStop r = true) :
    Moves (w.stage t (.duty r d) L) ((w.close t r).view L) :=
  .head (.giveUp rfl hd hs) (close_moves L r ht)

/-! ## Completing a node -/

theorem goOn_moves (r : Nat) (node : String) (ht : t < w.nextTask) :
    Moves (w.stage t (.duty r (.going node)) L) (((w.goOn r node).close t r).view L) := by
  unfold goOn
  dsimp only
  split
  · next ends =>
    refine .head (.halt rfl ends) ?_
    rw [← stage_changeRun]
    exact close_moves L r ht
  split
  · next stops => exact .head (.rest rfl stops) (close_moves L r ht)
  next ends stops =>
  have ends := Bool.eq_false_iff.2 ends
  have stops := Bool.eq_false_iff.2 stops
  split
  · next target next =>
    have hs := stage_spawnIn (w.setValues (w.runs.get r).context fun v =>
      Entries.erase v Values.overrideKey) t (.duty r .leaving) L ht
      (rfl : (Task.dispatched r target).phase = .duty r (.dispatched target))
    rw [stage_crew, Multiset.cons_add, add_comm, Multiset.singleton_add, stage_setValues] at hs
    refine .head (.jump rfl ends stops next) ?_
    refine hs ▸ close_moves L r ?_
    exact Nat.lt_succ_of_lt ht
  · next next =>
    obtain ⟨hs, hlt⟩ := stage_spawnArrivals (w.setValues (w.runs.get r).context fun v =>
      Entries.erase v Values.overrideKey) t (.duty r .leaving) L r node true ht
    rw [stage_crew, Multiset.cons_add, add_comm, stage_setValues] at hs
    refine .head (.spread rfl ends stops next) ?_
    exact hs ▸ close_moves L r hlt

theorem verdict_eq (w : World) (r : Nat) (result : Result) :
    w.verdict r result =
      result.verdict (w.contextOf r).values (w.runs.get r).failure.isSome := by
  cases result <;> rfl

theorem runs_release (w : World) (r : Nat) :
    (w.release r).runs.get r = (w.runs.get r).released :=
  (congrArg (fun S => Stage.runs S r) (stage_release w 0 .over [] r)).trans
    (Function.update_self ..)

theorem contexts_release (w : World) (r : Nat) : (w.release r).contexts = w.contexts := by
  unfold release wake
  split
  · rfl
  · split <;> rfl

theorem contextOf_release (w : World) (r : Nat) : (w.release r).contextOf r = w.contextOf r := by
  rw [contextOf, contextOf, runs_release, Run.context_released, contexts_release]

/-- A release changes nothing that the verdict on an execution depends on. -/
theorem verdict_release (w : World) (r : Nat) (result : Result) :
    (w.release r).verdict r result =
      result.verdict (w.contextOf r).values (w.runs.get r).failure.isSome := by
  rw [verdict_eq, contextOf_release, runs_release, Run.failure_released]

theorem complete_moves (r : Nat) (node : String) (result : Result) (ht : t < w.nextTask) :
    Moves (w.stage t (.duty r (.ended node result)) L)
      ((w.complete t r node result).view (w.completeDeeds r node result ++ L)) := by
  have hctx := w.contextOf_release r
  have hv := w.verdict_release r result
  -- The run was cancelled, the execution is blamed, or the node is done.
  cases hc : (w.contextOf r).cancelled with
  | true =>
    have hs : (w.stage t (.duty r (.ended node result)) L).change r
        (fun run => run.released.setStatus node .failed) =
          ((w.release r).changeRun r fun run => run.setStatus node .failed).stage t
            (.duty r (.ended node result)) L := by
      rw [stage_changeRun, stage_release, Stage.change_change]
    have hd : w.completeDeeds r node result = [] := by simp only [completeDeeds, hctx, hc, if_true]
    have hw : w.complete t r node result = ((w.release r).abandon r node).close t r := by
      simp only [complete, hctx, hc, if_true]
    have hr : ((w.release r).abandon r node).roster = w.roster := by simp
    rw [hw, hd]
    refine .head (.abandon rfl hc) ?_
    rw [hs, ← stage_emit]
    exact stage_turnTo L hr r _ .leaving ▸ close_moves L r (lt_of_roster hr ht)
  | false =>
  cases hu : result.verdict (w.contextOf r).values (w.runs.get r).failure.isSome with
  | error e =>
    rw [hu] at hv
    have hd : w.completeDeeds r node result = [.failed r node (.componentExecution node e)] := by
      simp only [completeDeeds, hctx, hc, hv, Bool.false_eq_true, if_false]
    have hw : w.complete t r node result =
        ((w.release r).fail r node (.componentExecution node e)).close t r := by
      simp only [complete, hctx, hc, hv, Bool.false_eq_true, if_false]
    have hr : ((w.release r).fail r node (.componentExecution node e)).roster = w.roster := by simp
    rw [hw, hd]
    refine .head (.blame rfl hc hu) ?_
    rw [← stage_release, ← stage_fail]
    exact stage_turnTo _ hr r _ .leaving ▸ close_moves _ r (lt_of_roster hr ht)
  | ok _ =>
    rw [hu] at hv
    have hs : (w.stage t (.duty r (.ended node result)) L).change r
        (fun run => run.released.completed node) =
          ((w.release r).changeRun r fun run => run.completed node).stage t
            (.duty r (.ended node result)) L := by
      rw [stage_changeRun, stage_release, Stage.change_change]
    have hd : w.completeDeeds r node result = [] := by
      simp only [completeDeeds, hctx, hc, hv, Bool.false_eq_true, if_false]
    have hw : w.complete t r node result =
        ((((w.release r).changeRun r fun run => run.completed node).emit r
          (.nodeCompleted node)).goOn r node).close t r := by
      simp only [complete, hctx, hc, hv, Bool.false_eq_true, if_false]
      rfl
    have hr : (((w.release r).changeRun r fun run => run.completed node).emit r
      (.nodeCompleted node)).roster = w.roster := by simp
    rw [hw, hd]
    refine .head (.settle rfl hc hu) ?_
    rw [hs, ← stage_emit]
    exact stage_turnTo L hr r _ (.going node) ▸ goOn_moves L r node (lt_of_roster hr ht)

/-! ## Executing -/

theorem view_setTask (c : Nat) (task : Task) (ht : t < w.nextTask) :
    ((w.setTask t task).listen c t).view L = w.stage t task.phase L := by
  have hg : ((w.setTask t task).listen c t).tasks.get t = task := Table.get_set_self _ _ _
  rw [view_eq_stage (by exact ht), hg, stage_listen, stage_setTask]

theorem stage_apply (p : Phase) (c : Nat) (scene : Scene) :
    (w.apply c scene).stage t p L =
      ((w.stage t p L).setValues c fun _ => scene.values).cancel c scene.cancelled := by
  have h : ∀ v : World, v.stage t p L = (w.stage t p L).setValues c (fun _ => scene.values) →
      (if scene.cancelled then v.cancel c else v).stage t p L =
        ((w.stage t p L).setValues c fun _ => scene.values).cancel c scene.cancelled := by
    intro v hv
    cases scene.cancelled with
    | true => rw [if_pos rfl, stage_cancel, hv]
    | false =>
      rw [if_neg Bool.false_ne_true, hv]
      simp only [Stage.cancel, Bool.or_false, Function.update_eq_self]
  unfold apply
  apply h
  rw [← stage_setValues]
  dsimp only
  split <;> rfl

theorem perform_moves (r : Nat) (node : String) (activity : Activity) (ht : t < w.nextTask) :
    Moves (w.stage t (.duty r (.performing node activity)) L)
      ((w.perform t r node activity).view (w.performDeeds r node activity ++ L)) := by
  unfold perform performDeeds sceneOf
  dsimp only
  generalize hb : activity.burst w.network _ = b
  obtain ⟨scene, pending⟩ := b
  have hr := roster_apply w (w.runs.get r).context scene
  cases pending with
  | finished result =>
    refine .head (.finish rfl hb) ?_
    rw [List.append_assoc, ← stage_apply, stage_record]
    exact stage_turnTo _ hr r _ (.ended node result) ▸
      complete_moves _ r node result (lt_of_roster hr ht)
  | asleep ms next stopped =>
    have hm := Move.doze (r := r) ((w.apply (w.runs.get r).context scene).now + ms)
      (stage_crew w t r (.performing node activity) L) hb
    rw [← stage_apply, stage_record] at hm
    have hs := stage_turnTo (v := w.apply (w.runs.get r).context scene) (w := w) (t := t)
      (.performed r node (activity.touches w.network (w.sceneOf (w.runs.get r).context)) none :: L) hr r
      (.performing node activity)
      (.pausing node ((w.apply (w.runs.get r).context scene).now + ms) next stopped)
    have hv := view_setTask (w := w.apply (w.runs.get r).context scene)
      (.performed r node (activity.touches w.network (w.sceneOf (w.runs.get r).context)) none :: L)
      (w.runs.get r).context
      (.pausing r node ((w.apply (w.runs.get r).context scene).now + ms) next stopped)
      (lt_of_roster hr ht)
    exact .single ((hs.trans hv.symm) ▸ hm)

/-! ## Pipelines as components -/

theorem stage_begin (p : Phase) (graph : Graph Component) (context supervisor : Nat)
    (limits : Limits) (ht : t < w.nextTask) :
    (w.begin graph context supervisor limits).stage t p L =
      ((w.stage t p L).begin graph context supervisor limits).withCrew
        ((w.stage t p L).crew + {(w.nextRun, .dispatched graph.root)}) := by
  unfold begin
  dsimp only
  rw [stage_spawnIn (d := .dispatched graph.root) _ t p L (by exact ht) rfl, stage_emit]
  simp only [stage, Stage.change, Stage.say, Stage.begin, Stage.withCrew, Table.get_set_eq,
    Function.update_self, Function.update_idem]
  rfl

theorem graph_conclude (w : World) (r : Nat) (cancelled : Bool) :
    ((w.conclude r cancelled).1.runs.get r).graph = (w.runs.get r).graph := by
  unfold conclude
  dsimp only
  cases (w.runs.get r).failure with
  | some e => simp only [emit, get_runs_changeRun, if_true]
  | none =>
    cases cancelled || (w.contextOf r).cancelled with
    | true =>
      simp only [if_true, reportError, setValues, changeContext, emit, get_runs_changeRun]
    | false => simp only [Bool.false_eq_true, if_false, emit, get_runs_changeRun, if_true]

theorem nesting_moves (r : Nat) (node : String) {inner : Nat} {cancelled : Bool}
    (ht : t < w.nextTask) (ho : w.isOver inner = some cancelled) :
    Moves (w.stage t (.duty r (.nesting node inner)) L)
      ((w.pollNesting t r node inner).view (w.nestingDeeds t r node inner ++ L)) := by
  have hr : (((w.conclude inner cancelled).1.leave (w.runs.get inner).context t).setValues
    (w.runs.get inner).context fun v => Entries.erase v Values.endKey).roster = w.roster := by
    simp
  have hg : ((((w.conclude inner cancelled).1.leave (w.runs.get inner).context t).setValues
      (w.runs.get inner).context fun v => Entries.erase v Values.endKey).runs.get inner).graph =
        (w.runs.get inner).graph := graph_conclude w inner cancelled
  unfold pollNesting nestingDeeds
  simp only [ho, hg]
  refine .head (.surface rfl ho) ?_
  rw [← stage_conclude, ← stage_leave _ _ _ _ (w.runs.get inner).context t, ← stage_setValues,
    ← conclude_snd, List.append_assoc]
  exact stage_turnTo _ hr r _ (.ended node _) ▸ complete_moves _ r node _ (lt_of_roster hr ht)

theorem nesting_stays (r : Nat) (node : String) {inner : Nat} (ht : t < w.nextTask)
    (ho : w.isOver inner = none) :
    (w.pollNesting t r node inner).view (w.nestingDeeds t r node inner ++ L) =
      w.stage t (.duty r (.nesting node inner)) L := by
  simp only [pollNesting, nestingDeeds, ho]
  exact view_setTask L _ (.nesting r node inner) ht

/-! ## Dispatching a node -/

theorem start_moves (r : Nat) (node : String) (ht : t < w.nextTask) :
    Moves (w.stage t (.duty r (.admitted node)) L)
      ((w.start t r node).view (w.startDeeds t r node ++ L)) := by
  -- A task that does not start gives its permit back and leaves.
  have hl : Moves ((w.stage t (.duty r (.admitted node)) L).change r Run.released |>.withCrew
      ((r, .leaving) ::ₘ w.colleagues t)) (((w.release r).close t r).view L) := by
    rw [← stage_release]
    exact stage_turnTo L (roster_release w r) r _ .leaving ▸
      close_moves L r (lt_of_roster (roster_release w r) ht)
  unfold start startDeeds
  cases hs : w.shouldStop r with
  | true => exact .head (.retreat rfl (.inl hs)) hl
  | false =>
  rw [if_neg Bool.false_ne_true, if_neg Bool.false_ne_true]
  cases hn : (w.runs.get r).graph.node? node with
  | none =>
    refine .head (.retreat rfl (.inr fun n h => ?_)) hl
    exact absurd (hn.symm.trans h) (by simp)
  | some n =>
  dsimp only
  cases hslot : n.slot with
  | unusable reason =>
    refine .head (.retreat rfl (.inr fun m h => ?_)) hl
    obtain rfl : n = m := Option.some.inj (hn.symm.trans h)
    rw [hslot]
    rfl
  | ready component origin =>
  cases component with
  | basic kind activity =>
    refine .head (.start rfl hs hn hslot) ?_
    rw [← stage_changeRun, ← stage_emit]
    exact perform_moves L r node activity ht
  | pipeline graph =>
    -- The run of the pipeline begins, and the task looks at once whether it is over.
    let v := (w.changeRun r fun run => run.setStatus node .running).emit r
      (.nodeStarted node n.componentId)
    have hrun : v.runs.get r = (w.runs.get r).setStatus node .running :=
      get_runs_emit w r _ _
    have hb := stage_begin L (w := v) (.duty r (.nesting node w.nextRun)) graph
      (w.runs.get r).context t (w.runs.get r).limits ht
    rw [stage_crew, Multiset.cons_add, add_comm, Multiset.singleton_add] at hb
    have hlt : t < (v.begin graph (w.runs.get r).context t (w.runs.get r).limits).nextTask :=
      Nat.lt_succ_of_lt ht
    have hm := Move.enter (t := t) (stage_crew w t r (.admitted node) L) hs hn hslot
    rw [← stage_changeRun, ← stage_emit] at hm
    replace hm := hb ▸ hm
    dsimp only
    rw [show ((w.changeRun r fun run => run.setStatus node .running).emit r
      (.nodeStarted node n.componentId)).runs.get r = _ from hrun, Run.context_setStatus,
      Run.limits_setStatus]
    cases ho : (v.begin graph (w.runs.get r).context t (w.runs.get r).limits).isOver w.nextRun with
    | some cancelled => exact .head hm (nesting_moves L r node hlt ho)
    | none => exact .single (nesting_stays L r node hlt ho ▸ hm)

/-- The step is counted before the permit is asked for, which makes one move. -/
theorem acquire_moves (r : Nat) (node : String) (ht : t < w.nextTask) {n : GraphNode Component}
    {component : Component} {origin : Origin} (goesOn : w.shouldStop r = false)
    (node_eq : (w.runs.get r).graph.node? node = some n) (slot : n.slot = .ready component origin)
    (steps : (w.runs.get r).steps + 1 ≤ (w.runs.get r).limits.steps) :
    Moves (w.stage t (.duty r (.dispatched node)) L)
      (((w.changeRun r fun run => { run with steps := run.steps + 1 }).acquire t r node).view
        ((w.changeRun r fun run => { run with steps := run.steps + 1 }).acquireDeeds t r node ++ L))
    := by
  have hrun : (w.changeRun r fun run => { run with steps := run.steps + 1 }).runs.get r =
      { w.runs.get r with steps := (w.runs.get r).steps + 1 } := by
    rw [get_runs_changeRun, if_pos rfl]
  unfold acquire acquireDeeds
  dsimp only
  rw [hrun]
  by_cases hf : 0 < (w.runs.get r).free
  · rw [if_pos hf, if_pos hf]
    refine .head (.take rfl goesOn node_eq slot steps hf) ?_
    rw [← Stage.change_change _ r (fun run => { run with steps := run.steps + 1 }) fun run =>
      { run with free := run.free - 1 }, ← stage_changeRun, ← stage_changeRun]
    exact start_moves L r node ht
  · rw [if_neg hf, if_neg hf]
    refine .single (r := r) ?_
    rw [List.nil_append, view_setTask L _ (.awaiting r node) (by exact ht), stage_changeRun,
      stage_changeRun, Stage.change_change]
    exact .queue rfl goesOn node_eq slot steps (Nat.eq_zero_of_not_pos hf)

theorem dispatch_moves (r : Nat) (node : String) (ht : t < w.nextTask) :
    Moves (w.stage t (.duty r (.dispatched node)) L)
      ((w.dispatch t r node).view (w.dispatchDeeds t r node ++ L)) := by
  unfold dispatch dispatchDeeds
  cases hs : w.shouldStop r with
  | true => exact giveUp_moves L r _ ht rfl hs
  | false =>
  rw [if_neg Bool.false_ne_true, if_neg Bool.false_ne_true]
  -- Whatever error the node fails with, the task leaves after it.
  have hfail : ∀ (e : PipelineError) (v : World), v.roster = w.roster →
      Moves (((v.stage t (.duty r (.dispatched node)) L).fail r node e).withCrew
        ((r, .leaving) ::ₘ w.colleagues t))
          (((v.fail r node e).close t r).view (.failed r node e :: L)) := by
    intro e v hv
    have hr : (v.fail r node e).roster = w.roster := (roster_fail v r node e).trans hv
    rw [← stage_fail]
    exact stage_turnTo _ hr r _ .leaving ▸ close_moves _ r (lt_of_roster hr ht)
  cases hn : (w.runs.get r).graph.node? node with
  | none => exact .head (.unknown rfl hs hn) (hfail _ w rfl)
  | some n =>
  dsimp only
  cases hslot : n.slot with
  | unusable reason => exact .head (.unusable rfl hs hn hslot) (hfail _ w rfl)
  | ready component origin =>
  have hrun : (w.changeRun r fun run => { run with steps := run.steps + 1 }).runs.get r =
      { w.runs.get r with steps := (w.runs.get r).steps + 1 } := by
    rw [get_runs_changeRun, if_pos rfl]
  dsimp only
  rw [hrun]
  by_cases hl : (w.runs.get r).limits.steps < (w.runs.get r).steps + 1
  · rw [if_pos hl, if_pos hl]
    refine .head (.exceed rfl hs hn hslot hl) ?_
    rw [← stage_changeRun]
    exact hfail _ (w.changeRun r fun run => { run with steps := run.steps + 1 }) rfl
  · rw [if_neg hl, if_neg hl]
    exact acquire_moves L r node ht hs hn hslot (Nat.le_of_not_lt hl)

/-! ## Arriving at a node -/

theorem skip_moves (r : Nat) (node : String) (ht : t < w.nextTask) :
    Moves (w.stage t (.duty r (.skipping node)) L) (((w.skip r node).close t r).view L) := by
  unfold skip
  dsimp only
  obtain ⟨hs, hlt⟩ := stage_spawnArrivals ((w.changeRun r fun run =>
    run.setStatus node .skipped).emit r (.nodeSkipped node)) t (.duty r .leaving) L r node false ht
  rw [stage_crew, Multiset.cons_add, add_comm, stage_emit, stage_changeRun, get_runs_emit] at hs
  have hm := hs ▸ close_moves L r hlt
  refine .head (.skip rfl) ?_
  convert hm using 1
  simp only [Stage.withCrew, Stage.say, Stage.change, Function.update_self, Function.update_idem,
    Run.outDegree, Run.arrivals, Run.graph_setStatus]
  rfl

theorem arrive_moves (r : Nat) (source : String) (place : Nat) (live : Bool)
    (ht : t < w.nextTask) :
    Moves (w.stage t (.duty r (.arriving source place live)) L)
      ((w.arrive t r source place live).view (w.arriveDeeds t r source place live ++ L)) := by
  unfold arrive arriveDeeds
  cases hs : w.shouldStop r with
  | true => exact giveUp_moves L r _ ht rfl hs
  | false =>
  rw [if_neg Bool.false_ne_true, if_neg Bool.false_ne_true]
  cases he : (w.runs.get r).edge? source place with
  | none => exact .head (.stray rfl hs he) (close_moves L r ht)
  | some edge =>
  dsimp only
  cases hl : w.isLive r edge live with
  | error e =>
    have hr := roster_fail w r edge.target (.conditionEval source edge.target e.message)
    refine .head (.refuse rfl hs he hl) ?_
    rw [stage_record, ← stage_fail]
    exact stage_turnTo _ hr r _ .leaving ▸ close_moves _ r (lt_of_roster hr ht)
  | ok passed =>
  dsimp only
  cases hn : (w.runs.get r).nodes.get? edge.target with
  | none =>
    have ha : (w.runs.get r).arriveAt edge.target passed = (w.runs.get r, none) := by
      simp only [Run.arriveAt, hn]
    have hw : (w.changeRun r fun _ => w.runs.get r).stage t (.duty r .leaving)
        (askDeeds r source edge live ++ L) =
          w.stage t (.duty r .leaving) (askDeeds r source edge live ++ L) := by
      rw [stage_changeRun]
      simp only [Stage.change, stage, Function.update_eq_self]
    rw [ha]
    refine .head (.lost rfl hs he hl hn) ?_
    rw [stage_record, stage_withCrew, ← hw]
    exact close_moves _ r ht
  | some s =>
  obtain ⟨run, ha, hc⟩ := (w.runs.get r).arriveAt_eq passed hn
  rw [ha]
  dsimp only
  refine .head (.count rfl hs he hl hn) ?_
  cases hv : (s.gate.arrive passed).2 with
  | waiting =>
    rw [hv, if_pos rfl] at hc
    have hs : (w.stage t (.duty r (.arriving source place live)) L).change r
        (fun run => run.counted edge.target passed) =
          ((w.changeRun r fun _ => run).changeRun r fun run => run.markBlocked edge.target).stage t
            (.duty r (.arriving source place live)) L := by
      rw [stage_changeRun, stage_changeRun, Stage.change_change, hc]
      rfl
    rw [hs, stage_record]
    exact close_moves _ r ht
  | fire =>
    rw [hv, if_neg (by decide)] at hc
    rw [stage_of_run w t _ L (f := fun run => run.counted edge.target passed) hc, stage_record,
      List.append_assoc]
    exact dispatch_moves _ r edge.target ht
  | skip =>
    rw [hv, if_neg (by decide)] at hc
    rw [stage_of_run w t _ L (f := fun run => run.counted edge.target passed) hc, stage_record]
    exact skip_moves _ r edge.target ht

/-! ## Going on after a wait -/

theorem awaiting_moves (r : Nat) (node : String) (ht : t < w.nextTask)
    (hg : (w.runs.get r).granted.contains t ∨ (w.contextOf r).cancelled)
    (hq : t ∈ (w.runs.get r).waiting ∨ t ∈ (w.runs.get r).granted) :
    Moves (w.stage t (.duty r (.awaiting node)) L)
      ((w.pollAwaiting t r node).view (w.awaitingDeeds t r node ++ L)) := by
  unfold pollAwaiting awaitingDeeds
  dsimp only
  by_cases hm : (w.runs.get r).granted.contains t
  · rw [if_pos hm, if_pos hm]
    refine .head (.grant rfl (List.contains_iff_mem.1 hm)) ?_
    rw [← stage_changeRun, ← stage_leave _ _ _ _ (w.runs.get r).context t]
    exact start_moves L r node ht
  · have hc := hg.resolve_left hm
    rw [if_neg hm, if_neg hm, if_pos hc]
    have hw := hq.resolve_right fun h => hm (List.contains_iff_mem.2 h)
    refine .head (.withdraw rfl hc hw) ?_
    rw [← stage_changeRun, ← stage_leave _ _ _ _ (w.runs.get r).context t]
    exact close_moves L r ht

theorem pausing_moves (r : Nat) (node : String) {wakeAt : Nat} (next stopped : Activity)
    (ht : t < w.nextTask) (hw : wakeAt ≤ w.now ∨ (w.contextOf r).cancelled) :
    Moves (w.stage t (.duty r (.pausing node wakeAt next stopped)) L)
      ((w.pollPausing t r node wakeAt next stopped).view
        (w.pausingDeeds t r node wakeAt next stopped ++ L)) := by
  unfold pollPausing pausingDeeds
  dsimp only
  by_cases hn : wakeAt ≤ w.now
  · rw [if_pos hn, if_pos hn]
    refine .head (.resume rfl) ?_
    rw [← stage_leave _ _ _ _ (w.runs.get r).context t]
    exact perform_moves L r node next ht
  · have hc := hw.resolve_left hn
    rw [if_neg hn, if_neg hn, if_pos hc, if_pos hc]
    refine .head (.interrupt rfl hc) ?_
    rw [← stage_leave _ _ _ _ (w.runs.get r).context t]
    exact perform_moves L r node stopped ht

theorem stage_finish (p : Phase) (ending : Ending) :
    (w.finish t ending).stage t p L =
      { w.stage t p L with
        endings := Function.update (w.stage t p L).endings t (some ending) } := by
  have he : (fun u => ((w.endings.set t (some (ending, w.now))).get u).map Prod.fst) =
      Function.update (fun u => (w.endings.get u).map Prod.fst) t (some ending) := by
    funext u
    rw [Table.get_set, Function.update_apply]
    by_cases h : t = u
    · simp [h]
    · simp [h, Ne.symm h]
  have h := stage_clear { w with endings := w.endings.set t (some (ending, w.now)) } t p L
  exact h.trans (by simp only [stage, he]; rfl)

theorem view_finish (r : Nat) (deadline : Option Nat) (cancelled : Bool) (ht : t < w.nextTask)
    (c : Nat) :
    (((w.conclude r cancelled).1.leave c t).finish t (.over (w.conclude r cancelled).2)).view
        (.concluded r (w.conclude r cancelled).2 :: L) =
      { (w.stage t (.conducting r deadline) L).conclude r cancelled with
        posts := w.otherPosts t
        endings := Function.update (w.stage t (.conducting r deadline) L).endings t
          (some (.over ((w.stage t (.conducting r deadline) L).resultOf r cancelled))) } := by
  generalize hv : (w.conclude r cancelled).1.leave c t = v
  have hr : v.roster = w.roster := by rw [← hv]; simp
  have hlt : t < v.nextTask := lt_of_roster hr ht
  have hg : (v.finish t (.over (w.conclude r cancelled).2)).tasks.get t = .over :=
    (Table.get_clear _ _ _).trans (if_pos rfl)
  have hs : v.stage t (.conducting r deadline) (.concluded r (w.conclude r cancelled).2 :: L) =
      (w.stage t (.conducting r deadline) L).conclude r cancelled := by
    rw [← hv, stage_leave, ← stage_conclude, conclude_snd]
  have ho : v.stage t .over (.concluded r (w.conclude r cancelled).2 :: L) =
      { (w.stage t (.conducting r deadline) L).conclude r cancelled with
        posts := w.otherPosts t } := by
    rw [← hs, ← otherPosts_congr hr]
    simp only [stage, Phase.posts, Phase.crew, zero_add]
  rw [view_eq_stage (by exact hlt), hg, Task.phase, stage_finish, ho]
  simp only [Stage.endings_conclude, conclude_snd w t (.conducting r deadline) L]

theorem conducting_moves (r : Nat) (deadline : Option Nat) (ht : t < w.nextTask)
    (h : w.isOver r ≠ none ∨ deadline.any (fun d => decide (d ≤ w.now)) = true) :
    Moves (w.stage t (.conducting r deadline) L)
      ((w.pollConducting t r deadline).view (w.conductingDeeds r deadline ++ L)) := by
  have hpost : (w.stage t (.conducting r deadline) L).posts = (t, r) ::ₘ w.otherPosts t := rfl
  unfold pollConducting conductingDeeds
  dsimp only
  cases ho : w.isOver r with
  | some cancelled =>
    have hm := Move.conclude hpost ho
    rw [← view_finish L r deadline cancelled ht (w.runs.get r).context] at hm
    exact .single hm
  | none =>
    have hd := h.resolve_left (absurd ho)
    have hc := roster_cancel w (w.runs.get r).context
    have hs := view_finish L r deadline true (lt_of_roster hc ht) (w.runs.get r).context
    rw [stage_cancel, otherPosts_congr hc] at hs
    dsimp only
    rw [if_pos hd, if_pos hd]
    have hm := Move.expire hpost ho
    exact .single (hs ▸ hm)

/-! ## Steps and acts -/

/-- A task that goes on without any move keeps waiting for what it waited for. -/
def Idles (w : World) (t : Nat) : Prop :=
  match w.tasks.get t with
  | .over => True
  | .launching => True
  | .conducting r deadline =>
    w.isOver r = none ∧ deadline.any (fun d => decide (d ≤ w.now)) = false
  | .arriving _ _ _ _ => False
  | .dispatched _ _ => False
  | .awaiting r _ =>
    (w.runs.get r).granted.contains t = false ∧ (w.contextOf r).cancelled = false
  | .pausing r _ wakeAt _ _ => ¬wakeAt ≤ w.now ∧ (w.contextOf r).cancelled = false
  | .nesting _ _ inner => w.isOver inner = none

/-- The view of a world is its stage with any of its tasks in hand. -/
theorem view_eq {task : Task} (ht : t < w.nextTask) (hp : w.tasks.get t = task) :
    w.view L = w.stage t task.phase L :=
  hp ▸ view_eq_stage ht L

theorem poll_moves (ht : t < w.nextTask) (hi : ¬w.Idles t)
    (hq : ∀ r node, w.tasks.get t = .awaiting r node →
      t ∈ (w.runs.get r).waiting ∨ t ∈ (w.runs.get r).granted) :
    Moves (w.view L) ((w.poll t).view (w.pollDeeds t ++ L)) := by
  unfold Idles at hi
  unfold poll pollDeeds
  cases hp : w.tasks.get t with
  | «over» => exact absurd trivial (by simpa only [hp] using hi)
  | launching => exact absurd trivial (by simpa only [hp] using hi)
  | conducting r deadline =>
    rw [hp, not_and_or, Bool.not_eq_false] at hi
    exact view_eq L ht hp ▸ conducting_moves L r deadline ht hi
  | arriving r source place live =>
    exact view_eq L ht hp ▸ arrive_moves L r source place live ht
  | dispatched r node => exact view_eq L ht hp ▸ dispatch_moves L r node ht
  | awaiting r node =>
    rw [hp, not_and_or, Bool.not_eq_false, Bool.not_eq_false] at hi
    exact view_eq L ht hp ▸ awaiting_moves L r node ht hi (hq r node hp)
  | pausing r node wakeAt next stopped =>
    rw [hp, not_and_or, not_not, Bool.not_eq_false] at hi
    exact view_eq L ht hp ▸ pausing_moves L r node next stopped ht hi
  | nesting r node inner =>
    rw [hp] at hi
    obtain ⟨cancelled, ho⟩ := Option.ne_none_iff_exists'.1 hi
    exact view_eq L ht hp ▸ nesting_moves L r node ht ho

theorem poll_idles (hi : w.Idles t) :
    w.pollDeeds t = [] ∧ (w.poll t = w ∨ ∃ c task, w.tasks.get t = task ∧
      w.poll t = (w.setTask t task).listen c t) := by
  unfold Idles at hi
  unfold poll pollDeeds
  cases hp : w.tasks.get t with
  | «over» => exact ⟨rfl, .inl rfl⟩
  | launching => exact ⟨rfl, .inl rfl⟩
  | conducting r deadline =>
    obtain ⟨ho, hd⟩ : _ ∧ _ := by simpa only [hp] using hi
    simp only [pollConducting, conductingDeeds, ho, hd, Bool.false_eq_true, if_false, true_and]
    exact .inr ⟨_, _, rfl, rfl⟩
  | arriving r source place live => exact absurd hi (by simp only [hp, not_false_eq_true])
  | dispatched r node => exact absurd hi (by simp only [hp, not_false_eq_true])
  | awaiting r node =>
    obtain ⟨hg, hc⟩ : _ ∧ _ := by simpa only [hp] using hi
    simp only [pollAwaiting, awaitingDeeds, hg, hc, Bool.false_eq_true, if_false, true_and,
      true_or]
  | pausing r node wakeAt next stopped =>
    obtain ⟨hw, hc⟩ : _ ∧ _ := by simpa only [hp] using hi
    simp only [pollPausing, pausingDeeds, hw, hc, Bool.false_eq_true, if_false, true_and,
      true_or]
  | nesting r node inner =>
    have ho : w.isOver inner = none := by simpa only [hp] using hi
    simp only [pollNesting, nestingDeeds, ho, true_and]
    exact .inr ⟨_, _, rfl, rfl⟩

theorem view_poll_idles (ht : t < w.nextTask) (hi : w.Idles t) :
    (w.poll t).view (w.pollDeeds t ++ L) = w.view L := by
  obtain ⟨hd, h | ⟨c, task, hp, h⟩⟩ := poll_idles hi
  · rw [hd, h, List.nil_append]
  · rw [hd, h, List.nil_append, view_setTask L c task ht, view_eq L ht hp]

end

end World

end Conduit
