import Conduit.Proofs.Run.Moves

/-!
# Waking

No task is forgotten. Whoever waits for something is among those that are woken when it comes about,
and is ready once it has. A step of one task leaves this alone for all others, whatever it does.
-/

namespace Conduit

/-- What ties a run to its context and to tasks. -/
def Run.ties (run : Run) : Nat × Nat × List Nat × List Nat × Nat :=
  (run.context, run.supervisor, run.waiting, run.granted, run.unfinished)

@[simp] theorem Run.ties_setStatus (run : Run) (id : String) (s : NodeStatus) :
    (run.setStatus id s).ties = run.ties := by
  rw [setStatus, changeNode_eq]
  rfl

namespace World

/-! ## What tasks wait for -/

/-- The task is woken by the cancellation of a context. -/
def Attends (w : World) (u c : Nat) : Prop :=
  ((w.contexts.get c).cancelled = true → u ∈ w.ready) ∧
    ((w.contexts.get c).cancelled = false → u ∈ (w.contexts.get c).listeners)

/-- The task is woken at a time. -/
def Times (w : World) (u time : Nat) : Prop := (time, u) ∈ w.timers ∨ time ≤ w.now ∧ u ∈ w.ready

/-- The task is woken when it gets a permit of a run. -/
def Queues (w : World) (u r : Nat) : Prop :=
  u ∈ (w.runs.get r).waiting ∨ u ∈ (w.runs.get r).granted ∧ u ∈ w.ready

/-- The supervisor of a run is woken when the run is over. -/
def Minds (w : World) (r : Nat) : Prop :=
  (w.runs.get r).unfinished = 0 → (w.runs.get r).supervisor ∈ w.ready

/-- What a task of a kind needs to be ready or to wait for something that wakes it. No task is left
launching. -/
def Needs (w : World) (u : Nat) : Task → Prop
  | .over => True
  | .launching => False
  | .conducting r deadline =>
    r < w.nextRun ∧ (w.runs.get r).supervisor = u ∧ w.Minds r ∧
      w.Attends u (w.runs.get r).context ∧ ∀ d ∈ deadline, w.Times u d
  | .arriving r _ _ _ => r < w.nextRun ∧ u ∈ w.ready
  | .dispatched r _ => r < w.nextRun ∧ u ∈ w.ready
  | .awaiting r _ => r < w.nextRun ∧ w.Queues u r ∧ w.Attends u (w.runs.get r).context
  | .pausing r _ wakeAt _ _ =>
    r < w.nextRun ∧ w.Times u wakeAt ∧ w.Attends u (w.runs.get r).context
  | .nesting r _ inner =>
    r < w.nextRun ∧ inner < w.nextRun ∧ (w.runs.get inner).supervisor = u ∧ w.Minds inner ∧
      w.Attends u (w.runs.get inner).context

/-- The task is ready or waits for something that wakes it. -/
def Alert (w : World) (u : Nat) : Prop := w.Needs u (w.tasks.get u)

theorem alert_of_task {w : World} {u : Nat} {task : Task} (h : w.tasks.get u = task)
    (hn : w.Needs u task) : w.Alert u := by
  unfold Alert
  rwa [h]

theorem goesOn_of_isOver {w : World} {r : Nat} (h : w.isOver r = none) :
    (w.runs.get r).unfinished ≠ 0 ∧
      (w.contexts.get (w.runs.get r).context).cancelled = false := by
  unfold isOver at h
  split at h
  · cases h
  next hu =>
  split at h
  · cases h
  next hc => exact ⟨hu, Bool.eq_false_iff.2 hc⟩

/-! ## Sparing the other tasks -/

/-- Nothing that a task other than `t` waits for is lost on the way from `w` to `v`. -/
structure Spares (t : Nat) (w v : World) : Prop where
  now : v.now = w.now
  nextTask : w.nextTask ≤ v.nextTask
  nextRun : w.nextRun ≤ v.nextRun
  tasks : ∀ u, u ≠ t → u < w.nextTask → v.tasks.get u = w.tasks.get u
  fresh : ∀ u, w.nextTask ≤ u → u < v.nextTask → v.Alert u
  beyond : (∀ u, w.nextTask ≤ u → w.tasks.get u = .over) →
    ∀ u, v.nextTask ≤ u → v.tasks.get u = .over
  ready : ∀ u ∈ w.ready, u ∈ v.ready
  attends : ∀ u c, u ≠ t → w.Attends u c → v.Attends u c
  timers : ∀ e ∈ w.timers, e.2 ≠ t → e ∈ v.timers
  queues : ∀ u r, u ≠ t → r < w.nextRun → w.Queues u r → v.Queues u r
  minds : ∀ r, r < w.nextRun → w.Minds r → v.Minds r
  context : ∀ r, r < w.nextRun → (v.runs.get r).context = (w.runs.get r).context
  supervisor : ∀ r, r < w.nextRun → (v.runs.get r).supervisor = (w.runs.get r).supervisor

section

variable {t : Nat} {w v x : World}

theorem Spares.needs (h : Spares t w v) {u : Nat} {task : Task} (hu : u ≠ t)
    (ha : w.Needs u task) : v.Needs u task := by
  have htimes : ∀ time, w.Times u time → v.Times u time := by
    rintro time (ht | ⟨ht, hr⟩)
    · exact .inl (h.timers _ ht hu)
    · exact .inr ⟨h.now ▸ ht, h.ready u hr⟩
  cases task with
  | «over» => trivial
  | launching => trivial
  | conducting r deadline =>
    obtain ⟨hr, hs, hm, hc, hd⟩ := ha
    refine ⟨hr.trans_le h.nextRun, (h.supervisor r hr).trans hs, h.minds r hr hm, ?_, ?_⟩
    · rw [h.context r hr]
      exact h.attends u _ hu hc
    · exact fun d hm => htimes d (hd d hm)
  | arriving r source place live => exact ⟨ha.1.trans_le h.nextRun, h.ready u ha.2⟩
  | dispatched r node => exact ⟨ha.1.trans_le h.nextRun, h.ready u ha.2⟩
  | awaiting r node =>
    obtain ⟨hr, hq, hc⟩ := ha
    refine ⟨hr.trans_le h.nextRun, h.queues u r hu hr hq, ?_⟩
    rw [h.context r hr]
    exact h.attends u _ hu hc
  | pausing r node wakeAt next stopped =>
    obtain ⟨hr, ht, hc⟩ := ha
    refine ⟨hr.trans_le h.nextRun, htimes wakeAt ht, ?_⟩
    rw [h.context r hr]
    exact h.attends u _ hu hc
  | nesting r node inner =>
    obtain ⟨hr, hi, hs, hm, hc⟩ := ha
    refine ⟨hr.trans_le h.nextRun, hi.trans_le h.nextRun, (h.supervisor inner hi).trans hs,
      h.minds inner hi hm, ?_⟩
    rw [h.context inner hi]
    exact h.attends u _ hu hc

theorem Spares.alert (h : Spares t w v) {u : Nat} (hu : u ≠ t) (hlt : u < w.nextTask)
    (ha : w.Alert u) : v.Alert u :=
  alert_of_task (h.tasks u hu hlt) (h.needs hu ha)

theorem Spares.refl (t : Nat) (w : World) : Spares t w w where
  now := rfl
  nextTask := Nat.le_refl _
  nextRun := Nat.le_refl _
  tasks _ _ _ := rfl
  fresh _ hle hlt := absurd hlt (Nat.not_lt_of_le hle)
  beyond h := h
  ready _ h := h
  attends _ _ _ h := h
  timers _ h _ := h
  queues _ _ _ _ h := h
  minds _ _ h := h
  context _ _ := rfl
  supervisor _ _ := rfl

theorem Spares.trans (ht : t < w.nextTask) (h : Spares t w v) (h' : Spares t v x) :
    Spares t w x where
  now := h'.now.trans h.now
  nextTask := h.nextTask.trans h'.nextTask
  nextRun := h.nextRun.trans h'.nextRun
  tasks u hu hlt := (h'.tasks u hu (hlt.trans_le h.nextTask)).trans (h.tasks u hu hlt)
  fresh u hle hlt := by
    by_cases hv : u < v.nextTask
    · exact h'.alert (Nat.ne_of_gt (ht.trans_le hle)) hv (h.fresh u hle hv)
    · exact h'.fresh u (Nat.le_of_not_lt hv) hlt
  beyond hb := h'.beyond (h.beyond hb)
  ready u hu := h'.ready u (h.ready u hu)
  attends u c hu ha := h'.attends u c hu (h.attends u c hu ha)
  timers e he hu := h'.timers e (h.timers e he hu) hu
  queues u r hu hr hq := h'.queues u r hu (hr.trans_le h.nextRun) (h.queues u r hu hr hq)
  minds r hr hm := h'.minds r (hr.trans_le h.nextRun) (h.minds r hr hm)
  context r hr := (h'.context r (hr.trans_le h.nextRun)).trans (h.context r hr)
  supervisor r hr := (h'.supervisor r (hr.trans_le h.nextRun)).trans (h.supervisor r hr)

end

/-! ## What operations spare -/

section

variable (t : Nat) (w : World)

theorem spares_setContexts {v : World} (hr : v.roster = w.roster) (hruns : v.runs = w.runs)
    (hnext : v.nextRun = w.nextRun) (hnow : v.now = w.now) (htimers : v.timers = w.timers)
    (hready : ∀ u ∈ w.ready, u ∈ v.ready)
    (hatt : ∀ u c, u ≠ t → w.Attends u c → v.Attends u c) : Spares t w v where
  now := hnow
  nextTask := (Prod.mk.inj hr).2.ge
  nextRun := hnext.ge
  tasks u _ _ := congrArg (Table.get · u) (Prod.mk.inj hr).1
  fresh u hle hlt := by
    rw [(Prod.mk.inj hr).2] at hlt
    exact absurd hlt (Nat.not_lt_of_le hle)
  beyond h u hu := by
    rw [(Prod.mk.inj hr).2] at hu
    rw [(Prod.mk.inj hr).1]
    exact h u hu
  ready := hready
  attends := hatt
  timers e he _ := htimers ▸ he
  queues u r _ _ hq := by
    unfold Queues at hq ⊢
    rw [hruns]
    exact hq.imp_right fun h => ⟨h.1, hready u h.2⟩
  minds r _ hm hu := by
    rw [hruns] at hu ⊢
    exact hready _ (hm hu)
  context r _ := by rw [hruns]
  supervisor r _ := by rw [hruns]

/-- A change of a run that loses nobody who waits for a permit or for the end of the run. -/
theorem spares_changeRun (r : Nat) {f : Run → Run}
    (hc : (f (w.runs.get r)).context = (w.runs.get r).context)
    (hs : (f (w.runs.get r)).supervisor = (w.runs.get r).supervisor)
    (hq : ∀ u, u ≠ t → w.Queues u r → (w.changeRun r f).Queues u r)
    (hm : w.Minds r → (w.changeRun r f).Minds r) : Spares t w (w.changeRun r f) where
  now := rfl
  nextTask := Nat.le_refl _
  nextRun := Nat.le_refl _
  tasks _ _ _ := rfl
  fresh _ hle hlt := absurd hlt (Nat.not_lt_of_le hle)
  beyond h := h
  ready _ h := h
  attends _ _ _ h := h
  timers _ h _ := h
  queues u s hne _ h := by
    by_cases he : r = s
    · exact he ▸ hq u hne (he.symm ▸ h)
    · unfold Queues at h ⊢
      rw [get_runs_changeRun, if_neg he]
      exact h
  minds s _ h := by
    by_cases he : r = s
    · exact he ▸ hm (he.symm ▸ h)
    · unfold Minds at h ⊢
      rw [get_runs_changeRun, if_neg he]
      exact h
  context s _ := by
    rw [get_runs_changeRun]
    split
    · next he => rw [hc, he]
    · rfl
  supervisor s _ := by
    rw [get_runs_changeRun]
    split
    · next he => rw [hs, he]
    · rfl

theorem queues_changeRun {r u : Nat} {f : Run → Run}
    (hw : u ∈ (w.runs.get r).waiting → u ∈ (f (w.runs.get r)).waiting)
    (hg : u ∈ (w.runs.get r).granted → u ∈ (f (w.runs.get r)).granted)
    (h : w.Queues u r) : (w.changeRun r f).Queues u r := by
  unfold Queues at h ⊢
  rw [get_runs_changeRun, if_pos rfl]
  exact h.imp hw fun h => ⟨hg h.1, h.2⟩

theorem minds_changeRun {r : Nat} {f : Run → Run}
    (hs : (f (w.runs.get r)).supervisor = (w.runs.get r).supervisor)
    (hu : (w.runs.get r).unfinished ≤ (f (w.runs.get r)).unfinished)
    (h : w.Minds r) : (w.changeRun r f).Minds r := by
  unfold Minds at h ⊢
  rw [get_runs_changeRun, if_pos rfl, hs]
  exact fun h' => h (Nat.eq_zero_of_le_zero (h' ▸ hu))

theorem spares_of_ties (r : Nat) {f : Run → Run}
    (h : (f (w.runs.get r)).ties = (w.runs.get r).ties) : Spares t w (w.changeRun r f) := by
  obtain ⟨hc, hs, hw, hg, hu⟩ : _ ∧ _ ∧ _ ∧ _ ∧ _ := by
    simpa only [Run.ties, Prod.mk.injEq] using h
  exact spares_changeRun t w r hc hs
    (fun u _ => queues_changeRun w (fun h => hw ▸ h) fun h => hg ▸ h) (minds_changeRun w hs hu.ge)

theorem spares_emit (r : Nat) (h : Happening) : Spares t w (w.emit r h) :=
  spares_setContexts t w rfl rfl rfl rfl rfl (fun _ h => h) fun _ _ _ h => h

theorem attends_changeContext {c u : Nat} {f : Context → Context}
    (hc : (f (w.contexts.get c)).cancelled = (w.contexts.get c).cancelled)
    (hl : u ∈ (w.contexts.get c).listeners → u ∈ (f (w.contexts.get c)).listeners) {d : Nat}
    (ha : w.Attends u d) : (w.changeContext c f).Attends u d := by
  unfold Attends changeContext at *
  rw [Table.get_change]
  split
  · next he =>
    subst he
    rw [hc]
    exact ⟨ha.1, fun h => hl (ha.2 h)⟩
  · exact ha

theorem spares_setValues (c : Nat) (f : Values → Values) : Spares t w (w.setValues c f) :=
  spares_setContexts t w rfl rfl rfl rfl rfl (fun _ h => h) fun _ _ _ h =>
    attends_changeContext w (f := fun x => { x with values := f x.values }) rfl (fun h => h) h

theorem spares_reportError (c : Nat) (e : PipelineError) : Spares t w (w.reportError c e) :=
  spares_setValues t w c _

theorem spares_listen (c u : Nat) : Spares t w (w.listen c u) := by
  refine spares_setContexts t w rfl rfl rfl rfl rfl (fun _ h => h) fun s d _ h => ?_
  unfold listen
  refine attends_changeContext w ?_ (fun h => ?_) h
  · split <;> rfl
  · split
    · exact h
    · exact List.mem_append_left _ h

theorem wake_frame (u : Nat) :
    (w.wake u).contexts = w.contexts ∧ (w.wake u).runs = w.runs ∧
      (w.wake u).nextRun = w.nextRun ∧ (w.wake u).now = w.now ∧
      (w.wake u).timers = w.timers := by
  unfold wake
  split <;> exact ⟨rfl, rfl, rfl, rfl, rfl⟩

theorem wakeAll_frame (ts : List Nat) :
    (w.wakeAll ts).contexts = w.contexts ∧ (w.wakeAll ts).runs = w.runs ∧
      (w.wakeAll ts).nextRun = w.nextRun ∧ (w.wakeAll ts).now = w.now ∧
      (w.wakeAll ts).timers = w.timers := by
  unfold wakeAll
  induction ts generalizing w with
  | nil => exact ⟨rfl, rfl, rfl, rfl, rfl⟩
  | cons u ts ih =>
    have h := ih (w.wake u)
    rw [List.foldl_cons]
    simp only [wake_frame] at h
    exact h

theorem spares_wake (u : Nat) : Spares t w (w.wake u) := by
  obtain ⟨hc, hruns, hnext, hnow, htimers⟩ := wake_frame w u
  have hready := fun s => mem_ready_wake_of_mem w (s := s) u
  refine spares_setContexts t w (roster_wake w u) hruns hnext hnow htimers hready fun s c _ h => ?_
  unfold Attends at h ⊢
  rw [hc]
  exact ⟨fun h' => hready s (h.1 h'), h.2⟩

variable {t w}

theorem mem_ready_wakeAll {u : Nat} (ts : List Nat) (h : u ∈ ts ∨ u ∈ w.ready) :
    u ∈ (w.wakeAll ts).ready := by
  unfold wakeAll
  induction ts generalizing w with
  | nil => exact h.resolve_left List.not_mem_nil
  | cons s ts ih =>
    refine ih ?_
    rcases h with h | h
    · rcases List.mem_cons.1 h with rfl | h
      · exact .inr (mem_ready_wake w u)
      · exact .inl h
    · exact .inr (mem_ready_wake_of_mem w s h)

theorem spares_leave (c : Nat) : Spares t w (w.leave c t) where
  now := rfl
  nextTask := Nat.le_refl _
  nextRun := Nat.le_refl _
  tasks _ _ _ := rfl
  fresh _ hle hlt := absurd hlt (Nat.not_lt_of_le hle)
  beyond h := h
  ready _ h := h
  attends u d hu ha :=
    attends_changeContext w (f := fun x => { x with listeners := x.listeners.filter fun l => l != t })
      rfl (fun h => List.mem_filter.2 ⟨h, by simpa using hu⟩) ha
  timers e he hu := List.mem_filter.2 ⟨he, by simpa using hu⟩
  queues _ _ _ _ h := h
  minds _ _ h := h
  context _ _ := rfl
  supervisor _ _ := rfl

theorem spares_addTimer (time u : Nat) : Spares t w (w.addTimer time u) where
  now := rfl
  nextTask := Nat.le_refl _
  nextRun := Nat.le_refl _
  tasks _ _ _ := rfl
  fresh _ hle hlt := absurd hlt (Nat.not_lt_of_le hle)
  beyond h := h
  ready _ h := h
  attends _ _ _ h := h
  timers _ h _ := List.mem_append_left _ h
  queues _ _ _ _ h := h
  minds _ _ h := h
  context _ _ := rfl
  supervisor _ _ := rfl

theorem spares_tasks (ht : t < w.nextTask) (tasks : Table Task)
    (h : ∀ u, u ≠ t → tasks.get u = w.tasks.get u) : Spares t w { w with tasks := tasks } where
  now := rfl
  nextTask := Nat.le_refl _
  nextRun := Nat.le_refl _
  tasks u hu _ := h u hu
  fresh _ hle hlt := absurd hlt (Nat.not_lt_of_le hle)
  beyond hb u hu := (h u (Nat.ne_of_gt (ht.trans_le hu))).trans (hb u hu)
  ready _ h := h
  attends _ _ _ h := h
  timers _ h _ := h
  queues _ _ _ _ h := h
  minds _ _ h := h
  context _ _ := rfl
  supervisor _ _ := rfl

theorem spares_setTask (ht : t < w.nextTask) (task : Task) : Spares t w (w.setTask t task) :=
  spares_tasks ht _ fun u hu => by rw [Table.get_set, if_neg (Ne.symm hu)]

theorem spares_clear (ht : t < w.nextTask) : Spares t w { w with tasks := w.tasks.clear t } :=
  spares_tasks ht _ fun u hu => by rw [Table.get_clear, if_neg (Ne.symm hu)]

theorem spares_cancel (c : Nat) : Spares t w (w.cancel c) := by
  unfold cancel
  dsimp only
  split
  · exact .refl t w
  next hc =>
  have hready : ∀ u ∈ w.ready, u ∈ ((w.changeContext c fun x =>
      { x with cancelled := true, listeners := [] }).wakeAll (w.contexts.get c).listeners).ready :=
    fun u hu => mem_ready_wakeAll _ (.inr hu)
  obtain ⟨hx, hr, hn, hw, ht⟩ := wakeAll_frame (w.changeContext c fun x =>
    { x with cancelled := true, listeners := [] }) (w.contexts.get c).listeners
  refine spares_setContexts t w ((roster_wakeAll _ _).trans rfl) hr hn hw ht hready ?_
  intro u d _ ha
  unfold Attends at ha ⊢
  rw [hx, changeContext, Table.get_change]
  split
  · next he =>
    subst he
    refine ⟨fun _ => mem_ready_wakeAll _ (.inl (ha.2 (Bool.eq_false_iff.2 hc))), ?_⟩
    exact fun h => absurd h (by simp)
  · exact ⟨fun h => hready u (ha.1 h), ha.2⟩

theorem spares_spawn {task : Task} (ha : (w.spawn task).Alert w.nextTask) :
    Spares t w (w.spawn task) where
  now := rfl
  nextTask := Nat.le_succ _
  nextRun := Nat.le_refl _
  tasks u _ hlt := (Table.get_set _ _ _ _).trans (if_neg (Nat.ne_of_gt hlt))
  fresh u hle hlt := by
    obtain rfl : u = w.nextTask := Nat.le_antisymm (Nat.le_of_lt_succ hlt) hle
    exact ha
  beyond hb u hu := by
    refine (Table.get_set _ _ _ _).trans ?_
    rw [if_neg (Nat.ne_of_lt hu)]
    exact hb u (Nat.le_of_succ_le hu)
  ready _ h := List.mem_append_left _ h
  attends _ _ _ h := ⟨fun hc => List.mem_append_left _ (h.1 hc), h.2⟩
  timers _ h _ := h
  queues _ _ _ _ h := h.imp_right fun h => ⟨h.1, List.mem_append_left _ h.2⟩
  minds _ _ h hu := List.mem_append_left _ (h hu)
  context _ _ := rfl
  supervisor _ _ := rfl

theorem spares_spawnIn {r : Nat} {task : Task} (ht : t < w.nextTask)
    (ha : (w.spawnIn r task).Alert w.nextTask) : Spares t w (w.spawnIn r task) := by
  have hc : Spares t w (w.changeRun r fun run => { run with unfinished := run.unfinished + 1 }) :=
    spares_changeRun t w r rfl rfl (fun _ _ => queues_changeRun w (fun h => h) fun h => h)
      (minds_changeRun w rfl (Nat.le_succ _))
  exact hc.trans ht (spares_spawn ha)

theorem alert_spawnIn_dispatched {r : Nat} (s : Nat) (node : String) (hr : r < w.nextRun) :
    (w.spawnIn s (.dispatched r node)).Alert w.nextTask :=
  alert_of_task (Table.get_set_self _ _ _)
    ⟨hr, List.mem_append_right _ (List.mem_singleton.2 rfl)⟩

theorem alert_spawnIn_arriving {r : Nat} (s : Nat) (source : String) (place : Nat) (live : Bool)
    (hr : r < w.nextRun) :
    (w.spawnIn s (.arriving r source place live)).Alert w.nextTask :=
  alert_of_task (Table.get_set_self _ _ _)
    ⟨hr, List.mem_append_right _ (List.mem_singleton.2 rfl)⟩

theorem spares_spawnArrivals {r : Nat} (source : String) (live : Bool) (ht : t < w.nextTask)
    (hr : r < w.nextRun) : Spares t w (w.spawnArrivals r source live) := by
  unfold spawnArrivals
  induction List.range ((w.runs.get r).outDegree source) generalizing w with
  | nil => exact .refl t w
  | cons place places ih =>
    have hs := spares_spawnIn ht (alert_spawnIn_arriving r source place live hr)
    exact hs.trans ht (ih (ht.trans_le hs.nextTask) hr)

theorem changeRun_wake (w : World) (r u : Nat) (f : Run → Run) :
    (w.changeRun r f).wake u = (w.wake u).changeRun r f := by
  by_cases h : w.ready.contains u
  · rw [wake, if_pos (by exact h), wake, if_pos h]
  · rw [wake, if_neg (by exact h), wake, if_neg h]
    rfl

theorem runs_wake (w : World) (u : Nat) : (w.wake u).runs = w.runs := (wake_frame w u).2.1

theorem spares_close (r : Nat) (ht : t < w.nextTask) : Spares t w (w.close t r) := by
  refine (spares_clear ht).trans ht ?_
  unfold close
  have hv : t < { w with tasks := w.tasks.clear t }.nextTask := ht
  generalize { w with tasks := w.tasks.clear t } = v at hv
  dsimp only
  rw [get_runs_changeRun, if_pos rfl]
  dsimp only
  split
  · next hu =>
    rw [changeRun_wake]
    refine (spares_wake t v (v.runs.get r).supervisor).trans hv ?_
    refine spares_changeRun t _ r rfl rfl (fun u _ => queues_changeRun _ (fun h => h) fun h => h) ?_
    intro _ _
    rw [get_runs_changeRun, if_pos rfl, runs_wake]
    exact mem_ready_wake v _
  · next hu =>
    refine spares_changeRun t v r rfl rfl (fun u _ => queues_changeRun _ (fun h => h) fun h => h) ?_
    intro _ h
    rw [get_runs_changeRun, if_pos rfl] at h
    exact absurd h hu

theorem spares_release (r : Nat) (ht : t < w.nextTask) : Spares t w (w.release r) := by
  unfold release
  split
  · refine spares_changeRun t w r rfl rfl (fun u _ => queues_changeRun w (fun h => h) fun h => h) ?_
    exact minds_changeRun w rfl (Nat.le_refl _)
  · next u rest hw =>
    rw [changeRun_wake]
    have hlt : t < (w.wake u).nextTask := lt_of_roster (roster_wake w u) ht
    refine (spares_wake t w u).trans ht ?_
    refine spares_changeRun t _ r rfl rfl (fun s _ h => ?_) (minds_changeRun _ rfl (Nat.le_refl _))
    unfold Queues at h ⊢
    rw [get_runs_changeRun, if_pos rfl]
    rw [runs_wake, hw] at *
    rcases h with h | h
    · rcases List.mem_cons.1 h with rfl | h
      · exact .inr ⟨List.mem_cons_self, mem_ready_wake w s⟩
      · exact .inl h
    · exact .inr ⟨List.mem_cons_of_mem _ h.1, h.2⟩

theorem spares_fail (r : Nat) (node : String) (e : PipelineError) (ht : t < w.nextTask) :
    Spares t w (w.fail r node e) := by
  unfold fail
  dsimp only
  have hs : Spares t w ((w.changeRun r fun run => run.setStatus node .failed).emit r
      (.nodeFailed node e.message)) :=
    (spares_of_ties t w r (Run.ties_setStatus _ _ _)).trans ht (spares_emit t _ r _)
  have hh : ∀ v : World, Spares t v (v.changeRun r fun run => { run with halted := true }) :=
    fun v => spares_of_ties t v r rfl
  split
  · exact hs.trans ht (hh _)
  · refine hs.trans ht (.trans ht ?_ (hh _))
    refine .trans ht ?_ (spares_of_ties t _ r rfl)
    exact spares_reportError t _ _ e

theorem spares_abandon (r : Nat) (node : String) (ht : t < w.nextTask) :
    Spares t w (w.abandon r node) :=
  (spares_of_ties t w r (Run.ties_setStatus _ _ _)).trans ht (spares_emit t _ r _)

theorem spares_skip {r : Nat} (node : String) (ht : t < w.nextTask) (hr : r < w.nextRun) :
    Spares t w (w.skip r node) :=
  ((spares_of_ties t w r (Run.ties_setStatus _ _ _)).trans ht (spares_emit t _ r _)).trans ht
    (spares_spawnArrivals node false ht hr)

theorem spares_conclude (r : Nat) (cancelled : Bool) (ht : t < w.nextTask) :
    Spares t w (w.conclude r cancelled).1 := by
  unfold conclude
  dsimp only
  have hs : ∀ h, Spares t w ((w.changeRun r fun run => { run with failure := none }).emit r h) :=
    fun h => (spares_of_ties t w r rfl).trans ht (spares_emit t _ r h)
  split
  · exact hs _
  · split
    · refine .trans ht ?_ (spares_reportError t _ _ _)
      exact .trans ht (hs _) (spares_of_ties t _ r rfl)
    · exact hs _

theorem spares_apply (c : Nat) (scene : Scene) (ht : t < w.nextTask) :
    Spares t w (w.apply c scene) := by
  have h : ∀ v : World, v.roster = w.roster → Spares t w v →
      Spares t w (if scene.cancelled then v.cancel c else v) := by
    intro v hr hv
    split
    · exact hv.trans ht (spares_cancel c)
    · exact hv
  have hs : ∀ v : World, ∀ notes sinks, Spares t v { v with notes := notes, sinks := sinks } :=
    fun v _ _ => spares_setContexts t v rfl rfl rfl rfl rfl (fun _ h => h) fun _ _ _ h => h
  have hv := spares_setValues t w c fun _ => scene.values
  unfold apply
  apply h
  · dsimp only
    split <;> rfl
  · dsimp only
    split
    · exact hv.trans ht (hs _ _ _)
    · exact hv.trans ht (hs _ _ _)

theorem supervisor_begin (w : World) (graph : Graph Component) (context supervisor : Nat)
    (limits : Limits) :
    ((w.begin graph context supervisor limits).runs.get w.nextRun).supervisor = supervisor := by
  unfold begin spawnIn spawn emit changeRun
  dsimp only
  rw [Table.get_change, if_pos rfl, Table.get_set_self]
  rfl

theorem spares_begin (graph : Graph Component) (context supervisor : Nat) (limits : Limits)
    (ht : t < w.nextTask) : Spares t w (w.begin graph context supervisor limits) := by
  have hne : ∀ {r}, r < w.nextRun → w.nextRun ≠ r := fun h => Nat.ne_of_gt h
  have hs : Spares t w { w with
      runs := w.runs.set w.nextRun (Run.new graph context supervisor limits.atLeastOne)
      nextRun := w.nextRun + 1 } :=
    { now := rfl
      nextTask := Nat.le_refl _
      nextRun := Nat.le_succ _
      tasks := fun _ _ _ => rfl
      fresh := fun _ hle hlt => absurd hlt (Nat.not_lt_of_le hle)
      beyond := fun h => h
      ready := fun _ h => h
      attends := fun _ _ _ h => h
      timers := fun _ h _ => h
      queues := fun u r _ hr h => by
        unfold Queues at h ⊢
        rwa [Table.get_set, if_neg (hne hr)]
      minds := fun r hr h => by
        unfold Minds at h ⊢
        rwa [Table.get_set, if_neg (hne hr)]
      context := fun r hr => by rw [Table.get_set, if_neg (hne hr)]
      supervisor := fun r hr => by rw [Table.get_set, if_neg (hne hr)] }
  refine (hs.trans ht (spares_emit t _ w.nextRun (.runStarted graph.pipeline))).trans ht ?_
  exact spares_spawnIn ht (alert_spawnIn_dispatched _ _ (Nat.lt_succ_self _))

/-! ## Where a step leaves its task -/

theorem alert_close (w : World) (t r : Nat) : (w.close t r).Alert t :=
  alert_of_task (get_tasks_close w t r) trivial

theorem closes {v : World} (r : Nat) (ht : t < w.nextTask) (h : Spares t w v) :
    Spares t w (v.close t r) ∧ (v.close t r).Alert t :=
  ⟨h.trans ht (spares_close r (ht.trans_le h.nextTask)), alert_close v t r⟩

theorem Spares.waits {v : World} (h : Spares t w v) (ht : t < w.nextTask) (task : Task) (c : Nat) :
    Spares t w ((v.setTask t task).listen c t) :=
  h.trans ht ((spares_setTask (ht.trans_le h.nextTask) task).trans (ht.trans_le h.nextTask)
    (spares_listen t _ c t))

theorem attends_listen {c : Nat} (hc : (w.contexts.get c).cancelled = false) :
    (w.listen c t).Attends t c := by
  unfold Attends listen changeContext
  rw [Table.get_change, if_pos rfl]
  split
  · next h => exact ⟨fun h' => absurd (hc.symm.trans h') Bool.false_ne_true,
      fun _ => List.contains_iff_mem.1 h⟩
  · exact ⟨fun h' => absurd (hc.symm.trans h') Bool.false_ne_true,
      fun _ => List.mem_append_right _ (List.mem_singleton.2 rfl)⟩

theorem spares_goOn {r : Nat} (node : String) (ht : t < w.nextTask) (hr : r < w.nextRun) :
    Spares t w (w.goOn r node) := by
  unfold goOn
  dsimp only
  split
  · exact spares_of_ties t w r rfl
  split
  · exact .refl t w
  have hs := spares_setValues t w (w.runs.get r).context fun v =>
    Entries.erase v Values.overrideKey
  split
  · exact hs.trans ht (spares_spawnIn ht (alert_spawnIn_dispatched _ _ hr))
  · exact hs.trans ht (spares_spawnArrivals node true ht hr)

theorem complete_lands {r : Nat} (node : String) (result : Result) (ht : t < w.nextTask)
    (hr : r < w.nextRun) :
    Spares t w (w.complete t r node result) ∧ (w.complete t r node result).Alert t := by
  have hs := spares_release r ht
  have ht' := ht.trans_le hs.nextTask
  unfold complete
  apply closes r ht
  dsimp only
  split
  · exact hs.trans ht (spares_abandon r node ht')
  · split
    · exact hs.trans ht (spares_fail r node _ ht')
    · refine hs.trans ht (.trans ht' ?_ (spares_goOn node ht' (hr.trans_le hs.nextRun)))
      exact .trans ht' (spares_of_ties t _ r (Run.ties_setStatus _ _ _)) (spares_emit t _ r _)

/-- An execution only waits in a context that is not cancelled. -/
theorem goesOn_of_asleep {network : Http.Network} {a : Activity} {s s' : Scene} {ts : List Touch}
    {p : Pending} (b : a.Bursts network s ts s' p) {ms : Nat} {next stopped : Activity}
    (waits : p = .asleep ms next stopped) : s.cancelled = false ∧ s'.cancelled = false := by
  induction b with
  | finish => cases waits
  | pause goesOn | send _ _ goesOn => exact ⟨goesOn, goesOn⟩
  | cancel rest ih => cases (ih waits).1
  | look rest ih | write rest ih | erase rest ih | emit rest ih | note rest ih | cut rest ih
  | pass rest ih | drop rest ih | reply _ rest ih => exact ih waits

theorem contexts_apply (w : World) (c : Nat) {scene : Scene} (hc : scene.cancelled = false) :
    (w.apply c scene).contexts = (w.setValues c fun _ => scene.values).contexts ∧
      (w.apply c scene).runs = w.runs := by
  unfold apply
  rw [hc, if_neg Bool.false_ne_true]
  dsimp only
  split <;> exact ⟨rfl, rfl⟩

theorem perform_lands {r : Nat} (node : String) (activity : Activity) (ht : t < w.nextTask)
    (hr : r < w.nextRun) :
    Spares t w (w.perform t r node activity) ∧ (w.perform t r node activity).Alert t := by
  unfold perform
  dsimp only
  generalize hb : activity.burst w.network _ = b
  obtain ⟨scene, pending⟩ := b
  have hs := spares_apply (w.runs.get r).context scene ht
  have ht' := ht.trans_le hs.nextTask
  have hr' := hr.trans_le hs.nextRun
  cases pending with
  | finished result =>
    have h := complete_lands (r := r) node result ht' hr'
    exact ⟨hs.trans ht h.1, h.2⟩
  | asleep ms next stopped =>
    obtain ⟨goesOn, goesOn'⟩ := goesOn_of_asleep (Activity.bursts_of_burst hb) rfl
    obtain ⟨hx, hruns⟩ := contexts_apply w (w.runs.get r).context goesOn'
    refine ⟨(hs.waits ht _ _).trans ht (spares_addTimer _ t), ?_⟩
    -- The activity would not be asleep in a context that is cancelled.
    have hc : ((w.apply (w.runs.get r).context scene).contexts.get
        (w.runs.get r).context).cancelled = false := by
      rw [hx]
      exact (congrArg Context.cancelled ((Table.get_change _ _ _ _).trans (if_pos rfl))).trans
        goesOn
    have hctx : ((w.apply (w.runs.get r).context scene).runs.get r).context =
        (w.runs.get r).context := by rw [hruns]
    have ha : (((w.apply (w.runs.get r).context scene).setTask t (.pausing r node
        ((w.apply (w.runs.get r).context scene).now + ms) next stopped)).listen
          (w.runs.get r).context t).Attends t ((w.apply (w.runs.get r).context scene).runs.get
            r).context := by
      rw [hctx]
      exact attends_listen hc
    refine alert_of_task (Table.get_set_self _ _ _) ?_
    exact ⟨hr', .inl (List.mem_append_right _ (List.mem_singleton.2 rfl)), ha⟩

theorem nesting_lands {r inner : Nat} (node : String) (ht : t < w.nextTask) (hr : r < w.nextRun)
    (hi : inner < w.nextRun) (hsup : (w.runs.get inner).supervisor = t) :
    Spares t w (w.pollNesting t r node inner) ∧ (w.pollNesting t r node inner).Alert t := by
  unfold pollNesting
  dsimp only
  cases ho : w.isOver inner with
  | none =>
    obtain ⟨hu, hc⟩ := goesOn_of_isOver ho
    refine ⟨(Spares.refl t w).waits ht _ _, ?_⟩
    refine alert_of_task (Table.get_set_self _ _ _) ?_
    exact ⟨hr, hi, hsup, fun h => absurd h hu, attends_listen hc⟩
  | some cancelled =>
    have hs := spares_conclude inner cancelled ht
    have hs' := hs.trans ht (.trans (ht.trans_le hs.nextTask)
      (spares_leave (w.runs.get inner).context)
      (spares_setValues t _ (w.runs.get inner).context fun v => Entries.erase v Values.endKey))
    have h := complete_lands (r := r) node (nestedResult (((((w.conclude inner cancelled).1.leave
      (w.runs.get inner).context t).setValues (w.runs.get inner).context fun v =>
        Entries.erase v Values.endKey).runs.get inner).graph.pipeline) (w.conclude inner cancelled).2)
          (ht.trans_le hs'.nextTask) (hr.trans_le hs'.nextRun)
    exact ⟨hs'.trans ht h.1, h.2⟩

theorem start_lands {r : Nat} (node : String) (ht : t < w.nextTask) (hr : r < w.nextRun) :
    Spares t w (w.start t r node) ∧ (w.start t r node).Alert t := by
  have hrel := closes r ht (spares_release r ht)
  unfold start
  split
  · exact hrel
  split
  · exact hrel
  next n _ =>
  dsimp only
  split
  · exact hrel
  next component _ _ =>
  have hs : Spares t w ((w.changeRun r fun run => run.setStatus node .running).emit r
      (.nodeStarted node n.componentId)) :=
    .trans ht (spares_of_ties t _ r (Run.ties_setStatus _ _ _)) (spares_emit t _ r _)
  cases component with
  | basic kind activity =>
    have h := perform_lands (r := r) node activity (ht.trans_le hs.nextTask) (hr.trans_le hs.nextRun)
    exact ⟨hs.trans ht h.1, h.2⟩
  | pipeline graph =>
    have ht' := ht.trans_le hs.nextTask
    have hb := spares_begin graph ((((w.changeRun r fun run => run.setStatus node .running).emit r
      (.nodeStarted node n.componentId)).runs.get r).context) t
        ((((w.changeRun r fun run => run.setStatus node .running).emit r
          (.nodeStarted node n.componentId)).runs.get r).limits) ht'
    have hi : w.nextRun < w.nextRun + 1 := Nat.lt_succ_self _
    have h := nesting_lands node (ht'.trans_le hb.nextTask)
      ((hr.trans_le hs.nextRun).trans_le hb.nextRun) hi (supervisor_begin _ graph _ t _)
    exact ⟨(hs.trans ht hb).trans ht h.1, h.2⟩

theorem acquire_lands {r : Nat} (node : String) (ht : t < w.nextTask) (hr : r < w.nextRun)
    (hc : (w.contextOf r).cancelled = false) :
    Spares t w (w.acquire t r node) ∧ (w.acquire t r node).Alert t := by
  unfold acquire
  dsimp only
  split
  · have hs := spares_of_ties t w r (f := fun run => { run with free := run.free - 1 }) rfl
    have h := start_lands (r := r) (w := w.changeRun r fun run => { run with free := run.free - 1 })
      node ht hr
    exact ⟨hs.trans ht h.1, h.2⟩
  · have hs : Spares t w (w.changeRun r fun run => { run with waiting := run.waiting ++ [t] }) :=
      spares_changeRun t w r rfl rfl
        (fun u _ => queues_changeRun w (fun h => List.mem_append_left _ h) fun h => h)
        (minds_changeRun w rfl (Nat.le_refl _))
    have hrun : (w.changeRun r fun run => { run with waiting := run.waiting ++ [t] }).runs.get r =
        { w.runs.get r with waiting := (w.runs.get r).waiting ++ [t] } := by
      rw [get_runs_changeRun, if_pos rfl]
    refine ⟨hs.waits ht _ _, alert_of_task (Table.get_set_self _ _ _) ⟨hr, .inl ?_, ?_⟩⟩
    · refine (congrArg Run.waiting hrun).symm ▸ List.mem_append_right _ (List.mem_singleton.2 rfl)
    · refine (congrArg Run.context hrun).symm ▸ attends_listen ?_
      exact hc

theorem dispatch_lands {r : Nat} (node : String) (ht : t < w.nextTask) (hr : r < w.nextRun) :
    Spares t w (w.dispatch t r node) ∧ (w.dispatch t r node).Alert t := by
  have hstep : Spares t w (w.changeRun r fun run => { run with steps := run.steps + 1 }) :=
    spares_of_ties t w r rfl
  unfold dispatch
  split
  · exact closes r ht (.refl t w)
  next hstop =>
  split
  · exact closes r ht (spares_fail r node _ ht)
  split
  · exact closes r ht (spares_fail r node _ ht)
  dsimp only
  split
  · exact closes r ht (hstep.trans ht (spares_fail r node _ ht))
  · have hc : ((w.changeRun r fun run => { run with steps := run.steps + 1 }).contextOf r).cancelled
        = false := by
      rw [contextOf, get_runs_changeRun, if_pos rfl]
      exact (Bool.or_eq_false_iff.1 (Bool.eq_false_iff.2 hstop)).2
    have h := acquire_lands node ht (w := w.changeRun r fun run => { run with steps := run.steps + 1 })
      hr hc
    exact ⟨hstep.trans ht h.1, h.2⟩

theorem ties_arriveAt (run : Run) (id : String) (live : Bool) :
    (run.arriveAt id live).1.ties = run.ties := by
  unfold Run.arriveAt
  split <;> rfl

theorem arrive_lands {r : Nat} (source : String) (place : Nat) (live : Bool) (ht : t < w.nextTask)
    (hr : r < w.nextRun) :
    Spares t w (w.arrive t r source place live) ∧ (w.arrive t r source place live).Alert t := by
  unfold arrive
  split
  · exact closes r ht (.refl t w)
  split
  · exact closes r ht (.refl t w)
  next edge _ =>
  dsimp only
  split
  · exact closes r ht (spares_fail r _ _ ht)
  next passed _ =>
  have hs : Spares t w (w.changeRun r fun _ => ((w.runs.get r).arriveAt edge.target passed).1) :=
    spares_of_ties t w r (ties_arriveAt _ _ _)
  split
  · exact closes r ht hs
  · refine closes r ht (hs.trans ht (spares_of_ties t _ r ?_))
    rw [Run.markBlocked, Run.changeNode_eq]
    rfl
  · have h := dispatch_lands edge.target ht (w := w.changeRun r fun _ =>
      ((w.runs.get r).arriveAt edge.target passed).1) hr
    exact ⟨hs.trans ht h.1, h.2⟩
  · exact closes r ht (hs.trans ht (spares_skip edge.target ht hr))

theorem awaiting_lands {r : Nat} (node : String) (ht : t < w.nextTask) (hr : r < w.nextRun)
    (h : (w.runs.get r).granted.contains t ∨ (w.contextOf r).cancelled) :
    Spares t w (w.pollAwaiting t r node) ∧ (w.pollAwaiting t r node).Alert t := by
  unfold pollAwaiting
  dsimp only
  split
  · have hs : Spares t w (w.changeRun r fun run => { run with granted := run.granted.erase t }) :=
      spares_changeRun t w r rfl rfl
        (fun u hu => queues_changeRun w (fun h => h) fun h => (List.mem_erase_of_ne hu).2 h)
        (minds_changeRun w rfl (Nat.le_refl _))
    have hl := hs.trans ht (spares_leave (w.runs.get r).context)
    have h := start_lands (r := r) node (ht.trans_le hl.nextTask) (hr.trans_le hl.nextRun)
    exact ⟨hl.trans ht h.1, h.2⟩
  next hg =>
  rw [if_pos (h.resolve_left hg)]
  have hs : Spares t w (w.changeRun r fun run => { run with waiting := run.waiting.erase t }) :=
    spares_changeRun t w r rfl rfl
      (fun u hu => queues_changeRun w (fun h => (List.mem_erase_of_ne hu).2 h) fun h => h)
      (minds_changeRun w rfl (Nat.le_refl _))
  exact closes r ht (hs.trans ht (spares_leave (w.runs.get r).context))

theorem pausing_lands {r wakeAt : Nat} (node : String) (next stopped : Activity)
    (ht : t < w.nextTask) (hr : r < w.nextRun)
    (h : wakeAt ≤ w.now ∨ (w.contextOf r).cancelled) :
    Spares t w (w.pollPausing t r node wakeAt next stopped) ∧
      (w.pollPausing t r node wakeAt next stopped).Alert t := by
  have hs := spares_leave (t := t) (w := w) (w.runs.get r).context
  have hp := fun a => perform_lands (r := r) node a (ht.trans_le hs.nextTask)
    (hr.trans_le hs.nextRun)
  unfold pollPausing
  dsimp only
  split
  · exact ⟨hs.trans ht (hp next).1, (hp next).2⟩
  next hw =>
  rw [if_pos (h.resolve_left hw)]
  exact ⟨hs.trans ht (hp stopped).1, (hp stopped).2⟩

theorem finish_lands {v : World} (ending : Ending) (ht : t < w.nextTask) (h : Spares t w v) :
    Spares t w (v.finish t ending) ∧ (v.finish t ending).Alert t := by
  have hc := h.trans ht (spares_clear (ht.trans_le h.nextTask))
  refine ⟨hc.trans ht ?_, alert_of_task ((Table.get_clear _ _ _).trans (if_pos rfl)) trivial⟩
  exact spares_setContexts t _ rfl rfl rfl rfl rfl (fun _ h => h) fun _ _ _ h => h

theorem conducting_lands {r : Nat} (deadline : Option Nat) (ht : t < w.nextTask)
    (hr : r < w.nextRun) (hsup : (w.runs.get r).supervisor = t)
    (hd : ∀ d ∈ deadline, d ≤ w.now ∨ (d, t) ∈ w.timers) :
    Spares t w (w.pollConducting t r deadline) ∧ (w.pollConducting t r deadline).Alert t := by
  have hend : ∀ (v : World) (cancelled : Bool) (c : Nat), Spares t w v →
      Spares t w ((v.conclude r cancelled).1.leave c t) := by
    intro v cancelled c hv
    refine hv.trans ht (.trans (ht.trans_le hv.nextTask) ?_ (spares_leave c))
    exact spares_conclude r cancelled (ht.trans_le hv.nextTask)
  unfold pollConducting
  dsimp only
  cases ho : w.isOver r with
  | some cancelled => exact finish_lands _ ht (hend w cancelled _ (.refl t w))
  | none =>
    dsimp only
    split
    · exact finish_lands _ ht (hend _ true _ (spares_cancel _))
    next hdue =>
    obtain ⟨hu, hc⟩ := goesOn_of_isOver ho
    refine ⟨(Spares.refl t w).waits ht _ _, alert_of_task (Table.get_set_self _ _ _) ?_⟩
    refine ⟨hr, hsup, fun h => absurd h hu, attends_listen hc, fun d hm => .inl ?_⟩
    refine (hd d hm).resolve_left fun hle => hdue ?_
    rw [Option.mem_def.1 hm]
    exact decide_eq_true hle

/-! ## Nobody is forgotten -/

theorem poll_lands (ht : t < w.nextTask) (hi : ¬w.Idles t)
    (hn : ({ w with ready := t :: w.ready } : World).Alert t) :
    Spares t w (w.poll t) ∧ (w.poll t).Alert t := by
  unfold Idles at hi
  unfold Alert at hn
  unfold poll
  dsimp only at hn
  cases hp : w.tasks.get t with
  | «over» => exact absurd trivial (by simpa only [hp] using hi)
  | launching => exact absurd trivial (by simpa only [hp] using hi)
  | conducting r deadline =>
    rw [hp] at hn
    refine conducting_lands deadline ht hn.1 hn.2.1 fun d hm => ?_
    exact (hn.2.2.2.2 d hm).symm.imp_left And.left
  | arriving r source place live =>
    rw [hp] at hn
    exact arrive_lands source place live ht hn.1
  | dispatched r node =>
    rw [hp] at hn
    exact dispatch_lands node ht hn.1
  | awaiting r node =>
    rw [hp] at hn hi
    rw [not_and_or, Bool.not_eq_false, Bool.not_eq_false] at hi
    exact awaiting_lands node ht hn.1 hi
  | pausing r node wakeAt next stopped =>
    rw [hp] at hn hi
    rw [not_and_or, not_not, Bool.not_eq_false] at hi
    exact pausing_lands node next stopped ht hn.1 hi
  | nesting r node inner =>
    rw [hp] at hn
    exact nesting_lands node ht hn.1 hn.2.1 hn.2.2.1

/-- Every task is ready or waits for something that wakes it. -/
structure Awake (w : World) : Prop where
  beyond : ∀ u, w.nextTask ≤ u → w.tasks.get u = .over
  alert : ∀ u, w.Alert u

theorem needs_congr {v : World} {u : Nat} {task : Task} (hruns : v.runs = w.runs)
    (hnext : v.nextRun = w.nextRun) (hready : u ∈ w.ready → u ∈ v.ready)
    (hatt : ∀ c, w.Attends u c → v.Attends u c)
    (htimes : ∀ d, w.Times u d → v.Times u d) (h : w.Needs u task) : v.Needs u task := by
  have hminds : ∀ r, (w.runs.get r).supervisor = u → w.Minds r → v.Minds r := by
    intro r hs hm hu
    rw [hruns] at hu ⊢
    exact hs.symm ▸ hready (hs ▸ hm hu)
  unfold Needs at h ⊢
  cases task with
  | «over» => trivial
  | launching => trivial
  | conducting r deadline =>
    rw [hruns, hnext]
    exact ⟨h.1, h.2.1, hminds r h.2.1 h.2.2.1, hatt _ h.2.2.2.1, fun d hd => htimes d (h.2.2.2.2 d hd)⟩
  | arriving r source place live => exact hnext ▸ ⟨h.1, hready h.2⟩
  | dispatched r node => exact hnext ▸ ⟨h.1, hready h.2⟩
  | awaiting r node =>
    unfold Queues at h ⊢
    rw [hruns, hnext]
    exact ⟨h.1, h.2.1.imp_right fun h => ⟨h.1, hready h.2⟩, hatt _ h.2.2⟩
  | pausing r node wakeAt next stopped =>
    rw [hruns, hnext]
    exact ⟨h.1, htimes _ h.2.1, hatt _ h.2.2⟩
  | nesting r node inner =>
    rw [hruns, hnext]
    exact ⟨h.1, h.2.1, h.2.2.1, hminds inner h.2.2.1 h.2.2.2.1, hatt _ h.2.2.2.2⟩

theorem needs_ready {u : Nat} {task : Task} {ready : List Nat} (hr : u ∈ w.ready → u ∈ ready)
    (h : w.Needs u task) : ({ w with ready := ready } : World).Needs u task :=
  needs_congr (w := w) rfl rfl hr (fun _ h => ⟨fun hc => hr (h.1 hc), h.2⟩)
    (fun _ h => h.imp_right fun h => ⟨h.1, hr h.2⟩) h

theorem alert_idles (hi : w.Idles t) (h : ({ w with ready := t :: w.ready } : World).Alert t) :
    w.Alert t := by
  have hatt : ∀ {c}, (w.contexts.get c).cancelled = false →
      ({ w with ready := t :: w.ready } : World).Attends t c → w.Attends t c := by
    intro c hc h
    exact ⟨fun h' => absurd (hc.symm.trans h') Bool.false_ne_true, h.2⟩
  unfold Idles at hi
  unfold Alert at h ⊢
  dsimp only at h
  cases hp : w.tasks.get t with
  | «over» => trivial
  | launching =>
    rw [hp] at h
    exact h
  | arriving r source place live => exact absurd hi (by simp only [hp, not_false_eq_true])
  | dispatched r node => exact absurd hi (by simp only [hp, not_false_eq_true])
  | conducting r deadline =>
    rw [hp] at h hi
    obtain ⟨hu, hc⟩ := goesOn_of_isOver hi.1
    refine ⟨h.1, h.2.1, fun h0 => absurd h0 hu, hatt hc h.2.2.2.1, fun d hd => ?_⟩
    refine (h.2.2.2.2 d hd).imp_right fun hle => absurd ?_ (Bool.eq_false_iff.1 hi.2)
    rw [Option.mem_def.1 hd]
    exact decide_eq_true hle.1
  | awaiting r node =>
    rw [hp] at h hi
    refine ⟨h.1, h.2.1.imp_right fun hg => ?_, hatt hi.2 h.2.2⟩
    exact absurd (List.contains_iff_mem.2 hg.1) (Bool.eq_false_iff.1 hi.1)
  | pausing r node wakeAt next stopped =>
    rw [hp] at h hi
    exact ⟨h.1, h.2.1.imp_right fun hle => absurd hle.1 hi.1, hatt hi.2 h.2.2⟩
  | nesting r node inner =>
    rw [hp] at h hi
    obtain ⟨hu, hc⟩ := goesOn_of_isOver hi
    exact ⟨h.1, h.2.1, h.2.2.1, fun h0 => absurd h0 hu, hatt hc h.2.2.2.2⟩

/-- A step that spares the other tasks and leaves its own alert forgets nobody. -/
theorem awake_of_lands {v : World} (hb : ∀ u, w.nextTask ≤ u → w.tasks.get u = .over)
    (hother : ∀ u, u ≠ t → w.Alert u) (hs : Spares t w v) (ha : v.Alert t) : v.Awake := by
  refine ⟨hs.beyond hb, fun u => ?_⟩
  by_cases hu : u = t
  · exact hu ▸ ha
  by_cases hw : u < w.nextTask
  · exact hs.alert hu hw (hother u hu)
  by_cases hn : u < v.nextTask
  · exact hs.fresh u (Nat.le_of_not_lt hw) hn
  · exact alert_of_task (hs.beyond hb u (Nat.le_of_not_lt hn)) trivial

theorem Awake.step (h : w.Awake) (t : Nat) : (w.step t).Awake := by
  -- The task that steps counts as ready until it has.
  have ht : ({ w with ready := t :: w.ready.erase t } : World).Alert t :=
    needs_ready (fun _ => List.mem_cons_self) (h.alert t)
  have hother : ∀ u, u ≠ t → ({ w with ready := w.ready.erase t } : World).Alert u :=
    fun u hu => needs_ready (fun hm => (List.mem_erase_of_ne hu).2 hm) (h.alert u)
  have hb : ∀ u, w.nextTask ≤ u → w.tasks.get u = .over := h.beyond
  unfold World.step
  by_cases hi : ({ w with ready := w.ready.erase t } : World).Idles t
  · have hall : ∀ u, ({ w with ready := w.ready.erase t } : World).Alert u := by
      intro u
      by_cases hu : u = t
      · subst hu
        exact alert_idles hi ht
      · exact hother u hu
    obtain ⟨-, hv | ⟨c, task, hp, hv⟩⟩ := poll_idles hi
    · rw [hv]
      exact ⟨hb, hall⟩
    · have htasks : ∀ u, (({ w with ready := w.ready.erase t }.setTask t task).listen c t).tasks.get u
          = w.tasks.get u := by
        intro u
        refine (Table.get_set _ _ _ _).trans ?_
        split
        · next he => rw [← hp, he]
        · rfl
      rw [hv]
      refine ⟨fun u hu => (htasks u).trans (hb u hu), fun u => alert_of_task (htasks u) ?_⟩
      exact (spares_listen (u + 1) _ c t).needs (Nat.ne_of_lt (Nat.lt_succ_self u)) (hall u)
  · have hlt : t < w.nextTask := by
      refine Nat.lt_of_not_le fun hle => hi ?_
      unfold Idles
      dsimp only
      rw [hb t hle]
      trivial
    obtain ⟨hs, ha⟩ := poll_lands (w := { w with ready := w.ready.erase t }) hlt hi ht
    exact awake_of_lands (w := { w with ready := w.ready.erase t }) hb hother hs ha

theorem Awake.tasks_step (h : w.Awake) {u : Nat} (hu : u ≠ t) (hlt : u < w.nextTask) :
    (w.step t).tasks.get u = w.tasks.get u := by
  have ht : ({ w with ready := t :: w.ready.erase t } : World).Alert t :=
    needs_ready (fun _ => List.mem_cons_self) (h.alert t)
  unfold World.step
  by_cases hi : ({ w with ready := w.ready.erase t } : World).Idles t
  · obtain ⟨-, hv | ⟨c, task, -, hv⟩⟩ := poll_idles hi <;> rw [hv]
    exact (Table.get_set _ _ _ _).trans (if_neg (Ne.symm hu))
  · by_cases hn : t < w.nextTask
    · exact (poll_lands (w := { w with ready := w.ready.erase t }) hn hi ht).1.tasks u hu hlt
    · refine absurd ?_ hi
      unfold Idles
      dsimp only
      rw [h.beyond t (Nat.le_of_not_lt hn)]
      trivial

theorem Awake.pass (h : w.Awake) (ms : Nat) : (w.pass ms).Awake := by
  unfold World.pass
  dsimp only
  -- Those whose timers are due are woken, and the others keep theirs.
  generalize hdue : ((w.timers.filter fun e => decide (e.1 ≤ w.now + ms)).map Prod.snd) = due
  generalize hv : ({ w with
    now := w.now + ms
    timers := w.timers.filter fun e => !decide (e.1 ≤ w.now + ms) } : World) = v
  have hnow : v.now = w.now + ms := by rw [← hv]
  have htimers : v.timers = w.timers.filter fun e => !decide (e.1 ≤ w.now + ms) := by rw [← hv]
  have hready : ∀ {u}, u ∈ w.ready → u ∈ (v.wakeAll due).ready := by
    intro u hu
    exact mem_ready_wakeAll due (.inr (by rw [← hv]; exact hu))
  obtain ⟨hc, hruns, hnext, hn, ht⟩ := wakeAll_frame v due
  have hr := Prod.mk.inj ((roster_wakeAll v due).trans (by rw [← hv]; rfl : v.roster = w.roster))
  refine ⟨fun u hu => hr.1 ▸ h.beyond u (hr.2 ▸ hu), fun u => ?_⟩
  refine alert_of_task (congrArg (Table.get · u) hr.1) ?_
  refine needs_congr (hruns.trans ?_) (hnext.trans ?_) hready (fun c ha => ?_) (fun d hd => ?_)
    (h.alert u)
  · rw [← hv]
  · rw [← hv]
  · unfold Attends at ha ⊢
    rw [hc, ← hv]
    exact ⟨fun h' => hv ▸ hready (ha.1 h'), ha.2⟩
  · unfold Times at hd ⊢
    rw [hn, hnow, ht, htimers]
    rcases hd with hd | ⟨hd, hu⟩
    · by_cases hle : d ≤ w.now + ms
      · refine .inr ⟨hle, mem_ready_wakeAll due (.inl ?_)⟩
        rw [← hdue]
        exact List.mem_map.2 ⟨(d, u), List.mem_filter.2 ⟨hd, decide_eq_true hle⟩, rfl⟩
      · exact .inl (List.mem_filter.2 ⟨hd, by simpa using hle⟩)
    · exact .inr ⟨hd.trans (Nat.le_add_right _ _), hready hu⟩

theorem Awake.cancel (h : w.Awake) (c : Nat) : (w.cancel c).Awake := by
  have hr := Prod.mk.inj (roster_cancel w c)
  refine ⟨fun u hu => hr.1 ▸ h.beyond u (hr.2 ▸ hu), fun u => ?_⟩
  refine alert_of_task (congrArg (Table.get · u) hr.1) ?_
  exact (spares_cancel (t := u + 1) c).needs (Nat.ne_of_lt (Nat.lt_succ_self u)) (h.alert u)

end

end World

end Conduit
