import Conduit.Proofs.Run.Waking

/-!
# Histories

What holds of the stage on which a run is launched, and is kept by every move and by every
cancellation, holds after every course. In every world of a course nobody is forgotten.
-/

namespace Conduit

namespace Launch

/-! ## The opening -/

/-- The world in which the run has begun and the task that conducts it has not gone on yet. -/
def begun (l : Launch) : World :=
  let w := (l.before.step 0).begin l.graph 0 0 l.limits
  match l.timeout.map fun ms => (l.before.step 0).now + waitOf ms with
  | some d => w.addTimer d 0
  | none => w

def deadline (l : Launch) : Option Nat :=
  l.timeout.map fun ms => (l.before.step 0).now + waitOf ms

def deeds (l : Launch) : List Deed :=
  if Limits.mostParallel < l.limits.parallel then []
  else l.begun.conductingDeeds 0 l.deadline

theorem concluded_of_mem_deeds {l : Launch} {d : Deed} (h : d ∈ l.deeds) :
    ∃ result, d = .concluded 0 result := by
  unfold deeds World.conductingDeeds at h
  split at h
  · cases h
  · dsimp only at h
    split at h
    · exact ⟨_, List.mem_singleton.1 h⟩
    · split at h
      · exact ⟨_, List.mem_singleton.1 h⟩
      · cases h

/-- The values and the cancellation of the contexts at the launch. -/
def contextValues (l : Launch) (c : Nat) : Values := if c = 0 then l.values else []

def isCancelled (l : Launch) (c : Nat) : Bool := if c = 0 then l.cancelled else false

/-- The stage on which the run begins. -/
def opening (l : Launch) : Stage where
  network := l.network
  runs := Function.update (fun _ => default) 0
    ((Run.new l.graph 0 0 l.limits.atLeastOne).joinedBy 1)
  values := l.contextValues
  cancelled := l.isCancelled
  crew := {(0, .dispatched l.graph.root)}
  posts := {(0, 0)}
  endings _ := none
  events := [(0, .runStarted l.graph.pipeline)]
  deeds := []
  nextRun := 1

/-- The stage on which no run begins. -/
def broken (l : Launch) : Stage where
  network := l.network
  runs _ := default
  values := l.contextValues
  cancelled := l.isCancelled
  crew := 0
  posts := 0
  endings := Function.update (fun _ => none) 0 (some .brokenOff)
  events := [(0, .runStarted l.graph.pipeline)]
  deeds := []
  nextRun := 1

theorem world_eq (l : Launch) (h : l.Fits) : l.world = l.begun.pollConducting 0 0 l.deadline := by
  unfold world World.conduct
  rw [if_neg (Nat.not_lt_of_le h)]
  rfl

theorem world_eq_breakOff (l : Launch) (h : ¬l.Fits) :
    l.world = (l.before.step 0).breakOff 0 l.graph :=
  if_pos (Nat.lt_of_not_le h)

theorem nextTask_begun (l : Launch) : l.begun.nextTask = 2 := by
  unfold begun
  dsimp only
  split <;> rfl

theorem nextRun_begun (l : Launch) : 0 < l.begun.nextRun := by
  unfold begun
  dsimp only
  split <;> exact Nat.zero_lt_one

theorem supervisor_begun (l : Launch) : (l.begun.runs.get 0).supervisor = 0 := by
  have h := World.supervisor_begin (l.before.step 0) l.graph 0 0 l.limits
  unfold begun
  dsimp only
  split <;> exact h

theorem timers_begun (l : Launch) : ∀ d ∈ l.deadline, (d, 0) ∈ l.begun.timers := by
  intro d hd
  have hd : (l.timeout.map fun ms => (l.before.step 0).now + waitOf ms) = some d := hd
  unfold begun
  rw [hd]
  exact List.mem_append_right _ (List.mem_singleton.2 rfl)

theorem step_before (l : Launch) : l.before.step 0 = { l.before with ready := [] } := rfl

theorem values_before (l : Launch) (c : Nat) :
    (l.before.contexts.get c).values = l.contextValues c := by
  refine (congrArg Context.values (Table.get_set _ _ _ _)).trans ?_
  unfold contextValues
  by_cases h : c = 0
  · rw [if_pos h, if_pos h.symm]
  · rw [if_neg h, if_neg (Ne.symm h)]
    rfl

theorem cancelled_before (l : Launch) (c : Nat) :
    (l.before.contexts.get c).cancelled = l.isCancelled c := by
  refine (congrArg Context.cancelled (Table.get_set _ _ _ _)).trans ?_
  unfold isCancelled
  by_cases h : c = 0
  · rw [if_pos h, if_pos h.symm]
  · rw [if_neg h, if_neg (Ne.symm h)]
    rfl

theorem stage_before (l : Launch) (p : Phase) :
    (l.before.step 0).stage 0 p [] = { l.broken with
      crew := p.crew
      posts := p.posts 0
      endings := fun _ => none
      events := []
      nextRun := 0 } := by
  have hc : ({ l.before with ready := [] } : World).colleagues 0 = 0 := rfl
  have hp : ({ l.before with ready := [] } : World).otherPosts 0 = 0 := rfl
  rw [step_before]
  simp only [World.stage, hc, hp, add_zero, values_before, cancelled_before]
  rfl

theorem stage_begun (l : Launch) (p : Phase) :
    l.begun.stage 0 p [] = { l.opening with
      crew := p.crew + {(0, .dispatched l.graph.root)}
      posts := p.posts 0 } := by
  have hs := World.stage_begin (w := l.before.step 0) (t := 0) [] p l.graph 0 0 l.limits
    Nat.zero_lt_one
  rw [stage_before] at hs
  have ht : l.begun.stage 0 p [] = ((l.before.step 0).begin l.graph 0 0 l.limits).stage 0 p [] := by
    unfold begun
    dsimp only
    split
    · exact World.stage_addTimer _ 0 p [] _ _
    · rfl
  rw [ht, hs]
  rfl

/-- The run is conducted at once, which ends it if it was cancelled before. -/
theorem view_world (l : Launch) (h : l.Fits) :
    l.world.view l.deeds = l.opening ∨ Moves l.opening (l.world.view l.deeds) := by
  have ht : 0 < l.begun.nextTask := l.nextTask_begun ▸ Nat.zero_lt_two
  have hs : l.begun.stage 0 (.conducting 0 l.deadline) [] = l.opening := l.stage_begun _
  have hd : l.deeds = l.begun.conductingDeeds 0 l.deadline := if_neg (Nat.not_lt_of_le h)
  rw [l.world_eq h, hd, ← List.append_nil (World.conductingDeeds _ _ _), ← hs]
  by_cases hc : l.begun.isOver 0 ≠ none ∨
      l.deadline.any (fun d => decide (d ≤ l.begun.now)) = true
  · exact .inr (World.conducting_moves [] 0 l.deadline ht hc)
  · obtain ⟨ho, hn⟩ := not_or.1 hc
    simp only [World.pollConducting, World.conductingDeeds, not_not.1 ho, hn]
    exact .inl (World.view_setTask [] _ (.conducting 0 l.deadline) ht)

theorem view_world_broken (l : Launch) (h : ¬l.Fits) : l.world.view l.deeds = l.broken := by
  have hd : l.deeds = [] := if_pos (Nat.lt_of_not_le h)
  have hg : ((l.before.step 0).breakOff 0 l.graph).tasks.get 0 = .over :=
    (Table.get_clear _ _ _).trans (if_pos rfl)
  have hs : ({ l.before.step 0 with nextRun := 1 }.emit 0
      (.runStarted l.graph.pipeline)).stage 0 .over [] =
        { (l.before.step 0).stage 0 .over [] with
          events := [(0, .runStarted l.graph.pipeline)]
          nextRun := 1 } := rfl
  rw [stage_before] at hs
  rw [hd, l.world_eq_breakOff h, World.view_eq_stage Nat.zero_lt_one, hg, World.breakOff,
    World.stage_finish]
  exact congrArg (fun S : Stage =>
    { S with endings := Function.update S.endings 0 (some .brokenOff) }) hs

theorem awake_world (l : Launch) : l.world.Awake := by
  have hb : ∀ u, 1 ≤ u → (l.before.step 0).tasks.get u = .over := by
    intro u hu
    exact (Table.get_set _ _ _ _).trans (if_neg (Nat.ne_of_lt hu))
  have ha : ∀ u, u ≠ 0 → (l.before.step 0).Alert u := fun u hu =>
    World.alert_of_task (hb u (Nat.pos_of_ne_zero hu)) trivial
  by_cases h : l.Fits
  · rw [l.world_eq h]
    have hs : World.Spares 0 (l.before.step 0) l.begun := by
      have hbegin := World.spares_begin (t := 0) (w := l.before.step 0) l.graph 0 0 l.limits
        Nat.zero_lt_one
      unfold begun
      dsimp only
      split
      · exact hbegin.trans Nat.zero_lt_one (World.spares_addTimer _ 0)
      · exact hbegin
    have ht : 0 < l.begun.nextTask := l.nextTask_begun ▸ Nat.zero_lt_two
    obtain ⟨hp, hq⟩ := World.conducting_lands (w := l.begun) (r := 0) l.deadline ht
      l.nextRun_begun l.supervisor_begun fun d hd => .inr (l.timers_begun d hd)
    exact World.awake_of_lands hb ha (hs.trans Nat.zero_lt_one hp) hq
  · rw [l.world_eq_breakOff h]
    have hs : World.Spares 0 (l.before.step 0) (({ l.before.step 0 with nextRun := 1 }.emit 0
        (.runStarted l.graph.pipeline))) :=
      { now := rfl
        nextTask := Nat.le_refl _
        nextRun := Nat.zero_le _
        tasks := fun _ _ _ => rfl
        fresh := fun _ hle hlt => absurd hlt (Nat.not_lt_of_le hle)
        beyond := fun h => h
        ready := fun _ h => h
        attends := fun _ _ _ h => h
        timers := fun _ h _ => h
        queues := fun _ _ _ hr => absurd hr (Nat.not_lt_zero _)
        minds := fun _ hr => absurd hr (Nat.not_lt_zero _)
        context := fun _ hr => absurd hr (Nat.not_lt_zero _)
        supervisor := fun _ hr => absurd hr (Nat.not_lt_zero _) }
    obtain ⟨hp, hq⟩ := World.finish_lands .brokenOff Nat.zero_lt_one hs
    exact World.awake_of_lands hb ha hp hq

end Launch

/-! ## After a course -/

theorem Course.awake {l : Launch} {past : List (World × Act)} {w : World}
    (h : Course l.world past w) : w.Awake := by
  induction h with
  | start => exact l.awake_world
  | next a _ _ ih =>
    cases a with
    | step t => exact ih.step t
    | pass ms => exact ih.pass ms
    | cancel c => exact ih.cancel c

namespace World

theorem Awake.mem_view_crew {w : World} (h : w.Awake) {t : Nat} {p : Nat × Duty}
    (hp : p ∈ (w.tasks.get t).phase.crew) (L : List Deed) : p ∈ (w.view L).crew := by
  refine Multiset.mem_bind.2 ⟨t, Multiset.mem_range.2 (Nat.lt_of_not_le fun hge => ?_), hp⟩
  rw [h.beyond t hge] at hp
  exact Multiset.notMem_zero p hp

theorem Awake.mem_view_posts {w : World} (h : w.Awake) {t : Nat} {p : Nat × Nat}
    (hp : p ∈ (w.tasks.get t).phase.posts t) (L : List Deed) : p ∈ (w.view L).posts := by
  refine Multiset.mem_bind.2 ⟨t, Multiset.mem_range.2 (Nat.lt_of_not_le fun hge => ?_), hp⟩
  rw [h.beyond t hge] at hp
  exact Multiset.notMem_zero p hp

theorem view_congr {v w : World} {L : List Deed} (hr : v.roster = w.roster)
    (hs : v.stage 0 .over L = w.stage 0 .over L) : v.view L = w.view L := by
  obtain ⟨ht, hn⟩ := Prod.mk.inj hr
  rw [view, view, hs, ht, hn]

theorem view_pass (w : World) (ms : Nat) (L : List Deed) : (w.pass ms).view L = w.view L := by
  unfold pass
  dsimp only
  refine view_congr ((roster_wakeAll _ _).trans rfl) ?_
  rw [stage_wakeAll]
  rfl

theorem view_cancel (w : World) (c : Nat) (L : List Deed) :
    (w.cancel c).view L = (w.view L).cancel c true := by
  obtain ⟨ht, hn⟩ := Prod.mk.inj (roster_cancel w c)
  rw [view, stage_cancel, ht, hn]
  rfl

theorem view_step {w : World} (h : w.Awake) (t : Nat) (L : List Deed) :
    ((w.step t).view (w.deeds (.step t) ++ L) = w.view L ∧
        (w.step t).ready = w.ready.erase t ∧ (w.step t).timers = w.timers ∧
        (w.step t).nextTask = w.nextTask) ∨
      Moves (w.view L) ((w.step t).view (w.deeds (.step t) ++ L)) := by
  have hv : ({ w with ready := w.ready.erase t } : World).view L = w.view L := rfl
  rw [← hv]
  by_cases ht : t < w.nextTask
  · by_cases hi : ({ w with ready := w.ready.erase t } : World).Idles t
    · refine .inl ⟨view_poll_idles L ht hi, ?_⟩
      obtain ⟨-, hp | ⟨c, task, -, hp⟩⟩ := poll_idles hi
      · exact ⟨congrArg ready hp, (congrArg timers hp).trans rfl, (congrArg World.nextTask hp).trans rfl⟩
      · exact ⟨congrArg ready hp, (congrArg timers hp).trans rfl, (congrArg World.nextTask hp).trans rfl⟩
    · refine .inr (poll_moves L ht hi fun r node hp => ?_)
      have ha := h.alert t
      unfold Alert at ha
      rw [show w.tasks.get t = .awaiting r node from hp] at ha
      exact ha.2.1.imp_right And.left
  · have ho : ({ w with ready := w.ready.erase t } : World).tasks.get t = .over :=
      h.beyond t (Nat.le_of_not_lt ht)
    refine .inl ?_
    unfold step deeds poll pollDeeds
    simp only [ho, List.nil_append, and_self]

end World

/-- The deeds since before the launch, the newest first. -/
def Launch.allDeeds (l : Launch) (past : List (World × Act)) : List Deed := deedsOf past ++ l.deeds

theorem Launch.allDeeds_cons (l : Launch) (u : World) (a : Act) (past : List (World × Act)) :
    l.allDeeds ((u, a) :: past) = u.deeds a ++ l.allDeeds past :=
  List.append_assoc ..

theorem Launch.allDeeds_append (l : Launch) (newer past : List (World × Act)) :
    l.allDeeds (newer ++ past) = deedsOf newer ++ l.allDeeds past := by
  unfold allDeeds deedsOf
  rw [List.flatMap_append, List.append_assoc]

theorem Launch.subset_allDeeds (l : Launch) (newer past : List (World × Act)) :
    l.allDeeds past ⊆ l.allDeeds (newer ++ past) := by
  rw [l.allDeeds_append]
  exact List.subset_append_right _ _

theorem Launch.exists_act_of_failed {l : Launch} {past : List (World × Act)} {r : Nat} {node : String}
    {e : PipelineError} (h : .failed r node e ∈ l.allDeeds past) :
    ∃ u a, (u, a) ∈ past ∧ .failed r node e ∈ u.deeds a := by
  rcases List.mem_append.1 h with h | h
  · obtain ⟨⟨u, a⟩, hm, hd⟩ := List.mem_flatMap.1 h
    exact ⟨u, a, hm, hd⟩
  · obtain ⟨_, h⟩ := concluded_of_mem_deeds h
    cases h

/-- What holds at the opening and is kept by every move and every cancellation, holds after every
course. -/
theorem Course.invariant {l : Launch} {P : Stage → Prop} (opening : l.Fits → P l.opening)
    (broken : ¬l.Fits → P l.broken) (move : ∀ {r : Nat} {S S' : Stage}, Move r S S' → P S → P S')
    (cancel : ∀ {S : Stage} (c : Nat), P S → P (S.cancel c true))
    {past : List (World × Act)} {w : World} (h : Course l.world past w) :
    P (w.view (l.allDeeds past)) := by
  -- A step is a sequence of moves, and each of them keeps the property.
  have hmoves : ∀ {S S' : Stage}, Moves S S' → P S → P S' := by
    intro S S' hm hs
    induction hm with
    | single hm => exact move hm hs
    | head hm _ ih => exact ih (move hm hs)
  induction h with
  | start =>
    by_cases hf : l.Fits
    · rcases l.view_world hf with h | h
      · exact h ▸ opening hf
      · exact hmoves h (opening hf)
    · exact l.view_world_broken hf ▸ broken hf
  | next a before _ ih =>
    unfold Launch.allDeeds at ih ⊢
    rw [deedsOf_cons, List.append_assoc]
    cases a with
    | step t =>
      rcases World.view_step before.awake t _ with ⟨h, -⟩ | h
      · exact h ▸ ih
      · exact hmoves h ih
    | pass ms =>
      simp only [World.act, World.deeds, List.nil_append, World.view_pass]
      exact ih
    | cancel c =>
      simp only [World.act, World.deeds, List.nil_append, World.view_cancel]
      exact cancel c ih

end Conduit
