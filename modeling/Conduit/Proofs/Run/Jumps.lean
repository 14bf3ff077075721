import Conduit.Proofs.Run.EarlyEnds
import Conduit.Proofs.Run.Ends

/-!
# Jumps

A run goes on at the node that a key of the context names when one of its nodes completes. The key
is asked for in the context that all runs share, so who has written it does not matter. It can be an
execution that goes on, or one of a run that was halted before it took the key away.
-/

namespace Conduit

/-- An execution of the node asked to go on at the target. -/
def Requests (deeds : List Deed) (r : Nat) (node target : String) : Prop :=
  ∃ touches result, .performed r node touches result ∈ deeds ∧
    .write Values.overrideKey (.string target) ∈ touches

theorem Requests.mono {deeds others : List Deed} {r : Nat} {node target : String}
    (h : Requests deeds r node target) (hs : deeds ⊆ others) : Requests others r node target :=
  h.imp fun _ => .imp fun _ => .imp_left fun hd => hs hd

namespace World

/-! ## What is left of a request -/

/-- What the key that names the node to go on with says in the context of a run. -/
def override (w : World) (r : Nat) : Option Value :=
  Entries.get? (w.contextOf r).values Values.overrideKey

/-- From one world to another no node of a run that has begun is dispatched, and no request to go on
at a node is made or taken. -/
structure Keeps (v w : World) : Prop where
  tasks : ∀ s q target, w.tasks.get s = .dispatched q target →
    v.tasks.get s = .dispatched q target ∨ v.nextRun ≤ q
  nextRun : v.nextRun ≤ w.nextRun
  events : ∃ news, w.events = news ++ v.events
  override : ∀ q, q < v.nextRun → w.override q = v.override q

variable {v w x : World} {t r s q : Nat} {node target : String}

theorem Keeps.trans (h : Keeps v w) (h' : Keeps w x) : Keeps v x where
  tasks s q target hs := by
    rcases h'.tasks s q target hs with hs | hq
    · exact h.tasks s q target hs
    · exact .inr (h.nextRun.trans hq)
  nextRun := h.nextRun.trans h'.nextRun
  events := by
    obtain ⟨⟨news, hw⟩, ⟨news', hx⟩⟩ := And.intro h.events h'.events
    exact ⟨news' ++ news, by rw [hx, hw, List.append_assoc]⟩
  override q hq := (h'.override q (hq.trans_le h.nextRun)).trans (h.override q hq)

theorem Keeps.of_stage (t : Nat)
    (ht : ∀ s q target, w.tasks.get s = .dispatched q target → v.tasks.get s = .dispatched q target)
    (hn : (w.stage t .over []).nextRun = v.nextRun) (he : ∃ news, w.events = news ++ v.events)
    (ho : ∀ q, Entries.get? ((w.stage t .over []).valuesOf q) Values.overrideKey =
      Entries.get? ((v.stage t .over []).valuesOf q) Values.overrideKey) : Keeps v w where
  tasks s q target hs := .inl (ht s q target hs)
  nextRun := Nat.le_of_eq hn.symm
  events := he
  override q _ := ho q

theorem Keeps.of_stage_eq (t : Nat)
    (ht : ∀ s q target, w.tasks.get s = .dispatched q target → v.tasks.get s = .dispatched q target)
    (he : w.events = v.events) (hs : w.stage t .over [] = v.stage t .over []) : Keeps v w :=
  .of_stage t ht (congrArg Stage.nextRun hs) ⟨[], he⟩ fun q =>
    congrArg (fun S => Entries.get? (S.valuesOf q) Values.overrideKey) hs

theorem dispatched_of_roster (h : w.roster = v.roster) (s q : Nat) (target : String)
    (hs : w.tasks.get s = .dispatched q target) : v.tasks.get s = .dispatched q target :=
  (Prod.mk.inj h).1 ▸ hs

theorem dispatched_of_set {task : Task} (hd : ∀ q target, task ≠ .dispatched q target)
    (s q : Nat) (target : String) (hs : (w.tasks.set t task).get s = .dispatched q target) :
    w.tasks.get s = .dispatched q target := by
  rw [Table.get_set] at hs
  split at hs
  · exact absurd hs (hd q target)
  · exact hs

theorem dispatched_of_clear (s q : Nat) (target : String)
    (hs : (w.tasks.clear t).get s = .dispatched q target) :
    w.tasks.get s = .dispatched q target := by
  rw [Table.get_clear] at hs
  split at hs
  · cases hs
  · exact hs

section

variable (w)

theorem keeps_emit (r : Nat) (h : Happening) : Keeps w (w.emit r h) :=
  .of_stage 0 (fun _ _ _ => id) rfl ⟨[_], rfl⟩ fun _ => rfl

theorem keeps_changeRun (r : Nat) {f : Run → Run}
    (hf : (f (w.runs.get r)).context = (w.runs.get r).context) : Keeps w (w.changeRun r f) := by
  refine .of_stage 0 (fun _ _ _ => id) rfl ⟨[], rfl⟩ fun q => ?_
  have hc : ((w.stage 0 .over []).change r f).valuesOf q = (w.stage 0 .over []).valuesOf q :=
    congrArg (w.stage 0 .over []).values (Stage.lasting_update (f := Run.context) r rfl hf)
  rw [stage_changeRun, hc]

theorem keeps_leave (c u : Nat) : Keeps w (w.leave c u) :=
  .of_stage_eq 0 (fun _ _ _ => id) rfl (stage_leave ..)

theorem keeps_listen (c u : Nat) : Keeps w (w.listen c u) :=
  .of_stage_eq 0 (fun _ _ _ => id) rfl (stage_listen ..)

theorem keeps_wake (u : Nat) : Keeps w (w.wake u) :=
  .of_stage_eq 0 (dispatched_of_roster (roster_wake ..)) (events_wake ..) (stage_wake ..)

theorem keeps_setTask (t : Nat) {task : Task} (hd : ∀ q target, task ≠ .dispatched q target) :
    Keeps w (w.setTask t task) :=
  .of_stage_eq t (dispatched_of_set hd) rfl (stage_setTask ..)

theorem keeps_clear (t : Nat) : Keeps w { w with tasks := w.tasks.clear t } :=
  .of_stage_eq t dispatched_of_clear rfl (stage_clear ..)

theorem keeps_close (t r : Nat) : Keeps w (w.close t r) := by
  have hc : Keeps w (w.closed t r) := (w.keeps_clear t).trans (keeps_changeRun _ r rfl)
  rcases close_eq w t r with h | h <;> rw [h]
  · exact hc
  · exact hc.trans (keeps_wake ..)

theorem keeps_cancel (c : Nat) : Keeps w (w.cancel c) := by
  have hs := w.stage_cancel 0 .over [] c
  exact .of_stage 0 (dispatched_of_roster (roster_cancel ..)) (congrArg Stage.nextRun hs)
    ⟨[], events_cancel ..⟩ fun q =>
      congrArg (fun S => Entries.get? (S.valuesOf q) Values.overrideKey) hs

theorem keeps_release (r : Nat) : Keeps w (w.release r) := by
  have hs := w.stage_release 0 .over [] r
  have hr := Run.context_released (w.runs.get r)
  refine .of_stage 0 (dispatched_of_roster (roster_release ..)) (congrArg Stage.nextRun hs)
    ⟨[], events_release ..⟩ fun q => ?_
  rw [hs]
  exact congrArg (fun c => Entries.get? ((w.stage 0 .over []).values c) Values.overrideKey)
    (Stage.lasting_update (f := Run.context) r rfl hr)

theorem keeps_fail (r : Nat) (node : String) (e : PipelineError) : Keeps w (w.fail r node e) := by
  have hs := w.stage_fail 0 .over [] r node e
  refine .of_stage 0 (dispatched_of_roster (roster_fail ..)) ?_ ⟨[_], events_fail ..⟩ fun q => ?_
  · exact (congrArg Stage.nextRun hs).trans (Stage.fail_adds ..).2.2.1
  · have hc : ((w.stage 0 .over []).fail r node e).valuesOf q =
        ((w.stage 0 .over []).fail r node e).values (w.runs.get q).context :=
      congrArg _ ((w.stage 0 .over []).lasting_fail (f := Run.context) r (fun _ _ _ _ => rfl) node e)
    refine (congrArg (fun S => Entries.get? (S.valuesOf q) Values.overrideKey) hs).trans ?_
    exact hc ▸ (values_fail ..).resolve_right (by decide)

theorem keeps_conclude (r : Nat) (cancelled : Bool) : Keeps w (w.conclude r cancelled).1 := by
  have hs := w.stage_conclude 0 .over [] r cancelled
  obtain ⟨_, _, he⟩ := w.events_conclude r cancelled
  refine .of_stage 0 (dispatched_of_roster (roster_conclude ..)) ?_ ⟨[_], he⟩ fun q => ?_
  · exact (congrArg Stage.nextRun hs).trans (Stage.conclude_adds ..).2.2.1
  · have hc : ((w.stage 0 .over []).conclude r cancelled).valuesOf q =
        ((w.stage 0 .over []).conclude r cancelled).values (w.runs.get q).context :=
      congrArg _ ((w.stage 0 .over []).lasting_conclude (f := Run.context) r (fun _ _ _ _ => rfl) cancelled)
    refine (congrArg (fun S => Entries.get? (S.valuesOf q) Values.overrideKey) hs).trans ?_
    exact hc ▸ (values_conclude ..).resolve_right (by decide)

theorem keeps_spawnIn (r : Nat) {task : Task} (hd : ∀ q target, task ≠ .dispatched q target) :
    Keeps w (w.spawnIn r task) :=
  (w.keeps_changeRun r rfl).trans
    { tasks := fun s q target hs => .inl (dispatched_of_set hd s q target hs)
      nextRun := Nat.le_refl _
      events := ⟨[], rfl⟩
      override := fun _ _ => rfl }

theorem keeps_spawnArrivals (r : Nat) (source : String) (live : Bool) :
    Keeps w (w.spawnArrivals r source live) := by
  unfold spawnArrivals
  generalize List.range _ = places
  induction places generalizing w with
  | nil => exact .of_stage_eq 0 (fun _ _ _ => id) rfl rfl
  | cons place places ih => exact (w.keeps_spawnIn r fun _ _ h => by cases h).trans (ih _)

theorem keeps_skip (r : Nat) (node : String) : Keeps w (w.skip r node) :=
  ((w.keeps_changeRun r (Run.context_setStatus ..)).trans (keeps_emit ..)).trans
    (keeps_spawnArrivals ..)

theorem keeps_erase_end (c : Nat) :
    Keeps w (w.setValues c fun v => Entries.erase v Values.endKey) := by
  refine .of_stage 0 (fun _ _ _ => id) rfl ⟨[], rfl⟩ fun q => ?_
  rw [stage_setValues]
  exact (values_setValues_erase ..).trans (if_neg fun h => absurd h.2 (by decide))

theorem keeps_begin (graph : Graph Component) (context supervisor : Nat) (limits : Limits) :
    Keeps w (w.begin graph context supervisor limits) where
  tasks s q target hs := by
    unfold begin spawnIn spawn at hs
    dsimp only at hs
    rw [Table.get_set] at hs
    split at hs
    · cases hs
      exact .inr (Nat.le_refl _)
    · exact .inl hs
  nextRun := Nat.le_succ _
  events := ⟨[_], events_begin ..⟩
  override q hq := by
    have hne : w.nextRun ≠ q := Nat.ne_of_gt hq
    unfold override contextOf begin spawnIn spawn emit
    dsimp only
    rw [get_runs_changeRun, if_neg hne, Table.get_set, if_neg hne]
    rfl

end

/-! ## Going on at another node -/

/-- From one world to another a node of the run completes, and a request to go on at a node is taken,
so that it is not there any more. -/
structure Sent (v w : World) (r : Nat) (node : String) : Prop where
  completed : ∃ news o, w.events = news ++ v.events ∧ o ∈ news ∧ o.run = r ∧
    o.happening = .nodeCompleted node
  taken : w.override r = none
  goesOn : (w.contextOf r).cancelled = false

theorem Sent.of_events (h : Sent x w r node) (he : ∃ news, x.events = news ++ v.events) :
    Sent v w r node where
  completed := by
    obtain ⟨⟨news, o, hw, ho, hrest⟩, news', hx⟩ := And.intro h.completed he
    exact ⟨news ++ news', o, by rw [hw, hx, List.append_assoc], List.mem_append_left _ ho, hrest⟩
  taken := h.taken
  goesOn := h.goesOn

theorem override?_eq_some {values : Values} (h : values.override? = some target) :
    Entries.get? values Values.overrideKey = some (.string target) := by
  unfold Values.override? at h
  split at h
  · next id hid =>
    split at h
    · cases h
    · rw [hid, Option.some.inj h]
  · cases h

/-- From one world to another, a node of a run that has begun is dispatched only because a node of the
run completes, which was asked to go on there. -/
structure Sends (v w : World) (deeds : List Deed) : Prop where
  sent : ∀ s q target, w.tasks.get s = .dispatched q target →
    (v.tasks.get s = .dispatched q target ∨ v.nextRun ≤ q) ∨
      ∃ node, Sent v w q node ∧ (Requests deeds q node target ∨ v.override q = some (.string target))

/-- When a run goes on at a node, the key has named it, and is gone. -/
theorem goOn_dispatched (hs : (w.goOn r node).tasks.get s = .dispatched q target) :
    (w.tasks.get s = .dispatched q target ∨ w.nextRun ≤ q) ∨
      q = r ∧ w.override r = some (.string target) ∧ (w.goOn r node).override r = none ∧
        ((w.goOn r node).contextOf r).cancelled = false := by
  unfold goOn at hs ⊢
  dsimp only at hs ⊢
  split
  · next he =>
    rw [if_pos he] at hs
    exact .inl (.inl hs)
  next he =>
  rw [if_neg he] at hs
  split
  · next hstop =>
    rw [if_pos hstop] at hs
    exact .inl (.inl hs)
  next hstop =>
  rw [if_neg hstop] at hs
  have goesOn : (w.contextOf r).cancelled = false :=
    (Bool.or_eq_false_iff.1 (Bool.eq_false_iff.2 hstop)).2
  split
  · next sent next =>
    rw [next] at hs
    dsimp only at hs
    unfold spawnIn spawn at hs
    dsimp only at hs
    rw [Table.get_set] at hs
    split at hs
    -- The new task is the one that was asked for, and the request is erased in the same step.
    · cases hs
      refine .inr ⟨rfl, override?_eq_some next, ?_, ?_⟩
      · unfold override contextOf
        rw [context_spawnIn]
        refine (congrArg (fun x => Entries.get? (Context.values x) Values.overrideKey)
          ((Table.get_change ..).trans (if_pos rfl))).trans ?_
        exact (Entries.get?_erase ..).trans (if_pos rfl)
      · unfold contextOf
        rw [context_spawnIn]
        exact (congrArg Context.cancelled ((Table.get_change ..).trans (if_pos rfl))).trans goesOn
    · exact .inl (.inl hs)
  · next next =>
    rw [next] at hs
    dsimp only at hs
    have h := (keeps_spawnArrivals _ r node true).tasks s q target hs
    exact .inl h

theorem close_dispatched (hs : (w.close t r).tasks.get s = .dispatched q target) :
    w.tasks.get s = .dispatched q target := by
  have h : (w.close t r).tasks = w.tasks.clear t := by
    rcases close_eq w t r with h | h <;> rw [h]
    · rfl
    · exact (Prod.mk.inj (roster_wake ..)).1
  exact dispatched_of_clear s q target (h ▸ hs)

theorem contextOf_close (w : World) (t r q : Nat) : (w.close t r).contextOf q = w.contextOf q := by
  have h : (w.closed t r).contextOf q = w.contextOf q := by
    unfold closed contextOf
    rw [get_runs_changeRun]
    split
    · next he => rw [he]; rfl
    · rfl
  rcases close_eq w t r with hc | hc <;> rw [hc]
  · exact h
  · rw [← h]
    unfold contextOf
    rw [runs_wake, (wake_frame ..).1]

theorem complete_dispatched {result : Result}
    (hs : (w.complete t r node result).tasks.get s = .dispatched q target) :
    (w.tasks.get s = .dispatched q target ∨ w.nextRun ≤ q) ∨
      q = r ∧ w.override r = some (.string target) ∧ Sent w (w.complete t r node result) r node := by
  have hrelease := w.keeps_release r
  have kept : ∀ x : World, Keeps (w.release r) x → x.tasks.get s = .dispatched q target →
      w.tasks.get s = .dispatched q target ∨ w.nextRun ≤ q :=
    fun x hx => (hrelease.trans hx).tasks s q target
  unfold complete at hs ⊢
  dsimp only at hs ⊢
  replace hs := close_dispatched hs
  split
  · next hc =>
    rw [if_pos hc] at hs
    exact .inl (kept _ ((keeps_changeRun _ r (Run.context_setStatus ..)).trans (keeps_emit ..)) hs)
  next hc =>
  rw [if_neg hc] at hs
  split
  · next e hv =>
    rw [hv] at hs
    exact .inl (kept _ (keeps_fail ..) hs)
  · next hv =>
    rw [hv] at hs
    dsimp only at hs
    have hkeeps : Keeps w (((w.release r).changeRun r fun run =>
        { run.setStatus node .done with executed := run.executed ++ [node] }).emit r
          (.nodeCompleted node)) :=
      (hrelease.trans (keeps_changeRun _ r (Run.context_setStatus ..))).trans (keeps_emit ..)
    -- What comes before going on leaves the request as it is.
    rcases goOn_dispatched hs with hs | ⟨rfl, hasked, htaken, hgoes⟩
    · exact .inl (hs.elim (hkeeps.tasks s q target) fun hq => .inr (hkeeps.nextRun.trans hq))
    by_cases hr : w.nextRun ≤ q
    · exact .inl (.inr hr)
    · refine .inr ⟨rfl, (hkeeps.override q (Nat.lt_of_not_le hr)).symm.trans hasked,
        ⟨[⟨q, (w.release q).now, .nodeCompleted node⟩], _, ?_, List.mem_singleton_self _, rfl, rfl⟩,
        ?_, ?_⟩
      · rw [events_close, events_goOn, emit_events, changeRun_events, events_release]
        rfl
      · unfold override
        rw [contextOf_close]
        exact htaken
      · rw [contextOf_close]
        exact hgoes

theorem Keeps.sends {deeds : List Deed} (h : Keeps v w) : Sends v w deeds :=
  ⟨fun s q target hs => .inl (h.tasks s q target hs)⟩

theorem Sends.of_keeps {deeds : List Deed} (hk : Keeps v x) (h : Sends x w deeds) :
    Sends v w deeds := by
  refine ⟨fun s q target hs => ?_⟩
  by_cases hq : v.nextRun ≤ q
  · exact .inl (.inr hq)
  · rcases h.sent s q target hs with (hs | hs) | ⟨node, sent, asked⟩
    · exact .inl (hk.tasks s q target hs)
    · exact .inl (.inr (hk.nextRun.trans hs))
    · refine .inr ⟨node, sent.of_events hk.events, asked.imp_right fun ho => ?_⟩
      exact (hk.override q (Nat.lt_of_not_le hq)).symm.trans ho

theorem Sends.mono {deeds others : List Deed} (h : Sends v w deeds) (hs : deeds ⊆ others) :
    Sends v w others where
  sent s q target ht := (h.sent s q target ht).imp_right fun ⟨node, sent, asked⟩ =>
    ⟨node, sent, asked.imp_left fun hr => hr.mono hs⟩

section

variable (w) (t : Nat)

theorem sends_self (deeds : List Deed) : Sends w w deeds := ⟨fun _ _ _ hs => .inl (.inl hs)⟩

theorem sends_closed (r : Nat) {deeds : List Deed} (h : Keeps v w) : Sends v (w.close t r) deeds :=
  (h.trans (keeps_close ..)).sends

theorem sends_complete (r : Nat) (node : String) (result : Result) :
    Sends w (w.complete t r node result) [] := by
  refine ⟨fun s q target hs => (complete_dispatched hs).imp_right ?_⟩
  rintro ⟨rfl, asked, sent⟩
  exact ⟨node, sent, .inr asked⟩

theorem sends_perform (r : Nat) (node : String) (activity : Activity) :
    Sends w (w.perform t r node activity) (w.performDeeds r node activity) := by
  unfold perform performDeeds sceneOf
  dsimp only
  generalize hb : activity.burst w.network _ = b
  obtain ⟨scene, pending⟩ := b
  have hstage := stage_apply (w := w) (t := 0) [] .over (w.runs.get r).context scene
  have hn : (w.apply (w.runs.get r).context scene).nextRun = w.nextRun := congrArg Stage.nextRun hstage
  have hr := dispatched_of_roster (roster_apply w (w.runs.get r).context scene)
  cases pending with
  | asleep ms next stopped =>
    exact ⟨fun s q target hs => .inl (.inl (hr s q target (dispatched_of_set (fun _ _ h => by cases h)
      s q target hs)))⟩
  | finished result =>
    refine ⟨fun s q target hs => ?_⟩
    rcases complete_dispatched hs with (hs | hs) | ⟨rfl, asked, sent⟩
    · exact .inl (.inl (hr s q target hs))
    · exact .inl (.inr (hn ▸ hs))
    · refine .inr ⟨node, sent.of_events ⟨[], events_apply ..⟩, ?_⟩
      have hvalues : (w.apply (w.runs.get q).context scene).override q =
          Entries.get? scene.values Values.overrideKey :=
        congrArg (Entries.get? · Values.overrideKey)
          ((congrArg (fun S => Stage.valuesOf S q) hstage).trans (Function.update_self ..))
      rw [hvalues, show scene = _ from (congrArg Prod.fst hb).symm] at asked
      refine ((activity.bursts w.network _).get? asked).imp_left fun hw => ?_
      exact ⟨_, _, List.mem_append_right _ (List.mem_singleton_self _), hw⟩

theorem sends_pollNesting (r : Nat) (node : String) (inner : Nat) :
    Sends w (w.pollNesting t r node inner) (w.nestingDeeds t r node inner) := by
  unfold pollNesting nestingDeeds
  dsimp only
  cases w.isOver inner with
  | none => exact ((w.keeps_setTask t fun _ _ h => by cases h).trans (keeps_listen ..)).sends
  | some cancelled =>
    exact .of_keeps (((w.keeps_conclude ..).trans (keeps_leave ..)).trans (keeps_erase_end ..))
      ((sends_complete _ t r node _).mono (List.nil_subset _))

theorem sends_start (r : Nat) (node : String) :
    Sends w (w.start t r node) (w.startDeeds t r node) := by
  have hleave : ∀ {deeds : List Deed}, Sends w ((w.release r).close t r) deeds :=
    sends_closed _ t r (w.keeps_release r)
  unfold start startDeeds
  cases w.shouldStop r with
  | true => exact hleave
  | false =>
  cases (w.runs.get r).graph.node? node with
  | none => exact hleave
  | some n =>
  dsimp only
  cases n.slot with
  | unusable reason => exact hleave
  | ready component origin =>
  have hrunning := (w.keeps_changeRun r (f := fun run => run.setStatus node .running)
    (Run.context_setStatus ..)).trans (keeps_emit _ r (.nodeStarted node n.componentId))
  cases component with
  | basic kind activity => exact .of_keeps hrunning (sends_perform _ t r node activity)
  | pipeline graph =>
    exact .of_keeps (hrunning.trans (keeps_begin ..)) (sends_pollNesting _ t r node _)

theorem sends_acquire (r : Nat) (node : String) :
    Sends w (w.acquire t r node) (w.acquireDeeds t r node) := by
  unfold acquire acquireDeeds
  dsimp only
  by_cases hf : 0 < (w.runs.get r).free
  · rw [if_pos hf, if_pos hf]
    exact .of_keeps (keeps_changeRun _ r rfl) (sends_start _ t r node)
  · rw [if_neg hf, if_neg hf]
    exact (((w.keeps_changeRun r rfl).trans (keeps_setTask _ t fun _ _ h => by cases h)).trans
      (keeps_listen ..)).sends

theorem sends_dispatch (r : Nat) (node : String) :
    Sends w (w.dispatch t r node) (w.dispatchDeeds t r node) := by
  unfold dispatch dispatchDeeds
  cases w.shouldStop r with
  | true => exact (w.keeps_close t r).sends
  | false =>
  cases (w.runs.get r).graph.node? node with
  | none => exact sends_closed _ t r (keeps_fail ..)
  | some n =>
  dsimp only
  cases n.slot with
  | unusable reason => exact sends_closed _ t r (keeps_fail ..)
  | ready component origin =>
  dsimp only
  have hk : Keeps w (w.changeRun r fun run => { run with steps := run.steps + 1 }) :=
    w.keeps_changeRun r rfl
  by_cases hl : (w.runs.get r).limits.steps <
      ((w.changeRun r fun run => { run with steps := run.steps + 1 }).runs.get r).steps
  · rw [if_pos hl, if_pos hl]
    exact sends_closed _ t r (hk.trans (keeps_fail ..))
  · rw [if_neg hl, if_neg hl]
    exact .of_keeps hk (sends_acquire _ t r node)

theorem sends_arrive (r : Nat) (source : String) (place : Nat) (live : Bool) :
    Sends w (w.arrive t r source place live) (w.arriveDeeds t r source place live) := by
  unfold arrive arriveDeeds
  cases w.shouldStop r with
  | true => exact (w.keeps_close t r).sends
  | false =>
  cases (w.runs.get r).edge? source place with
  | none => exact (w.keeps_close t r).sends
  | some edge =>
  dsimp only
  cases w.isLive r edge live with
  | error e => exact sends_closed _ t r (keeps_fail ..)
  | ok passed =>
  dsimp only
  have hk : Keeps w (w.changeRun r fun _ => ((w.runs.get r).arriveAt edge.target passed).1) :=
    w.keeps_changeRun r (congrArg Prod.fst (ties_arriveAt ..))
  cases ((w.runs.get r).arriveAt edge.target passed).2 with
  | none => exact sends_closed _ t r hk
  | some arrival =>
  cases arrival with
  | waiting =>
    refine sends_closed _ t r (hk.trans (keeps_changeRun _ r ?_))
    rw [Run.markBlocked, Run.changeNode_eq]
  | fire => exact .of_keeps hk ((sends_dispatch _ t r _).mono (List.subset_append_left _ _))
  | skip => exact sends_closed _ t r (hk.trans (keeps_skip ..))

theorem sends_pollAwaiting (r : Nat) (node : String) :
    Sends w (w.pollAwaiting t r node) (w.awaitingDeeds t r node) := by
  unfold pollAwaiting awaitingDeeds
  dsimp only
  by_cases hg : (w.runs.get r).granted.contains t
  · rw [if_pos hg, if_pos hg]
    exact .of_keeps ((w.keeps_changeRun r rfl).trans (keeps_leave ..)) (sends_start _ t r node)
  · rw [if_neg hg, if_neg hg]
    split
    · exact sends_closed _ t r ((w.keeps_changeRun r rfl).trans (keeps_leave ..))
    · exact sends_self w _

theorem sends_pollPausing (r : Nat) (node : String) (wakeAt : Nat) (next stopped : Activity) :
    Sends w (w.pollPausing t r node wakeAt next stopped)
      (w.pausingDeeds t r node wakeAt next stopped) := by
  unfold pollPausing pausingDeeds
  dsimp only
  split
  · exact .of_keeps (w.keeps_leave _ t) (sends_perform _ t r node next)
  split
  · exact .of_keeps (w.keeps_leave _ t) (sends_perform _ t r node stopped)
  · exact sends_self w _

theorem sends_pollConducting (r : Nat) (deadline : Option Nat) (deeds : List Deed) :
    Sends w (w.pollConducting t r deadline) deeds := by
  have finished : ∀ {x : World} {ending : Ending}, Keeps w x → Sends w (x.finish t ending) deeds :=
    fun hk => ⟨fun s q target hs => .inl (hk.tasks s q target (dispatched_of_clear s q target hs))⟩
  unfold pollConducting
  dsimp only
  split
  · exact finished ((w.keeps_conclude ..).trans (keeps_leave ..))
  split
  · exact finished (((w.keeps_cancel _).trans (keeps_conclude ..)).trans (keeps_leave ..))
  · exact ((w.keeps_setTask t fun _ _ h => by cases h).trans (keeps_listen ..)).sends

theorem sends_act (a : Act) : Sends w (w.act a) (w.deeds a) := by
  cases a with
  | pass ms =>
    have hpass : Keeps w (w.pass ms) := .of_stage_eq 0
      (dispatched_of_roster ((roster_wakeAll ..).trans rfl)) ((events_wakeAll ..).trans rfl)
      ((stage_wakeAll ..).trans rfl)
    exact hpass.sends
  | cancel c => exact (w.keeps_cancel c).sends
  | step t =>
    refine .of_keeps (x := { w with ready := w.ready.erase t })
      (.of_stage_eq 0 (fun _ _ _ => id) rfl rfl) ?_
    show Sends _ (poll _ t) (pollDeeds _ t)
    unfold poll pollDeeds
    cases w.tasks.get t with
    | «over» | launching => exact sends_self _ _
    | conducting r deadline => exact sends_pollConducting _ t r deadline _
    | arriving r source place live => exact sends_arrive _ t r source place live
    | dispatched r node => exact sends_dispatch _ t r node
    | awaiting r node => exact sends_pollAwaiting _ t r node
    | pausing r node wakeAt next stopped => exact sends_pollPausing _ t r node wakeAt next stopped
    | nesting r node inner => exact sends_pollNesting _ t r node inner

end

end World

/-! ## Who has asked -/

/-- The duty is to execute the node, or to go on from it. -/
def Duty.worksAt (v : String) : Duty → Prop
  | .performing u _ => u = v
  | .pausing u _ _ _ => u = v
  | .nesting u _ => u = v
  | .ended u _ => u = v
  | .going u => u = v
  | _ => False

/-- An execution of the node is not over, or the run or all runs were stopped. -/
def Stage.Pends (S : Stage) (q : Nat) (v : String) : Prop :=
  (∃ d, (q, d) ∈ S.crew ∧ d.worksAt v) ∨ (S.runs q).halted ∨ S.cancelled 0 = true

/-- Once an execution is over and its run goes on, no request to go on at a node is left. -/
theorem Move.pends {S S' : Stage} {r q : Nat} {v : String} (m : Move r S S') (hone : OneContext S)
    (h : S.Pends q v) :
    S'.Pends q v ∨ Entries.get? (S'.values 0) Values.overrideKey = none := by
  rcases h with ⟨d, busy, works⟩ | halted | cancelled
  swap
  · exact .inl (.inr (.inl (m.halted hone.orderly halted)))
  swap
  · exact .inl (.inr (.inr (m.cancelled cancelled)))
  have turned : ∀ {e : Duty} {rest crew : Multiset (Nat × Duty)}, S.crew = (r, e) ::ₘ rest →
      S'.crew = crew → rest ≤ crew →
      (e.worksAt v → S'.Pends r v ∨ Entries.get? (S'.values 0) Values.overrideKey = none) →
      S'.Pends q v ∨ Entries.get? (S'.values 0) Values.overrideKey = none := by
    intro e rest crew hcrew hcrew' hle hworks
    rw [hcrew] at busy
    rcases Multiset.mem_cons.1 busy with he | hrest
    · cases he
      exact hworks works
    · exact .inl (.inl ⟨d, hcrew' ▸ Multiset.mem_of_le hle hrest, works⟩)
  have works_on : ∀ {e : Duty} {crew : Multiset (Nat × Duty)}, S'.crew = (r, e) ::ₘ crew →
      e.worksAt v → S'.Pends r v ∨ Entries.get? (S'.values 0) Values.overrideKey = none :=
    fun hcrew he => .inl (.inl ⟨_, hcrew ▸ Multiset.mem_cons_self _ _, he⟩)
  have cancels : S.cancelled (S.runs r).context = true → S'.Pends r v := fun hc =>
    .inr (.inr (m.cancelled (hone.context r ▸ hc)))
  have erased : Entries.get? ((S.setValues (S.runs r).context fun values =>
      Entries.erase values Values.overrideKey).values 0) Values.overrideKey = none :=
    (values_setValues_erase ..).trans (if_pos ⟨hone.context r, rfl⟩)
  cases m
  case giveUp d' _ crew isOpen _ =>
    refine turned crew rfl (Multiset.le_cons_self _ _) fun hw => ?_
    obtain ⟨_, _, _, rfl⟩ | ⟨_, rfl⟩ := Duty.eq_of_isOpen isOpen <;> exact hw.elim
  case conclude cancelled _ _ => exact .inl (.inl ⟨d, (S.conclude_adds r cancelled).2.2.2.2 ▸ busy, works⟩)
  case expire =>
    have hc := ((S.cancel (S.runs r).context true).conclude_adds r true).2.2.2.2
    exact .inl (.inl ⟨d, (congrArg ((q, d) ∈ ·) hc).mpr busy, works⟩)
  case close crew => exact turned crew rfl le_rfl False.elim
  case skip crew =>
    exact turned crew rfl ((Multiset.le_add_left _ _).trans (Multiset.le_cons_self _ _)) False.elim
  case enter crew _ _ _ =>
    exact turned crew rfl ((Multiset.le_cons_self _ _).trans (Multiset.le_cons_self _ _)) False.elim
  case finish crew _ | doze crew _ | resume crew | interrupt crew _ | surface crew _ | settle crew _ _ =>
    exact turned crew rfl (Multiset.le_cons_self _ _) fun hw => works_on rfl hw
  -- The node is left for good only as the run stops, or as the request is erased.
  case abandon crew cancelled =>
    exact turned crew rfl (Multiset.le_cons_self _ _) fun _ => .inl (cancels cancelled)
  case blame crew _ _ =>
    refine turned crew rfl (Multiset.le_cons_self _ _) fun _ => .inl (.inr (.inl ?_))
    exact (Stage.failure_fail _ r _ _).2
  case halt crew _ =>
    refine turned crew rfl (Multiset.le_cons_self _ _) fun _ => .inl (.inr (.inl ?_))
    exact (congrArg Run.halted (Function.update_self ..)).trans rfl
  case rest crew stops =>
    refine turned crew rfl (Multiset.le_cons_self _ _) fun _ => .inl ?_
    rcases Bool.or_eq_true_iff.1 stops with hs | hs
    · exact .inr (.inl hs)
    · exact cancels hs
  case jump crew _ _ _ =>
    exact turned crew rfl ((Multiset.le_cons_self _ _).trans (Multiset.le_cons_self _ _))
      fun _ => .inr erased
  case spread crew _ _ _ =>
    exact turned crew rfl ((Multiset.le_add_left _ _).trans (Multiset.le_cons_self _ _))
      fun _ => .inr erased
  all_goals exact turned (by assumption) rfl (Multiset.le_cons_self _ _) False.elim

/-- When the key names a node, it did so at first, or an execution has asked for it that pends. -/
structure Requested (values : Values) (S : Stage) : Prop where
  oneContext : OneContext S
  override : ∀ target, Entries.get? (S.values 0) Values.overrideKey = some (.string target) →
    Entries.get? values Values.overrideKey = some (.string target) ∨
      ∃ q v, Requests S.deeds q v target ∧ S.Pends q v

namespace Requested

variable {values : Values} {S S' : Stage} {r : Nat}

theorem move (h : Requested values S) (m : Move r S S') : Requested values S' := by
  refine ⟨h.oneContext.move m, fun target hv => ?_⟩
  have inherited : Entries.get? (S.values 0) Values.overrideKey = some (.string target) →
      Entries.get? values Values.overrideKey = some (.string target) ∨
        ∃ q v, Requests S'.deeds q v target ∧ S'.Pends q v := fun hold =>
    (h.override target hold).imp_right fun ⟨q, v, asked, pends⟩ =>
      ⟨q, v, asked.mono m.deeds_subset, (m.pends h.oneContext pends).resolve_right fun hn => by
        cases hn.symm.trans hv⟩
  rcases m.written h.oneContext (by decide) hv with
    hold | ⟨node, activity, touches, result, busy, hd, hw⟩
  · exact inherited hold
  · refine .inr ⟨r, node, ⟨touches, result, hd ▸ List.mem_cons_self, hw⟩, ?_⟩
    have pends := m.pends h.oneContext (.inl ⟨_, busy, rfl⟩)
    exact pends.resolve_right fun hn => by cases hn.symm.trans hv

theorem cancel (h : Requested values S) (c : Nat) : Requested values (S.cancel c true) where
  oneContext := h.oneContext.cancel c
  override target hv := (h.override target hv).imp_right fun ⟨q, v, asked, pends⟩ =>
    ⟨q, v, asked, pends.imp_right fun hs => hs.imp_right (Stage.cancelled_cancel _ c true)⟩

end Requested

/-! ## Courses -/

section

variable {l : Launch} {past : List (World × Act)} {u w : World} {a : Act} {r s : Nat} {target : String}

theorem Course.requested (h : Course l.world past w) :
    Requested l.values (w.view (l.allDeeds past)) :=
  h.invariant (fun _ => ⟨l.oneContext_opening, fun _ hv => .inl hv⟩)
    (fun _ => ⟨l.oneContext_broken, fun _ hv => .inl hv⟩) (fun m hS => hS.move m) fun c hS => hS.cancel c

theorem World.underWay_of_pends {L : List Deed} {q : Nat} {v : String} (h : (w.view L).Pends q v) :
    0 < w.underWay q v ∨ (w.runs.get q).halted ∨ (w.contexts.get 0).cancelled = true := by
  refine h.imp_left fun ⟨d, busy, works⟩ => ?_
  obtain ⟨t, ht, hd⟩ := Multiset.mem_bind.1
    (show (q, d) ∈ (Multiset.range w.nextTask).bind fun t => (w.tasks.get t).phase.crew from busy)
  refine List.countP_pos_iff.2 ⟨t, List.mem_range.2 (Multiset.mem_range.1 ht), ?_⟩
  cases hk : w.tasks.get t with
  | «over» | launching | conducting => exact absurd (hk ▸ hd) (Multiset.notMem_zero _)
  | arriving | dispatched | awaiting =>
    rw [hk] at hd
    cases Multiset.mem_singleton.1 hd
    exact works.elim
  | pausing | nesting =>
    rw [hk] at hd
    cases Multiset.mem_singleton.1 hd
    exact Bool.and_eq_true_iff.2 ⟨beq_self_eq_true _, beq_iff_eq.2 works⟩

/-- When a run that has begun goes on at a node that a key names, one of its nodes completes in the same
step, and the request is gone after it. The request was made by the execution of that very node,
at the launch, or by another execution, which then either is still under way or was one of a run that
has failed or ended early. -/
theorem Course.jump_requested (h : Course l.world ((u, a) :: past) w) (begun : r < u.nextRun)
    (fresh : u.nextTask ≤ s) (sent : w.tasks.get s = .dispatched r target) :
    ∃ node news, w.happenings r = news ++ u.happenings r ∧ .nodeCompleted node ∈ news ∧
      w.override r = none ∧
      (Requests (u.deeds a) r node target ∨
        Entries.get? l.values Values.overrideKey = some (.string target) ∨
        ∃ q v, Requests (l.allDeeds past) q v target ∧ (0 < u.underWay q v ∨ (u.runs.get q).ended ∨
          ∃ node e, .failed q node e ∈ l.allDeeds past)) := by
  cases h with | next _ before allowed =>
  -- The task is new, so that it was sent in this step.
  have hold : u.tasks.get s = .over := before.awake.beyond s fresh
  rcases (u.sends_act a).sent s r target sent with (hs | hs) | ⟨node, hsent, asked⟩
  · cases hold.symm.trans hs
  · exact absurd begun (Nat.not_lt_of_le hs)
  obtain ⟨news, o, he, ho, rfl, hh⟩ := hsent.completed
  have told : (u.act a).happenings o.run =
      (news.filter fun p => p.run == o.run).map Occurrence.happening ++ u.happenings o.run := by
    unfold World.happenings
    rw [he, List.filter_append, List.map_append]
  refine ⟨node, _, told, List.mem_map.2 ⟨o, List.mem_filter.2 ⟨ho, beq_self_eq_true _⟩, hh⟩,
    hsent.taken, asked.imp_right fun hasked => ?_⟩
  have hcontext : ∀ {x : World} {newer}, Course l.world newer x → ∀ q, x.contextOf q = x.contexts.get 0 :=
    fun hx q => congrArg _ (hx.oneContext.context q)
  unfold World.override at hasked
  rw [hcontext before] at hasked
  refine (before.requested.override target hasked).imp_right fun ⟨q, v, requests, pends⟩ =>
    ⟨q, v, requests, (World.underWay_of_pends pends).imp_right fun hstopped => ?_⟩
  have goesOn : ((u.act a).contexts.get 0).cancelled = false :=
    hcontext (before.next a allowed) o.run ▸ hsent.goesOn
  have uncancelled : (u.contexts.get 0).cancelled = false :=
    before.goesOn_before (show Course l.world ([_] ++ _) _ from before.next a allowed) begun goesOn
  -- The run of the request has stopped, and only a failure or an early end can be why.
  have halted := hstopped.resolve_right (Bool.eq_false_iff.1 uncancelled)
  obtain ⟨hq, fits⟩ := before.lt_nextRun_of_halted halted
  rcases before.reasoned fits hq halted with ⟨v, e, hf⟩ | he | hc
  · exact .inr ⟨v, e, (List.mem_filter.1 hf).1⟩
  · exact .inl he
  · cases uncancelled.symm.trans
      ((congrArg Context.cancelled (hcontext before q)).symm.trans hc)

end

/-! ## A request that escapes its pipeline -/

/-- The node `x` of the pipeline asks for the end, and to go on at a node of the run around it. -/
def Beside.escaping : Launch :=
  launch (.write Values.endKey (.bool true) (.write Values.overrideKey (.string "c") .done))

/-- A pipeline that has ended early leaves its request to the run around it, which goes on at the node
that the pipeline has named. -/
theorem jump_requested_escaping : ∃ past u a w, Course Beside.escaping.world ((u, a) :: past) w ∧
    w.tasks.get u.nextTask = .dispatched 0 "c" ∧ .nodeCompleted "s" ∈ w.happenings 0 ∧
    ∃ v, Requests (Beside.escaping.allDeeds past) 1 v "c" ∧ u.underWay 1 v = 0 ∧
      (u.runs.get 1).ended := by
  have h : Course Beside.escaping.world ((_, _) :: [_, _, _]) _ :=
    ((((Course.start : Course Beside.escaping.world [] _).step 1 (by decide)).step 2
      (by decide)).step 4 (by decide)).step 2 (by decide)
  obtain ⟨node, _, -, -, -, ⟨_, _, hd, -⟩ | hasked | ⟨q, v, asked, -⟩⟩ :=
    h.jump_requested (s := 5) (by decide) (by decide) (show _ = Task.dispatched 0 "c" from rfl)
  · cases List.mem_singleton.1 (show _ ∈ [_] from hd)
  · cases hasked
  · refine ⟨_, _, _, _, h, rfl, List.mem_cons_self, v, ?_⟩
    obtain ⟨touches, result, hd, hw⟩ := asked
    have hcases := List.mem_cons.1 (show _ ∈ [_, _, _] from hd)
    simp only [List.mem_cons, List.not_mem_nil, or_false] at hcases
    rcases hcases with he | he | he
    · cases he
      exact ⟨⟨_, _, hd, hw⟩, by decide, by decide⟩
    · cases he
    · cases he
      cases hw

end Conduit
