import Conduit.Proofs.Run.History

/-!
# Crews

Who works for which run. Runs are numbered in the order in which they begin, a nested run comes
after the one that it is part of, and nothing is done in a run that has not begun.
-/

namespace Conduit

/-! ## What never changes of a run -/

/-- A failure or the end of a run changes nodes, the failure and whether the run is halted only. -/
def Run.Lasting {α : Type*} (f : Run → α) : Prop :=
  ∀ run nodes failure halted,
    f { run with
      nodes := nodes
      failure := failure
      halted := halted } = f run

theorem Run.Lasting.changeNode {α : Type*} {f : Run → α} (hf : Lasting f) (run : Run) (id : String)
    (g : NodeState → NodeState) : f (run.changeNode id g) = f run := by
  rw [changeNode_eq]
  exact hf run _ run.failure run.halted

/-- What never changes of a run. -/
def Run.frame (run : Run) : Graph Component × Nat × Nat × Limits :=
  (run.graph, run.context, run.supervisor, run.limits)

namespace Run

@[simp] theorem frame_setStatus (run : Run) (id : String) (s : NodeStatus) :
    (run.setStatus id s).frame = run.frame := by
  rw [setStatus, changeNode_eq]
  rfl

@[simp] theorem frame_counted (run : Run) (id : String) (live : Bool) :
    (run.counted id live).frame = run.frame := by
  rw [counted, changeNode_eq]
  rfl

@[simp] theorem frame_released (run : Run) : run.released.frame = run.frame :=
  apply_released (fun _ _ _ _ => rfl) run

@[simp] theorem frame_completed (run : Run) (id : String) :
    (run.completed id).frame = run.frame :=
  frame_setStatus run id .done

end Run

namespace Stage

variable (S : Stage) (r : Nat) {s : Nat}

@[simp] theorem runs_say (h : Happening) : (S.say r h).runs = S.runs := rfl

@[simp] theorem runs_record (deeds : List Deed) : (S.record deeds).runs = S.runs := rfl

@[simp] theorem runs_withCrew (crew : Multiset (Nat × Duty)) :
    (S.withCrew crew).runs = S.runs := rfl

@[simp] theorem runs_setValues (c : Nat) (f : Values → Values) :
    (S.setValues c f).runs = S.runs := rfl

@[simp] theorem runs_cancel (c : Nat) (b : Bool) : (S.cancel c b).runs = S.runs := rfl

theorem runs_change_of_ne (h : s ≠ r) (f : Run → Run) : (S.change r f).runs s = S.runs s :=
  Function.update_of_ne h _ _

theorem runs_fail_of_ne (h : s ≠ r) (node : String) (e : PipelineError) :
    (S.fail r node e).runs s = S.runs s := by
  unfold fail keepFailure
  dsimp only
  rw [runs_record, runs_change_of_ne _ _ h]
  split
  · rw [runs_say, runs_change_of_ne _ _ h]
  · rw [runs_change_of_ne _ _ h, runs_setValues, runs_say, runs_change_of_ne _ _ h]

theorem runs_conclude_of_ne (h : s ≠ r) (b : Bool) : (S.conclude r b).runs s = S.runs s := by
  unfold conclude
  dsimp only
  rw [runs_record]
  split
  · rw [runs_setValues, runs_change_of_ne _ _ h, runs_say, runs_change_of_ne _ _ h]
  · rw [runs_say, runs_change_of_ne _ _ h]

section

variable {α : Type*} {f : Run → α}

theorem lasting_update {S S' : Stage} {run : Run} (runs : S'.runs = Function.update S.runs r run)
    (h : f run = f (S.runs r)) : f (S'.runs s) = f (S.runs s) := by
  rw [runs, Function.update_apply]
  split
  · next he => rw [h, he]
  · rfl

theorem lasting_change {g : Run → Run} (h : f (g (S.runs r)) = f (S.runs r)) :
    f ((S.change r g).runs s) = f (S.runs s) :=
  lasting_update r rfl h

theorem lasting_fail (hf : Run.Lasting f) (node : String) (e : PipelineError) :
    f ((S.fail r node e).runs s) = f (S.runs s) := by
  have hn : f ((S.runs r).setStatus node .failed) = f (S.runs r) := hf.changeNode ..
  unfold fail keepFailure
  dsimp only
  rw [runs_record, lasting_change (f := f) _ _ (hf ..)]
  split
  · rw [runs_say, lasting_change (f := f) _ _ hn]
  · rw [lasting_change (f := f) _ _ (hf ..), runs_setValues, runs_say,
      lasting_change (f := f) _ _ hn]

theorem lasting_conclude (hf : Run.Lasting f) (b : Bool) :
    f ((S.conclude r b).runs s) = f (S.runs s) := by
  unfold conclude
  dsimp only
  rw [runs_record]
  split
  · rw [runs_setValues, lasting_change (f := f) _ _ (hf ..), runs_say,
      lasting_change (f := f) _ _ (hf ..)]
  · rw [runs_say, lasting_change (f := f) _ _ (hf ..)]

end

theorem frame_change {f : Run → Run} (h : (f (S.runs r)).frame = (S.runs r).frame) :
    ((S.change r f).runs s).frame = (S.runs s).frame :=
  S.lasting_change r h

theorem graph_change (f : Run → Run) (h : (f (S.runs r)).frame = (S.runs r).frame) :
    ((S.change r f).runs r).graph = (S.runs r).graph :=
  congrArg Prod.fst (S.frame_change r h)

theorem frame_fail (node : String) (e : PipelineError) :
    ((S.fail r node e).runs s).frame = (S.runs s).frame :=
  S.lasting_fail r (fun _ _ _ _ => rfl) node e

theorem frame_conclude (b : Bool) : ((S.conclude r b).runs s).frame = (S.runs s).frame :=
  S.lasting_conclude r (fun _ _ _ _ => rfl) b

end Stage

theorem Move.frame {S S' : Stage} {r s : Nat} (h : Move r S S') (hs : s < S.nextRun) :
    (S'.runs s).frame = (S.runs s).frame := by
  cases h
  case giveUp | stray | lost | rest | resume | interrupt | finish | doze => rfl
  case conclude => exact S.frame_conclude ..
  case expire => exact Stage.frame_conclude ..
  case enter =>
    refine (congrArg Run.frame (Function.update_of_ne (Nat.ne_of_lt hs) _ _)).trans ?_
    exact S.frame_change r (f := fun run => run.setStatus _ .running) (Run.frame_setStatus ..)
  all_goals simp only [Stage.runs_withCrew, Stage.runs_record, Stage.runs_say, Stage.runs_setValues]
  case refuse | unknown | unusable => exact Stage.frame_fail ..
  case exceed => exact (Stage.frame_fail ..).trans (S.frame_change r rfl)
  case count => exact S.frame_change r (Run.frame_counted ..)
  case skip | start => exact S.frame_change r (Run.frame_setStatus ..)
  case take | queue | grant | withdraw | halt | close => exact S.frame_change r rfl
  case jump | spread => exact Stage.frame_change _ r rfl
  case retreat => exact S.frame_change r (Run.frame_released _)
  case surface => exact S.frame_conclude ..
  case abandon => exact S.frame_change r ((Run.frame_setStatus ..).trans (Run.frame_released _))
  case blame => exact (Stage.frame_fail ..).trans (S.frame_change r (Run.frame_released _))
  case settle => exact S.frame_change r ((Run.frame_completed ..).trans (Run.frame_released _))

/-! ## Runs in order -/

/-- The deed is one at the nodes of a run. -/
def Deed.isIn (r : Nat) : Deed → Bool
  | .asked s _ _ => s == r
  | .delivered s _ _ _ => s == r
  | .failed s _ _ => s == r
  | .performed _ _ _ _ => false
  | .concluded _ _ => false

/-- Nothing is asked for a permit whose node cannot be used, and the pipeline of a node runs in a
run that began later. -/
def Duty.IsOrderly (S : Stage) (r : Nat) : Duty → Prop
  | .awaiting node => ∃ n, (S.runs r).graph.node? node = some n ∧ n.slot.isUsable
  | .admitted node => ∃ n, (S.runs r).graph.node? node = some n ∧ n.slot.isUsable
  | .nesting _ inner => r < inner ∧ inner < S.nextRun
  | _ => True

structure Orderly (S : Stage) : Prop where
  crew : ∀ p ∈ S.crew, p.1 < S.nextRun ∧ p.2.IsOrderly S p.1
  posts : ∀ p ∈ S.posts, p.2 < S.nextRun
  events : ∀ e ∈ S.events, e.1 < S.nextRun
  deeds : ∀ d ∈ S.deeds, ∀ r, d.isIn r → r < S.nextRun
  fresh : ∀ r, S.nextRun ≤ r → S.runs r = default

theorem Duty.IsOrderly.congr {S S' : Stage} {r : Nat} {d : Duty}
    (hg : (S'.runs r).frame = (S.runs r).frame) (hn : S.nextRun ≤ S'.nextRun)
    (h : d.IsOrderly S r) : d.IsOrderly S' r := by
  have hg : (S'.runs r).graph = (S.runs r).graph := congrArg Prod.fst hg
  cases d with
  | awaiting node =>
    unfold IsOrderly
    rw [hg]
    exact h
  | admitted node =>
    unfold IsOrderly
    rw [hg]
    exact h
  | nesting node inner => exact ⟨h.1, h.2.trans_le hn⟩
  | _ => trivial

/-- A task of the run `r` has gone on, and nothing was done in runs that have not begun. -/
theorem Orderly.of_crew {S S' : Stage} (h : Orderly S) {r : Nat} {d : Duty}
    {rest : Multiset (Nat × Duty)} (crew : S.crew = (r, d) ::ₘ rest)
    (hcrew : ∀ p ∈ S'.crew, p ∈ rest ∨ p.1 = r ∧ p.2.IsOrderly S r)
    (frame : ∀ s, s < S.nextRun → (S'.runs s).frame = (S.runs s).frame)
    (runs : ∀ s, S.nextRun ≤ s → S'.runs s = S.runs s) (nextRun : S'.nextRun = S.nextRun)
    (posts : S'.posts = S.posts)
    (events : ∀ e ∈ S'.events, e ∈ S.events ∨ e.1 < S.nextRun)
    (deeds : ∀ d ∈ S'.deeds, d ∈ S.deeds ∨ ∀ s, d.isIn s → s < S.nextRun) : Orderly S' where
  crew p hp := by
    have hold : p.1 < S.nextRun ∧ p.2.IsOrderly S p.1 := by
      rcases hcrew p hp with hr | ⟨rfl, ho⟩
      · exact h.crew p (crew ▸ Multiset.mem_cons_of_mem hr)
      · exact ⟨(h.crew (p.1, d) (crew ▸ Multiset.mem_cons_self _ _)).1, ho⟩
    exact ⟨nextRun ▸ hold.1, hold.2.congr (frame _ hold.1) nextRun.ge⟩
  posts := by
    rw [posts, nextRun]
    exact h.posts
  events e he := by
    rw [nextRun]
    exact (events e he).elim (h.events e) id
  deeds d hd := by
    rw [nextRun]
    exact (deeds d hd).elim (h.deeds d) id
  fresh s hs := by
    rw [nextRun] at hs
    exact (runs s hs).trans (h.fresh s hs)

namespace Stage

variable (S : Stage) (r : Nat)

theorem fail_adds (node : String) (e : PipelineError) :
    (S.fail r node e).events = (r, .nodeFailed node e.message) :: S.events ∧
      (S.fail r node e).deeds = .failed r node e :: S.deeds ∧
      (S.fail r node e).nextRun = S.nextRun ∧ (S.fail r node e).posts = S.posts := by
  unfold fail keepFailure
  dsimp only
  split <;> exact ⟨rfl, rfl, rfl, rfl⟩

theorem endings_fail (node : String) (e : PipelineError) :
    (S.fail r node e).endings = S.endings := by
  unfold fail keepFailure
  dsimp only
  split <;> rfl

theorem conclude_adds (b : Bool) :
    (∃ x y, (S.conclude r b).events = (r, .runCompleted x y) :: S.events) ∧
      (S.conclude r b).deeds = .concluded r (S.resultOf r b) :: S.deeds ∧
      (S.conclude r b).nextRun = S.nextRun ∧ (S.conclude r b).posts = S.posts ∧
      (S.conclude r b).crew = S.crew := by
  unfold conclude
  dsimp only
  split <;> exact ⟨⟨_, _, rfl⟩, rfl, rfl, rfl, rfl⟩

theorem cancelled_fail (node : String) (e : PipelineError) :
    (S.fail r node e).cancelled = S.cancelled := by
  unfold fail keepFailure
  dsimp only
  split <;> rfl

theorem cancelled_conclude (b : Bool) : (S.conclude r b).cancelled = S.cancelled := by
  unfold conclude
  dsimp only
  split <;> rfl

theorem cancelled_cancel {c : Nat} (d : Nat) (b : Bool) (h : S.cancelled c) :
    (S.cancel d b).cancelled c := by
  simp only [cancel, Function.update_apply]
  split
  · next hd => rw [← hd, h, Bool.true_or]
  · exact h

theorem goesOn_of_cancel {S : Stage} {c d : Nat} {b : Bool} (goesOn : (S.cancel d b).cancelled c = false) :
    S.cancelled c = false :=
  Bool.eq_false_iff.2 fun hc => Bool.eq_false_iff.1 goesOn (S.cancelled_cancel d b hc)

end Stage

theorem Move.cancelled {S S' : Stage} {r c : Nat} (m : Move r S S') (h : S.cancelled c) :
    S'.cancelled c := by
  cases m
  case finish | doze => exact Stage.cancelled_cancel (S.setValues _ _) _ _ h
  case refuse | unknown | unusable | exceed | blame =>
    exact (congrFun (Stage.cancelled_fail ..) c).trans h
  case surface | conclude => exact (congrFun (S.cancelled_conclude ..) c).trans h
  case expire =>
    exact (congrFun (Stage.cancelled_conclude ..) c).trans (S.cancelled_cancel _ true h)
  all_goals exact h

theorem Move.goesOn {S S' : Stage} {r c : Nat} (m : Move r S S') (goesOn : S'.cancelled c = false) :
    S.cancelled c = false :=
  Bool.eq_false_iff.2 fun hc => Bool.eq_false_iff.1 goesOn (m.cancelled hc)

theorem mem_cons_orderly {S : Stage} {r : Nat} {d : Duty} {crew rest : Multiset (Nat × Duty)}
    (hd : d.IsOrderly S r) (h : ∀ p ∈ crew, p ∈ rest ∨ p.1 = r ∧ p.2.IsOrderly S r) :
    ∀ p ∈ (r, d) ::ₘ crew, p ∈ rest ∨ p.1 = r ∧ p.2.IsOrderly S r := by
  intro p hp
  rcases Multiset.mem_cons.1 hp with rfl | hp
  · exact .inr ⟨rfl, hd⟩
  · exact h p hp

theorem mem_arrivals_orderly {S : Stage} {r : Nat} (run : Run) (source : String) (live : Bool)
    {rest : Multiset (Nat × Duty)} :
    ∀ p ∈ run.arrivals r source live + rest, p ∈ rest ∨ p.1 = r ∧ p.2.IsOrderly S r := by
  intro p hp
  rcases Multiset.mem_add.1 hp with hp | hp
  · obtain ⟨place, -, rfl⟩ := Multiset.mem_map.1 hp
    exact .inr ⟨rfl, trivial⟩
  · exact .inl hp

theorem eq_of_mem_askDeeds {r s : Nat} {source : String} {edge : Edge} {live : Bool} {d : Deed}
    (hd : d ∈ World.askDeeds r source edge live) (hs : d.isIn s) : s = r := by
  unfold World.askDeeds at hd
  split at hd
  · rw [List.mem_singleton.1 hd] at hs
    exact (beq_iff_eq.1 hs).symm
  · exact absurd hd List.not_mem_nil

/-- A node fails, and the task that found that leaves. `X` is the stage after what it did before. -/
theorem Orderly.fail {S X : Stage} (h : Orderly S) {r : Nat} {d : Duty}
    {rest : Multiset (Nat × Duty)} (crew : S.crew = (r, d) ::ₘ rest) (node : String)
    (e : PipelineError) (events : X.events = S.events)
    (deeds : ∀ d ∈ X.deeds, d ∈ S.deeds ∨ ∀ s, d.isIn s → s < S.nextRun)
    (nextRun : X.nextRun = S.nextRun) (posts : X.posts = S.posts)
    (runs : ∀ s, S.nextRun ≤ s → X.runs s = S.runs s)
    (frame : ∀ s, s < S.nextRun → (X.runs s).frame = (S.runs s).frame) :
    Orderly ((X.fail r node e).withCrew ((r, .leaving) ::ₘ rest)) := by
  obtain ⟨hev, hde, hn, hp⟩ := X.fail_adds r node e
  have hr : r < S.nextRun := (h.crew _ (crew ▸ Multiset.mem_cons_self _ _)).1
  refine h.of_crew crew (mem_cons_orderly trivial fun _ hp => .inl hp) ?_ ?_ (hn.trans nextRun)
    (hp.trans posts) ?_ ?_
  · exact fun s hs => (X.frame_fail r node e).trans (frame s hs)
  · exact fun s hs =>
      (X.runs_fail_of_ne r (Nat.ne_of_gt (hr.trans_le hs)) _ _).trans (runs s hs)
  · intro x hx
    rcases List.mem_cons.1 (hev ▸ (hx : x ∈ (X.fail r node e).events)) with rfl | hx
    · exact .inr hr
    · exact .inl (events ▸ hx)
  · intro x hx
    rcases List.mem_cons.1 (hde ▸ (hx : x ∈ (X.fail r node e).deeds)) with rfl | hx
    · exact .inr fun s hs => beq_iff_eq.1 hs ▸ hr
    · exact deeds x hx

theorem Orderly.conclude {S X : Stage} (h : Orderly S) {r t : Nat} {posts : Multiset (Nat × Nat)}
    (cancelled : Bool) (post : S.posts = (t, r) ::ₘ posts) (runs : X.runs = S.runs)
    (crew : X.crew = S.crew) (events : X.events = S.events) (deeds : X.deeds = S.deeds)
    (nextRun : X.nextRun = S.nextRun) (endings : Nat → Option Ending) :
    Orderly { X.conclude r cancelled with
      posts := posts
      endings := endings } := by
  obtain ⟨⟨x, y, he⟩, hd, hn, -, hc⟩ := X.conclude_adds r cancelled
  have hlt : r < S.nextRun := h.posts _ (post ▸ Multiset.mem_cons_self _ _)
  have hnext := hn.trans nextRun
  have hfr : ∀ s, ((X.conclude r cancelled).runs s).frame = (S.runs s).frame := by
    intro s
    rw [X.frame_conclude, runs]
  refine ⟨fun p hp => ?_, fun p hp => ?_, fun e hm => ?_, fun d hm s hs => ?_, fun s hs => ?_⟩
  · have hold := h.crew p (crew ▸ hc ▸ hp)
    exact ⟨hnext ▸ hold.1, hold.2.congr (hfr _) hnext.ge⟩
  · exact hnext ▸ h.posts p (post ▸ Multiset.mem_cons_of_mem hp)
  · rcases List.mem_cons.1 (he ▸ (hm : e ∈ (X.conclude r cancelled).events)) with rfl | hm
    · exact hnext ▸ hlt
    · exact hnext ▸ h.events e (events ▸ hm)
  · rcases List.mem_cons.1 (hd ▸ (hm : d ∈ (X.conclude r cancelled).deeds)) with rfl | hm
    · exact absurd hs Bool.false_ne_true
    · exact hnext ▸ h.deeds d (deeds ▸ hm) s hs
  · have hs : S.nextRun ≤ s := hnext ▸ hs
    refine (X.runs_conclude_of_ne r (Nat.ne_of_gt (hlt.trans_le hs)) _).trans ?_
    rw [runs]
    exact h.fresh s hs

/-- The run of a pipeline begins as the execution of a node of the run `r`. -/
theorem Orderly.enter {S X : Stage} (h : Orderly S) {r : Nat} {d : Duty} {rest : Multiset (Nat × Duty)}
    (crew : S.crew = (r, d) ::ₘ rest) (node : String) (graph : Graph Component)
    (context supervisor : Nat) (limits : Limits)
    (events : ∀ e ∈ X.events, e ∈ S.events ∨ e.1 < S.nextRun) (deeds : X.deeds = S.deeds)
    (nextRun : X.nextRun = S.nextRun) (posts : X.posts = S.posts)
    (runs : ∀ s, S.nextRun ≤ s → X.runs s = S.runs s)
    (frame : ∀ s, s < S.nextRun → (X.runs s).frame = (S.runs s).frame) :
    Orderly ((X.begin graph context supervisor limits).withCrew
      ((r, .nesting node S.nextRun) ::ₘ (S.nextRun, .dispatched graph.root) ::ₘ rest)) := by
  have hr : r < S.nextRun := (h.crew _ (crew ▸ Multiset.mem_cons_self _ _)).1
  have hnext : (X.begin graph context supervisor limits).nextRun = S.nextRun + 1 :=
    congrArg Nat.succ nextRun
  have kept : ∀ s, s ≠ S.nextRun →
      (X.begin graph context supervisor limits).runs s = X.runs s :=
    fun s hs => Function.update_of_ne (nextRun ▸ hs) _ _
  refine ⟨fun p hp => ?_, fun p hp => ?_, fun e he => ?_, fun d hd s hs => ?_, fun s hs => ?_⟩
  · change p.1 < (X.begin graph context supervisor limits).nextRun ∧ _
    rw [hnext]
    rcases Multiset.mem_cons.1 hp with rfl | hp
    · exact ⟨Nat.lt_succ_of_lt hr, hr, hnext ▸ Nat.lt_succ_self _⟩
    rcases Multiset.mem_cons.1 hp with rfl | hp
    · exact ⟨Nat.lt_succ_self _, trivial⟩
    · have hold := h.crew p (crew ▸ Multiset.mem_cons_of_mem hp)
      refine ⟨Nat.lt_succ_of_lt hold.1, hold.2.congr ?_ (hnext ▸ Nat.le_succ _)⟩
      exact (congrArg Run.frame (kept _ (Nat.ne_of_lt hold.1))).trans (frame _ hold.1)
  · exact hnext ▸ Nat.lt_succ_of_lt (h.posts p (posts ▸ hp))
  · refine lt_of_lt_of_eq ?_ hnext.symm
    rcases List.mem_cons.1 he with rfl | he
    · exact nextRun ▸ Nat.lt_succ_self _
    · exact Nat.lt_succ_of_lt ((events e he).elim (h.events e) id)
  · exact hnext ▸ Nat.lt_succ_of_lt (h.deeds d (deeds ▸ hd) s hs)
  · have hs : S.nextRun < s := Nat.lt_of_succ_le (hnext.ge.trans hs)
    exact (kept s (Nat.ne_of_gt hs)).trans ((runs s hs.le).trans (h.fresh s hs.le))

theorem Orderly.move {S S' : Stage} {r : Nat} (h : Orderly S) (m : Move r S S') : Orderly S' := by
  have frame := fun s (hs : s < S.nextRun) => m.frame hs
  have old : ∀ {rest : Multiset (Nat × Duty)}, ∀ p ∈ rest, p ∈ rest ∨ p.1 = r ∧ p.2.IsOrderly S r :=
    fun p hp => .inl hp
  have hr : ∀ {d rest}, S.crew = (r, d) ::ₘ rest → r < S.nextRun ∧ d.IsOrderly S r :=
    fun hc => h.crew _ (hc ▸ Multiset.mem_cons_self _ _)
  have change : ∀ {d rest}, S.crew = (r, d) ::ₘ rest → ∀ x : Run, ∀ s, S.nextRun ≤ s →
      Function.update S.runs r x s = S.runs s :=
    fun hc x s hs => Function.update_of_ne (Nat.ne_of_gt ((hr hc).1.trans_le hs)) _ _
  have usable : ∀ {n : GraphNode Component} {component : Component} {origin : Origin},
      n.slot = .ready component origin → n.slot.isUsable = true := by
    intro n component origin hslot
    rw [hslot]
    rfl
  have event : ∀ {d rest x}, S.crew = (r, d) ::ₘ rest →
      ∀ e ∈ (r, x) :: S.events, e ∈ S.events ∨ e.1 < S.nextRun := by
    intro d rest x hc e he
    rcases List.mem_cons.1 he with rfl | he
    · exact .inr (hr hc).1
    · exact .inl he
  have deed : ∀ {d rest} {deeds : List Deed}, S.crew = (r, d) ::ₘ rest →
      (∀ d ∈ deeds, ∀ s, d.isIn s → s = r) →
        ∀ d ∈ deeds ++ S.deeds, d ∈ S.deeds ∨ ∀ s, d.isIn s → s < S.nextRun := by
    intro d rest deeds hc hd d hm
    rcases List.mem_append.1 hm with hm | hm
    · exact .inr fun s hs => hd d hm s hs ▸ (hr hc).1
    · exact .inl hm
  cases m
  -- The task goes over to another duty, and perhaps its run changes.
  case giveUp crew _ _ | stray crew _ _ | rest crew _ | resume crew | interrupt crew _ =>
    exact h.of_crew crew (mem_cons_orderly trivial old) frame (fun _ _ => rfl) rfl rfl
      (fun _ he => .inl he) fun _ hd => .inl hd
  case lost crew _ _ _ _ =>
    exact h.of_crew crew (mem_cons_orderly trivial old) frame (fun _ _ => rfl) rfl rfl
      (fun _ he => .inl he) (deed crew fun _ hd _ hs => eq_of_mem_askDeeds hd hs)
  case count s crew _ _ _ _ =>
    refine h.of_crew crew (mem_cons_orderly ?_ old) frame (change crew _) rfl rfl
      (fun _ he => .inl he) (deed crew fun _ hd _ hs => ?_)
    · cases (s.gate.arrive _).2 <;> trivial
    · rcases List.mem_cons.1 hd with rfl | hd
      · exact (beq_iff_eq.1 hs).symm
      · exact eq_of_mem_askDeeds hd hs
  case take n _ _ crew _ node_eq slot _ _ | queue n _ _ crew _ node_eq slot _ _ =>
    exact h.of_crew crew (mem_cons_orderly ⟨n, node_eq, usable slot⟩ old) frame (change crew _)
      rfl rfl (fun _ he => .inl he) fun _ hd => .inl hd
  case grant crew _ =>
    exact h.of_crew crew (mem_cons_orderly (hr crew).2 old) frame (change crew _)
      rfl rfl (fun _ he => .inl he) fun _ hd => .inl hd
  case withdraw crew _ _ | retreat crew _ | halt crew _ =>
    exact h.of_crew crew (mem_cons_orderly trivial old) frame (change crew _) rfl rfl
      (fun _ he => .inl he) fun _ hd => .inl hd
  case close crew =>
    exact h.of_crew crew old frame (change crew _) rfl rfl
      (fun _ he => .inl he) fun _ hd => .inl hd
  case start crew _ _ _ | abandon crew _ | settle crew _ _ =>
    exact h.of_crew crew (mem_cons_orderly trivial old) frame (change crew _) rfl rfl
      (event crew) fun _ hd => .inl hd
  case finish crew _ | doze crew _ =>
    refine h.of_crew crew (mem_cons_orderly trivial old) frame (fun _ _ => rfl) rfl rfl
      (fun _ he => .inl he) (deed crew fun _ hd _ hs => ?_)
    rw [List.mem_singleton.1 hd] at hs
    exact absurd hs Bool.false_ne_true
  -- New tasks of the run set out.
  case jump crew _ _ _ =>
    exact h.of_crew crew (mem_cons_orderly trivial (mem_cons_orderly trivial old)) frame
      (change crew _) rfl rfl (fun _ he => .inl he) fun _ hd => .inl hd
  case spread crew _ _ _ =>
    exact h.of_crew crew (mem_cons_orderly trivial (mem_arrivals_orderly _ _ _)) frame
      (change crew _) rfl rfl (fun _ he => .inl he) fun _ hd => .inl hd
  case skip crew =>
    exact h.of_crew crew (mem_cons_orderly trivial (mem_arrivals_orderly _ _ _)) frame
      (change crew _) rfl rfl (event crew) fun _ hd => .inl hd
  -- A node fails.
  case refuse crew _ _ _ =>
    refine h.fail (X := S.record _) crew _ _ rfl ?_ rfl rfl (fun _ _ => rfl) fun _ _ => rfl
    exact deed crew fun _ hd _ hs => eq_of_mem_askDeeds hd hs
  case unknown crew _ _ | unusable crew _ _ _ =>
    exact h.fail (X := S) crew _ _ rfl (fun _ hd => .inl hd) rfl rfl (fun _ _ => rfl) fun _ _ => rfl
  case exceed crew _ _ _ _ =>
    exact h.fail (X := S.change r _) crew _ _ rfl (fun _ hd => .inl hd) rfl rfl (change crew _)
      fun _ _ => S.frame_change r rfl
  case blame crew _ _ =>
    exact h.fail (X := S.change r _) crew _ _ rfl (fun _ hd => .inl hd) rfl rfl (change crew _)
      fun _ _ => S.frame_change r (Run.frame_released _)
  -- The run of a pipeline is concluded or begins, and at last the run itself is concluded.
  case surface inner _ _ cancelled crew _ =>
    obtain ⟨⟨x, y, he⟩, hd, hn, hp, -⟩ := S.conclude_adds inner cancelled
    have hi : inner < S.nextRun := (hr crew).2.2
    refine h.of_crew crew (mem_cons_orderly trivial old) frame
      (fun s hs => S.runs_conclude_of_ne inner (Nat.ne_of_gt (hi.trans_le hs)) _) hn hp
      (fun e hm => ?_) fun d hm => ?_
    · rcases List.mem_cons.1 (he ▸ (hm : e ∈ (S.conclude inner cancelled).events)) with rfl | hm
      · exact .inr hi
      · exact .inl hm
    · rcases List.mem_cons.1 (hd ▸ (hm : d ∈ (S.conclude inner cancelled).deeds)) with rfl | hm
      · exact .inr fun _ hs => absurd hs Bool.false_ne_true
      · exact .inl hm
  case enter t node rest n graph origin crew goesOn node_eq slot =>
    exact h.enter (X := (S.change r _).say r _) crew _ _ _ _ _ (event crew) rfl rfl rfl
      (change crew _) fun _ _ => S.frame_change r (f := fun run => run.setStatus node .running)
        (Run.frame_setStatus ..)
  case conclude t posts cancelled post _ =>
    exact h.conclude (X := S) cancelled post rfl rfl rfl rfl rfl _
  case expire t posts post _ =>
    exact h.conclude (X := S.cancel (S.runs r).context true) true post rfl rfl rfl rfl rfl _

theorem Orderly.cancel {S : Stage} (h : Orderly S) (c : Nat) : Orderly (S.cancel c true) :=
  ⟨h.crew, h.posts, h.events, h.deeds, h.fresh⟩

theorem Launch.orderly_opening (l : Launch) : Orderly l.opening where
  crew p hp := by
    rw [Multiset.mem_singleton.1 hp]
    exact ⟨Nat.zero_lt_one, trivial⟩
  posts p hp := by
    rw [Multiset.mem_singleton.1 hp]
    exact Nat.zero_lt_one
  events e he := by
    rw [List.mem_singleton.1 he]
    exact Nat.zero_lt_one
  deeds d hd := absurd hd List.not_mem_nil
  fresh r hr := by
    simp only [opening, Function.update_apply]
    exact if_neg (Nat.ne_of_gt hr)

theorem Launch.orderly_broken (l : Launch) : Orderly l.broken where
  crew p hp := absurd hp (Multiset.notMem_zero p)
  posts p hp := absurd hp (Multiset.notMem_zero p)
  events e he := by
    rw [List.mem_singleton.1 he]
    exact Nat.zero_lt_one
  deeds d hd := absurd hd List.not_mem_nil
  fresh _ _ := rfl

theorem Course.orderly {l : Launch} {past : List (World × Act)} {w : World}
    (h : Course l.world past w) : Orderly (w.view (l.allDeeds past)) :=
  h.invariant (fun _ => l.orderly_opening) (fun _ => l.orderly_broken) (fun m h => h.move m)
    fun c h => h.cancel c

/-! ## Launches that break off -/

theorem Move.busy {S S' : Stage} {r : Nat} (h : Move r S S') : S.crew ≠ 0 ∨ S.posts ≠ 0 := by
  cases h
  case conclude post _ | expire post _ => exact .inr (post ▸ Multiset.cons_ne_zero)
  all_goals exact .inl (by simp only [*, ne_eq, Multiset.cons_ne_zero, not_false_eq_true])

theorem Course.view_of_not_fits {l : Launch} {past : List (World × Act)} {w : World}
    (h : Course l.world past w) (hb : ¬l.Fits) :
    ∃ cancelled, w.view (l.allDeeds past) = { l.broken with cancelled := cancelled } := by
  refine h.invariant (P := fun S => ∃ cancelled, S = { l.broken with cancelled := cancelled })
    (fun hf => absurd hf hb) (fun _ => ⟨_, rfl⟩) ?_ ?_
  · rintro r S S' m ⟨cancelled, rfl⟩
    exact absurd m.busy (by simp [Launch.broken])
  · rintro S c ⟨cancelled, rfl⟩
    exact ⟨_, rfl⟩

theorem Course.of_not_fits {l : Launch} {past : List (World × Act)} {w : World}
    (h : Course l.world past w) (hb : ¬l.Fits) :
    (∀ r, w.runs.get r = default) ∧ (w.endings.get 0).map Prod.fst = some .brokenOff := by
  obtain ⟨cancelled, hv⟩ := h.view_of_not_fits hb
  exact ⟨fun r => congrArg (fun S => S.runs r) hv, congrArg (fun S => S.endings 0) hv⟩

/-! ## Runs that have begun -/

section

variable {l : Launch} {past : List (World × Act)} {w : World}

theorem Course.lt_nextRun_of_ne_default (h : Course l.world past w) {r : Nat}
    (hd : w.runs.get r ≠ default) : r < w.nextRun ∧ l.Fits := by
  constructor
  · by_contra hr
    exact hd (h.orderly.fresh r (Nat.le_of_not_lt hr))
  · by_contra hb
    exact hd ((h.of_not_fits hb).1 r)

theorem Course.lt_nextRun (h : Course l.world past w) {r : Nat} {v : String}
    {n : GraphNode Component} (hn : (w.runs.get r).graph.node? v = some n) :
    r < w.nextRun ∧ l.Fits := by
  refine h.lt_nextRun_of_ne_default fun hd => ?_
  rw [hd] at hn
  cases hn

/-- A run that is halted has begun. -/
theorem Course.lt_nextRun_of_halted (h : Course l.world past w) {r : Nat}
    (halted : (w.runs.get r).halted) : r < w.nextRun ∧ l.Fits := by
  refine h.lt_nextRun_of_ne_default fun hd => ?_
  rw [hd] at halted
  cases halted

theorem Course.fits_of_mem (h : Course l.world past w) {d : Deed} (hd : d ∈ l.allDeeds past) :
    l.Fits := by
  by_contra hb
  obtain ⟨cancelled, hv⟩ := h.view_of_not_fits hb
  rw [show l.allDeeds past = [] from congrArg Stage.deeds hv] at hd
  cases hd

end

end Conduit
