import Conduit.Proofs.Run.Limits
import Conduit.Proofs.Run.Transcripts
import Conduit.Proofs.Run.Returning

/-!
# The protocol of events

What a run tells follows a protocol: it starts, its executions open and close, and it completes once
with what came of it. After that it says nothing more unless it was cancelled.
-/

namespace Conduit

/-! ## Reading a transcript -/

theorem Matched.starts_once {pipeline : String} {limit : Nat} {events : List Happening}
    {executing : Multiset String} {refused : List (String × String)}
    (h : Matched pipeline limit events executing refused) :
    ∃ later, events = later ++ [.runStarted pipeline] ∧ ∀ p, .runStarted p ∉ later := by
  have add : ∀ {e : Happening} {events : List Happening}, (∀ p, e ≠ .runStarted p) →
      (∃ later, events = later ++ [.runStarted pipeline] ∧ ∀ p, .runStarted p ∉ later) →
      ∃ later, e :: events = later ++ [.runStarted pipeline] ∧ ∀ p, .runStarted p ∉ later := by
    rintro e _ hne ⟨later, rfl, hlater⟩
    refine ⟨e :: later, rfl, fun p hp => ?_⟩
    rcases List.mem_cons.1 hp with he | hp
    · exact hne p he.symm
    · exact hlater p hp
  induction h with
  | begin => exact ⟨[], rfl, fun _ => List.not_mem_nil⟩
  | start _ _ _ _ ih | complete _ ih | fail _ _ ih | refuse _ _ _ ih | skip _ _ ih
      | conclude _ _ _ ih => exact add (by simp) ih

theorem length_resultsIn (r : Nat) (deeds : List Deed) :
    (resultsIn r deeds).length = deeds.countP (Deed.concludes r) := by
  unfold resultsIn
  rw [List.length_filterMap_eq_countP]
  refine List.countP_congr fun d _ => ?_
  cases d <;> simp [Deed.result?, Deed.concludes]

theorem Launch.refusalsIn_allDeeds (l : Launch) (r : Nat) (past : List (World × Act)) :
    refusalsIn r (l.allDeeds past) = refusalsIn r (deedsOf past) := by
  have hz : refusalsIn r l.deeds = [] := by
    refine List.filterMap_eq_nil_iff.2 fun d hd => ?_
    obtain ⟨result, rfl⟩ := concluded_of_mem_deeds hd
    rfl
  unfold refusalsIn at hz ⊢
  rw [allDeeds, List.filterMap_append, hz, List.append_nil]

/-! ## Refusals -/

/-- The task is about to dispatch a node of the run or to take an edge in it. -/
def Task.isSettingOut (r : Nat) : Task → Prop
  | .dispatched s _ => s = r
  | .arriving s _ _ _ => s = r
  | _ => False

namespace World

variable {u : World} {r : Nat} {v : String} {e : PipelineError}

theorem isSettingOut_of_refusal {a : Act} (h : .failed r v e ∈ u.deeds a) (he : e.isRefusal) :
    ∃ t, a = .step t ∧ (u.tasks.get t).isSettingOut r := by
  cases cause_of_mem_deeds h with
  | execution h =>
    have hx : (Deed.failed r v e).isOfExecution = !e.isRefusal := by cases e <;> rfl
    rw [h, he] at hx
    cases hx
  | @unclear t _ _ _ _ _ _ takes => exact ⟨t, rfl, takes.task ▸ rfl⟩
  | refusal dispatched _ =>
    obtain ⟨t, rfl, -, task | ⟨_, _, _, task, -⟩⟩ := dispatched?_eq_some.1 dispatched
    · exact ⟨t, rfl, task ▸ rfl⟩
    · exact ⟨t, rfl, task ▸ rfl⟩

theorem bind_tasks_eq_zero {w : World} {α : Type} (hover : ∀ t, w.tasks.get t = .over)
    {f : Nat → Task → Multiset α} (hf : ∀ t, f t .over = 0) :
    ((Multiset.range w.nextTask).bind fun t => f t (w.tasks.get t)) = 0 :=
  (Multiset.bind_congr fun t _ => by rw [hover t, hf]).trans (Multiset.bind_zero _)

end World

section

variable {l : Launch} {past : List (World × Act)} {w : World} {r : Nat}

theorem Course.length_resultsIn_le_one (h : Course l.world past w) (r : Nat) :
    (resultsIn r (l.allDeeds past)).length ≤ 1 := by
  rw [length_resultsIn]
  exact (Nat.le_add_left _ _).trans (h.concluded.once r)

theorem Course.length_resultsIn_of_quiet (h : Course l.world past w) (fits : l.Fits)
    (hr : r < w.nextRun) (hq : w.Quiet) : (resultsIn r (l.allDeeds past)).length = 1 := by
  have hone := h.conclusions_eq_one fits hr
  have hover := h.over_of_quiet hq
  have crew : (w.view (l.allDeeds past)).crew = 0 :=
    World.bind_tasks_eq_zero hover (f := fun _ task => task.phase.crew) fun _ => rfl
  have posts : (w.view (l.allDeeds past)).posts = 0 :=
    World.bind_tasks_eq_zero hover (f := fun u task => task.phase.posts u) fun _ => rfl
  unfold Stage.conclusions at hone
  rw [crew, posts] at hone
  rw [length_resultsIn]
  exact (Nat.zero_add _).symm.trans hone

/-- What the transcript of a run shows agrees with its events. -/
theorem Course.sound (h : Course l.world past w) (fits : l.Fits) (hr : r < w.nextRun) :
    Transcript.Sound (w.runs.get r).graph.pipeline (max l.limits.parallel 1)
      ⟨w.happenings r, w.executing r, refusalsIn r (deedsOf past), (w.runs.get r).executed,
        resultsIn r (l.allDeeds past)⟩ := by
  have hs := (h.transcribed fits).sound r hr
  unfold Stage.transcript at hs
  rw [w.happeningsIn_view, w.executingIn_view] at hs
  rw [← l.refusalsIn_allDeeds]
  have hl : (w.runs.get r).limits.parallel = max l.limits.parallel 1 :=
    congrArg Limits.parallel (h.limits fits hr)
  exact hl ▸ hs

theorem Course.last_of_completed (h : Course l.world past w) (fits : l.Fits) (hr : r < w.nextRun)
    (goesOn : (w.contextOf r).cancelled = false) {newer older : List Happening}
    {success early : Bool} (he : w.happenings r = newer ++ .runCompleted success early :: older) :
    newer = [] := by
  have transcribed := h.transcribed fits
  have results := (h.sound fits hr).results
  have once := h.length_resultsIn_le_one r
  dsimp only at results
  rw [he, List.filterMap_append,
    List.filterMap_cons_some (f := Happening.success?) (b := success) rfl] at results
  have hlen := congrArg List.length results
  rw [List.length_append, List.length_cons, List.length_map] at hlen
  have hne : resultsIn r (l.allDeeds past) ≠ [] := by
    refine List.ne_nil_of_length_pos ?_
    omega
  rw [World.contextOf, show (w.runs.get r).context = 0 from
    transcribed.concluded.rested.reported.oneContext.context r] at goesOn
  obtain ⟨success', early', events, hlast⟩ := (transcribed.last r hne).resolve_left fun hc =>
    Bool.false_ne_true (goesOn.symm.trans hc)
  change happeningsIn r _ = _ at hlast
  rw [w.happeningsIn_view, he] at hlast
  -- Otherwise the run would have been completed twice.
  cases newer with
  | nil => rfl
  | cons e newer =>
    obtain ⟨rfl, -⟩ := List.cons.inj hlast
    rw [List.filterMap_cons_some (f := Happening.success?) (b := success') rfl,
      List.length_cons] at hlen
    omega

/-- Every run tells what becomes of it. It tells its start first and once. Its executions are told
from their start to their end, and every other failure is that of a node that a task could not
dispatch or an edge that it could not take. Its completion is told once, when all tasks are over at
the latest, with success exactly if the run is concluded with an outcome, which then names the
completed nodes in order. After that nothing is told unless the run was cancelled. -/
theorem Course.event_protocol (fits : l.Fits) (h : Course l.world past w) (hr : r < w.nextRun) :
    (∃ later, w.happenings r = later ++ [.runStarted (w.runs.get r).graph.pipeline] ∧
      ∀ pipeline, .runStarted pipeline ∉ later) ∧
    Matched (w.runs.get r).graph.pipeline (max l.limits.parallel 1) (w.happenings r)
      (w.executing r) (refusalsIn r (deedsOf past)) ∧
    (∀ u a node e, (u, a) ∈ past → .failed r node e ∈ u.deeds a → e.isRefusal →
      ∃ t, a = .step t ∧ (u.tasks.get t).isSettingOut r) ∧
    (w.happenings r).filterMap Happening.success? =
      (resultsIn r (l.allDeeds past)).map Except.isOk ∧
    (resultsIn r (l.allDeeds past)).length ≤ 1 ∧
    (∀ outcome, .ok outcome ∈ resultsIn r (l.allDeeds past) →
      ((w.happenings r).filterMap Happening.completed?).reverse = outcome.executed) ∧
    ((w.contextOf r).cancelled = false → ∀ newer success early older,
      w.happenings r = newer ++ .runCompleted success early :: older → newer = []) ∧
    (w.Quiet → w.executing r = 0 ∧ ∃ result, resultsIn r (l.allDeeds past) = [result]) ∧
    (∀ ending, w.returned = some ending →
      ∃ result, ending = .over result ∧ resultsIn 0 (l.allDeeds past) = [result]) ∧
    (Compiled l.graph → ∀ σ : Schedule w, σ.IsFair → ∃ i, (σ.world i).Quiet) := by
  obtain ⟨matched, executed, results⟩ := h.sound fits hr
  have once := h.length_resultsIn_le_one r
  refine ⟨matched.starts_once, matched, fun u a node e _ => World.isSettingOut_of_refusal, results,
    once, fun outcome ho => ?_, fun goesOn newer success early older he => ?_, fun hq => ⟨?_, ?_⟩,
    fun ending hending => ?_, fun compiled σ fair => σ.quiets fair h compiled.isSound⟩
  · exact executed.trans (congrArg RunOutcome.executed ((h.transcribed fits).outcome r outcome ho).2).symm
  · exact h.last_of_completed fits hr goesOn he
  · exact World.bind_tasks_eq_zero (h.over_of_quiet hq) (f := fun _ task => task.executing r)
      fun _ => rfl
  · exact List.length_eq_one_iff.1 (h.length_resultsIn_of_quiet fits hr hq)
  · obtain ⟨result, rfl, hd⟩ := h.over_of_returned fits hending
    obtain ⟨result', hr'⟩ := List.length_eq_one_iff.1 ((h.length_resultsIn_le_one 0).antisymm
      (List.length_pos_of_mem (mem_resultsIn.2 hd)))
    have hm := mem_resultsIn.2 hd
    rw [hr', List.mem_singleton] at hm
    exact ⟨result, rfl, hm ▸ hr'⟩

end

/-- A node that asks for itself is executed twice, one after the other, and refused the third time. -/
theorem event_protocol_loop : ∃ past w, Course (Loop.launch 2).world past w ∧ w.Quiet ∧
    w.happenings 0 = [.runCompleted false false,
      .nodeFailed "a" "Run exceeded the limit of 2 node executions", .nodeCompleted "a",
      .nodeStarted "a" "again", .nodeCompleted "a", .nodeStarted "a" "again", .runStarted "loop"] ∧
    Matched "loop" 1 (w.happenings 0) 0 [("a", "Run exceeded the limit of 2 node executions")] ∧
    resultsIn 0 ((Loop.launch 2).allDeeds past) = [.error (.stepLimitExceeded 2)] := by
  have h := ((((Course.start : Course (Loop.launch 2).world [] _).step 1 (by decide)).step 2
    (by decide)).step 3 (by decide)).step 0 (by decide)
  have fits : (Loop.launch 2).Fits := show 1 ≤ Limits.mostParallel by decide
  obtain ⟨-, matched, -, -, -, -, -, atEnd, -⟩ := Course.event_protocol fits h (r := 0) (by decide)
  obtain ⟨hz, -⟩ := atEnd ⟨rfl, rfl⟩
  rw [hz] at matched
  exact ⟨_, _, h, ⟨rfl, rfl⟩, rfl, matched, rfl⟩

/-- With more permits than there can be, a run starts and never completes. -/
theorem not_completed_beyond_mostParallel : ¬∀ (l : Launch) (past : List (World × Act)) (w : World),
    Course l.world past w → w.Quiet →
      ∃ success early, .runCompleted success early ∈ w.happenings 0 := by
  intro hall
  obtain ⟨success, early, hm⟩ := hall
    { Loop.launch 2 with limits := ⟨Limits.mostParallel + 1, 2⟩ } [] _ .start ⟨by decide, by decide⟩
  cases List.mem_singleton.1 (show _ ∈ [Happening.runStarted "loop"] from hm)

end Conduit
