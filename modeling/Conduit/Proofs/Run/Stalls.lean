import Conduit.Proofs.Run.Conclusions
import Conduit.Proofs.Run.Statuses

/-!
# Stalls

A node waits for all nodes before it, whether the run can reach them or not. When nothing goes wrong, a
node at which something has arrived is left waiting just when some node before it is out of reach of the
entry node, and the run succeeds all the same. In a graph whose entry node is the only one with none
before it there is no such node.
-/

namespace Conduit

/-! ## Flawless runs -/

/-- A component cannot be used, a condition cannot be evaluated, or the limit is exceeded. -/
def PipelineError.isFlaw : PipelineError → Bool
  | .missingComponent _ _ => true
  | .conditionEval _ _ _ => true
  | .stepLimitExceeded _ => true
  | _ => false

/-- Executions succeed and write no key that runs heed, what is dispatched can be used, conditions can
be evaluated, and no run exceeds its limit. -/
structure Flawless (deeds : List Deed) : Prop where
  unwritten : ∀ k ∈ [Values.errorKey, Values.endKey, Values.overrideKey], Unwritten k deeds
  succeeded : ∀ d ∈ deeds, d.succeeds
  admitted : ∀ f ∈ failures deeds, f.2.isFlaw = false

theorem Flawless.mono {deeds others : List Deed} (h : Flawless others) (hs : deeds ⊆ others) :
    Flawless deeds where
  unwritten k hk := (h.unwritten k hk).mono hs
  succeeded d hd := h.succeeded d (hs hd)
  admitted f hf := h.admitted f (List.filterMap_subset _ hs hf)

/-- The balance of a run in which nothing but nodes fails, or its limit is exceeded. -/
structure Grounded (g : Graph Component) (r : Nat) (x : Ledger) : Prop where
  joins : Joins g r x
  failed : ∀ node e, .failed r node e ∈ x.deeds → e.isFlaw ∨ ∃ v e', e = .componentExecution v e'

theorem Grounded.turn {g : Graph Component} {r : Nat} {x y : Ledger} (hg : g.IsWellFormed)
    (h : Turn g r x y) (hx : Grounded g r x) : Grounded g r y where
  joins := hx.joins.turn hg h
  failed node e hm := by
    rcases h.failed_arises hm with hm | ⟨_, _, rfl⟩ | ⟨_, rfl⟩ | ⟨hd, -, reason⟩
    · exact hx.failed node e hm
    · exact .inl rfl
    · exact .inr ⟨_, _, rfl⟩
    · rcases reason with hnone | ⟨why, rfl⟩ | ⟨rfl, -⟩
      · obtain ⟨n, hn⟩ := hx.joins.exists_node_of_dispatched hg hd
        cases hnone.symm.trans hn
      · exact .inl rfl
      · exact .inl rfl

/-- No run has failed, and all executions have succeeded. -/
structure Unspoiled (S : Stage) : Prop where
  calm : failures S.deeds = []
  ended : ∀ r node result, (r, .ended node result) ∈ S.crew → result = .succeeded

namespace Unspoiled

variable {S S' : Stage} {r : Nat}

theorem calm_move (h : Unspoiled S) (rested : Rested S) (sourced : Sourced S) (m : Move r S S')
    (grounded : Ledgers Graph.IsSound Grounded S') (flawless : Flawless S'.deeds)
    (goesOn : S.cancelled 0 = false) : failures S'.deeds = [] := by
  refine List.eq_nil_iff_forall_not_mem.2 fun ⟨s, e⟩ hf => ?_
  obtain ⟨node, hd⟩ := mem_failures.1 hf
  obtain ⟨v, e, rfl⟩ : ∃ v e', e = .componentExecution v e' := by
    have hs := (rested.move m).reported.oneContext.orderly.deeds _ hd s (beq_self_eq_true s)
    refine ((grounded s hs).2.failed node e
      (List.mem_filter.2 ⟨hd, beq_self_eq_true s⟩)).resolve_left fun hflaw => ?_
    exact Bool.false_ne_true ((flawless.admitted _ hf).symm.trans hflaw)
  obtain ⟨news, hn, occasions⟩ := m.occasions
  rw [hn] at hd
  rcases List.mem_append.1 hd with hd | hd
  · have occasion := occasions _ hd
    cases occasion with
    | failed other => exact other v e rfl
    | @blamed _ result _ ended _ verdict =>
      obtain rfl := h.ended _ _ _ ended
      rcases Result.verdict_eq_error verdict with hown | ⟨-, -, value, hvalue, -⟩
      · cases hown
      · have herror : S.error = some value :=
          (congrArg (fun c => Entries.get? (S.values c) Values.errorKey)
            (rested.reported.oneContext.context r)).symm.trans hvalue
        -- The error it found was put there by a failure, by an execution or as the run was cancelled.
        rcases sourced value herror with ⟨f, hf, -⟩ | ⟨d, hd, hw⟩ | hc
        · rw [h.calm] at hf
          cases hf
        · cases hw.symm.trans (flawless.unwritten _ (by simp) d (m.deeds_subset hd))
        · cases goesOn.symm.trans hc
  · have hold : (s, PipelineError.componentExecution v e) ∈ failures S.deeds :=
      mem_failures.2 ⟨node, hd⟩
    rw [h.calm] at hold
    cases hold

theorem ended_move (h : Unspoiled S) (rested : Rested S) (m : Move r S S')
    (calm : failures S'.deeds = []) (flawless : Flawless S'.deeds) (goesOn : S'.cancelled 0 = false)
    (s : Nat) (node : String) (result : Result) (hm : (s, .ended node result) ∈ S'.crew) :
    result = .succeeded := by
  rcases m.arises hm with hm | arises
  · exact h.ended s node result hm
  cases arises with
  | performed _ deeds =>
    exact Deed.eq_of_succeeds (flawless.succeeded _ (deeds ▸ List.mem_cons_self))
  | @surfaced _ inner result pipeline _ deeds =>
    cases result with
    | ok outcome => rfl
    | error e =>
      rcases (rested.move m).reported.concluded inner e (deeds ▸ List.mem_cons_self) with ⟨hc, -⟩ | hf
      · cases goesOn.symm.trans hc
      · rw [calm] at hf
        cases hf
  | passing _ hp | begun hp => cases hp

end Unspoiled

/-! ## Courses -/

section

variable {l : Launch} {past : List (World × Act)} {w : World}

theorem Course.unspoiled (h : Course l.world past w) (sound : l.graph.IsSound)
    (clean : ∀ k ∈ [Values.errorKey, Values.endKey, Values.overrideKey], Entries.get? l.values k = none)
    (flawless : Flawless (l.allDeeds past)) (goesOn : (w.contexts.get 0).cancelled = false) :
    failures (l.allDeeds past) = [] := by
  by_cases fits : l.Fits
  swap
  · rw [(h.nothing_of_not_fits fits 0).2]
    rfl
  have opening : ∀ {g : Graph Component} (r limit : Nat) (cancelled : Bool), g.IsSound →
      Grounded g r (Ledger.opening g limit cancelled) :=
    fun r limit cancelled hg => ⟨.opening hg.isWellFormed limit cancelled, nofun⟩
  -- Nothing failed, by an induction that carries what a failure would have come from.
  have hall := h.invariant (P := fun S => Rested S ∧ Sourced S ∧
    (Flawless S.deeds → Straight S ∧ Ledgers Graph.IsSound Grounded S ∧
      (S.cancelled 0 = false → Unspoiled S))) ?_ (fun hb => absurd fits hb) ?_ ?_
  · exact ((hall.2.2 flawless).2.2 goesOn).calm
  · refine fun _ => ⟨l.rested_opening, fun value he => ?_, fun _ => ⟨l.straight_opening
      (clean _ (by simp)), l.ledgers_opening sound opening, fun _ => ⟨rfl, fun r node result hm => ?_⟩⟩⟩
    · cases (clean Values.errorKey (by simp)).symm.trans he
    · cases Multiset.mem_singleton.1 hm
  · rintro r S S' m ⟨rested, sourced, hS⟩
    refine ⟨rested.move m, sourced.move rested.reported.oneContext m, fun flawless => ?_⟩
    obtain ⟨straight, grounded, unspoiled⟩ := hS (flawless.mono m.deeds_subset)
    have grounded' : Ledgers Graph.IsSound Grounded S' :=
      grounded.move nested_isSound opening straight.orderly m fun s hlt hg hx =>
        Turns.keep (fun ht hx => hx.turn hg.isWellFormed ht) (straight.turns m hlt) hx
    refine ⟨straight.move m (flawless.unwritten _ (by simp)), grounded', fun goesOn => ?_⟩
    have before := m.goesOn goesOn
    have calm := (unspoiled before).calm_move rested sourced m grounded' flawless before
    exact ⟨calm, (unspoiled before).ended_move rested m calm flawless goesOn⟩
  · rintro S c ⟨rested, sourced, hS⟩
    refine ⟨rested.cancel c, fun value he => (sourced value he).imp_right fun h =>
      h.imp_right (Stage.cancelled_cancel _ c true), fun flawless => ?_⟩
    obtain ⟨straight, grounded, unspoiled⟩ := hS flawless
    refine ⟨⟨straight.orderly.cancel c, straight.absent⟩, fun s hlt => ⟨(grounded s hlt).1, ?_⟩, ?_⟩
    · exact Turns.keep (fun ht hx => hx.turn (grounded s hlt).1.isWellFormed ht)
        (S.ledger_cancel_turns _ c true) (grounded s hlt).2
    · intro goesOn
      have before := Stage.goesOn_of_cancel goesOn
      exact ⟨(unspoiled before).calm, (unspoiled before).ended⟩

theorem Course.balanced (h : Course l.world past w) (sound : l.graph.IsSound) (fits : l.Fits)
    (clean : ∀ k ∈ [Values.errorKey, Values.endKey, Values.overrideKey], Entries.get? l.values k = none)
    (flawless : Flawless (l.allDeeds past)) (goesOn : (w.contexts.get 0).cancelled = false) {r : Nat}
    (hr : r < w.nextRun) :
    (w.runs.get r).ended = false ∧ (w.runs.get r).graph.IsWellFormed ∧
      Joins (w.runs.get r).graph r ((w.view (l.allDeeds past)).ledger r) ∧
      Exact (w.runs.get r).graph r ((w.view (l.allDeeds past)).ledger r) := by
  obtain ⟨hg, steady⟩ := h.ledgers (G := Graph.IsSound) (P := Steady) nested_isSound
    (fun r limit cancelled hg => .opening hg.isWellFormed r limit cancelled)
    (fun hg ht hx => hx.turn hg.isWellFormed ht) fits sound (clean _ (by simp))
    ((flawless.unwritten _ (by simp)).mono (List.subset_append_left _ _)) hr
  have cancelled : ((w.view (l.allDeeds past)).ledger r).cancelled = false :=
    (congrArg (w.view (l.allDeeds past)).cancelled (h.oneContext.context r)).trans goesOn
  have ended := h.not_ended (clean _ (by simp)) (flawless.unwritten _ (by simp)) r
  have calm := h.unspoiled sound clean flawless goesOn
  have halted : ((w.view (l.allDeeds past)).ledger r).halted = false :=
    steady.not_halted (fun node e hd => not_failed_of_calm calm r node e (List.mem_filter.1 hd).1)
      ended cancelled
  exact ⟨ended, hg.isWellFormed, steady.joins, steady.exact halted cancelled⟩

/-! ## Where joins stall -/

/-- Something arrived at the node. -/
def Reached (deeds : List Deed) (r : Nat) (node : String) : Prop :=
  ∃ source live, .delivered r source node live ∈ deeds

theorem reached_iff {S : Stage} {r : Nat} {node : String} :
    Reached S.deeds r node ↔ ∃ u, 0 < (S.ledger r).delivered u node := by
  constructor
  · rintro ⟨u, live, hd⟩
    refine ⟨u, List.countP_pos_iff.2 ⟨_, List.mem_filter.2 ⟨hd, beq_self_eq_true r⟩, ?_⟩⟩
    simp [Deed.delivers]
  · rintro ⟨u, hu⟩
    obtain ⟨d, hd, hdelivers⟩ := List.countP_pos_iff.1 hu
    obtain ⟨hmem, hin⟩ := List.mem_filter.1 hd
    cases d with
    | delivered s source target live =>
      obtain ⟨rfl, rfl⟩ : source = u ∧ target = node := by simpa [Deed.delivers] using hdelivers
      obtain rfl : s = r := eq_of_beq hin
      exact ⟨source, live, hmem⟩
    | _ => cases hdelivers

/-- The nodes at which something has arrived are done or skipped if they are resolved, and are the
blocked ones if they are not. -/
structure Joined (g : Graph Component) (reached : String → Prop) (outcome : RunOutcome) : Prop where
  resolved : ∀ n ∈ g.nodes, reached n.id → g.Resolved n.id →
    Entries.get? outcome.statuses n.id = some .done ∨
      Entries.get? outcome.statuses n.id = some .skipped
  blocked : ∀ n ∈ g.nodes, Entries.get? outcome.statuses n.id = some .blocked ↔
    reached n.id ∧ ¬g.Resolved n.id

/-- When nobody works any more for a run of a flawless course, the nodes that wait are those at which
something has arrived and that are not resolved. -/
theorem Course.joined_of_idle (h : Course l.world past w) (sound : l.graph.IsSound) (fits : l.Fits)
    (clean : ∀ k ∈ [Values.errorKey, Values.endKey, Values.overrideKey], Entries.get? l.values k = none)
    (flawless : Flawless (l.allDeeds past)) (goesOn : (w.contexts.get 0).cancelled = false) {r : Nat}
    (hr : r < w.nextRun) (idle : (w.view (l.allDeeds past)).Idle r) :
    Joined (w.runs.get r).graph (Reached (l.allDeeds past) r) (w.runs.get r).outcome := by
  obtain ⟨-, hg, hj, hx⟩ := h.balanced sound fits clean flawless goesOn hr
  have errands := idle.errands_eq_zero
  have state : ∀ n ∈ (w.runs.get r).graph.nodes, (w.runs.get r).graph.node? n.id = some n ∧
      ∃ s, ((w.view (l.allDeeds past)).ledger r).nodes n.id = some s ∧
        Entries.get? (w.runs.get r).outcome.statuses n.id = some s.status := by
    intro n hn
    have hnode := Graph.node?_of_mem hg.ids hn
    obtain ⟨s, hs⟩ := Option.isSome_iff_exists.1 ((hj.nodes n.id).trans (by rw [hnode]; rfl))
    refine ⟨hnode, s, hs, (Entries.get?_mapValues _ _ _).trans ?_⟩
    exact congrArg (Option.map NodeState.status) hs
  have reached : ∀ {v}, Reached (l.allDeeds past) r v ↔
      ∃ u, 0 < ((w.view (l.allDeeds past)).ledger r).delivered u v :=
    reached_iff (S := w.view (l.allDeeds past))
  constructor
  · intro n hn _ hres
    obtain ⟨hnode, s, hs, hst⟩ := state n hn
    rw [hst]
    exact ((hx.status_of_idle hg hj errands hnode hs).1 hres).imp (congrArg some) (congrArg some)
  · intro n hn
    obtain ⟨hnode, s, hs, hst⟩ := state n hn
    rw [hst, Option.some_inj, reached]
    constructor
    · intro hb
      by_cases hd : ∃ u, 0 < ((w.view (l.allDeeds past)).ledger r).delivered u n.id
      · refine ⟨hd, fun hres => ?_⟩
        rcases (hx.status_of_idle hg hj errands hnode hs).1 hres with h | h <;> cases hb.symm.trans h
      · have hz : ∀ u, ((w.view (l.allDeeds past)).ledger r).delivered u n.id = 0 :=
          fun u => Nat.eq_zero_of_not_pos fun hu => hd ⟨u, hu⟩
        by_cases hv : 0 < ((w.view (l.allDeeds past)).ledger r).visits n.id
        · have hres := (hx.resolved_iff hg hj errands).2 hv
          rcases (hx.status_of_idle hg hj errands hnode hs).1 hres with h | h <;> cases hb.symm.trans h
        · cases hb.symm.trans (hx.pending n.id s hs (Nat.eq_zero_of_not_pos hv) hz)
    · rintro ⟨hd, hres⟩
      rw [hx.resolved_iff hg hj errands] at hres
      exact hx.blocked n.id s hs (Nat.eq_zero_of_not_pos hres) hd

/-- When nothing goes wrong, every run that is concluded succeeds. A node at which something has arrived is
done or skipped then if all nodes before it are within reach, and blocked if not, and no other node is
blocked. So none is in a run whose entry node was not named. What was launched returns so, too. -/
theorem Course.stalls_out_of_reach (compiled : Compiled l.graph)
    (clean : ∀ k ∈ [Values.errorKey, Values.endKey, Values.overrideKey], Entries.get? l.values k = none)
    (h : Course l.world past w) (flawless : Flawless (l.allDeeds past))
    (goesOn : (w.contexts.get 0).cancelled = false) :
    (∀ r result, .concluded r result ∈ l.allDeeds past → ∃ outcome, result = .ok outcome ∧
      outcome.endedEarly = false ∧
      Joined (w.runs.get r).graph (Reached (l.allDeeds past) r) outcome ∧
      ((∀ n ∈ (w.runs.get r).graph.nodes, n.predecessors = [] → n.id = (w.runs.get r).graph.root) →
        ∀ n ∈ (w.runs.get r).graph.nodes, (w.runs.get r).graph.Resolved n.id)) ∧
    (∀ result, w.returned = some (.over result) →
      .concluded 0 result ∈ l.allDeeds past ∧ (w.runs.get 0).graph = l.graph) ∧
    (l.graph.IsInferred → ∀ n ∈ l.graph.nodes, l.graph.Resolved n.id) ∧
    ∀ σ : Schedule w, σ.IsFair → ∃ i, (σ.world i).returned.isSome := by
  have sound := compiled.isSound
  refine ⟨fun r result hd => ?_, fun result hr => ?_, fun inferred n hn => ?_, fun σ fair => ?_⟩
  · obtain ⟨hr, -⟩ := h.rested.isOver r result hd
    have fits := h.fits_of_mem hd
    obtain ⟨ended, hg, -⟩ := h.balanced sound fits clean flawless goesOn hr
    have joined := h.joined_of_idle sound fits clean flawless goesOn hr
      (h.idle_of_concluded goesOn hd)
    exact ⟨_, h.result_of_calm goesOn (h.unspoiled sound clean flawless goesOn) hd, ended, joined,
      fun entered n hn => hg.resolved entered hn⟩
  · have hd := h.reported.endings result hr
    exact ⟨hd, (h.first (h.fits_of_mem hd)).2⟩
  · exact sound.isWellFormed.resolved (fun n hn hp => inferred.eq_root hn hp) hn
  · obtain ⟨i, hq⟩ := σ.quiets fair h sound
    obtain ⟨_, hi⟩ := σ.course h i
    exact ⟨i, (Option.isSome_map ..).trans (hi.ended_of_quiet hq)⟩

end

/-! ## A node out of reach -/

namespace Detached

/-- A node and one that is no successor of it, and a node after both. The run begins at the first. -/
def definition : Definition :=
  { Definition.new "detached" with
    root := some "a"
    nodes := [Diamond.spec "a" ["c"], Diamond.spec "b" ["c"], Diamond.spec "c" []] }

def graph : Graph Component :=
  ⟨"detached", "a", [Diamond.node "a" [] ["c"], Diamond.node "b" [] ["c"],
    Diamond.node "c" ["a", "b"] []]⟩

theorem compiled : Compiled graph := by
  refine ⟨Diamond.compiler, definition, 0, 0, fun p hp => ?_, .done _⟩
  obtain rfl := List.mem_singleton.1 hp
  exact ⟨0, 0, rfl⟩

def launch : Launch := ⟨Http.unreachable, [], false, none, graph, ⟨2, 8⟩, none⟩

theorem not_resolved : ¬graph.Resolved "c" := by
  have unentered : ¬graph.Resolved "b" := by
    generalize hv : "b" = v
    rintro (_ | ⟨node, some, -⟩)
    · exact absurd hv (by decide)
    · subst hv
      cases node
      exact some rfl
  generalize hv : "c" = v
  rintro (_ | ⟨node, -, all⟩)
  · exact absurd hv (by decide)
  · subst hv
    cases node
    exact unentered (all "b" (by decide))

end Detached

/-- A node waits for good for one that is no successor of the entry node, and the run succeeds. -/
theorem stalls_detached : ∃ past w outcome, Course Detached.launch.world past w ∧
    w.returned = some (.over (.ok outcome)) ∧
    Entries.get? outcome.statuses "a" = some .done ∧
    Reached (Detached.launch.allDeeds past) 0 "c" ∧ ¬Detached.graph.Resolved "c" ∧
    Entries.get? outcome.statuses "c" = some .blocked := by
  have h := ((((Course.start : Course Detached.launch.world [] _).step 1 (by decide)).step 2
    (by decide)).step 0 (by decide))
  obtain ⟨hall, hreturned, -⟩ := Course.stalls_out_of_reach Detached.compiled (by decide) h
    ⟨by decide, by decide, by decide⟩ rfl
  obtain ⟨outcome, hresult, -, joined, -⟩ := hall 0 _ (hreturned _ rfl).1
  have blocked : Entries.get? outcome.statuses "c" = some .blocked := by
    cases hresult
    rfl
  have hn : Diamond.node "c" ["a", "b"] [] ∈ Detached.graph.nodes :=
    List.mem_cons_of_mem _ (List.mem_cons_of_mem _ List.mem_cons_self)
  refine ⟨_, _, outcome, h, ?_, ?_, ((joined.blocked _ hn).1 blocked).1, Detached.not_resolved, blocked⟩
  · exact congrArg (fun result => some (Ending.over result)) hresult
  · cases hresult
    rfl

/-- A run that nothing goes wrong in can leave a node waiting. -/
theorem stalls_in_success : ¬∀ (l : Launch) (past : List (World × Act)) (w : World)
    (outcome : RunOutcome), Compiled l.graph →
      (∀ k ∈ [Values.errorKey, Values.endKey, Values.overrideKey], Entries.get? l.values k = none) →
      Course l.world past w → Flawless (l.allDeeds past) → (w.contexts.get 0).cancelled = false →
      w.returned = some (.over (.ok outcome)) →
      (∀ v, Reached (l.allDeeds past) 0 v → Entries.get? outcome.statuses v = some .done ∨
        Entries.get? outcome.statuses v = some .skipped) ∧
      ∀ v, Entries.get? outcome.statuses v ≠ some .blocked := by
  intro hall
  have h := ((((Course.start : Course Detached.launch.world [] _).step 1 (by decide)).step 2
    (by decide)).step 0 (by decide))
  exact (hall _ _ _ _ Detached.compiled (by decide) h ⟨by decide, by decide, by decide⟩ rfl rfl).2
    "c" rfl

end Conduit
