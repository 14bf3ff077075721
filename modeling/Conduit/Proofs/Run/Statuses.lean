import Conduit.Proofs.Run.Blame
import Conduit.Proofs.Run.Ends
import Conduit.Proofs.Run.Exact
import Conduit.Proofs.Run.Halting
import Conduit.Proofs.Run.Limits
import Conduit.Proofs.Run.Returning

/-!
# Statuses

When nothing goes wrong in a run and it is not cancelled, where its nodes stand in the end does not depend
on the order of its tasks. A node is resolved when it is the entry node or all nodes before it are, and
a resolved node is done when an arrival at it passed, and skipped otherwise.
-/

namespace Conduit

/-! ## Resolved nodes -/

/-- A node is resolved if it is the entry node, or if there are nodes before it and all of them are. -/
inductive Graph.Resolved (g : Graph Component) : String → Prop where
  | root : Resolved g g.root
  | joined {v : String} {n : GraphNode Component} (node : g.node? v = some n)
      (some : n.predecessors ≠ []) (all : ∀ u ∈ n.predecessors, Resolved g u) : Resolved g v

theorem Graph.IsWellFormed.resolved {g : Graph Component} (hg : g.IsWellFormed)
    (entered : ∀ n ∈ g.nodes, n.predecessors = [] → n.id = g.root) {n : GraphNode Component}
    (hn : n ∈ g.nodes) : g.Resolved n.id := by
  obtain ⟨rank, hrank⟩ := hg.acyclic
  generalize hk : rank n.id = k
  induction k using Nat.strong_induction_on generalizing n with
  | _ k ih =>
    have hnode := Graph.node?_of_mem hg.ids hn
    by_cases hp : n.predecessors = []
    · exact entered n hn hp ▸ .root
    · refine .joined hnode hp fun u hu => ?_
      have hl := (hg.mem_predecessors hnode).1 hu
      obtain ⟨m, hm, -⟩ := id hl
      obtain ⟨hmem, rfl⟩ := Graph.mem_of_node? hm
      exact ih _ (hk ▸ hrank hl) hmem rfl

namespace Exact

variable {g : Graph Component} {r : Nat} {x : Ledger} {v : String} {s : NodeState}

theorem closed (hx : Exact g r x) (idle : x.errands = 0) (v : String) :
    x.visits v = x.completed v + x.skipped v := by
  have hs := hx.started v
  simp only [Ledger.visits, idle, Multiset.count_zero] at hs ⊢
  omega

theorem resolved_iff (hg : g.IsWellFormed) (hj : Joins g r x) (hx : Exact g r x)
    (idle : x.errands = 0) : g.Resolved v ↔ 0 < x.visits v := by
  constructor
  · intro h
    induction h with
    | root => exact hx.root
    | @joined v n node hne all ih =>
      refine hx.full v ⟨n, node, hne, fun u hu => ?_⟩
      have hd := hx.departed u v ((hg.mem_predecessors node).1 hu)
      have hu := ih u hu
      rw [hx.closed idle] at hu
      simp only [Ledger.flying, idle, Multiset.count_zero] at hd
      omega
  · -- The sources of a node that was visited were visited, and they rank lower.
    obtain ⟨rank, hrank⟩ := hg.acyclic
    generalize hk : rank v = k
    induction k using Nat.strong_induction_on generalizing v with
    | _ k ih =>
      intro hv
      rcases hj.full v hv with rfl | ⟨n, hn, hne, hall⟩
      · exact .root
      · refine .joined hn hne fun u hu => ?_
        have hd := hall u hu
        have hf := hj.flights u v
        have hc := (hj.closed_le u).1
        exact ih _ (hk ▸ hrank ((hg.mem_predecessors hn).1 hu)) rfl (by omega)

theorem status_eq_done_iff (hx : Exact g r x) (idle : x.errands = 0) (hs : x.nodes v = some s) :
    s.status = .done ↔ 0 < x.completed v := by
  refine ⟨fun hst => ?_, hx.done v s hs⟩
  by_contra hc
  by_cases hk : 0 < x.skipped v
  · cases hst.symm.trans (hx.skipped v s hs hk)
  · have hv : x.visits v = 0 := by
      rw [hx.closed idle]
      omega
    by_cases hd : ∃ u, 0 < x.delivered u v
    · cases hst.symm.trans (hx.blocked v s hs hv hd)
    · cases hst.symm.trans (hx.pending v s hs hv fun u =>
        Nat.eq_zero_of_not_pos fun hu => hd ⟨u, hu⟩)

/-- In the end a node that is resolved is done or skipped, and another is blocked when a node before it
is resolved. -/
theorem status_of_idle (hg : g.IsWellFormed) (hj : Joins g r x) (hx : Exact g r x)
    (idle : x.errands = 0) {n : GraphNode Component} (hn : g.node? v = some n)
    (hs : x.nodes v = some s) :
    (g.Resolved v → s.status = .done ∨ s.status = .skipped) ∧
      (¬g.Resolved v → (∃ u ∈ n.predecessors, g.Resolved u) → s.status = .blocked) ∧
      (¬g.Resolved v → (∀ u ∈ n.predecessors, ¬g.Resolved u) → s.status = .pending) := by
  have hresolved : ∀ {v}, g.Resolved v ↔ 0 < x.visits v := hx.resolved_iff hg hj idle
  have hclosed := hx.closed idle
  refine ⟨fun hv => ?_, fun hv ⟨u, hu, hres⟩ => ?_, fun hv hall => ?_⟩
  · rw [hresolved, hclosed] at hv
    rcases Nat.add_pos_iff_pos_or_pos.1 hv with hc | hc
    · exact .inl (hx.done v s hs hc)
    · exact .inr (hx.skipped v s hs hc)
  · rw [hresolved] at hv
    rw [hresolved, hclosed] at hres
    refine hx.blocked v s hs (Nat.eq_zero_of_not_pos hv) ⟨u, ?_⟩
    have hd := hx.departed u v ((hg.mem_predecessors hn).1 hu)
    simp only [Ledger.flying, idle, Multiset.count_zero] at hd
    omega
  · -- The edge from the source that is resolved has departed, and nothing flies.
    rw [hresolved] at hv
    refine hx.pending v s hs (Nat.eq_zero_of_not_pos hv) fun u => ?_
    by_contra hd
    have hpos := Nat.pos_of_ne_zero hd
    have hl := hj.edges u v (Nat.add_pos_right _ hpos)
    refine hall u ((hg.mem_predecessors hn).2 hl) (hresolved.2 ?_)
    have hf := hj.flights u v
    have hc := (hj.closed_le u).1
    omega

/-- In the end a node is done when it is resolved and is the entry node or was reached by a live arrival
from a node that is done. -/
theorem completed_iff (hg : g.IsWellFormed) (hj : Joins g r x) (hx : Exact g r x)
    (idle : x.errands = 0) : 0 < x.completed v ↔ g.Resolved v ∧
      (v = g.root ∨ ∃ u, 0 < x.completed u ∧ g.Leads u v ∧ .delivered r u v true ∈ x.deeds) := by
  have hclosed := hx.closed idle v
  rw [hx.resolved_iff hg hj idle, hclosed]
  constructor
  · intro hc
    have hle := hj.executed v
    refine ⟨by omega, (hj.live v (by omega)).imp_right fun ⟨u, hu⟩ =>
      ⟨u, hx.live u v (.inr (.inl hu)), hj.edges u v (Nat.add_pos_right _ ?_), hu⟩⟩
    exact List.countP_pos_iff.2 ⟨_, hu, by simp [Deed.delivers]⟩
  · rintro ⟨hv, hlive⟩
    by_contra hc
    obtain ⟨hroot, hno⟩ := hx.skipping v (by omega)
    rcases hlive with rfl | ⟨u, -, -, hu⟩
    · exact hroot rfl
    · exact hno u hu

end Exact

/-! ## Smooth courses -/

/-- An execution that ended succeeded. -/
def Deed.succeeds : Deed → Bool
  | .performed _ _ _ (some (.failed _)) => false
  | .performed _ _ _ (some .panicked) => false
  | _ => true

theorem Deed.eq_of_succeeds {r : Nat} {node : String} {touches : List Touch} {result : Result}
    (h : (Deed.performed r node touches (some result)).succeeds) : result = .succeeded := by
  cases result with
  | succeeded => rfl
  | failed e => cases h
  | panicked => cases h

/-- A component cannot be used, or a condition cannot be evaluated. -/
def PipelineError.isFault : PipelineError → Bool
  | .missingComponent _ _ => true
  | .conditionEval _ _ _ => true
  | _ => false

/-- Executions succeed and write no key that runs heed, what is dispatched can be used, conditions can
be evaluated, and nothing fails in the pipelines. -/
structure Smooth (deeds : List Deed) : Prop where
  unwritten : ∀ k ∈ [Values.errorKey, Values.endKey, Values.overrideKey], Unwritten k deeds
  succeeded : ∀ d ∈ deeds, d.succeeds
  usable : ∀ f ∈ failures deeds, f.2.isFault = false
  nested : ∀ f ∈ failures deeds, f.1 = 0

theorem Smooth.mono {deeds others : List Deed} (h : Smooth others) (hs : deeds ⊆ others) :
    Smooth deeds where
  unwritten k hk := (h.unwritten k hk).mono hs
  succeeded d hd := h.succeeded d (hs hd)
  usable f hf := h.usable f (List.filterMap_subset _ hs hf)
  nested f hf := h.nested f (List.filterMap_subset _ hs hf)

section

variable {l : Launch} {past newer : List (World × Act)} {u v w : World} {a : Act}

theorem Course.first (h : Course l.world past w) (fits : l.Fits) :
    0 < w.nextRun ∧ (w.runs.get 0).graph = l.graph := by
  have hall := h.invariant (P := fun S => Orderly S ∧ 0 < S.nextRun ∧ (S.runs 0).graph = l.graph)
    (fun _ => ⟨l.orderly_opening, Nat.zero_lt_one, rfl⟩) (fun hb => absurd fits hb)
    (fun m ⟨ho, hlt, hg⟩ => ⟨ho.move m, hlt.trans_le (m.nextRun_le ho), (m.graph hlt).trans hg⟩)
    fun c hS => ⟨hS.1.cancel c, hS.2⟩
  exact hall.2

/-- What waits for the run of a pipeline is a task of a run that began before. -/
theorem Course.lt_of_nesting (h : Course l.world past w) {t r inner : Nat} {node : String}
    (ht : w.tasks.get t = .nesting r node inner) : r < inner :=
  (h.orderly.crew (r, .nesting node inner) (h.awake.mem_crew (congrArg Task.phase ht) _)).2.1

variable (sound : l.graph.IsSound) (fits : l.Fits) (small : l.graph.nodes.length ≤ l.limits.steps)
  (clean : ∀ k ∈ [Values.errorKey, Values.endKey, Values.overrideKey], Entries.get? l.values k = none)

include sound fits clean in
theorem Course.steady (h : Course l.world past w)
    (unwritten : Unwritten Values.overrideKey (l.allDeeds past)) :
    Steady l.graph 0 ((w.view (l.allDeeds past)).ledger 0) := by
  obtain ⟨hlt, hg⟩ := h.first fits
  exact hg ▸ (h.ledgers (G := Graph.IsSound) (P := Steady) nested_isSound
    (fun r limit cancelled hg => .opening hg.isWellFormed r limit cancelled)
    (fun hg ht hx => hx.turn hg.isWellFormed ht) fits sound (clean _ (by simp))
    (unwritten.mono (List.subset_append_left _ _)) hlt).2

include fits in
/-- An execution came to success, if all that were performed did and no run but the first failed. -/
theorem Course.eq_succeeded_of_cameTo (before : Course l.world newer u) (h : Course l.world past w)
    (hs : u.deeds a ⊆ l.allDeeds past) (smooth : Smooth (l.allDeeds past))
    (goesOn : (w.contexts.get 0).cancelled = false) {node : String} {result : Result}
    (came : u.CameTo a 0 node result) : result = .succeeded := by
  rcases came with ⟨touches, hp⟩ | ⟨inner, came, pipeline, hinner, hc, rfl⟩
  · exact Deed.eq_of_succeeds (smooth.succeeded _ (hs hp))
  · cases came with
    | ok outcome => rfl
    | error e =>
      rcases h.reported.concluded inner e (hs hc) with ⟨hcancelled, -⟩ | hf
      · cases hcancelled.symm.trans goesOn
      · have hzero : inner = 0 := smooth.nested _ hf
        subst hzero
        rcases hinner with ⟨t, ht⟩ | hle
        · exact absurd (before.lt_of_nesting ht) (Nat.lt_irrefl 0)
        · exact absurd (before.first fits).1 (Nat.not_lt.2 hle)

include sound fits small clean in
theorem Course.calm (h : Course l.world past w) (smooth : Smooth (l.allDeeds past))
    (goesOn : (w.contexts.get 0).cancelled = false) : failures (l.allDeeds past) = [] := by
  refine List.eq_nil_iff_forall_not_mem.2 fun ⟨s, e⟩ hf => ?_
  obtain rfl : s = 0 := smooth.nested _ hf
  obtain ⟨node, hd⟩ := mem_failures.1 hf
  have hlimit : ((w.view (l.allDeeds past)).ledger 0).limit = max l.limits.steps 1 :=
    (h.paced fits (h.first fits).1).2
  have hnode := (h.steady sound fits clean (smooth.unwritten _ (by simp))).failed
    (hlimit ▸ small.trans (le_max_left ..)) node e
    (List.mem_filter.2 ⟨hd, beq_self_eq_true _⟩)
  -- Only a component could fail a node, and a smooth one succeeds.
  cases e with
  | missingComponent v why => cases smooth.usable _ hf
  | conditionEval u v text => cases smooth.usable _ hf
  | componentExecution v e =>
    obtain ⟨u, a, hm, hfailed⟩ := Launch.exists_act_of_failed hd
    obtain ⟨newer, older, rfl, hu⟩ := h.of_mem hm
    have hsub := l.subset_allDeeds newer ((u, a) :: older)
    have hstep : u.deeds a ⊆ l.allDeeds (newer ++ (u, a) :: older) := fun d hd =>
      hsub (l.allDeeds_cons u a older ▸ List.mem_append_left _ hd)
    cases hu with
    | next _ before _ =>
      obtain ⟨rfl, result, came, own | ⟨-, -, stray⟩⟩ :=
        before.blamed_act (clean _ (by simp)) hfailed
      · obtain rfl := before.eq_succeeded_of_cameTo fits h hstep smooth goesOn came
        cases own
      · rcases stray with ⟨f, hf, hne, -⟩ | ⟨d, hd, hw⟩
        · exact hne (smooth.nested f (List.filterMap_subset _ hsub hf))
        · cases hw.symm.trans (smooth.unwritten _ (by simp) d (hsub hd))
  | _ => cases hnode

include sound fits small clean in
theorem Course.exact (h : Course l.world past w) (smooth : Smooth (l.allDeeds past))
    (goesOn : (w.contexts.get 0).cancelled = false) :
    (w.runs.get 0).ended = false ∧ ((w.view (l.allDeeds past)).ledger 0).stops = false ∧
      Exact l.graph 0 ((w.view (l.allDeeds past)).ledger 0) := by
  have steady := h.steady sound fits clean (smooth.unwritten _ (by simp))
  have cancelled : ((w.view (l.allDeeds past)).ledger 0).cancelled = false :=
    (congrArg (w.view (l.allDeeds past)).cancelled (h.oneContext.context 0)).trans goesOn
  have ended := h.not_ended (clean _ (by simp)) (smooth.unwritten _ (by simp)) 0
  have calm := h.calm sound fits small clean smooth goesOn
  have halted : ((w.view (l.allDeeds past)).ledger 0).halted = false :=
    steady.not_halted (fun node e hd => not_failed_of_calm calm 0 node e (List.mem_filter.1 hd).1)
      ended cancelled
  exact ⟨ended, Bool.or_eq_false_iff.2 ⟨halted, cancelled⟩, steady.exact halted cancelled⟩

/-! ## Arrivals that pass -/

/-- The condition of the edge, if it has one, is true of the values. -/
def Edge.Holds (edge : Edge) (values : Values) : Prop :=
  ∀ c, edge.condition = some c → c.evaluate values = .ok true

theorem Edge.holds_iff (edge : Edge) (values : Values) :
    edge.Holds values ↔ edge.isLive values true = .ok true := by
  unfold Holds isLive
  cases edge.condition with
  | none => simp
  | some c => simp

theorem World.arriving_of_delivered {r : Nat} {source target : String} {passed : Bool}
    (h : .delivered r source target passed ∈ u.deeds a) : ∃ t place live edge,
      u.tasks.get t = .arriving r source place live ∧
      (u.runs.get r).edge? source place = some edge ∧ edge.target = target ∧
      edge.isLive (u.contextOf r).values live = .ok passed := by
  cases cause_of_mem_deeds h with
  | execution h => cases h
  | @arrival t _ place _ live _ edge _ takes answer _ =>
    exact ⟨t, place, live, edge, takes.task, takes.edge, rfl, answer⟩

theorem Course.flying_of_arriving (h : Course l.world past w) (L : List Deed) {t r place : Nat}
    {source : String} {edge : Edge} {live : Bool} (ht : w.tasks.get t = .arriving r source place live)
    (he : (w.runs.get r).edge? source place = some edge) :
    .flying source edge.target live ∈ ((w.view L).ledger r).errands := by
  have hp : (w.tasks.get t).phase = .duty r (.arriving source place live) := by rw [ht]; rfl
  refine Multiset.mem_bind.2 ⟨_, h.awake.mem_crew hp L, ?_⟩
  rw [if_pos rfl]
  exact (errands_arriving he live).symm ▸ Multiset.mem_singleton_self _

/-- An arrival over an edge was counted in the first run, and the condition of the edge was true then. -/
def Passed (g : Graph Component) (past : List (World × Act)) (source target : String) : Prop :=
  ∃ u a passed n edge, (u, a) ∈ past ∧ .delivered 0 source target passed ∈ u.deeds a ∧
    g.node? source = some n ∧ edge ∈ n.edges ∧ edge.target = target ∧
    edge.Holds (u.contextOf 0).values

include sound fits small clean in
theorem Course.smooth_then (h : Course l.world past v) (onward : Course l.world (newer ++ past) w)
    (smooth : Smooth (l.allDeeds (newer ++ past))) (goesOn : (w.contexts.get 0).cancelled = false) :
    Smooth (l.allDeeds past) ∧ (v.contexts.get 0).cancelled = false := by
  refine ⟨smooth.mono (l.subset_allDeeds newer past), Bool.eq_false_iff.2 fun hc => ?_⟩
  have stops : ((v.view (l.allDeeds past)).ledger 0).stops :=
    Bool.or_eq_true_iff.2 (.inr
      ((congrArg (v.view (l.allDeeds past)).cancelled (h.oneContext.context 0)).trans hc))
  have hs := (h.strides onward (h.first fits).1).1.stops stops
  cases hs.symm.trans (onward.exact sound fits small clean smooth goesOn).2.1

theorem Course.skipped_mono (h : Course l.world past v) (onward : Course l.world (newer ++ past) w)
    (node : String) : ((v.view (l.allDeeds past)).ledger 0).skipped node ≤
      ((w.view (l.allDeeds (newer ++ past))).ledger 0).skipped node := by
  obtain ⟨later, hl⟩ := h.happenings_append onward 0
  rw [World.skipped_ledger, World.skipped_ledger, hl, List.countP_append]
  exact Nat.le_add_left ..

include sound fits small clean in
theorem Course.delivered_iff_passed (h : Course l.world past w) (smooth : Smooth (l.allDeeds past))
    (goesOn : (w.contexts.get 0).cancelled = false) {source target : String}
    (done : 0 < ((w.view (l.allDeeds past)).ledger 0).completed source) :
    .delivered 0 source target true ∈ ((w.view (l.allDeeds past)).ledger 0).deeds ↔
      Passed l.graph past source target := by
  have hg := sound.isWellFormed
  constructor
  · intro hd
    have hd := (List.mem_append.1 (List.mem_filter.1 hd).1).resolve_right
      (l.not_delivered 0 source target true)
    obtain ⟨⟨u, a⟩, hm, hdeed⟩ := List.mem_flatMap.1 hd
    obtain ⟨newer, older, rfl, hu⟩ := h.of_mem hm
    cases hu with
    | next _ before _ =>
      obtain ⟨t, place, live, edge, -, hedge, rfl, hlive⟩ := World.arriving_of_delivered hdeed
      obtain ⟨n, hn, he⟩ := Option.bind_eq_some_iff.1 hedge
      rw [(before.first fits).2] at hn
      obtain rfl := live_of_passed hlive rfl
      exact ⟨u, a, true, n, edge, hm, hdeed, hn, List.mem_of_getElem? he, rfl,
        (edge.holds_iff _).2 hlive⟩
  · rintro ⟨u, a, passed, n, edge, hm, hd, hn, he, rfl, holds⟩
    have hall : .delivered 0 source edge.target passed ∈ l.allDeeds past :=
      List.mem_append_left _ (List.mem_flatMap.2 ⟨_, hm, hd⟩)
    obtain ⟨newer, older, rfl, hu⟩ := h.of_mem hm
    cases hu with
    | next _ before allowed =>
      obtain ⟨t, place, live, other, ht, hother, htarget, hlive⟩ := World.arriving_of_delivered hd
      obtain ⟨m, hm, ho⟩ := Option.bind_eq_some_iff.1 hother
      rw [(before.first fits).2] at hm
      obtain rfl : n = m := Option.some.inj (hn.symm.trans hm)
      obtain rfl : other = edge := hg.edge_eq hn (List.mem_of_getElem? ho) he htarget
      cases live with
      | true =>
        obtain rfl : passed = true := Except.ok.inj (hlive.symm.trans ((other.holds_iff _).1 holds))
        exact List.mem_filter.2 ⟨hall, beq_self_eq_true 0⟩
      | false =>
        rw [List.append_cons] at h smooth
        obtain ⟨smoothThen, goesOnThen⟩ := before.smooth_then sound fits small clean h smooth goesOn
        obtain ⟨-, -, exactThen⟩ := before.exact sound fits small clean smoothThen goesOnThen
        have hskipped := exactThen.dead source other.target (before.flying_of_arriving _ ht hother)
        have hle := before.skipped_mono h source
        have hc := ((h.steady sound fits clean (smooth.unwritten _ (by simp))).joins.closed_le
          source).2
        rw [List.append_cons] at done
        omega

/-! ## How a smooth course ends -/

/-- The nodes stand where the conditions that held put them. -/
structure Settled (g : Graph Component) (past : List (World × Act)) (outcome : RunOutcome) : Prop where
  goesThrough : outcome.endedEarly = false
  done : ∀ v, g.Resolved v → (Entries.get? outcome.statuses v = some .done ↔
    v = g.root ∨ ∃ u, g.Leads u v ∧ Entries.get? outcome.statuses u = some .done ∧ Passed g past u v)
  skipped : ∀ v, g.Resolved v → Entries.get? outcome.statuses v ≠ some .done →
    Entries.get? outcome.statuses v = some .skipped
  blocked : ∀ n ∈ g.nodes, ¬g.Resolved n.id → (∃ u ∈ n.predecessors, g.Resolved u) →
    Entries.get? outcome.statuses n.id = some .blocked
  pending : ∀ n ∈ g.nodes, ¬g.Resolved n.id → (∀ u ∈ n.predecessors, ¬g.Resolved u) →
    Entries.get? outcome.statuses n.id = some .pending
  executed : outcome.executed.Nodup ∧
    ∀ v, v ∈ outcome.executed ↔ Entries.get? outcome.statuses v = some .done
  asked : ∀ u v, .asked 0 u v ∈ deedsOf past → Entries.get? outcome.statuses u = some .done

theorem Stage.Idle.errands_eq_zero {S : Stage} {r : Nat} (h : S.Idle r) : (S.ledger r).errands = 0 := by
  refine Multiset.eq_zero_of_forall_notMem fun e he => ?_
  obtain ⟨⟨s, d⟩, hm, he⟩ := Multiset.mem_bind.1 he
  split at he
  · next hs => exact h d (hs ▸ hm)
  · exact Multiset.notMem_zero _ he

include sound fits small clean in
theorem Course.settled_of_idle (h : Course l.world past w) (smooth : Smooth (l.allDeeds past))
    (goesOn : (w.contexts.get 0).cancelled = false)
    (idle : ((w.view (l.allDeeds past)).ledger 0).errands = 0) :
    Settled l.graph past (w.runs.get 0).outcome := by
  have hg := sound.isWellFormed
  have hj := (h.steady sound fits clean (smooth.unwritten _ (by simp))).joins
  obtain ⟨hended, -, hx⟩ := h.exact sound fits small clean smooth goesOn
  have status : ∀ v, Entries.get? (w.runs.get 0).outcome.statuses v =
      (((w.view (l.allDeeds past)).ledger 0).nodes v).map NodeState.status :=
    fun v => Entries.get?_mapValues _ _ v
  have state : ∀ {v n}, l.graph.node? v = some n →
      ∃ s, ((w.view (l.allDeeds past)).ledger 0).nodes v = some s := fun {v n} hn =>
    Option.isSome_iff_exists.1 ((hj.nodes v).trans (by rw [hn]; rfl))
  have done : ∀ v, Entries.get? (w.runs.get 0).outcome.statuses v = some .done ↔
      0 < ((w.view (l.allDeeds past)).ledger 0).completed v := by
    intro v
    rw [status, Option.map_eq_some_iff]
    refine ⟨fun ⟨s, hs, hst⟩ => (hx.status_eq_done_iff idle hs).1 hst, fun hc => ?_⟩
    obtain ⟨n, hn⟩ := hj.exists_node hg (v := v) (by rw [hx.closed idle]; omega)
    obtain ⟨s, hs⟩ := state hn
    exact ⟨s, hs, hx.done v s hs hc⟩
  have node : ∀ {n}, n ∈ l.graph.nodes → l.graph.node? n.id = some n :=
    fun hn => Graph.node?_of_mem hg.ids hn
  refine ⟨hended, fun v hv => ?_, fun v hv hne => ?_, fun n hn hv hp => ?_, fun n hn hv hp => ?_,
    ⟨?_, fun v => ?_⟩, fun u v hd => ?_⟩
  · rw [done, hx.completed_iff hg hj idle, and_iff_right hv]
    refine or_congr_right (exists_congr fun u => ?_)
    rw [done]
    constructor
    · rintro ⟨hu, hl, hd⟩
      exact ⟨hl, hu, (h.delivered_iff_passed sound fits small clean smooth goesOn hu).1 hd⟩
    · rintro ⟨hl, hu, hp⟩
      exact ⟨hu, hl, (h.delivered_iff_passed sound fits small clean smooth goesOn hu).2 hp⟩
  · obtain ⟨n, hn⟩ := hj.exists_node hg ((hx.resolved_iff hg hj idle).1 hv)
    obtain ⟨s, hs⟩ := state hn
    rw [status, hs] at hne ⊢
    have hst := (hx.status_of_idle hg hj idle hn hs).1 hv
    exact congrArg some (hst.resolve_left fun hst => hne (congrArg some hst))
  · obtain ⟨s, hs⟩ := state (node hn)
    rw [status, hs]
    exact congrArg some ((hx.status_of_idle hg hj idle (node hn) hs).2.1 hv hp)
  · obtain ⟨s, hs⟩ := state (node hn)
    rw [status, hs]
    exact congrArg some ((hx.status_of_idle hg hj idle (node hn) hs).2.2 hv hp)
  · refine List.nodup_iff_count_le_one.2 fun v => ?_
    have he := hx.executed v
    have hc := (hj.closed_le v).2
    exact he.trans_le (by omega)
  · rw [done, ← hx.executed v]
    exact List.count_pos_iff.symm
  · exact (done u).2 (hx.live u v (.inr (.inr (List.mem_filter.2
      ⟨List.mem_append_left _ hd, beq_self_eq_true 0⟩))))

/-- A run with as many steps as nodes that is not cancelled, and in which all executions succeed and all
conditions can be evaluated, returns, and what it returns tells that its nodes stand where the
conditions that held put them. If the entry node was not named, every node is done or skipped. -/
theorem Course.settles (compiled : Compiled l.graph) (fits : l.Fits)
    (small : l.graph.nodes.length ≤ l.limits.steps)
    (clean : ∀ k ∈ [Values.errorKey, Values.endKey, Values.overrideKey],
      Entries.get? l.values k = none)
    (h : Course l.world past w) (smooth : Smooth (l.allDeeds past))
    (goesOn : (w.contexts.get 0).cancelled = false) :
    (∀ ending, w.returned = some ending → (∀ p ∈ past, p.1.returned = none) →
      ∃ outcome, ending = .over (.ok outcome) ∧ Settled l.graph past outcome ∧
        (l.graph.IsInferred → ∀ n ∈ l.graph.nodes,
          Entries.get? outcome.statuses n.id = some .done ∨
          Entries.get? outcome.statuses n.id = some .skipped)) ∧
    ∀ σ : Schedule w, σ.IsFair → ∃ i, (σ.world i).returned.isSome := by
  have sound := compiled.isSound
  refine ⟨fun ending returned before => ?_, fun σ fair => ?_⟩
  · obtain ⟨result, rfl, hd⟩ := h.over_of_returned fits returned
    cases result with
    -- A run that fails has failed at a node, and none has.
    | error e =>
      rcases h.reported.concluded 0 e hd with ⟨hc, -⟩ | hf
      · cases hc.symm.trans goesOn
      · have hf : (0, e) ∈ failures (l.allDeeds past) := hf
        rw [h.calm sound fits small clean smooth goesOn] at hf
        cases hf
    | ok outcome =>
      obtain ⟨-, rfl⟩ := h.outcome_of_returned fits returned before
      have idle := (h.idle_of_concluded goesOn hd).errands_eq_zero
      have settled := h.settled_of_idle sound fits small clean smooth goesOn idle
      refine ⟨_, rfl, settled, fun inferred n hn => ?_⟩
      have hv := sound.isWellFormed.resolved (fun n hn hp => inferred.eq_root hn hp) hn
      exact (em _).imp_right (settled.skipped n.id hv)
  · -- A fair schedule comes to rest, and at rest the run has returned.
    obtain ⟨i, hq⟩ := σ.quiets fair h sound
    obtain ⟨_, hi⟩ := σ.course h i
    exact ⟨i, (Option.isSome_map ..).trans (hi.ended_of_quiet hq)⟩

end

/-- All nodes of a diamond are done in the end. -/
theorem settles_diamond : ∃ past w outcome, Course Diamond.launch.world past w ∧
    w.returned = some (.over (.ok outcome)) ∧ Settled Diamond.graph past outcome := by
  have h := ((((((Course.start : Course Diamond.launch.world [] _).step 1 (by decide)).step 3
    (by decide)).step 2 (by decide)).step 5 (by decide)).step 4 (by decide)).step 0 (by decide)
  obtain ⟨hall, -⟩ := Course.settles Diamond.compiled
    (show Diamond.launch.Fits from show 2 ≤ Limits.mostParallel by decide) (by decide) (by decide) h
    ⟨by decide, by decide, by decide, by decide⟩ rfl
  obtain ⟨outcome, he, settled, -⟩ := hall _ rfl (by decide)
  exact ⟨_, _, outcome, h, congrArg some he, settled⟩

/-- With more permits than there can be, a run in which nothing goes wrong comes to nothing. -/
theorem not_settled_beyond_mostParallel : ¬∀ (l : Launch) (past : List (World × Act)) (w : World),
    Compiled l.graph → l.graph.nodes.length ≤ l.limits.steps →
      (∀ k ∈ [Values.errorKey, Values.endKey, Values.overrideKey], Entries.get? l.values k = none) →
      Course l.world past w → Smooth (l.allDeeds past) → (w.contexts.get 0).cancelled = false →
      w.Quiet → ∃ outcome, w.returned = some (.over (.ok outcome)) := by
  intro hall
  obtain ⟨_, h⟩ := hall { Diamond.launch with limits := ⟨Limits.mostParallel + 1, 8⟩ } [] _
    Diamond.compiled (by decide) (by decide) .start ⟨by decide, by decide, by decide, by decide⟩ rfl
    ⟨by decide, by decide⟩
  cases h

end Conduit
