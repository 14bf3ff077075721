import Conduit.Proofs.Run.Conclusions
import Conduit.Proofs.Run.Statuses
import Conduit.Proofs.Run.Strands

/-!
# Determinism

In a graph without races all courses on which a run is not cancelled come to the same values, the same
statuses and the same executed nodes, in whatever order its tasks went on and however many of them
executed at a time.
-/

namespace Conduit

/-! ## Complete runs -/

/-- A run without races that has nothing left to do. -/
structure Complete (g : Graph Component) (network : Http.Network) (f : Footprint) (values : Values)
    (x : Ledger) (s : Strand) : Prop where
  joins : Joins g 0 x
  exact : Exact g 0 x
  idle : x.errands = 0
  linked : Linked x s
  tracked : Tracked g network f values x s

namespace Complete

variable {g : Graph Component} {network : Http.Network} {f : Footprint} {values : Values}
  {x y : Ledger} {s t : Strand} {v : String}

theorem touchesOf_eq_nil (h : Complete g network f values x s) (hv : ¬0 < x.completed v) :
    s.log.touchesOf v = [] := by
  refine List.eq_nil_iff_forall_not_mem.2 fun t ht => hv ?_
  have hs := h.tracked.started _ (Log.mem_touchesOf.1 ht)
  have he := h.exact.started v
  rw [h.idle, Multiset.count_zero] at he
  dsimp only at hs
  omega

/-- An arrival from a node that is done was live when the condition of its edge holds of what the node and
those before it left. -/
theorem delivered_iff (h : Complete g network f values x s) {u : String}
    (hu : 0 < x.completed u) {n : GraphNode Component} {edge : Edge} (hn : g.node? u = some n)
    (he : edge ∈ n.edges) : .delivered 0 u edge.target true ∈ x.deeds ↔
      edge.isLive ((s.log.only fun w => w = u ∨ g.Before w u).replay values) true = .ok true := by
  have hcompleted := (h.linked.completed u).2 hu
  have passes := fun live hd =>
    h.tracked.delivered u edge.target live hd hcompleted n edge hn he rfl
  rw [← h.linked.delivered]
  refine ⟨passes true, fun hlive => ?_⟩
  have hd := h.exact.departed u edge.target ⟨n, hn, edge, he, rfl⟩
  simp only [Ledger.flying, h.idle, Multiset.count_zero] at hd
  obtain ⟨live, hm⟩ := h.linked.arrived u edge.target (by omega)
  obtain rfl : live = true := Except.ok.inj ((passes live hm).symm.trans hlive)
  exact hm

theorem get?_replay_only (hg : g.IsWellFormed) (race : g.RaceFree network f)
    (h : Complete g network f values x s) (h' : Complete g network f values y t)
    {nodes : String → Prop} (same : ∀ v, nodes v → s.log.touchesOf v = t.log.touchesOf v) (k : String) :
    Entries.get? ((s.log.only nodes).replay values) k =
      Entries.get? ((t.log.only nodes).replay values) k := by
  refine Log.get?_replay_congr (h.tracked.ordered.only nodes) (h'.tracked.ordered.only nodes)
    (fun v => ?_) (fun e he e' he' hk hk' hne => ?_) values
  · by_cases hv : nodes v
    · rw [Log.touchesOf_only hv, Log.touchesOf_only hv, same v hv]
    · rw [Log.touchesOf_only_of_not hv, Log.touchesOf_only_of_not hv]
  · have hm : e ∈ s.log := List.mem_of_mem_filter he
    have hm' : e' ∈ s.log := List.mem_of_mem_filter he'
    exact race.before_or_before (h.tracked.has hg h.joins hm) (h.tracked.has hg h.joins hm') hne
      (hk ▸ h.tracked.written e hm) (.inr (hk' ▸ h.tracked.written e' hm'))

/-- In two runs the same nodes are done, and each did the same. -/
theorem same (hg : g.IsWellFormed) (race : g.RaceFree network f)
    (h : Complete g network f values x s) (h' : Complete g network f values y t) (v : String) :
    (0 < x.completed v ↔ 0 < y.completed v) ∧ s.log.touchesOf v = t.log.touchesOf v := by
  induction v using hg.wellFounded_before.induction with
  | _ v ih =>
    -- A condition reads only what the nodes before it wrote, which is alike by induction.
    have delivered : ∀ u, g.Leads u v → 0 < x.completed u →
        (.delivered 0 u v true ∈ x.deeds ↔ .delivered 0 u v true ∈ y.deeds) := by
      rintro u ⟨n, hn, edge, he, rfl⟩ hu
      have hl : g.Leads u edge.target := ⟨n, hn, edge, he, rfl⟩
      rw [h.delivered_iff hu hn he, h'.delivered_iff ((ih u (.single hl)).1.1 hu) hn he]
      refine iff_of_eq (congrArg (· = _) (Edge.isLive_congr (fun k _ => ?_) true))
      refine h.get?_replay_only hg race h' (fun w hw => ?_) k
      rcases hw with rfl | hw
      · exact (ih w (.single hl)).2
      · exact (ih w (hw.tail hl)).2
    have completed : 0 < x.completed v ↔ 0 < y.completed v := by
      rw [h.exact.completed_iff hg h.joins h.idle, h'.exact.completed_iff hg h'.joins h'.idle]
      refine and_congr_right fun _ => or_congr_right (exists_congr fun u => ?_)
      constructor
      · rintro ⟨hu, hl, hd⟩
        exact ⟨(ih u (.single hl)).1.1 hu, hl, (delivered u hl hu).1 hd⟩
      · rintro ⟨hu, hl, hd⟩
        have hu := (ih u (.single hl)).1.2 hu
        exact ⟨hu, hl, (delivered u hl hu).2 hd⟩
    refine ⟨completed, ?_⟩
    -- A node that is done played the same activity on the same values.
    by_cases hv : 0 < x.completed v
    · obtain ⟨a, ha, hx⟩ := h.tracked.played v ((h.linked.completed v).2 hv)
      obtain ⟨b, hb, hy⟩ := h'.tracked.played v ((h'.linked.completed v).2 (completed.1 hv))
      obtain rfl := ha.unique hb
      rw [hx, hy]
      exact (race.confined_of_executes ha).solo_congr fun k _ =>
        h.get?_replay_only hg race h' (fun u hu => (ih u hu).2) k
    · rw [h.touchesOf_eq_nil hv, h'.touchesOf_eq_nil fun hy => hv (completed.2 hy)]

theorem values_eq (hg : g.IsWellFormed) (race : g.RaceFree network f)
    (h : Complete g network f values x s) (h' : Complete g network f values y t) (k : String) :
    Entries.get? s.values k = Entries.get? t.values k := by
  rw [h.tracked.values_eq, h'.tracked.values_eq]
  refine Log.get?_replay_congr h.tracked.ordered h'.tracked.ordered
    (fun v => (h.same hg race h' v).2) (fun e he e' he' hk hk' hne => ?_) values
  exact race.before_or_before (h.tracked.has hg h.joins he) (h.tracked.has hg h.joins he') hne
    (hk ▸ h.tracked.written e he) (.inr (hk' ▸ h.tracked.written e' he'))

theorem status_eq (hg : g.IsWellFormed) (race : g.RaceFree network f)
    (h : Complete g network f values x s) (h' : Complete g network f values y t) (v : String) :
    (x.nodes v).map NodeState.status = (y.nodes v).map NodeState.status := by
  cases hn : g.node? v with
  | none =>
    have hx : x.nodes v = none :=
      Option.not_isSome_iff_eq_none.1 (by rw [h.joins.nodes v, hn]; exact Bool.false_ne_true)
    have hy : y.nodes v = none :=
      Option.not_isSome_iff_eq_none.1 (by rw [h'.joins.nodes v, hn]; exact Bool.false_ne_true)
    rw [hx, hy]
  | some n =>
    obtain ⟨a, ha⟩ := Option.isSome_iff_exists.1 ((h.joins.nodes v).trans (by rw [hn]; rfl))
    obtain ⟨b, hb⟩ := Option.isSome_iff_exists.1 ((h'.joins.nodes v).trans (by rw [hn]; rfl))
    have done : a.status = .done ↔ b.status = .done := by
      rw [h.exact.status_eq_done_iff h.idle ha, h'.exact.status_eq_done_iff h'.idle hb]
      exact (h.same hg race h' v).1
    obtain ⟨hres, hblocked, hpending⟩ := h.exact.status_of_idle hg h.joins h.idle hn ha
    obtain ⟨hres', hblocked', hpending'⟩ := h'.exact.status_of_idle hg h'.joins h'.idle hn hb
    rw [ha, hb, Option.map_some, Option.map_some]
    refine congrArg some ?_
    by_cases hv : g.Resolved v
    · by_cases hd : a.status = .done
      · rw [hd, done.1 hd]
      · rw [(hres hv).resolve_left hd, (hres' hv).resolve_left fun hd' => hd (done.2 hd')]
    · by_cases hu : ∃ u ∈ n.predecessors, g.Resolved u
      · rw [hblocked hv hu, hblocked' hv hu]
      · have hu : ∀ u ∈ n.predecessors, ¬g.Resolved u := fun u hm hr => hu ⟨u, hm, hr⟩
        rw [hpending hv hu, hpending' hv hu]

end Complete

/-! ## Returned runs -/

/-- The launch with so many executions let be under way at a time. -/
def Launch.withParallel (l : Launch) (parallel : Nat) : Launch :=
  { l with limits := { l.limits with parallel := parallel } }

section

variable {l : Launch} {f : Footprint} {past past' : List (World × Act)} {w w' : World}

theorem Course.complete (compiled : Compiled l.graph) (race : l.graph.RaceFree l.network f)
    (small : l.graph.nodes.length ≤ l.limits.steps)
    (clean : ∀ k ∈ [Values.errorKey, Values.endKey, Values.overrideKey], Entries.get? l.values k = none)
    (h : Course l.world past w) (goesOn : (w.contexts.get 0).cancelled = false)
    (evaluable : Evaluable (l.allDeeds past)) {result : RunResult}
    (returned : w.returned = some (.over result)) :
    result = .ok (w.runs.get 0).outcome ∧ Complete l.graph l.network f l.values
      ((w.view (l.allDeeds past)).ledger 0) (w.view (l.allDeeds past)).strand := by
  have fits : l.Fits := by
    by_contra hb
    cases returned.symm.trans (h.of_not_fits hb).2
  have hd := h.reported.endings result returned
  obtain ⟨single, undisturbed⟩ := h.undisturbed compiled race small clean fits goesOn evaluable
  exact ⟨h.result_of_calm goesOn undisturbed.failures hd,
    { joins := undisturbed.steady.joins
      exact := undisturbed.exact single goesOn
      idle := (h.idle_of_concluded goesOn hd).errands_eq_zero
      linked := single.linked
      tracked := undisturbed.tracked }⟩

/-- A graph without races determines what a run comes to: any two runs that returned, were not cancelled and
could evaluate all conditions succeeded, and left the same values, the same status of every node and the
same executed nodes, whatever the order in which their tasks went on and whatever the numbers of
executions that could be under way at a time. -/
theorem Course.deterministic (compiled : Compiled l.graph) (race : l.graph.RaceFree l.network f)
    (small : l.graph.nodes.length ≤ l.limits.steps)
    (clean : ∀ k ∈ [Values.errorKey, Values.endKey, Values.overrideKey], Entries.get? l.values k = none)
    {p p' : Nat} (h : Course (l.withParallel p).world past w)
    (h' : Course (l.withParallel p').world past' w')
    (goesOn : (w.contexts.get 0).cancelled = false) (goesOn' : (w'.contexts.get 0).cancelled = false)
    (evaluable : Evaluable ((l.withParallel p).allDeeds past))
    (evaluable' : Evaluable ((l.withParallel p').allDeeds past')) {result result' : RunResult}
    (returned : w.returned = some (.over result)) (returned' : w'.returned = some (.over result')) :
    ∃ outcome outcome', result = .ok outcome ∧ result' = .ok outcome' ∧
      (∀ k, Entries.get? (w.contexts.get 0).values k = Entries.get? (w'.contexts.get 0).values k) ∧
      (∀ v, Entries.get? outcome.statuses v = Entries.get? outcome'.statuses v) ∧
      ∀ v, v ∈ outcome.executed ↔ v ∈ outcome'.executed := by
  have hg := compiled.isSound.isWellFormed
  obtain ⟨hresult, hc⟩ := Course.complete (l := l.withParallel p) compiled race small clean h goesOn
    evaluable returned
  obtain ⟨hresult', hc'⟩ := Course.complete (l := l.withParallel p') compiled race small clean h' goesOn'
    evaluable' returned'
  have executed : ∀ v, 0 < ((w.view _).ledger 0).completed v ↔ v ∈ (w.runs.get 0).executed :=
    fun v => (hc.exact.executed v ▸ List.count_pos_iff)
  have executed' : ∀ v, 0 < ((w'.view _).ledger 0).completed v ↔ v ∈ (w'.runs.get 0).executed :=
    fun v => (hc'.exact.executed v ▸ List.count_pos_iff)
  refine ⟨_, _, hresult, hresult', hc.values_eq hg race hc', fun v => ?_, fun v => ?_⟩
  · unfold Run.outcome
    rw [Entries.get?_mapValues, Entries.get?_mapValues]
    exact hc.status_eq hg race hc' v
  · exact (executed v).symm.trans ((hc.same hg race hc' v).1.trans (executed' v))

end

/-! ## A run that may go different ways -/

namespace Copies

def copy (key : String) : Activity :=
  .look fun values => .write key ((Entries.get? values "n").getD .null) .done

def mark : Activity := .write "n" (.bool true) .done

def slow : Activity := .pause 10 (copy "x") .done

def activities : List (String × Activity) :=
  [("mark", mark), ("slow", slow), ("copy", copy "y"), ("idle", .done)]

/-- Two nodes after a node copy what it marked, and a node waits for both. -/
def definition : Definition :=
  { Definition.new "copies" with
    nodes := [Workshop.spec "a" "mark" ["b", "c"],
      { Workshop.spec "b" "slow" ["d"] with conditions := [("d", "x")] },
      Workshop.spec "c" "copy" ["d"], Workshop.spec "d" "idle" []] }

def graph : Graph Component :=
  ⟨"copies", "a", [Workshop.node "a" "mark" mark [] ["b", "c"],
    { Workshop.node "b" "slow" slow ["a"] [] with
      edges := [⟨"d", some ⟨"x", .truthy (.path ["x"])⟩⟩] },
    Workshop.node "c" "copy" (copy "y") ["a"] ["d"], Workshop.node "d" "idle" .done ["b", "c"] []]⟩

theorem compiled : Compiled graph :=
  Workshop.compiled activities definition (by with_unfolding_all exact .done _)

def footprint : Footprint where
  reads v k := (v = "b" ∨ v = "c") ∧ k = "n"
  writes v k := v = "a" ∧ k = "n" ∨ v = "b" ∧ k = "x" ∨ v = "c" ∧ k = "y"

theorem confined_copy {network : Http.Network} {reads writes : String → Prop} {key : String}
    (read : reads "n") (written : writes key) : (copy key).Confined network reads writes :=
  .look (fun _ _ same => by rw [same "n" read]) fun _ => .write _ written .finish

theorem of_has {v : String} (h : graph.Has v) : v = "a" ∨ v = "b" ∨ v = "c" ∨ v = "d" := by
  obtain ⟨n, hn⟩ := h
  obtain ⟨hm, rfl⟩ := Graph.mem_of_node? hn
  have hid := List.mem_map_of_mem (f := GraphNode.id) hm
  simpa [graph, Workshop.node] using hid

theorem raceFree : graph.RaceFree Http.unreachable footprint where
  confined v hv := by
    rcases of_has hv with rfl | rfl | rfl | rfl
    · exact ⟨mark, ⟨_, _, _, rfl, rfl⟩, .write _ (.inl ⟨rfl, rfl⟩) .finish⟩
    · exact ⟨slow, ⟨_, _, _, rfl, rfl⟩,
        .pause _ _ (confined_copy ⟨.inl rfl, rfl⟩ (.inr (.inl ⟨rfl, rfl⟩)))⟩
    · exact ⟨copy "y", ⟨_, _, _, rfl, rfl⟩,
        confined_copy ⟨.inr rfl, rfl⟩ (.inr (.inr ⟨rfl, rfl⟩))⟩
    · exact ⟨.done, ⟨_, _, _, rfl, rfl⟩, .finish⟩
  unsteered v _ k hk hw := by
    rcases hw with ⟨-, rfl⟩ | ⟨-, rfl⟩ | ⟨-, rfl⟩ <;> exact absurd hk (by decide)
  apart u v _ _ hne huv _ k hk := by
    have leads : ∀ w, w = "b" ∨ w = "c" → graph.Leads "a" w := by
      rintro w (rfl | rfl)
      · exact ⟨_, rfl, ⟨"b", none⟩, List.mem_cons_self, rfl⟩
      · exact ⟨_, rfl, ⟨"c", none⟩, List.mem_cons_of_mem _ List.mem_cons_self, rfl⟩
    rcases hk with ⟨rfl, rfl⟩ | ⟨rfl, rfl⟩ | ⟨rfl, rfl⟩
    · exact ⟨fun h => huv (.single (leads v h.1)), by simpa [footprint] using hne.symm⟩
    · exact ⟨by simp [footprint], by simpa [footprint] using hne.symm⟩
    · exact ⟨by simp [footprint], by simpa [footprint] using hne.symm⟩
  asked u n hn edge he k hk v _ hw := by
    rcases of_has ⟨n, hn⟩ with rfl | rfl | rfl | rfl <;> cases hn
    · rcases List.mem_pair.1 he with rfl | rfl <;> cases hk
    · obtain rfl := List.mem_singleton.1 he
      obtain rfl := List.mem_singleton.1 hk
      exact .inl (by simpa [footprint] using hw)
    · obtain rfl := List.mem_singleton.1 he
      cases hk
    · cases he

def launch : Launch := ⟨Http.unreachable, [], false, none, graph, ⟨1, 8⟩, none⟩

end Copies

/-- Two nodes are executed one after the other, or one of them while the other waits, and the run comes
to the same. -/
theorem deterministic_copies : ∃ past past' w w' outcome outcome',
    Course (Copies.launch.withParallel 1).world past w ∧
    Course (Copies.launch.withParallel 2).world past' w' ∧
    w.returned = some (.over (.ok outcome)) ∧ w'.returned = some (.over (.ok outcome')) ∧
    outcome.executed = ["a", "b", "c", "d"] ∧ outcome'.executed = ["a", "c", "b", "d"] ∧
    (∀ k, Entries.get? (w.contexts.get 0).values k = Entries.get? (w'.contexts.get 0).values k) ∧
    (∀ v, Entries.get? outcome.statuses v = Entries.get? outcome'.statuses v) ∧
    ∀ v, v ∈ outcome.executed ↔ v ∈ outcome'.executed := by
  have h := (((((((((Course.start : Course (Copies.launch.withParallel 1).world [] _).step 1
    (by decide)).step 2 (by decide)).step 3 (by decide)).next (.pass 10) trivial).step 2
    (by decide)).step 3 (by decide)).step 4 (by decide)).step 5 (by decide)).step 0 (by decide)
  have h' := ((((((((Course.start : Course (Copies.launch.withParallel 2).world [] _).step 1
    (by decide)).step 3 (by decide)).step 2 (by decide)).step 4 (by decide)).next (.pass 10)
    trivial).step 2 (by decide)).step 5 (by decide)).step 0 (by decide)
  obtain ⟨outcome, outcome', he, he', hvalues, hstatuses, hexecuted⟩ := Course.deterministic
    Copies.compiled Copies.raceFree (by decide) (by decide) h h' rfl rfl (.of_failures_eq_nil rfl)
    (.of_failures_eq_nil rfl) rfl rfl
  cases he
  cases he'
  exact ⟨_, _, _, _, _, _, h, h', rfl, rfl, by decide, by decide, hvalues, hstatuses, hexecuted⟩

end Conduit
