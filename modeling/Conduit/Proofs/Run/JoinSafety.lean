import Conduit.Proofs.Run.Joins

/-!
# Join safety

However the tasks of a world are scheduled, a run that goes straight down its edges starts every
node at most once, and only after all nodes before it are closed and one of them arrived live. The
status of a node only goes forward.
-/

namespace Conduit

theorem NodeStatus.Advances.isTerminal_eq_false {s t : NodeStatus} (h : Advances s t) :
    s.isTerminal = false := by
  cases h with
  | block | settle | blame => rfl
  | run h | skip h | refuse h =>
    cases s with
    | pending | blocked => rfl
    | running | done | failed | skipped => cases h

def World.happenings (w : World) (r : Nat) : List Happening :=
  (w.events.filter fun o => o.run == r).map Occurrence.happening

theorem World.events_ledger (w : World) (L : List Deed) (r : Nat) :
    ((w.view L).ledger r).events = (w.happenings r).filter Happening.isNode := by
  unfold happenings Stage.ledger
  dsimp only [view, stage]
  rw [List.filter_map, List.filter_map, List.map_map, List.filter_filter]
  congr 1
  refine List.filter_congr fun o _ => ?_
  exact Bool.and_comm ..

theorem World.countP_ledger (w : World) (L : List Deed) (r : Nat) {f : Happening → Bool}
    (hf : ∀ e, f e → e.isNode) :
    ((w.view L).ledger r).events.countP f = (w.happenings r).countP f := by
  rw [w.events_ledger]
  exact Happening.countP_isNode _ hf

theorem World.started_ledger (w : World) (L : List Deed) (r : Nat) (v : String) :
    ((w.view L).ledger r).started v = (w.happenings r).countP (Happening.starts v) :=
  w.countP_ledger L r fun _ => Happening.isNode_of_starts

theorem World.skipped_ledger (w : World) (L : List Deed) (r : Nat) (v : String) :
    ((w.view L).ledger r).skipped v = (w.happenings r).countP (Happening.skips v) :=
  w.countP_ledger L r fun _ => Happening.isNode_of_skips

theorem World.completed_ledger (w : World) (L : List Deed) (r : Nat) (v : String) :
    ((w.view L).ledger r).completed v = (w.happenings r).countP (Happening.completes v) :=
  w.countP_ledger L r fun _ => Happening.isNode_of_completes

theorem InOrder.closed_before {g : Graph Component} {newer older : List Happening} {h : Happening}
    (ho : InOrder g (newer ++ h :: older)) {v : String} {n : GraphNode Component} (hv : h.opens v)
    (hroot : v ≠ g.root) (hn : g.node? v = some n) :
    ∀ u ∈ n.predecessors, ∃ e ∈ older, e.closes u := by
  induction newer with
  | nil => exact ho.1 v n hv hroot hn
  | cons _ newer ih => exact ih ho.2


variable {l : Launch} {past : List (World × Act)} {w : World}

theorem Launch.not_delivered (l : Launch) (r : Nat) (u v : String) (b : Bool) :
    .delivered r u v b ∉ l.deeds := by
  intro hd
  obtain ⟨_, hd⟩ := concluded_of_mem_deeds hd
  cases hd

/-- The balance of every run after every course. -/
theorem Course.joins (h : Course l.world past w) (fits : l.Fits) (sound : l.graph.IsSound)
    (absent : Entries.get? l.values Values.overrideKey = none)
    (unwritten : Unwritten Values.overrideKey (deedsOf past)) {r : Nat} (hr : r < w.nextRun) :
    (w.runs.get r).graph.IsWellFormed ∧
      Joins (w.runs.get r).graph r ((w.view (l.allDeeds past)).ledger r) := by
  obtain ⟨hg, hj⟩ := h.ledgers (G := Graph.IsSound) (P := Joins) nested_isSound
    (fun _ limit cancelled hg => Joins.opening hg.isWellFormed limit cancelled)
    (fun hg ht hj => hj.turn hg.isWellFormed ht) fits sound absent unwritten hr
  exact ⟨hg.isWellFormed, hj⟩

theorem Course.lt_nextRun_of_happened (h : Course l.world past w) {r : Nat} {e : Happening}
    (he : e ∈ w.happenings r) : r < w.nextRun := by
  obtain ⟨o, ho, -⟩ := List.mem_map.1 he
  obtain ⟨ho, hr⟩ := List.mem_filter.1 ho
  exact eq_of_beq hr ▸ h.orderly.events (o.run, o.happening) (List.mem_map.2 ⟨o, ho, rfl⟩)

/-- Joins are safe: a node is started at most once, is started or skipped only after all nodes before
it are closed, is started only if one of them arrived live, and its status only goes forward. -/
theorem Course.join_safety (compiled : Compiled l.graph) (h : Course l.world past w)
    (absent : Entries.get? l.values Values.overrideKey = none)
    (unwritten : Unwritten Values.overrideKey (deedsOf past)) {r : Nat} {v : String}
    {n : GraphNode Component} (hn : (w.runs.get r).graph.node? v = some n) :
    (w.happenings r).countP (Happening.starts v) ≤ 1 ∧
    (∀ newer older e, w.happenings r = newer ++ e :: older → e.opens v →
      v ≠ (w.runs.get r).graph.root → ∀ u ∈ n.predecessors, ∃ c ∈ older, c.closes u) ∧
    ((∃ e ∈ w.happenings r, e.starts v) → v ≠ (w.runs.get r).graph.root →
      ∃ u ∈ n.predecessors, .delivered r u v true ∈ deedsOf past) ∧
    (∀ a, w.Allows a → Unwritten Values.overrideKey (w.deeds a) →
      ∃ s s', (w.runs.get r).nodes.get? v = some s ∧
        ((w.act a).runs.get r).nodes.get? v = some s' ∧
        Relation.ReflTransGen NodeStatus.Advances s.status s'.status ∧
        (s.status.isTerminal → s'.status = s.status)) := by
  obtain ⟨hr, fits⟩ := h.lt_nextRun hn
  obtain ⟨hg, hj⟩ := h.joins fits compiled.isSound absent unwritten hr
  have hevents := w.events_ledger (l.allDeeds past) r
  have hstarted := w.started_ledger (l.allDeeds past) r v
  refine ⟨?_, ?_, ?_, ?_⟩
  · have hone := hj.once v
    unfold Ledger.visits at hone
    omega
  -- The order is one of the events of nodes, among which the opening and the closing ones are.
  · intro newer older e he hop hroot u hu
    have ho := hj.order
    rw [hevents, he, List.filter_append, List.filter_cons_of_pos (Happening.isNode_of_opens hop)]
      at ho
    obtain ⟨c, hc, hclose⟩ := ho.closed_before hop hroot hn u hu
    exact ⟨c, (List.mem_filter.1 hc).1, hclose⟩
  · rintro ⟨e, he, hs⟩ hroot
    have hpos : 0 < ((w.view (l.allDeeds past)).ledger r).started v :=
      hstarted ▸ List.countP_pos_iff.2 ⟨e, he, hs⟩
    obtain ⟨u, hu⟩ := (hj.live v (by omega)).resolve_left hroot
    have hd : .delivered r u v true ∈ l.allDeeds past := (List.mem_filter.1 hu).1
    have hedge := hj.edges u v (Nat.add_pos_right _ (List.countP_pos_iff.2
      ⟨_, hu, by simp [Deed.delivers]⟩))
    refine ⟨u, (hg.mem_predecessors hn).2 hedge, ?_⟩
    exact (List.mem_append.1 hd).resolve_right (l.not_delivered r u v true)
  · intro a ha hw
    have hu : Unwritten Values.overrideKey (deedsOf ((w, a) :: past)) := by
      intro d hd
      rcases List.mem_append.1 hd with hd | hd
      · exact hw d hd
      · exact unwritten d hd
    have ht := h.turns absent hu hr
    -- The node still has a state, as no turn takes one away.
    have hnode : (((w.act a).runs.get r).nodes.get? v).isSome := by
      have hy := Turns.keep (P := Joins) (fun t hj => hj.turn hg t) ht hj
      have hs := hy.nodes v
      rw [hn] at hs
      exact hs
    obtain ⟨s', hs'⟩ := Option.isSome_iff_exists.1 hnode
    obtain ⟨s, hs, hadv⟩ := hj.status_turns hg ht v s' hs'
    refine ⟨s, s', hs, hs', hadv, fun hterm => ?_⟩
    rcases Relation.ReflTransGen.cases_head hadv with heq | ⟨_, hstep, -⟩
    · exact heq.symm
    · rw [hstep.isTerminal_eq_false] at hterm
      cases hterm

/-! ## A diamond -/

namespace Diamond

def idle : Factory := ⟨"idle", fun _ => .ok (.plain "idle" .done), .null, "", "", false⟩

def compiler : Compiler := ⟨[("idle", ⟨"idle", idle, .null, .basic "idle" .done⟩)], false, 1⟩

def spec (id : String) (successors : List String) : NodeSpec :=
  { NodeSpec.new id with base := some "idle", successors := successors }

/-- A node, two nodes after it, and a node after both. -/
def definition : Definition :=
  { Definition.new "diamond" with
    nodes := [spec "a" ["b", "c"], spec "b" ["d"], spec "c" ["d"], spec "d" []] }

def node (id : String) (predecessors successors : List String) : GraphNode Component :=
  ⟨id, "idle", .ready (.basic "idle" .done) (.shared "idle"), predecessors,
    successors.map fun v => ⟨v, none⟩⟩

def graph : Graph Component :=
  ⟨"diamond", "a", [node "a" [] ["b", "c"], node "b" ["a"] ["d"], node "c" ["a"] ["d"],
    node "d" ["b", "c"] []]⟩

theorem compiled : Compiled graph := by
  refine ⟨compiler, definition, 0, 0, fun p hp => ?_, .done _⟩
  obtain rfl := List.mem_singleton.1 hp
  exact ⟨0, 0, rfl⟩

def launch : Launch := ⟨Http.unreachable, [], false, none, graph, ⟨2, 8⟩, none⟩

end Diamond

/-- The last node of a diamond is started for a live arrival. -/
theorem join_safety_diamond : ∃ past w, Course Diamond.launch.world past w ∧
    (w.happenings 0).countP (Happening.starts "d") ≤ 1 ∧
    (∃ e ∈ w.happenings 0, e.starts "d") ∧
    ∃ u ∈ ["b", "c"], .delivered 0 u "d" true ∈ deedsOf past := by
  have h := (((((Course.start : Course Diamond.launch.world [] _).step 1 (by decide)).step 3
    (by decide)).step 2 (by decide)).step 5 (by decide)).step 4 (by decide)
  obtain ⟨hone, -, hlive, -⟩ := h.join_safety Diamond.compiled rfl (by decide) (r := 0) (v := "d")
    (n := Diamond.node "d" ["b", "c"] []) rfl
  refine ⟨_, _, h, hone, ?_, hlive ?_ (by decide)⟩ <;>
    exact ⟨.nodeStarted "d" "idle", by decide, rfl⟩

end Conduit
