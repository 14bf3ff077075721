import Conduit.Proofs.Run.Joins

/-!
# Exact balances

As long as a run that goes straight down its edges does not stop, nothing gets lost in it. What was
started executes or has completed, every node that was closed has sent an arrival over each of its
edges, and every node that all nodes before it have arrived at is visited.
-/

namespace Conduit

/-! ## Turns of a run that goes on -/

/-- A turn of a run that goes on. -/
inductive Advance (g : Graph Component) (r : Nat) (x : Ledger) : Ledger → Prop where
  | count {source target : String} {live passed : Bool} {rest : Multiset Errand} {s : NodeState}
      (asks : List Deed) (errands : x.errands = .flying source target live ::ₘ rest)
      (state : x.nodes target = some s) (passed_le : passed → live)
      (asks_eq : asks = [] ∨ live ∧ asks = [.asked r source target]) :
      Advance g r x { x with
        errands := (s.gate.arrive passed).2.errands target + rest
        nodes := withArrival x.nodes target passed
        deeds := .delivered r source target passed :: (asks ++ x.deeds) }
  | skip {node : String} {rest : Multiset Errand} (errands : x.errands = .skipping node ::ₘ rest) :
      Advance g r x { x with
        errands := g.departures node false + rest
        nodes := withStatus x.nodes node .skipped
        events := .nodeSkipped node :: x.events }
  | take {node : String} {rest : Multiset Errand} (errands : x.errands = .dispatched node ::ₘ rest) :
      Advance g r x { x with errands := .admitted node ::ₘ rest, steps := x.steps + 1 }
  | start {node : String} {rest : Multiset Errand} {n : GraphNode Component}
      (errands : x.errands = .admitted node ::ₘ rest) (node_eq : g.node? node = some n) :
      Advance g r x { x with
        errands := .during node ::ₘ rest
        nodes := withStatus x.nodes node .running
        events := .nodeStarted node n.componentId :: x.events }
  | settle {node : String} {rest : Multiset Errand} (errands : x.errands = .during node ::ₘ rest) :
      Advance g r x { x with
        errands := .going node ::ₘ rest
        nodes := withStatus x.nodes node .done
        executed := x.executed ++ [node]
        events := .nodeCompleted node :: x.events }
  | spread {node : String} {rest : Multiset Errand} (errands : x.errands = .going node ::ₘ rest) :
      Advance g r x { x with errands := g.departures node true + rest }

variable {g : Graph Component} {r : Nat} {x y : Ledger}

namespace Joins

theorem advance (hg : g.IsWellFormed) (hj : Joins g r x) (h : Turn g r x y)
    (halted : y.halted = false) (cancelled : y.cancelled = false) : Advance g r x y := by
  cases h
  case count asks errands _ state passed_le asks_eq =>
    exact .count asks errands state passed_le asks_eq
  case skip errands => exact .skip errands
  case take errands _ _ => exact .take errands
  case start errands _ node_eq => exact .start errands node_eq
  case settle errands _ => exact .settle errands
  case spread errands _ => exact .spread errands
  case lose errands state => exact (hj.not_lost hg errands state).elim
  case drop stops =>
    rcases stops with hs | hs
    · cases hs.symm.trans halted
    · cases hs.symm.trans cancelled
  case abandon hc => cases hc.symm.trans cancelled
  case refuse | spoil | blame | halt | stop => cases halted
  case cancel => cases cancelled

theorem exists_node (hg : g.IsWellFormed) (hj : Joins g r x) {v : String} (hv : 0 < x.visits v) :
    ∃ n, g.node? v = some n := by
  rcases hj.full v hv with rfl | ⟨n, hn, -⟩
  · exact hg.root
  · exact ⟨n, hn⟩

theorem exists_node_of_dispatched (hg : g.IsWellFormed) (hj : Joins g r x) {v : String}
    (hd : .dispatched v ∈ x.errands) : ∃ n, g.node? v = some n := by
  have hpos := Multiset.count_pos.2 hd
  exact hj.exists_node hg (by unfold Ledger.visits; omega)

end Joins

/-! ## Nothing gets lost -/

/-- The balance of a run that goes on. -/
structure Exact (g : Graph Component) (r : Nat) (x : Ledger) : Prop where
  started : ∀ v, x.started v = x.errands.count (.during v) + x.completed v
  root : 0 < x.visits g.root
  full : ∀ v, x.IsFull v g → 0 < x.visits v
  departed : ∀ u v, g.Leads u v →
    x.flying u v + x.delivered u v + x.errands.count (.going u) = x.completed u + x.skipped u
  live : ∀ u v, .flying u v true ∈ x.errands ∨ .delivered r u v true ∈ x.deeds ∨
    .asked r u v ∈ x.deeds → 0 < x.completed u
  going : ∀ u, .going u ∈ x.errands → 0 < x.completed u
  dead : ∀ u v, .flying u v false ∈ x.errands → 0 < x.skipped u
  skipping : ∀ v, 0 < x.errands.count (.skipping v) + x.skipped v →
    v ≠ g.root ∧ ∀ u, .delivered r u v true ∉ x.deeds
  done : ∀ v s, x.nodes v = some s → 0 < x.completed v → s.status = .done
  skipped : ∀ v s, x.nodes v = some s → 0 < x.skipped v → s.status = .skipped
  blocked : ∀ v s, x.nodes v = some s → x.visits v = 0 → (∃ u, 0 < x.delivered u v) →
    s.status = .blocked
  pending : ∀ v s, x.nodes v = some s → x.visits v = 0 → (∀ u, x.delivered u v = 0) →
    s.status = .pending
  executed : ∀ v, x.executed.count v = x.completed v
  steps : x.steps =
    ((g.nodes.map GraphNode.id).map fun v => x.errands.count (.admitted v) + x.started v).sum

namespace Exact

open Joins

theorem started_advance (hx : Exact g r x) (h : Advance g r x y) (v : String) :
    y.started v = y.errands.count (.during v) + y.completed v := by
  have hs := hx.started v
  cases h
  case count source target live passed rest s asks errands _ _ _ =>
    simp only [Ledger.started, Ledger.completed, errands, Multiset.count_cons, Multiset.count_add,
      Arrival.count_errands] at hs ⊢
    grind
  case skip | spread =>
    simp only [Ledger.started, Ledger.completed, *, Multiset.count_cons, Multiset.count_add,
      List.countP_cons, Happening.starts, Happening.completes] at hs ⊢
    rw [count_departures _ _ rfl]
    grind
  all_goals
    simp only [Ledger.started, Ledger.completed, *, Multiset.count_cons, List.countP_cons,
      Happening.starts, Happening.completes] at hs ⊢
    grind

theorem visits_le (h : Advance g r x y) (v : String) : x.visits v ≤ y.visits v := by
  cases h
  case count source target live passed rest s asks errands _ _ _ =>
    simp only [Ledger.visits, Ledger.started, Ledger.skipped, errands, Multiset.count_cons,
      Multiset.count_add, Arrival.count_errands]
    grind
  case skip | spread =>
    simp only [Ledger.visits, Ledger.started, Ledger.skipped, *, Multiset.count_cons,
      Multiset.count_add, List.countP_cons, Happening.starts, Happening.skips]
    rw [count_departures _ _ rfl, count_departures _ _ rfl, count_departures _ _ rfl]
    grind
  all_goals
    simp only [Ledger.visits, Ledger.started, Ledger.skipped, *, Multiset.count_cons,
      List.countP_cons, Happening.starts, Happening.skips]
    grind

theorem length_le_sum {f : String → Nat} {xs : List String} (h : ∀ u ∈ xs, 0 < f u) :
    xs.length ≤ (xs.map f).sum := by
  induction xs with
  | nil => exact Nat.le_refl 0
  | cons a xs ih =>
    have ha := h a List.mem_cons_self
    have hxs := ih fun u hu => h u (List.mem_cons_of_mem _ hu)
    simp only [List.map_cons, List.sum_cons, List.length_cons]
    omega

theorem opens_of_isFull {source target : String} {passed : Bool} {s : NodeState}
    (hf : y.IsFull target g) (hg : g.IsWellFormed) (hj : Joins g r x)
    (h : Landed g r x y source target passed) (state : x.nodes target = some s) :
    (s.gate.arrive passed).2 ≠ .waiting := by
  intro hw
  obtain ⟨s₁, n, hs₁, hn, -, hpos⟩ := h.state
  obtain rfl : s = s₁ := Option.some.inj (state.symm.trans hs₁)
  have hrem := (arrive_of_pos hpos passed).2.2.1.1 hw
  obtain ⟨m, hm, -, hall⟩ := hf
  have hy : y.nodes target = some _ :=
    (congrFun h.nodes target).trans ((if_pos rfl).trans (congrArg (Option.map _) state))
  have hc := (h.gates hg hj hy hm).remaining
  rw [(Graph.mem_of_node? hm).2] at hc
  have hsum := length_le_sum hall
  dsimp only at hc
  omega

theorem full_advance (hg : g.IsWellFormed) (hj : Joins g r x) (hx : Exact g r x)
    (h : Advance g r x y) (v : String) (hf : y.IsFull v g) : 0 < y.visits v := by
  have hle := visits_le h v
  cases h
  case count source target live passed rest s asks errands state _ asks_eq =>
    by_cases hv : v = target
    · subst hv
      obtain ⟨n, hn, hm, hpos, hd, -⟩ := hj.of_count hg errands state
      have hopen : (s.gate.arrive passed).2 ≠ .waiting := opens_of_isFull hf hg hj
        ⟨⟨asks, rfl, not_delivers_of_asks asks_eq⟩, rfl, ⟨s, n, state, hn, hm, hpos⟩, hd⟩ state
      simp only [Ledger.visits, Multiset.count_add, Arrival.count_errands]
      cases ha : (s.gate.arrive passed).2
      · exact absurd ha hopen
      all_goals grind
    · obtain ⟨m, hm, hne, hall⟩ := hf
      refine (hx.full v ⟨m, hm, hne, fun u hu => ?_⟩).trans_le hle
      have hu := hall u hu
      rw [delivered_cons u v source target passed asks
        (fun d hd => not_delivers_of_asks asks_eq d hd u v) _ rfl, if_neg fun h => hv h.2] at hu
      exact hu
  all_goals exact (hx.full v hf).trans_le hle

theorem count_departures_of_leads (hg : g.IsWellFormed) {u v : String} (hl : g.Leads u v)
    (source : String) (live : Bool) (b : Bool) :
    (g.departures source live).count (.flying u v b) = if u = source ∧ b = live then 1 else 0 := by
  have hle := count_departures_flying hg source live u v b
  split at hle
  · next h =>
    obtain ⟨rfl, rfl⟩ := h
    rw [if_pos ⟨rfl, rfl⟩]
    refine Nat.le_antisymm hle (Multiset.one_le_count_iff_mem.2 ?_)
    obtain ⟨n, hn, edge, he, rfl⟩ := hl
    unfold Graph.departures
    rw [hn]
    exact Multiset.mem_coe.2 (List.mem_map.2 ⟨edge, he, rfl⟩)
  · next h =>
    rw [if_neg h]
    exact Nat.le_zero.1 hle

theorem departed_advance (hg : g.IsWellFormed) (hx : Exact g r x) (h : Advance g r x y)
    {u v : String} (hl : g.Leads u v) :
    y.flying u v + y.delivered u v + y.errands.count (.going u) = y.completed u + y.skipped u := by
  have hd := hx.departed u v hl
  cases h
  case count source target live passed rest s asks errands _ _ asks_eq =>
    rw [delivered_cons u v source target passed asks
      (fun d hd => not_delivers_of_asks asks_eq d hd u v) _ rfl]
    simp only [Ledger.completed, Ledger.skipped, Ledger.flying, errands, Multiset.count_cons,
      Multiset.count_add, Arrival.count_errands] at hd ⊢
    cases live <;> grind
  case skip node rest errands =>
    simp only [Ledger.completed, Ledger.skipped, Ledger.flying, Ledger.delivered, errands,
      Multiset.count_cons, Multiset.count_add, List.countP_cons, Happening.completes,
      Happening.skips, count_departures_of_leads hg hl] at hd ⊢
    rw [count_departures _ _ (e := .going u) rfl]
    grind
  case spread node rest errands =>
    simp only [Ledger.completed, Ledger.skipped, Ledger.flying, Ledger.delivered, errands,
      Multiset.count_cons, Multiset.count_add, count_departures_of_leads hg hl] at hd ⊢
    rw [count_departures _ _ (e := .going u) rfl]
    grind
  all_goals
    simp only [Ledger.completed, Ledger.skipped, Ledger.flying, Ledger.delivered, *,
      Multiset.count_cons, List.countP_cons, Happening.completes, Happening.skips] at hd ⊢
    grind

theorem flying_advance (h : Advance g r x y) {u v : String} {b : Bool}
    (hf : .flying u v b ∈ y.errands) : .flying u v b ∈ x.errands ∨
      (b = true ∧ .going u ∈ x.errands) ∨ b = false ∧ 0 < y.skipped u := by
  have old : ∀ {e e' : Errand} {rest : Multiset Errand}, x.errands = e ::ₘ rest →
      e'.isFlying = false → .flying u v b ∈ e' ::ₘ rest → .flying u v b ∈ x.errands := by
    intro e e' rest errands he' hm
    rcases Multiset.mem_cons.1 hm with rfl | hm
    · cases he'
    · exact errands ▸ Multiset.mem_cons_of_mem hm
  cases h
  case count source target live passed rest s asks errands _ _ _ =>
    rcases Multiset.mem_add.1 hf with hm | hm
    · simp [Arrival.mem_errands] at hm
    · exact .inl (errands ▸ Multiset.mem_cons_of_mem hm)
  case skip node rest errands =>
    rcases Multiset.mem_add.1 hf with hm | hm
    · obtain ⟨_, he, -⟩ := mem_departures hm
      cases he
      exact .inr (.inr ⟨rfl, List.countP_pos_iff.2 ⟨_, List.mem_cons_self, beq_self_eq_true _⟩⟩)
    · exact .inl (errands ▸ Multiset.mem_cons_of_mem hm)
  case spread node rest errands =>
    rcases Multiset.mem_add.1 hf with hm | hm
    · obtain ⟨_, he, -⟩ := mem_departures hm
      cases he
      exact .inr (.inl ⟨rfl, errands ▸ Multiset.mem_cons_self _ _⟩)
    · exact .inl (errands ▸ Multiset.mem_cons_of_mem hm)
  case take | start | settle => exact .inl (old ‹_› rfl hf)

theorem completed_le (h : Advance g r x y) (v : String) : x.completed v ≤ y.completed v := by
  cases h
  case skip | start | settle => exact (List.sublist_cons_self _ _).countP_le
  all_goals exact Nat.le_refl _

theorem skipped_le (h : Advance g r x y) (v : String) : x.skipped v ≤ y.skipped v := by
  cases h
  case skip | start | settle => exact (List.sublist_cons_self _ _).countP_le
  all_goals exact Nat.le_refl _

theorem live_advance (hx : Exact g r x) (h : Advance g r x y) (u v : String)
    (hl : .flying u v true ∈ y.errands ∨ .delivered r u v true ∈ y.deeds ∨ .asked r u v ∈ y.deeds) :
    0 < y.completed u := by
  have hle := completed_le h u
  have old : (.flying u v true ∈ x.errands ∨ .delivered r u v true ∈ x.deeds ∨
      .asked r u v ∈ x.deeds) → 0 < y.completed u := fun hl => (hx.live u v hl).trans_le hle
  rcases hl with hf | hd
  -- Whoever flies alive did so before, or its node has just been done.
  · rcases flying_advance h hf with hf | ⟨-, hgo⟩ | ⟨hb, -⟩
    · exact old (.inl hf)
    · exact (hx.going u hgo).trans_le hle
    · cases hb
  · cases h
    case count source target live passed rest s asks errands _ passed_le asks_eq =>
      have flying : live = true → .flying source target true ∈ x.errands :=
        fun hl => errands ▸ hl ▸ Multiset.mem_cons_self _ _
      have asked : ∀ d ∈ asks, d = .asked r source target ∧ live = true := by
        rcases asks_eq with rfl | ⟨hl, rfl⟩
        · nofun
        · exact fun d hd => ⟨List.mem_singleton.1 hd, hl⟩
      rcases hd with hd | hd
      · rcases List.mem_cons.1 hd with hd | hd
        · cases hd
          exact old (.inl (flying (passed_le rfl)))
        · rcases List.mem_append.1 hd with hd | hd
          · cases (asked _ hd).1
          · exact old (.inr (.inl hd))
      · rcases List.mem_append.1 ((List.mem_cons.1 hd).resolve_left nofun) with hd | hd
        · obtain ⟨he, hlive⟩ := asked _ hd
          cases he
          exact old (.inl (flying hlive))
        · exact old (.inr (.inr hd))
    all_goals exact old (.inr hd)

theorem going_advance (hx : Exact g r x) (h : Advance g r x y) (u : String)
    (hgo : .going u ∈ y.errands) : 0 < y.completed u := by
  have hle := completed_le h u
  have old : ∀ {e : Errand} {rest : Multiset Errand}, x.errands = e ::ₘ rest →
      .going u ∈ rest → 0 < y.completed u :=
    fun errands hm => (hx.going u (errands ▸ Multiset.mem_cons_of_mem hm)).trans_le hle
  have departed : ∀ {source : String} {b : Bool}, .going u ∉ g.departures source b := by
    intro source b hm
    obtain ⟨_, he, -⟩ := mem_departures hm
    cases he
  cases h
  case count source target live passed rest s asks errands _ _ _ =>
    rcases Multiset.mem_add.1 hgo with hm | hm
    · simp [Arrival.mem_errands] at hm
    · exact old errands hm
  case skip errands | spread errands =>
    exact old errands ((Multiset.mem_add.1 hgo).resolve_left departed)
  case take errands | start errands _ =>
    exact old errands ((Multiset.mem_cons.1 hgo).resolve_left (by simp))
  case settle node rest errands =>
    rcases Multiset.mem_cons.1 hgo with he | hm
    · cases he
      exact List.countP_pos_iff.2 ⟨_, List.mem_cons_self, beq_self_eq_true _⟩
    · exact old errands hm

theorem dead_advance (hx : Exact g r x) (h : Advance g r x y) (u v : String)
    (hf : .flying u v false ∈ y.errands) : 0 < y.skipped u := by
  rcases flying_advance h hf with hf | ⟨hb, -⟩ | ⟨-, hs⟩
  · exact (hx.dead u v hf).trans_le (skipped_le h u)
  · cases hb
  · exact hs

theorem dead_of_skip {source target : String} {passed : Bool} {s : NodeState}
    (hg : g.IsWellFormed) (hj : Joins g r x) (h : Landed g r x y source target passed)
    (state : x.nodes target = some s) (hskip : (s.gate.arrive passed).2 = .skip) (u : String) :
    .delivered r u target true ∉ y.deeds := by
  intro hu
  obtain ⟨s₁, n, hs₁, hn, -, hpos⟩ := h.state
  obtain rfl : s = s₁ := Option.some.inj (state.symm.trans hs₁)
  have hlive := ((arrive_of_pos hpos passed).2.2.2.2 hskip).2
  have hy : y.nodes target = some _ :=
    (congrFun h.nodes target).trans ((if_pos rfl).trans (congrArg (Option.map _) state))
  have hex : ∃ u, .delivered r u n.id true ∈ y.deeds := ⟨u, (Graph.mem_of_node? hn).2.symm ▸ hu⟩
  exact absurd ((h.gates hg hj hy hn).live.2 hex) (Nat.not_lt.2 hlive.le)

theorem skipping_advance (hg : g.IsWellFormed) (hj : Joins g r x) (hx : Exact g r x)
    (h : Advance g r x y) (v : String) (hs : 0 < y.errands.count (.skipping v) + y.skipped v) :
    v ≠ g.root ∧ ∀ u, .delivered r u v true ∉ y.deeds := by
  have old := hx.skipping v
  cases h
  case count source target live passed rest s asks errands state _ asks_eq =>
    obtain ⟨n, hn, hm, hpos, hd, -, -, hroot, hv⟩ := hj.of_count hg errands state
    by_cases htarget : v = target
    -- The gate answers that the node is skipped only if nobody has arrived alive.
    · subst htarget
      refine ⟨hroot, fun u hu => ?_⟩
      have hskip : (s.gate.arrive passed).2 = .skip := by
        simp only [Ledger.visits, Ledger.skipped, errands, Multiset.count_cons, Multiset.count_add,
          Arrival.count_errands] at hv hs
        grind
      exact dead_of_skip (y := { x with
          nodes := withArrival x.nodes v passed
          deeds := .delivered r source v passed :: (asks ++ x.deeds) }) hg hj
        ⟨⟨asks, rfl, not_delivers_of_asks asks_eq⟩, rfl, ⟨s, n, state, hn, hm, hpos⟩, hd⟩ state hskip
        u hu
    · have hs : 0 < x.errands.count (.skipping v) + x.skipped v := by
        simp only [Ledger.skipped, errands, Multiset.count_cons, Multiset.count_add,
          Arrival.count_errands] at hs ⊢
        grind
      obtain ⟨hroot, hno⟩ := old hs
      refine ⟨hroot, fun u hu => ?_⟩
      rcases List.mem_cons.1 hu with hu | hu
      · cases hu
        exact htarget rfl
      · rcases List.mem_append.1 hu with hu | hu
        · have hf := not_delivers_of_asks asks_eq _ hu u v
          simp [Deed.delivers] at hf
        · exact hno u hu
  case skip | spread =>
    refine old ?_
    simp only [Ledger.skipped, *, Multiset.count_cons, Multiset.count_add, List.countP_cons,
      Happening.skips] at hs ⊢
    rw [count_departures _ _ rfl] at hs
    grind
  all_goals
    refine old ?_
    simp only [Ledger.skipped, *, Multiset.count_cons, List.countP_cons, Happening.skips] at hs ⊢
    grind

/-! ## Statuses of a run that goes on -/

/-- A node that is done or skipped keeps its status, as its only visit is over. -/
theorem status_of_closed (hg : g.IsWellFormed) (hj : Joins g r x) (h : Advance g r x y) {v : String}
    {s : NodeState} (hs : y.nodes v = some s) (hc : 0 < x.completed v + x.skipped v) :
    ∃ s₀, x.nodes v = some s₀ ∧ s.status = s₀.status := by
  have hone := hj.once v
  have hexec := hj.executed v
  have hle := (hj.closed_le v).1
  have kept : ∀ {node : String} {st : NodeStatus}, node ≠ v →
      withStatus x.nodes node st v = some s → ∃ s₀, x.nodes v = some s₀ ∧ s.status = s₀.status := by
    intro node st hne hs
    obtain ⟨s₀, hs₀, -, hst⟩ := get_withStatus hs
    exact ⟨s₀, hs₀, hst.trans (if_neg hne)⟩
  cases h
  case count source target live passed rest st asks errands state _ _ =>
    have hv := (hj.of_flying hg (flying_pos errands)).2.2.2.2
    rcases get_withArrival hs with ⟨-, hs⟩ | ⟨rfl, -⟩
    · exact ⟨s, hs, rfl⟩
    · omega
  case take | spread => exact ⟨s, hs, rfl⟩
  case settle node rest errands | skip node rest errands | start node rest _ errands _ =>
    refine kept (fun hne => ?_) hs
    simp only [Ledger.visits, errands, hne, Multiset.count_cons_self] at hone hexec
    omega

theorem done_advance (hg : g.IsWellFormed) (hj : Joins g r x) (hx : Exact g r x)
    (h : Advance g r x y) (v : String) (s : NodeState) (hs : y.nodes v = some s)
    (hc : 0 < y.completed v) : s.status = .done := by
  by_cases before : 0 < x.completed v
  · obtain ⟨s₀, hs₀, hst⟩ := status_of_closed hg hj h hs (Nat.add_pos_left before _)
    exact hst.trans (hx.done v s₀ hs₀ before)
  cases h
  case settle node rest errands =>
    obtain ⟨s₀, -, -, hst⟩ := get_withStatus hs
    rw [hst]
    split
    · rfl
    · next hne =>
      refine absurd ?_ before
      simpa [Ledger.completed, List.countP_cons, Happening.completes, hne] using hc
  all_goals exact absurd hc before

theorem skipped_advance (hg : g.IsWellFormed) (hj : Joins g r x) (hx : Exact g r x)
    (h : Advance g r x y) (v : String) (s : NodeState) (hs : y.nodes v = some s)
    (hc : 0 < y.skipped v) : s.status = .skipped := by
  by_cases before : 0 < x.skipped v
  · obtain ⟨s₀, hs₀, hst⟩ := status_of_closed hg hj h hs (Nat.add_pos_right _ before)
    exact hst.trans (hx.skipped v s₀ hs₀ before)
  cases h
  case skip node rest errands =>
    obtain ⟨s₀, -, -, hst⟩ := get_withStatus hs
    rw [hst]
    split
    · rfl
    · next hne =>
      refine absurd ?_ before
      simpa [Ledger.skipped, List.countP_cons, Happening.skips, hne] using hc
  all_goals exact absurd hc before

/-- The status of a node that is not visited is only changed by an arrival at it. -/
theorem unvisited_advance (hj : Joins g r x) (hx : Exact g r x) (h : Advance g r x y) (v : String)
    (s : NodeState) (hs : y.nodes v = some s) (hv : y.visits v = 0) :
    ((∃ u, 0 < y.delivered u v) → s.status = .blocked) ∧
      ((∀ u, y.delivered u v = 0) → s.status = .pending) := by
  have hvx : x.visits v = 0 := Nat.le_zero.1 (hv ▸ visits_le h v)
  have hexec := hj.executed v
  have kept : ∀ {node : String} {st : NodeStatus}, node ≠ v →
      withStatus x.nodes node st v = some s →
      ((∃ u, 0 < x.delivered u v) → s.status = .blocked) ∧
        ((∀ u, x.delivered u v = 0) → s.status = .pending) := by
    intro node st hne hs
    obtain ⟨s₀, hs₀, -, hst⟩ := get_withStatus hs
    rw [hst, if_neg hne]
    exact ⟨hx.blocked v s₀ hs₀ hvx, hx.pending v s₀ hs₀ hvx⟩
  simp only [Ledger.visits, Ledger.started] at hvx hexec
  cases h
  case count source target live passed rest st asks errands state _ asks_eq =>
    have hasks : ∀ u, ∀ d ∈ asks, d.delivers u v = false :=
      fun u d hd => not_delivers_of_asks asks_eq d hd u v
    rcases get_withArrival hs with ⟨hne, hs⟩ | ⟨rfl, s₀, hs₀, -, hst⟩
    · refine ⟨fun hu => ?_, fun hall => hx.pending v s hs hvx fun u => ?_⟩
      · obtain ⟨u, hu⟩ := hu
        refine hx.blocked v s hs hvx ⟨u, ?_⟩
        rwa [delivered_cons u v source target passed asks (hasks u) _ rfl,
          if_neg fun h => hne h.2.symm, add_zero] at hu
      · have hu := hall u
        rwa [delivered_cons u v source target passed asks (hasks u) _ rfl,
          if_neg fun h => hne h.2.symm, add_zero] at hu
    -- The arrival is at the node, and not the last one, as the node is not visited.
    · refine ⟨fun _ => ?_, fun hall => ?_⟩
      · have hwaits : (s₀.gate.arrive passed).2 = .waiting := by
          obtain rfl : st = s₀ := Option.some.inj (state.symm.trans hs₀)
          simp only [Ledger.visits, Multiset.count_add, Arrival.count_errands] at hv
          cases ha : (st.gate.arrive passed).2 <;> grind
        rw [hst]
        split
        · rfl
        · next hne =>
          by_cases hd : ∃ u, 0 < x.delivered u target
          · exact hx.blocked target s₀ hs₀ hvx hd
          · refine absurd ⟨hwaits, hx.pending target s₀ hs₀ hvx fun u => ?_⟩ hne
            exact Nat.eq_zero_of_not_pos fun hu => hd ⟨u, hu⟩
      · have hu := hall source
        rw [delivered_cons source target source target passed asks (hasks source) _ rfl,
          if_pos ⟨rfl, rfl⟩] at hu
        cases hu
  case take | spread => exact ⟨hx.blocked v s hs hvx, hx.pending v s hs hvx⟩
  case settle node rest errands =>
    refine kept (fun hne => ?_) hs
    simp only [errands, hne, Multiset.count_cons_self] at hvx hexec
    omega
  case skip node rest errands | start node rest _ errands _ =>
    refine kept (fun hne => ?_) hs
    simp only [errands, hne, Multiset.count_cons_self] at hvx
    omega

/-! ## Executed nodes and steps -/

theorem executed_advance (hx : Exact g r x) (h : Advance g r x y) (v : String) :
    y.executed.count v = y.completed v := by
  have he := hx.executed v
  unfold Ledger.completed at he ⊢
  cases h
  case settle node rest errands =>
    rw [List.count_append, he, List.countP_cons, List.count_singleton]
    rfl
  case skip | start => exact he.trans (List.countP_cons_of_neg (by simp [Happening.completes])).symm
  all_goals exact he

/-- A step is used up for every node that was admitted or started. -/
theorem steps_advance (hg : g.IsWellFormed) (hj : Joins g r x) (hx : Exact g r x)
    (h : Advance g r x y) : y.steps =
      ((g.nodes.map GraphNode.id).map fun v => y.errands.count (.admitted v) + y.started v).sum := by
  have hs := hx.steps
  have same : (∀ v, y.errands.count (.admitted v) + y.started v =
      x.errands.count (.admitted v) + x.started v) → y.steps = x.steps → y.steps =
      ((g.nodes.map GraphNode.id).map fun v => y.errands.count (.admitted v) + y.started v).sum := by
    intro hv hsteps
    rw [hsteps, hs]
    exact congrArg List.sum (List.map_congr_left fun v _ => (hv v).symm)
  cases h
  -- A step is counted for the node that is let in, and that node alone has one more.
  case take node rest errands =>
    obtain ⟨n, hn⟩ := hj.exists_node_of_dispatched hg (errands ▸ Multiset.mem_cons_self _ _)
    obtain ⟨hm, rfl⟩ := Graph.mem_of_node? hn
    refine (congrArg (· + 1) hs).trans (sum_succ _ _ hg.ids (List.mem_map_of_mem hm) ?_
      fun v hv => ?_).symm
    · simp only [Ledger.started, errands, Multiset.count_cons]
      grind
    · simp only [Ledger.started, errands, Multiset.count_cons]
      grind
  case count source target live passed rest s asks errands _ _ _ =>
    refine same (fun v => ?_) rfl
    simp only [Ledger.started, errands, Multiset.count_cons, Multiset.count_add,
      Arrival.count_errands]
    grind
  case skip | spread =>
    refine same (fun v => ?_) rfl
    simp only [Ledger.started, *, Multiset.count_cons, Multiset.count_add, List.countP_cons,
      Happening.starts]
    rw [count_departures _ _ rfl]
    grind
  case start | settle =>
    refine same (fun v => ?_) rfl
    simp only [Ledger.started, *, Multiset.count_cons, List.countP_cons, Happening.starts]
    grind

/-! ## The exact balance -/

theorem opening (hg : g.IsWellFormed) (r limit : Nat) (cancelled : Bool) :
    Exact g r (Ledger.opening g limit cancelled) := by
  have hnodes : ∀ v, (Ledger.opening g limit cancelled).nodes v =
      (g.node? v).map fun n => ⟨Gate.new n.predecessors.length, .pending⟩ :=
    Graph.get?_initialNodes hg.ids
  have hnone : ∀ e ∈ (Ledger.opening g limit cancelled).errands, e = .dispatched g.root :=
    fun e he => Multiset.mem_singleton.1 he
  have hcount : ∀ {e : Errand}, e ≠ .dispatched g.root →
      (Ledger.opening g limit cancelled).errands.count e = 0 :=
    fun he => Multiset.count_eq_zero.2 fun hm => he (hnone _ hm)
  exact
    { started := fun v => (hcount (e := .during v) (by simp)).symm
      root := by
        simp only [Ledger.visits, Ledger.opening, Multiset.count_singleton_self]
        omega
      full := fun v hfull => by
        obtain ⟨n, _, hne, hall⟩ := hfull
        obtain ⟨u, us, hus⟩ := List.exists_cons_of_ne_nil hne
        exact absurd (hall u (hus ▸ List.mem_cons_self)) (Nat.lt_irrefl 0)
      departed := fun u v _ => by
        rw [hcount (e := .going u) (by simp), Ledger.flying,
          hcount (e := .flying u v true) (by simp), hcount (e := .flying u v false) (by simp)]
        rfl
      live := fun u v h => by
        rcases h with h | h | h
        · cases hnone _ h
        · cases h
        · cases h
      going := fun u h => by cases hnone _ h
      dead := fun u v h => by cases hnone _ h
      skipping := fun v h => by
        rw [hcount (e := .skipping v) (by simp)] at h
        exact absurd h (Nat.lt_irrefl 0)
      done := fun v s _ h => absurd h (Nat.lt_irrefl 0)
      skipped := fun v s _ h => absurd h (Nat.lt_irrefl 0)
      blocked := fun v s _ _ hu => absurd hu.choose_spec (Nat.lt_irrefl 0)
      pending := fun v s hs _ _ => by
        rw [hnodes] at hs
        obtain ⟨n, -, rfl⟩ := Option.map_eq_some_iff.1 hs
        rfl
      executed := fun v => rfl
      steps := by
        refine (List.sum_eq_zero fun k hk => ?_).symm
        obtain ⟨v, -, rfl⟩ := List.mem_map.1 hk
        rw [hcount (e := .admitted v) (by simp)]
        rfl }

theorem advance (hg : g.IsWellFormed) (hj : Joins g r x) (hx : Exact g r x)
    (h : Advance g r x y) : Exact g r y where
  started := hx.started_advance h
  root := hx.root.trans_le (visits_le h g.root)
  full := hx.full_advance hg hj h
  departed _ _ := hx.departed_advance hg h
  live := hx.live_advance h
  going := hx.going_advance h
  dead := hx.dead_advance h
  skipping := hx.skipping_advance hg hj h
  done := hx.done_advance hg hj h
  skipped := hx.skipped_advance hg hj h
  blocked v s hs hv := (hx.unvisited_advance hj h v s hs hv).1
  pending v s hs hv := (hx.unvisited_advance hj h v s hs hv).2
  executed := hx.executed_advance h
  steps := hx.steps_advance hg hj h

theorem steps_lt (hg : g.IsWellFormed) (hj : Joins g r x) (hx : Exact g r x) {node : String}
    (hd : .dispatched node ∈ x.errands) : x.steps < g.nodes.length := by
  have hpos := Multiset.count_pos.2 hd
  have hone := hj.once node
  obtain ⟨n, hn⟩ := hj.exists_node_of_dispatched hg hd
  obtain ⟨hm, rfl⟩ := Graph.mem_of_node? hn
  rw [hx.steps, ← List.length_map (f := GraphNode.id)]
  refine sum_lt_length (fun v => ?_) (List.mem_map_of_mem hm) ?_
  · have hv := hj.once v
    unfold Ledger.visits at hv
    omega
  · unfold Ledger.visits at hone
    omega

end Exact

/-! ## What stops a run -/

/-- The failure is one of a condition, of an unusable component or of an execution. -/
def PipelineError.isOfNode : PipelineError → Bool
  | .conditionEval _ _ _ => true
  | .missingComponent _ _ => true
  | .componentExecution _ _ => true
  | _ => false

/-- The run is not halted without a reason. -/
def Reasoned (r : Nat) (x : Ledger) : Prop :=
  x.halted = true → (∃ node e, .failed r node e ∈ x.deeds) ∨ x.ended = true ∨ x.cancelled = true

theorem Reasoned.turn (hx : Reasoned r x) (h : Turn g r x y) : Reasoned r y := by
  intro hh
  have old : x.halted = true → x.deeds ⊆ y.deeds → (x.ended = true → y.ended = true) →
      (x.cancelled = true → y.cancelled = true) →
      (∃ node e, .failed r node e ∈ y.deeds) ∨ y.ended = true ∨ y.cancelled = true :=
    fun hh deeds ended cancelled => (hx hh).imp (fun ⟨v, e, hm⟩ => ⟨v, e, deeds hm⟩)
      (Or.imp ended cancelled)
  cases h
  case refuse | spoil | blame => exact .inl ⟨_, _, List.mem_cons_self⟩
  case halt => exact .inr (.inl rfl)
  case stop cancelled => exact .inr (.inr cancelled)
  case cancel => exact .inr (.inr rfl)
  case lose => exact old hh (List.subset_append_right _ _) id id
  case count =>
    exact old hh (List.subset_cons_of_subset _ (List.subset_append_right _ _)) id id
  all_goals exact old hh (List.Subset.refl _) id id

/-- A run that goes straight down its edges has an exact balance until it stops, and it does not stop
without a reason. -/
structure Steady (g : Graph Component) (r : Nat) (x : Ledger) : Prop where
  joins : Joins g r x
  exact : x.halted = false → x.cancelled = false → Exact g r x
  halted : Reasoned r x
  failed : g.nodes.length ≤ x.limit → ∀ node e, .failed r node e ∈ x.deeds → e.isOfNode

namespace Steady

theorem opening (hg : g.IsWellFormed) (r limit : Nat) (cancelled : Bool) :
    Steady g r (Ledger.opening g limit cancelled) where
  joins := .opening hg limit cancelled
  exact _ _ := .opening hg r limit cancelled
  halted := nofun
  failed _ _ _ := nofun

/-- While no node fails and the run neither ends early nor is cancelled, it is not halted. -/
theorem not_halted (hx : Steady g r x) (calm : ∀ node e, .failed r node e ∉ x.deeds)
    (ended : x.ended = false) (cancelled : x.cancelled = false) : x.halted = false := by
  refine Bool.eq_false_iff.2 fun hh => ?_
  rcases hx.halted hh with ⟨node, e, hd⟩ | he | hc
  · exact calm node e hd
  · cases he.symm.trans ended
  · cases hc.symm.trans cancelled

theorem exact_turn (hg : g.IsWellFormed) (hx : Steady g r x) (h : Turn g r x y)
    (halted : y.halted = false) (cancelled : y.cancelled = false) : Exact g r y := by
  have hh : x.halted = false := by
    by_contra hx
    cases (h.halted (Bool.eq_true_of_not_eq_false hx)).symm.trans halted
  have hc : x.cancelled = false := by
    by_contra hx
    cases (h.cancelled (Bool.eq_true_of_not_eq_false hx)).symm.trans cancelled
  exact (hx.exact hh hc).advance hg hx.joins (hx.joins.advance hg h halted cancelled)

theorem failed_turn (hg : g.IsWellFormed) (hx : Steady g r x) (h : Turn g r x y)
    (hle : g.nodes.length ≤ y.limit) (node : String) (e : PipelineError)
    (hm : .failed r node e ∈ y.deeds) : e.isOfNode := by
  rw [h.limit] at hle
  rcases h.failed_arises hm with hm | ⟨_, _, rfl⟩ | ⟨_, rfl⟩ | ⟨hd, goesOn, reason⟩
  · exact hx.failed hle node e hm
  · rfl
  · rfl
  · -- The dispatched node exists, and there are steps for every node.
    rcases reason with hnone | ⟨why, rfl⟩ | ⟨rfl, hlimit⟩
    · obtain ⟨n, hn⟩ := hx.joins.exists_node_of_dispatched hg hd
      cases hnone.symm.trans hn
    · rfl
    · have hlt := (hx.exact goesOn.1 goesOn.2).steps_lt hg hx.joins hd
      exact absurd (hle.trans hlimit) (Nat.not_le.2 hlt)

theorem turn (hg : g.IsWellFormed) (h : Turn g r x y) (hx : Steady g r x) : Steady g r y where
  joins := hx.joins.turn hg h
  exact := hx.exact_turn hg h
  halted := hx.halted.turn h
  failed := hx.failed_turn hg h

end Steady

end Conduit
