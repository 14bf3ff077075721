import Conduit.Proofs.Graph.Sound
import Conduit.Proofs.Run.Turns
import Mathlib.Algebra.Order.Ring.Nat

/-!
# Joins

In a run that goes straight down its edges every node is visited at most once, and only after all
nodes before it are closed. What keeps this is a balance: over every edge there is at most one
arrival, in flight or delivered, for the one time that its source was closed, and the gate of a node
has counted exactly the arrivals that were delivered.
-/

namespace Conduit

/-! ## Counts -/

namespace Happening

def starts (v : String) : Happening → Bool
  | .nodeStarted node _ => node == v
  | _ => false

def skips (v : String) : Happening → Bool
  | .nodeSkipped node => node == v
  | _ => false

def completes (v : String) : Happening → Bool
  | .nodeCompleted node => node == v
  | _ => false

/-- The node is started or skipped. -/
def opens (v : String) (h : Happening) : Bool := h.starts v || h.skips v

/-- The node is completed or skipped. -/
def closes (v : String) (h : Happening) : Bool := h.completes v || h.skips v

theorem isNode_of_starts {v : String} {e : Happening} (h : e.starts v) : e.isNode := by
  cases e with
  | nodeStarted => rfl
  | _ => cases h

theorem isNode_of_skips {v : String} {e : Happening} (h : e.skips v) : e.isNode := by
  cases e with
  | nodeSkipped => rfl
  | _ => cases h

theorem isNode_of_completes {v : String} {e : Happening} (h : e.completes v) : e.isNode := by
  cases e with
  | nodeCompleted => rfl
  | _ => cases h

theorem isNode_of_opens {v : String} {e : Happening} (h : e.opens v) : e.isNode :=
  (Bool.or_eq_true_iff.1 h).elim isNode_of_starts isNode_of_skips

end Happening

def Deed.delivers (u v : String) : Deed → Bool
  | .delivered _ source target _ => source == u && target == v
  | _ => false

def Errand.isFlying : Errand → Bool
  | .flying _ _ _ => true
  | _ => false

namespace Ledger

variable (l : Ledger) (u v : String)

def started : Nat := l.events.countP (Happening.starts v)

def skipped : Nat := l.events.countP (Happening.skips v)

def completed : Nat := l.events.countP (Happening.completes v)

def delivered : Nat := l.deeds.countP (Deed.delivers u v)

def flying : Nat := l.errands.count (.flying u v true) + l.errands.count (.flying u v false)

/-- How often the node was dispatched or is about to be. -/
def visits : Nat :=
  l.errands.count (.dispatched v) + l.errands.count (.admitted v) +
    l.errands.count (.skipping v) + l.started v + l.skipped v

/-- All nodes before the node have arrived, and there are some. -/
def IsFull (g : Graph Component) : Prop :=
  ∃ n, g.node? v = some n ∧ n.predecessors ≠ [] ∧ ∀ u ∈ n.predecessors, 0 < l.delivered u v

end Ledger

/-- Nodes were started and skipped only after all nodes before them were closed. The newest happening
comes first. -/
def InOrder (g : Graph Component) : List Happening → Prop
  | [] => True
  | h :: past =>
    (∀ v n, h.opens v → v ≠ g.root → g.node? v = some n →
      ∀ u ∈ n.predecessors, ∃ e ∈ past, e.closes u) ∧ InOrder g past

def NodeStatus.isOpen : NodeStatus → Bool
  | .pending => true
  | .blocked => true
  | _ => false

/-- How a status goes on. -/
inductive NodeStatus.Advances : NodeStatus → NodeStatus → Prop where
  | block : Advances .pending .blocked
  | run {s : NodeStatus} (h : s.isOpen) : Advances s .running
  | skip {s : NodeStatus} (h : s.isOpen) : Advances s .skipped
  | refuse {s : NodeStatus} (h : s.isOpen) : Advances s .failed
  | settle : Advances .running .done
  | blame : Advances .running .failed

/-- The gate of a node counts the arrivals that were delivered. -/
structure Gate.Counts (gate : Gate) (r : Nat) (l : Ledger) (n : GraphNode Component) : Prop where
  inbound : gate.inbound = n.predecessors.length
  remaining : gate.remaining + (n.predecessors.map fun u => l.delivered u n.id).sum =
    n.predecessors.length
  live : 0 < gate.live ↔ ∃ u, .delivered r u n.id true ∈ l.deeds

/-- The balance of a run. -/
structure Joins (g : Graph Component) (r : Nat) (l : Ledger) : Prop where
  once : ∀ v, l.visits v ≤ 1
  full : ∀ v, 0 < l.visits v → v = g.root ∨ l.IsFull v g
  reached : ∀ v, 0 < l.visits v → Relation.ReflTransGen g.Leads g.root v
  executed : ∀ v, l.errands.count (.during v) + l.completed v ≤ l.started v
  flights : ∀ u v, l.flying u v + l.delivered u v + l.errands.count (.going u) ≤
    l.completed u + l.skipped u
  edges : ∀ u v, 0 < l.flying u v + l.delivered u v → g.Leads u v
  nodes : ∀ v, (l.nodes v).isSome = (g.node? v).isSome
  gates : ∀ v s n, l.nodes v = some s → g.node? v = some n → s.gate.Counts r l n
  live : ∀ v, 0 < l.errands.count (.dispatched v) + l.errands.count (.admitted v) + l.started v →
    v = g.root ∨ ∃ u, .delivered r u v true ∈ l.deeds
  order : InOrder g l.events
  running : ∀ v s, l.nodes v = some s → 0 < l.errands.count (.during v) → s.status = .running
  waiting : ∀ v s, l.nodes v = some s →
    0 < l.errands.count (.dispatched v) + l.errands.count (.admitted v) +
      l.errands.count (.skipping v) → s.status.isOpen
  untouched : ∀ v s, l.nodes v = some s → l.halted = false → l.started v + l.skipped v = 0 →
    s.status.isOpen

namespace Joins

variable {g : Graph Component} {r : Nat} {x y : Ledger}

/-! ## Departures -/

theorem mem_departures {source : String} {live : Bool} {e : Errand}
    (h : e ∈ g.departures source live) :
    ∃ target, e = .flying source target live ∧ g.Leads source target := by
  unfold Graph.departures at h
  split at h
  · next n hn =>
    obtain ⟨edge, he, rfl⟩ := List.mem_map.1 (Multiset.mem_coe.1 h)
    exact ⟨edge.target, rfl, n, hn, edge, he, rfl⟩
  · exact absurd h (Multiset.notMem_zero _)

theorem count_departures (source : String) (live : Bool) {e : Errand} (he : e.isFlying = false) :
    (g.departures source live).count e = 0 := by
  refine Multiset.count_eq_zero.2 fun hm => ?_
  obtain ⟨target, rfl, -⟩ := mem_departures hm
  cases he

theorem count_departures_flying (hg : g.IsWellFormed) (source : String) (live : Bool)
    (u v : String) (b : Bool) :
    (g.departures source live).count (.flying u v b) ≤ if u = source ∧ b = live then 1 else 0 := by
  by_cases h : u = source ∧ b = live
  · obtain ⟨rfl, rfl⟩ := h
    rw [if_pos ⟨rfl, rfl⟩]
    unfold Graph.departures
    split
    · next n hn =>
      have hinj : Function.Injective fun v => Errand.flying u v b := fun _ _ h => by
        simpa using h
      have hmap : n.edges.map (fun edge => Errand.flying u edge.target b) =
          (n.edges.map Edge.target).map fun v => Errand.flying u v b := by
        rw [List.map_map]
        rfl
      rw [Multiset.coe_count, hmap, List.count_map_of_injective _ _ hinj]
      exact List.nodup_iff_count_le_one.1 (hg.targets hn) v
    · exact Nat.zero_le _
  · rw [if_neg h, Nat.le_zero, Multiset.count_eq_zero]
    intro hm
    obtain ⟨target, he, -⟩ := mem_departures hm
    cases he
    exact h ⟨rfl, rfl⟩

/-! ## What the balance means for an arrival -/

theorem rank_le_of_reached {rank : String → Nat} (hr : ∀ {u v}, g.Leads u v → rank u < rank v)
    {u v : String} (h : Relation.ReflTransGen g.Leads u v) : rank u ≤ rank v := by
  induction h with
  | refl => exact Nat.le_refl _
  | tail _ he ih => exact ih.trans (hr he).le

theorem closed_le (hj : Joins g r x) (v : String) :
    x.completed v + x.skipped v ≤ x.visits v ∧ x.completed v + x.skipped v ≤ 1 := by
  have ho := hj.once v
  have he := hj.executed v
  unfold Ledger.visits at *
  omega

theorem delivered_le (hj : Joins g r x) (u v : String) : x.delivered u v ≤ 1 := by
  have hf := hj.flights u v
  have hc := (hj.closed_le u).2
  omega

theorem of_flying (hg : g.IsWellFormed) (hj : Joins g r x) {u v : String}
    (h : 0 < x.flying u v) :
    x.delivered u v = 0 ∧ 0 < x.visits u ∧ g.Leads u v ∧ v ≠ g.root ∧ x.visits v = 0 := by
  have hf := hj.flights u v
  have hc := hj.closed_le u
  have he := hj.edges u v (by omega)
  have hu : 0 < x.visits u := by omega
  have hd : x.delivered u v = 0 := by omega
  have hroot : v ≠ g.root := by
    rintro rfl
    obtain ⟨rank, hr⟩ := hg.acyclic
    have hle := rank_le_of_reached hr (hj.reached u hu)
    have hlt := hr he
    omega
  refine ⟨hd, hu, he, hroot, ?_⟩
  by_contra hv
  rcases hj.full v (Nat.pos_of_ne_zero hv) with hv | ⟨n, hn, -, hall⟩
  · exact hroot hv
  · have hpos := hall u ((hg.mem_predecessors hn).2 he)
    omega

/-! ## Gates -/

theorem sum_lt_length {f : String → Nat} {xs : List String} (hle : ∀ u, f u ≤ 1) {u : String}
    (hu : u ∈ xs) (hz : f u = 0) : (xs.map f).sum < xs.length := by
  have hsum : ∀ ys : List String, (ys.map f).sum ≤ ys.length := by
    intro ys
    induction ys with
    | nil => exact Nat.le_refl 0
    | cons a ys ih =>
      have ha := hle a
      simp only [List.map_cons, List.sum_cons, List.length_cons]
      omega
  induction xs with
  | nil => cases hu
  | cons a xs ih =>
    have ha := hle a
    have hxs := hsum xs
    simp only [List.map_cons, List.sum_cons, List.length_cons]
    rcases List.mem_cons.1 hu with rfl | hu
    · omega
    · have hlt := ih hu
      omega

theorem sum_succ (f f' : String → Nat) {xs : List String} (hxs : xs.Nodup) {u : String}
    (hu : u ∈ xs) (hsucc : f' u = f u + 1) (hsame : ∀ a, a ≠ u → f' a = f a) :
    (xs.map f').sum = (xs.map f).sum + 1 := by
  induction xs with
  | nil => cases hu
  | cons a xs ih =>
    obtain ⟨ha, hxs⟩ := List.nodup_cons.1 hxs
    simp only [List.map_cons, List.sum_cons]
    rcases List.mem_cons.1 hu with rfl | hu
    · have hrest : xs.map f' = xs.map f := by
        refine List.map_congr_left fun b hb => hsame b ?_
        rintro rfl
        exact ha hb
      rw [hrest, hsucc]
      omega
    · have hne : a ≠ u := by
        rintro rfl
        exact ha hu
      rw [ih hxs hu, hsame a hne]
      omega

theorem arrive_of_pos {gate : Gate} (h : 0 < gate.remaining) (live : Bool) :
    (gate.arrive live).1.remaining + 1 = gate.remaining ∧
      (0 < (gate.arrive live).1.live ↔ 0 < gate.live ∨ live = true) ∧
      ((gate.arrive live).2 = .waiting ↔ 0 < (gate.arrive live).1.remaining) ∧
      ((gate.arrive live).2 = .fire →
        (gate.arrive live).1.remaining = 0 ∧ 0 < (gate.arrive live).1.live) ∧
      ((gate.arrive live).2 = .skip →
        (gate.arrive live).1.remaining = 0 ∧ (gate.arrive live).1.live = 0) := by
  have hr : gate.rearmed = gate := by
    unfold Gate.rearmed
    rw [if_neg (Nat.ne_of_gt h)]
  unfold Gate.arrive
  dsimp only
  rw [hr]
  cases live <;> simp <;> grind

theorem delivered_cons (u v source target : String) (passed : Bool) (asks : List Deed)
    (hasks : ∀ d ∈ asks, d.delivers u v = false) (z : Ledger)
    (hz : z.deeds = .delivered r source target passed :: (asks ++ x.deeds)) :
    z.delivered u v = x.delivered u v + if u = source ∧ v = target then 1 else 0 := by
  have ha : asks.countP (Deed.delivers u v) = 0 :=
    List.countP_eq_zero.2 fun d hd => Bool.eq_false_iff.1 (hasks d hd)
  unfold Ledger.delivered
  rw [hz, List.countP_cons, List.countP_append, ha, zero_add]
  by_cases h : u = source ∧ v = target
  · obtain ⟨rfl, rfl⟩ := h
    simp [Deed.delivers]
  · have hd : Deed.delivers u v (.delivered r source target passed) = false := by
      simp only [Deed.delivers, Bool.and_eq_false_iff, beq_eq_false_iff_ne]
      grind
    simp [hd, h]

theorem delivered_asks (u v source target : String) (asks : List Deed) {live : Bool}
    (hasks : asks = [] ∨ live = true ∧ asks = [.asked r source target]) (deeds : List Deed) :
    (asks ++ deeds).countP (Deed.delivers u v) = deeds.countP (Deed.delivers u v) := by
  rcases hasks with rfl | ⟨-, rfl⟩
  · rfl
  · exact List.countP_cons_of_neg (by simp [Deed.delivers])

/-! ## Turns that deliver nothing -/

theorem get_withStatus {nodes : String → Option NodeState} {node v : String} {st : NodeStatus}
    {s : NodeState} (h : withStatus nodes node st v = some s) :
    ∃ s₀, nodes v = some s₀ ∧ s.gate = s₀.gate ∧ s.status = if node = v then st else s₀.status := by
  unfold withStatus at h
  by_cases hv : node = v
  · subst hv
    rw [if_pos rfl] at h
    obtain ⟨s₀, h₀, rfl⟩ := Option.map_eq_some_iff.1 h
    exact ⟨s₀, h₀, rfl, (if_pos rfl).symm⟩
  · rw [if_neg hv] at h
    exact ⟨s, h, rfl, (if_neg hv).symm⟩

theorem isSome_withStatus (nodes : String → Option NodeState) (node v : String) (st : NodeStatus) :
    (withStatus nodes node st v).isSome = (nodes v).isSome := by
  unfold withStatus
  split
  · next h => rw [Option.isSome_map, h]
  · rfl

theorem flying_pos {source target : String} {live : Bool} {rest : Multiset Errand}
    (errands : x.errands = .flying source target live ::ₘ rest) : 0 < x.flying source target := by
  unfold Ledger.flying
  rw [errands]
  cases live <;> simp only [Multiset.count_cons] <;> grind

theorem not_lost (hg : g.IsWellFormed) (hj : Joins g r x) {source target : String} {live : Bool}
    {rest : Multiset Errand} (errands : x.errands = .flying source target live ::ₘ rest)
    (state : x.nodes target = none) : False := by
  obtain ⟨n, hn⟩ := hg.target (hj.of_flying hg (flying_pos errands)).2.2.1
  have hnode := hj.nodes target
  rw [state, hn] at hnode
  cases hnode

/-- An arrival that is counted comes over an edge, and its target waits for it. -/
theorem of_count (hg : g.IsWellFormed) (hj : Joins g r x) {source target : String} {live : Bool}
    {rest : Multiset Errand} {s : NodeState}
    (errands : x.errands = .flying source target live ::ₘ rest)
    (state : x.nodes target = some s) :
    ∃ n, g.node? target = some n ∧ source ∈ n.predecessors ∧ 0 < s.gate.remaining ∧
      x.delivered source target = 0 ∧ 0 < x.visits source ∧ g.Leads source target ∧
      target ≠ g.root ∧ x.visits target = 0 := by
  obtain ⟨hd, hu, he, hroot, hv⟩ := hj.of_flying hg (flying_pos errands)
  obtain ⟨n, hn⟩ := hg.target he
  have hm := (hg.mem_predecessors hn).2 he
  have hsum := sum_lt_length (hj.delivered_le · target) hm hd
  have hc := hj.gates target s n state hn
  have hrem := hc.remaining
  rw [(Graph.mem_of_node? hn).2] at hrem
  exact ⟨n, hn, hm, by omega, hd, hu, he, hroot, hv⟩

/-- No arrival is delivered from one ledger to the other, and the gates stay as they are. -/
structure Still (x y : Ledger) : Prop where
  deeds : ∃ news, y.deeds = news ++ x.deeds ∧ ∀ d ∈ news, ∀ u v, d.delivers u v = false
  isSome : ∀ v, (y.nodes v).isSome = (x.nodes v).isSome
  gates : ∀ v s, y.nodes v = some s → ∃ s₀, x.nodes v = some s₀ ∧ s.gate = s₀.gate

/-- An arrival over an edge is delivered from one ledger to the other. -/
structure Landed (g : Graph Component) (r : Nat) (x y : Ledger) (source target : String)
    (passed : Bool) : Prop where
  deeds : ∃ asks, y.deeds = .delivered r source target passed :: (asks ++ x.deeds) ∧
    ∀ d ∈ asks, ∀ u v, d.delivers u v = false
  nodes : y.nodes = withArrival x.nodes target passed
  state : ∃ s n, x.nodes target = some s ∧ g.node? target = some n ∧ source ∈ n.predecessors ∧
    0 < s.gate.remaining
  first : x.delivered source target = 0

theorem still_of_status {node : String} {st : NodeStatus} (news : List Deed)
    (hn : y.nodes = withStatus x.nodes node st) (hd : y.deeds = news ++ x.deeds)
    (hnews : ∀ d ∈ news, ∀ u v, d.delivers u v = false) : Still x y where
  deeds := ⟨news, hd, hnews⟩
  isSome v := by
    rw [hn, isSome_withStatus]
  gates v s hs := by
    rw [hn] at hs
    exact (get_withStatus hs).imp fun _ h => ⟨h.1, h.2.1⟩

theorem still_of_nodes (hn : y.nodes = x.nodes) (hd : y.deeds = x.deeds) : Still x y where
  deeds := ⟨[], hd, fun _ h => absurd h List.not_mem_nil⟩
  isSome v := by rw [hn]
  gates v s hs := ⟨s, hn ▸ hs, rfl⟩

theorem not_delivers_of_asks {asks : List Deed} {source target : String} {live : Bool}
    (h : asks = [] ∨ live = true ∧ asks = [.asked r source target]) :
    ∀ d ∈ asks, ∀ u v, d.delivers u v = false := by
  rcases h with rfl | ⟨-, rfl⟩ <;> simp [Deed.delivers]

theorem still_or_counted (h : Turn g r x y) :
    Still x y ∨ ∃ source target live passed rest asks s,
      x.errands = .flying source target live ::ₘ rest ∧ x.nodes target = some s ∧
      y.deeds = .delivered r source target passed :: (asks ++ x.deeds) ∧
      (∀ d ∈ asks, ∀ u v, d.delivers u v = false) ∧ y.nodes = withArrival x.nodes target passed := by
  cases h
  case count source target live passed rest s asks errands _ state _ hasks =>
    exact .inr ⟨source, target, live, passed, rest, asks, s, errands, state, rfl,
      not_delivers_of_asks hasks, rfl⟩
  case lose asks _ hasks _ _ =>
    exact .inl ⟨⟨asks, rfl, not_delivers_of_asks hasks⟩, fun _ => rfl, fun _ s hs => ⟨s, hs, rfl⟩⟩
  case drop | take | halt | spread | stop | cancel => exact .inl (still_of_nodes rfl rfl)
  case refuse => exact .inl (still_of_status [_, _] rfl rfl (by simp [Deed.delivers]))
  case spoil | blame => exact .inl (still_of_status [_] rfl rfl (by simp [Deed.delivers]))
  case skip | start | abandon | settle => exact .inl (still_of_status [] rfl rfl (by simp))

/-- From one ledger to the other at most one arrival is delivered. -/
def Onward (g : Graph Component) (r : Nat) (x y : Ledger) : Prop :=
  Still x y ∨ ∃ source target passed, Landed g r x y source target passed

theorem onward (hg : g.IsWellFormed) (hj : Joins g r x) (h : Turn g r x y) : Onward g r x y := by
  refine (still_or_counted h).imp_right ?_
  rintro ⟨source, target, live, passed, rest, asks, s, errands, state, hd, hasks, hnodes⟩
  obtain ⟨n, hn, hm, hrem, hfirst, -⟩ := hj.of_count hg errands state
  exact ⟨source, target, passed, ⟨asks, hd, hasks⟩, hnodes, ⟨s, n, state, hn, hm, hrem⟩, hfirst⟩

theorem Landed.delivered {source target : String} {passed : Bool}
    (h : Landed g r x y source target passed) (u v : String) :
    y.delivered u v = x.delivered u v + if u = source ∧ v = target then 1 else 0 := by
  obtain ⟨asks, hd, ha⟩ := h.deeds
  exact delivered_cons u v source target passed asks (fun d hm => ha d hm u v) y hd

theorem Still.delivered (h : Still x y) (u v : String) : y.delivered u v = x.delivered u v := by
  obtain ⟨news, hd, hn⟩ := h.deeds
  have hz : news.countP (Deed.delivers u v) = 0 :=
    List.countP_eq_zero.2 fun d hm => Bool.eq_false_iff.1 (hn d hm u v)
  unfold Ledger.delivered
  rw [hd, List.countP_append, hz, zero_add]

theorem Still.mem_deeds (h : Still x y) {u v : String} {live : Bool} :
    .delivered r u v live ∈ y.deeds ↔ .delivered r u v live ∈ x.deeds := by
  obtain ⟨news, hd, hn⟩ := h.deeds
  rw [hd, List.mem_append, or_iff_right]
  intro hm
  have hf := hn _ hm u v
  simp [Deed.delivers] at hf

theorem Landed.mem_deeds {source target : String} {passed : Bool}
    (h : Landed g r x y source target passed) {u v : String} {live : Bool} :
    .delivered r u v live ∈ y.deeds ↔
      (u = source ∧ v = target ∧ live = passed) ∨ .delivered r u v live ∈ x.deeds := by
  obtain ⟨asks, hd, ha⟩ := h.deeds
  have hno : .delivered r u v live ∉ asks := by
    intro hm
    have hf := ha _ hm u v
    simp [Deed.delivers] at hf
  rw [hd, List.mem_cons, List.mem_append, or_iff_right hno]
  simp

theorem Onward.delivered_le (h : Onward g r x y) (u v : String) :
    x.delivered u v ≤ y.delivered u v := by
  rcases h with h | ⟨source, target, passed, h⟩
  · exact (h.delivered u v).ge
  · have hd := h.delivered u v
    omega

theorem Onward.mem_deeds (h : Onward g r x y) {u v : String} {live : Bool}
    (hm : .delivered r u v live ∈ x.deeds) : .delivered r u v live ∈ y.deeds := by
  rcases h with h | ⟨source, target, passed, h⟩
  · exact h.mem_deeds.2 hm
  · exact h.mem_deeds.2 (.inr hm)

theorem Onward.isFull (h : Onward g r x y) {v : String} (hv : x.IsFull v g) : y.IsFull v g := by
  obtain ⟨n, hn, hp, hall⟩ := hv
  exact ⟨n, hn, hp, fun u hu => (hall u hu).trans_le (h.delivered_le u v)⟩

theorem get_withArrival {nodes : String → Option NodeState} {node v : String} {live : Bool}
    {s : NodeState} (h : withArrival nodes node live v = some s) :
    node ≠ v ∧ nodes v = some s ∨ node = v ∧ ∃ s₀, nodes v = some s₀ ∧
      s.gate = (s₀.gate.arrive live).1 ∧ s.status = if (s₀.gate.arrive live).2 = .waiting ∧
        s₀.status = .pending then .blocked else s₀.status := by
  unfold withArrival at h
  by_cases hv : node = v
  · subst hv
    rw [if_pos rfl] at h
    obtain ⟨s₀, h₀, rfl⟩ := Option.map_eq_some_iff.1 h
    exact .inr ⟨rfl, s₀, h₀, rfl, rfl⟩
  · rw [if_neg hv] at h
    exact .inl ⟨hv, h⟩

theorem Onward.nodes (h : Onward g r x y) (v : String) :
    (y.nodes v).isSome = (x.nodes v).isSome := by
  rcases h with h | ⟨source, target, passed, h⟩
  · exact h.isSome v
  · rw [h.nodes]
    unfold withArrival
    split
    · next hv => rw [Option.isSome_map, hv]
    · rfl

theorem Landed.gates (hg : g.IsWellFormed) (hj : Joins g r x) {source target : String}
    {passed : Bool} (h : Landed g r x y source target passed) {v : String} {s : NodeState}
    {n : GraphNode Component} (hs : y.nodes v = some s) (hn : g.node? v = some n) :
    s.gate.Counts r y n := by
  obtain ⟨hm, rfl⟩ := Graph.mem_of_node? hn
  rw [h.nodes] at hs
  rcases get_withArrival hs with ⟨hne, hs⟩ | ⟨rfl, s₀, hs₀, hgate, -⟩
  · have hc := hj.gates n.id s n hs hn
    have hd : ∀ u, y.delivered u n.id = x.delivered u n.id := by
      intro u
      rw [h.delivered, if_neg fun hu => hne hu.2.symm, add_zero]
    refine ⟨hc.inbound, ?_, ?_⟩
    · simp only [hd]
      exact hc.remaining
    · rw [hc.live]
      refine exists_congr fun u => ?_
      rw [h.mem_deeds]
      exact ⟨.inr, fun hu => hu.resolve_left fun hu => hne hu.2.1.symm⟩
  · obtain ⟨s₁, n₁, hs₁, hn₁, hsource, hpos⟩ := h.state
    rw [hs₀] at hs₁
    rw [hn] at hn₁
    cases hs₁
    cases hn₁
    have hc := hj.gates n.id s₀ n hs₀ hn
    obtain ⟨hrem, hlive, -⟩ := arrive_of_pos hpos passed
    have hsum := sum_succ (fun u => x.delivered u n.id) (fun u => y.delivered u n.id)
      (hg.predecessors hn) hsource (by simp [h.delivered]) (by simp +contextual [h.delivered])
    have hcr := hc.remaining
    rw [hgate]
    refine ⟨(Gate.arrive_inbound _ _).trans hc.inbound, ?_, ?_⟩
    · rw [hsum]
      omega
    · rw [hlive, hc.live]
      constructor
      · rintro (⟨u, hu⟩ | rfl)
        · exact ⟨u, h.mem_deeds.2 (.inr hu)⟩
        · exact ⟨source, h.mem_deeds.2 (.inl ⟨rfl, rfl, rfl⟩)⟩
      · rintro ⟨u, hu⟩
        rcases h.mem_deeds.1 hu with ⟨-, -, hp⟩ | hu
        · exact .inr hp.symm
        · exact .inl ⟨u, hu⟩

theorem gates_turn (hg : g.IsWellFormed) (hj : Joins g r x) (h : Onward g r x y) (v : String)
    (s : NodeState) (n : GraphNode Component) (hs : y.nodes v = some s) (hn : g.node? v = some n) :
    s.gate.Counts r y n := by
  rcases h with h | ⟨source, target, passed, h⟩
  · obtain ⟨s₀, hs₀, hgate⟩ := h.gates v s hs
    have hc := hj.gates v s₀ n hs₀ hn
    refine ⟨hgate ▸ hc.inbound, ?_, ?_⟩
    · simp only [hgate, h.delivered]
      exact hc.remaining
    · simp only [hgate, h.mem_deeds]
      exact hc.live
  · exact h.gates hg hj hs hn

/-! ## Visits -/

theorem pos_of_sum_eq {f : String → Nat} {xs : List String} (hle : ∀ u, f u ≤ 1)
    (h : (xs.map f).sum = xs.length) : ∀ u ∈ xs, 0 < f u := by
  intro u hu
  by_contra hz
  have hlt := sum_lt_length hle hu (by omega)
  omega

theorem Landed.isFull (hg : g.IsWellFormed) (hj : Joins g r x) {source target : String}
    {passed : Bool} (h : Landed g r x y source target passed) {s : NodeState}
    (hs : x.nodes target = some s) (hw : (s.gate.arrive passed).2 ≠ .waiting) :
    y.IsFull target g := by
  obtain ⟨s₁, n, hs₁, hn, hm, hpos⟩ := h.state
  rw [hs] at hs₁
  cases hs₁
  obtain ⟨-, -, hwait, -⟩ := arrive_of_pos hpos passed
  have hy : y.nodes target = some ⟨(s.gate.arrive passed).1, if (s.gate.arrive passed).2 = .waiting ∧
      s.status = .pending then .blocked else s.status⟩ := by
    rw [h.nodes, withArrival, if_pos rfl, hs, Option.map_some]
  have hc := (h.gates hg hj hy hn).remaining
  have hid := (Graph.mem_of_node? hn).2
  subst hid
  have hrem : (s.gate.arrive passed).1.remaining = 0 := by
    by_contra hne
    exact hw (hwait.2 (Nat.pos_of_ne_zero hne))
  have hle : ∀ u, y.delivered u n.id ≤ 1 := by
    intro u
    have hd := h.delivered u n.id
    have hx := hj.delivered_le u n.id
    have hfirst := h.first
    by_cases hu : u = source
    · subst hu
      simp at hd
      omega
    · simp [hu] at hd
      omega
  -- As many arrivals as nodes before, and at most one of each: each has arrived.
  refine ⟨n, hn, List.ne_nil_of_mem hm, pos_of_sum_eq hle ?_⟩
  dsimp only at hc
  omega

/-- A node is visited anew only by the last arrival at it. -/
theorem visits_turn (hg : g.IsWellFormed) (hj : Joins g r x) (h : Turn g r x y) (v : String) :
    y.visits v ≤ x.visits v ∨ x.visits v = 0 ∧ y.visits v = 1 ∧ y.IsFull v g ∧
      ∃ u, 0 < x.visits u ∧ g.Leads u v := by
  cases h
  case count source target live passed rest s asks errands _ state _ hasks =>
    obtain ⟨n, hn, hm, hpos, hd, hu, he, -, hv⟩ := hj.of_count hg errands state
    -- Only the arrival that opens the gate visits a node, and it is the last to come.
    by_cases hopens : (s.gate.arrive passed).2 ≠ .waiting ∧ v = target
    · obtain ⟨hw, rfl⟩ := hopens
      refine .inr ⟨hv, ?_, ?_, source, hu, he⟩
      · simp only [Ledger.visits, Ledger.started, Ledger.skipped, errands, Multiset.count_cons]
          at hv ⊢
        simp only [Multiset.count_add, Arrival.count_errands]
        cases ha : (s.gate.arrive passed).2
        · exact absurd ha hw
        all_goals grind
      · exact Landed.isFull hg hj ⟨⟨asks, rfl, not_delivers_of_asks hasks⟩, rfl,
          ⟨s, n, state, hn, hm, hpos⟩, hd⟩ state hw
    · refine .inl ?_
      simp only [Ledger.visits, Ledger.started, Ledger.skipped, errands, Multiset.count_cons,
        Multiset.count_add, Arrival.count_errands]
      grind
  case skip node _ _ | spread node _ _ _ =>
    refine .inl ?_
    simp only [Ledger.visits, Ledger.started, Ledger.skipped, *, Multiset.count_cons,
      Multiset.count_add, List.countP_cons, Happening.starts, Happening.skips]
    rw [count_departures _ _ rfl, count_departures _ _ rfl, count_departures _ _ rfl]
    grind
  all_goals
    refine .inl ?_
    simp only [Ledger.visits, Ledger.started, Ledger.skipped, *, Multiset.count_cons,
      List.countP_cons, Happening.starts, Happening.skips]
    grind

theorem executed_turn (h : Turn g r x y) {v : String}
    (he : x.errands.count (.during v) + x.completed v ≤ x.started v) :
    y.errands.count (.during v) + y.completed v ≤ y.started v := by
  cases h
  case count source target live passed rest s asks errands _ _ _ _ =>
    simp only [Ledger.completed, Ledger.started, errands, Multiset.count_cons, Multiset.count_add,
      Arrival.count_errands] at he ⊢
    grind
  case skip | spread =>
    simp only [Ledger.completed, Ledger.started, *, Multiset.count_cons, Multiset.count_add,
      List.countP_cons, Happening.starts, Happening.completes] at he ⊢
    rw [count_departures _ _ rfl]
    grind
  all_goals
    simp only [Ledger.completed, Ledger.started, *, Multiset.count_cons, List.countP_cons,
      Happening.starts, Happening.completes] at he ⊢
    grind

/-- A flight that is over counts as a delivery. -/
theorem flights_turn (hg : g.IsWellFormed) (h : Turn g r x y) {u v : String}
    (hf : x.flying u v + x.delivered u v + x.errands.count (.going u) ≤
      x.completed u + x.skipped u) :
    y.flying u v + y.delivered u v + y.errands.count (.going u) ≤ y.completed u + y.skipped u := by
  cases h
  case count source target live passed rest s asks errands _ state _ hasks =>
    rw [delivered_cons u v source target passed asks
      (fun d hd => not_delivers_of_asks hasks d hd u v) _ rfl]
    simp only [Ledger.completed, Ledger.skipped, Ledger.flying, errands, Multiset.count_cons,
      Multiset.count_add, Arrival.count_errands] at hf ⊢
    cases live <;> grind
  case lose asks _ hasks errands _ =>
    have hd := delivered_asks u v _ _ asks hasks x.deeds
    simp only [Ledger.completed, Ledger.skipped, Ledger.flying, Ledger.delivered, errands, hd,
      Multiset.count_cons] at hf ⊢
    grind
  -- A node that is skipped sends one dead arrival along each of its edges.
  case skip node rest errands =>
    have ht := count_departures_flying hg node false u v true
    have hf' := count_departures_flying hg node false u v false
    simp only [Ledger.completed, Ledger.skipped, Ledger.flying, Ledger.delivered, errands,
      Multiset.count_cons, Multiset.count_add, List.countP_cons, Happening.completes,
      Happening.skips] at hf ⊢
    rw [count_departures _ _ (e := .going u) rfl]
    grind
  case spread node rest errands _ =>
    have ht := count_departures_flying hg node true u v true
    have hf' := count_departures_flying hg node true u v false
    simp only [Ledger.completed, Ledger.skipped, Ledger.flying, Ledger.delivered, errands,
      Multiset.count_cons, Multiset.count_add] at hf ⊢
    rw [count_departures _ _ (e := .going u) rfl]
    grind
  all_goals
    simp only [Ledger.completed, Ledger.skipped, Ledger.flying, Ledger.delivered, *,
      Multiset.count_cons, List.countP_cons, Happening.completes, Happening.skips, Deed.delivers]
      at hf ⊢
    grind

theorem count_departures_of_not_leads {u v : String} (hn : ¬g.Leads u v) (node : String)
    (live b : Bool) : (g.departures node live).count (.flying u v b) = 0 := by
  refine Multiset.count_eq_zero.2 fun hm => hn ?_
  obtain ⟨target, ht, hl⟩ := mem_departures hm
  cases ht
  exact hl

theorem edges_turn (h : Turn g r x y)
    (hedges : ∀ u v, 0 < x.flying u v + x.delivered u v → g.Leads u v) (u v : String)
    (hpos : 0 < y.flying u v + y.delivered u v) : g.Leads u v := by
  have he := hedges u v
  cases h
  case count source target live passed rest s asks errands _ state _ hasks =>
    have hl := hedges _ _ (Nat.add_pos_left (flying_pos errands) _)
    rw [delivered_cons u v source target passed asks
      (fun d hd => not_delivers_of_asks hasks d hd u v) _ rfl] at hpos
    simp only [Ledger.flying, errands, Multiset.count_cons, Multiset.count_add,
      Arrival.count_errands] at he hpos
    grind
  case lose asks _ hasks errands _ =>
    have hd := delivered_asks u v _ _ asks hasks x.deeds
    simp only [Ledger.flying, Ledger.delivered, errands, hd, Multiset.count_cons] at he hpos
    grind
  -- Whoever departs from a node flies along one of its edges.
  case skip node rest errands | spread node rest errands _ =>
    by_contra hn
    simp only [Ledger.flying, Ledger.delivered, errands, Multiset.count_cons,
      Multiset.count_add, count_departures_of_not_leads hn] at he hpos
    grind
  all_goals
    simp only [Ledger.flying, Ledger.delivered, *, Multiset.count_cons, List.countP_cons,
      Deed.delivers] at he hpos
    grind

theorem live_turn (hg : g.IsWellFormed) (hj : Joins g r x) (h : Turn g r x y) (v : String)
    (hpos : 0 < y.errands.count (.dispatched v) + y.errands.count (.admitted v) + y.started v) :
    v = g.root ∨ ∃ u, .delivered r u v true ∈ y.deeds := by
  have hon := hj.onward hg h
  have hold : 0 < x.errands.count (.dispatched v) + x.errands.count (.admitted v) + x.started v →
      v = g.root ∨ ∃ u, .delivered r u v true ∈ y.deeds := fun hx =>
    (hj.live v hx).imp_right fun ⟨u, hu⟩ => ⟨u, hon.mem_deeds hu⟩
  cases h
  case count source target live passed rest s asks errands _ state _ hasks =>
    -- A gate that fires has counted a live arrival, which has been delivered.
    by_cases hfire : (s.gate.arrive passed).2 = .fire ∧ v = target
    · obtain ⟨hf, rfl⟩ := hfire
      obtain ⟨n, hn, -, hrem, -⟩ := hj.of_count hg errands state
      have hlive := (arrive_of_pos hrem passed).2.2.2.1 hf
      have hid := (Graph.mem_of_node? hn).2
      have hy : withArrival x.nodes v passed v = some _ :=
        (if_pos rfl).trans (congrArg (Option.map _) state)
      exact .inr (hid ▸ (hj.gates_turn hg hon v _ n hy hn).live.1 hlive.2)
    · refine hold ?_
      simp only [Ledger.started, errands, Multiset.count_cons] at hpos ⊢
      simp only [Multiset.count_add, Arrival.count_errands] at hpos
      grind
  case skip | spread =>
    refine hold ?_
    simp only [Ledger.started, *, Multiset.count_cons, Multiset.count_add, List.countP_cons,
      Happening.starts] at hpos ⊢
    rw [count_departures _ _ rfl, count_departures _ _ rfl] at hpos
    grind
  all_goals
    refine hold ?_
    simp only [Ledger.started, *, Multiset.count_cons, List.countP_cons, Happening.starts] at hpos ⊢
    grind

theorem closed_before (hj : Joins g r x) {v : String}
    {n : GraphNode Component} (hv : 0 < x.visits v) (hroot : v ≠ g.root)
    (hn : g.node? v = some n) : ∀ u ∈ n.predecessors, ∃ e ∈ x.events, e.closes u := by
  intro u hu
  obtain ⟨m, hm, -, hall⟩ := (hj.full v hv).resolve_left hroot
  rw [hn] at hm
  cases hm
  have hd := hall u hu
  have hf := hj.flights u v
  have hc : 0 < x.completed u + x.skipped u := by omega
  rcases Nat.add_pos_iff_pos_or_pos.1 hc with hc | hc
  · obtain ⟨e, he, hb⟩ := List.countP_pos_iff.1 hc
    exact ⟨e, he, Bool.or_eq_true_iff.2 (.inl hb)⟩
  · obtain ⟨e, he, hb⟩ := List.countP_pos_iff.1 hc
    exact ⟨e, he, Bool.or_eq_true_iff.2 (.inr hb)⟩

theorem order_turn (hj : Joins g r x) (h : Turn g r x y) :
    InOrder g y.events := by
  have ho := hj.order
  cases h
  case drop | lose | count | take | halt | spread | stop | cancel => exact ho
  case refuse | spoil | abandon | blame | settle =>
    exact ⟨fun v n hop => by simp [Happening.opens, Happening.starts, Happening.skips] at hop, ho⟩
  case skip node rest errands =>
    refine ⟨fun v n hop hroot hn => ?_, ho⟩
    have hv : node = v := by
      simpa [Happening.opens, Happening.starts, Happening.skips] using hop
    subst hv
    refine hj.closed_before ?_ hroot hn
    simp only [Ledger.visits, errands, Multiset.count_cons]
    grind
  case start node rest n' errands _ _ =>
    refine ⟨fun v n hop hroot hn => ?_, ho⟩
    have hv : node = v := by
      simpa [Happening.opens, Happening.starts, Happening.skips] using hop
    subst hv
    refine hj.closed_before ?_ hroot hn
    simp only [Ledger.visits, errands, Multiset.count_cons]
    grind

/-! ## Statuses -/

theorem running_turn (hg : g.IsWellFormed) (hj : Joins g r x) (h : Turn g r x y) (v : String)
    (s : NodeState) (hs : y.nodes v = some s) (hd : 0 < y.errands.count (.during v)) :
    s.status = .running := by
  have hone := hj.once v
  have hexec := hj.executed v
  have hrun := hj.running v
  simp only [Ledger.visits, Ledger.started, Ledger.completed] at hone hexec
  cases h
  case count source target live passed rest st asks errands _ state _ hasks =>
    have hx : 0 < x.errands.count (.during v) := by
      simp only [errands, Multiset.count_cons]
      simp only [Multiset.count_add, Arrival.count_errands] at hd
      grind
    rcases get_withArrival hs with ⟨-, hs⟩ | ⟨-, s₀, hs₀, -, hst⟩
    · exact hrun s hs hx
    · have hr := hrun s₀ hs₀ hx
      rw [hst, if_neg fun hw => NodeStatus.noConfusion (hr.symm.trans hw.2), hr]
  case lose errands state => exact (hj.not_lost hg errands state).elim
  -- Nodes that are in the air are neither executed nor waiting.
  case spread node rest errands _ =>
    simp only [Multiset.count_add, errands, Multiset.count_cons] at hd hrun
    rw [count_departures _ _ rfl] at hd
    grind
  case drop | take | halt | stop | cancel =>
    simp only [*, Multiset.count_cons] at hd hrun
    grind
  case refuse source target rest error errands _ =>
    have hv := (hj.of_flying hg (flying_pos errands)).2.2.2.2
    obtain ⟨s₀, hs₀, -, hst⟩ := get_withStatus hs
    have hr := hrun s₀ hs₀
    simp only [Ledger.visits, Ledger.started, errands, Multiset.count_cons] at hv hone hexec hr hd
    grind
  case skip node rest errands =>
    obtain ⟨s₀, hs₀, -, hst⟩ := get_withStatus hs
    have hr := hrun s₀ hs₀
    simp only [errands, Multiset.count_cons, Multiset.count_add] at hone hexec hr hd
    rw [count_departures _ _ rfl] at hd
    grind
  all_goals
    obtain ⟨s₀, hs₀, -, hst⟩ := get_withStatus hs
    have hr := hrun s₀ hs₀
    simp only [*, Multiset.count_cons] at hone hexec hr hd
    grind

theorem isOpen_withArrival {nodes : String → Option NodeState} {node v : String} {live : Bool}
    {s : NodeState} (h : withArrival nodes node live v = some s) :
    ∃ s₀, nodes v = some s₀ ∧ (s₀.status.isOpen → s.status.isOpen) := by
  rcases get_withArrival h with ⟨-, hs⟩ | ⟨-, s₀, hs₀, -, hst⟩
  · exact ⟨s, hs, id⟩
  · refine ⟨s₀, hs₀, fun ho => ?_⟩
    rw [hst]
    split
    · rfl
    · exact ho

theorem waiting_turn (hg : g.IsWellFormed) (hj : Joins g r x) (h : Turn g r x y) (v : String)
    (s : NodeState) (hs : y.nodes v = some s)
    (hd : 0 < y.errands.count (.dispatched v) + y.errands.count (.admitted v) +
      y.errands.count (.skipping v)) : s.status.isOpen := by
  have hone := hj.once v
  have hexec := hj.executed v
  have hwait := hj.waiting v
  simp only [Ledger.visits, Ledger.started, Ledger.skipped, Ledger.completed] at hone hexec
  cases h
  -- An arrival opens the gate of a node that was never visited, so that its status is open still.
  case count source target live passed rest st asks errands goesOn state _ hasks =>
    have hv := (hj.of_flying hg (flying_pos errands)).2.2.2.2
    obtain ⟨s₀, hs₀, hopen⟩ := isOpen_withArrival hs
    have hu := hj.untouched v s₀ hs₀ goesOn.1
    have hw := hwait s₀ hs₀
    refine hopen ?_
    simp only [Ledger.visits, Ledger.started, Ledger.skipped, errands, Multiset.count_cons]
      at hv hone hu hw
    simp only [Multiset.count_add, Arrival.count_errands] at hd
    grind
  case lose errands state => exact (hj.not_lost hg errands state).elim
  case spread node rest errands _ =>
    simp only [Multiset.count_add, errands, Multiset.count_cons] at hd hwait
    rw [count_departures _ _ rfl, count_departures _ _ rfl, count_departures _ _ rfl] at hd
    grind
  case drop | take | halt | stop | cancel =>
    simp only [*, Multiset.count_cons] at hd hwait
    grind
  case refuse source target rest error errands _ =>
    have hv := (hj.of_flying hg (flying_pos errands)).2.2.2.2
    obtain ⟨s₀, hs₀, -, hst⟩ := get_withStatus hs
    have hw := hwait s₀ hs₀
    simp only [Ledger.visits, errands, Multiset.count_cons] at hv hw hd
    grind
  case skip node rest errands =>
    obtain ⟨s₀, hs₀, -, hst⟩ := get_withStatus hs
    have hw := hwait s₀ hs₀
    simp only [errands, Multiset.count_cons, Multiset.count_add] at hone hw hd
    rw [count_departures _ _ rfl, count_departures _ _ rfl, count_departures _ _ rfl] at hd
    grind
  all_goals
    obtain ⟨s₀, hs₀, -, hst⟩ := get_withStatus hs
    have hw := hwait s₀ hs₀
    simp only [*, Multiset.count_cons] at hone hexec hw hd
    grind

theorem untouched_turn (hj : Joins g r x) (h : Turn g r x y) (v : String)
    (s : NodeState) (hs : y.nodes v = some s) (hh : y.halted = false)
    (hz : y.started v + y.skipped v = 0) : s.status.isOpen := by
  have hexec := hj.executed v
  have hold := hj.untouched v
  cases h
  case count source target live passed rest st asks errands goesOn state _ hasks =>
    obtain ⟨s₀, hs₀, hopen⟩ := isOpen_withArrival hs
    exact hopen (hold s₀ hs₀ hh hz)
  case lose | take | spread | cancel | drop => exact hold s hs hh hz
  case refuse | spoil | blame | halt | stop => cases hh
  case skip | start | abandon | settle =>
    obtain ⟨s₀, hs₀, -, hst⟩ := get_withStatus hs
    have ho := hold s₀ hs₀ hh
    simp only [Ledger.started, Ledger.skipped, Ledger.completed, *, Multiset.count_cons,
      List.countP_cons, Happening.starts, Happening.skips] at hexec ho hz
    grind

/-! ## The balance -/

theorem opening (hg : g.IsWellFormed) (limit : Nat) (cancelled : Bool) :
    Joins g r (Ledger.opening g limit cancelled) := by
  have hnodes : ∀ v, (Ledger.opening g limit cancelled).nodes v =
      (g.node? v).map fun n => ⟨Gate.new n.predecessors.length, .pending⟩ :=
    Graph.get?_initialNodes hg.ids
  have hvisits : ∀ v, (Ledger.opening g limit cancelled).visits v = if v = g.root then 1 else 0 := by
    intro v
    simp only [Ledger.visits, Ledger.started, Ledger.skipped, Ledger.opening,
      Multiset.count_singleton, List.countP_nil]
    grind
  have hroot : ∀ v, 0 < (Ledger.opening g limit cancelled).visits v → v = g.root := by
    intro v hv
    rw [hvisits] at hv
    split at hv
    · assumption
    · cases hv
  have hzero : ∀ v, (Ledger.opening g limit cancelled).errands.count (.during v) = 0 ∧
      (Ledger.opening g limit cancelled).errands.count (.going v) = 0 ∧
      ∀ u, (Ledger.opening g limit cancelled).flying u v = 0 := by
    intro v
    simp only [Ledger.opening, Ledger.flying, Multiset.count_singleton]
    grind
  have hopen : ∀ v s, (Ledger.opening g limit cancelled).nodes v = some s → s.status.isOpen := by
    intro v s hs
    rw [hnodes] at hs
    obtain ⟨n, -, rfl⟩ := Option.map_eq_some_iff.1 hs
    rfl
  refine
    { once := fun v => by
        rw [hvisits]
        split <;> decide
      full := fun v hv => .inl (hroot v hv)
      reached := fun v hv => hroot v hv ▸ .refl
      executed := fun v => by
        rw [(hzero v).1]
        exact Nat.le_refl 0
      flights := fun u v => by
        rw [(hzero u).2.1, (hzero v).2.2]
        exact Nat.le_refl 0
      edges := fun u v hv => by
        rw [(hzero v).2.2] at hv
        cases hv
      nodes := fun v => by rw [hnodes, Option.isSome_map]
      gates := fun v s n hs hn => ?_
      live := fun v hv => .inl (hroot v (hv.trans_le ?_))
      order := trivial
      running := fun v s _ hd => by
        rw [(hzero v).1] at hd
        cases hd
      waiting := fun v s hs _ => hopen v s hs
      untouched := fun v s hs _ _ => hopen v s hs }
  · rw [hnodes, hn] at hs
    cases hs
    refine ⟨rfl, ?_, ⟨fun h => absurd h (Nat.lt_irrefl 0), fun ⟨_, h⟩ => nomatch h⟩⟩
    rw [List.sum_eq_zero fun k hk => ?_]
    · rfl
    · obtain ⟨u, -, rfl⟩ := List.mem_map.1 hk
      rfl
  · unfold Ledger.visits
    omega

theorem turn (hg : g.IsWellFormed) (h : Turn g r x y) (hj : Joins g r x) : Joins g r y where
  once v := by
    have ho := hj.once v
    rcases hj.visits_turn hg h v with hv | hv <;> omega
  full v hv := by
    rcases hj.visits_turn hg h v with hle | hnew
    · exact (hj.full v (by omega)).imp_right (hj.onward hg h).isFull
    · exact .inr hnew.2.2.1
  reached v hv := by
    rcases hj.visits_turn hg h v with hle | ⟨-, -, -, u, hu, he⟩
    · exact hj.reached v (by omega)
    · exact (hj.reached u hu).tail he
  executed v := executed_turn h (hj.executed v)
  flights u v := flights_turn hg h (hj.flights u v)
  edges := edges_turn h hj.edges
  nodes v := ((hj.onward hg h).nodes v).trans (hj.nodes v)
  gates := hj.gates_turn hg (hj.onward hg h)
  live := hj.live_turn hg h
  order := hj.order_turn h
  running := hj.running_turn hg h
  waiting := hj.waiting_turn hg h
  untouched := hj.untouched_turn h

/-- In a turn the status of a node stays or goes on. -/
theorem status_turn (hg : g.IsWellFormed) (hj : Joins g r x) (h : Turn g r x y) (v : String)
    (s : NodeState) (hs : y.nodes v = some s) :
    ∃ s₀, x.nodes v = some s₀ ∧ Relation.ReflGen NodeStatus.Advances s₀.status s.status := by
  have hset : ∀ {node : String} {st : NodeStatus}, withStatus x.nodes node st v = some s →
      (∀ s₀, x.nodes node = some s₀ → NodeStatus.Advances s₀.status st) →
      ∃ s₀, x.nodes v = some s₀ ∧ Relation.ReflGen NodeStatus.Advances s₀.status s.status := by
    intro node st hs ha
    obtain ⟨s₀, hs₀, -, hst⟩ := get_withStatus hs
    refine ⟨s₀, hs₀, ?_⟩
    by_cases hv : node = v
    · subst hv
      rw [hst, if_pos rfl]
      exact .single (ha s₀ hs₀)
    · rw [hst, if_neg hv]
  -- An errand of a node tells its status.
  have hwait : ∀ {e : Errand} {node : String}, x.errands.count e ≠ 0 →
      (e = .dispatched node ∨ e = .admitted node ∨ e = .skipping node) →
      ∀ s₀, x.nodes node = some s₀ → s₀.status.isOpen := by
    rintro e node hc he s₀ hs₀
    refine hj.waiting node s₀ hs₀ ?_
    rcases he with rfl | rfl | rfl <;> omega
  have hrun : ∀ {node : String}, x.errands.count (.during node) ≠ 0 →
      ∀ s₀, x.nodes node = some s₀ → s₀.status = .running := fun hc s₀ hs₀ =>
    hj.running _ s₀ hs₀ (Nat.pos_of_ne_zero hc)
  cases h
  case drop | lose | take | halt | spread | stop | cancel => exact ⟨s, hs, .refl⟩
  case count source target live passed rest st asks errands goesOn state _ hasks =>
    rcases get_withArrival hs with ⟨-, hs⟩ | ⟨-, s₀, hs₀, -, hst⟩
    · exact ⟨s, hs, .refl⟩
    · refine ⟨s₀, hs₀, ?_⟩
      rw [hst]
      split
      · next hw =>
        rw [hw.2]
        exact .single .block
      · exact .refl
  case refuse source target rest error errands goesOn =>
    have hv := (hj.of_flying hg (flying_pos errands)).2.2.2.2
    refine hset hs fun s₀ hs₀ => .refuse (hj.untouched target s₀ hs₀ goesOn.1 ?_)
    unfold Ledger.visits at hv
    omega
  case skip node rest errands =>
    refine hset hs fun s₀ hs₀ => .skip (hwait (e := .skipping node) ?_ (.inr (.inr rfl)) s₀ hs₀)
    simp [errands]
  case spoil node rest _ errands _ _ _ =>
    refine hset hs fun s₀ hs₀ => .refuse (hwait (e := .dispatched node) ?_ (.inl rfl) s₀ hs₀)
    simp [errands]
  case start node rest _ errands _ _ =>
    refine hset hs fun s₀ hs₀ => .run (hwait (e := .admitted node) ?_ (.inr (.inl rfl)) s₀ hs₀)
    simp [errands]
  case abandon node rest errands _ | blame node rest _ errands =>
    refine hset hs fun s₀ hs₀ => ?_
    rw [hrun (by simp [errands]) s₀ hs₀]
    exact .blame
  case settle node rest errands _ =>
    refine hset hs fun s₀ hs₀ => ?_
    rw [hrun (by simp [errands]) s₀ hs₀]
    exact .settle

theorem status_turns (hg : g.IsWellFormed) (hj : Joins g r x) (h : Turns g r x y) (v : String)
    (s : NodeState) (hs : y.nodes v = some s) :
    ∃ s₀, x.nodes v = some s₀ ∧ Relation.ReflTransGen NodeStatus.Advances s₀.status s.status := by
  induction h generalizing s with
  | refl => exact ⟨s, hs, .refl⟩
  | tail hxy ht ih =>
    have hmid := Turns.keep (P := Joins) (fun t hj => hj.turn hg t) hxy hj
    obtain ⟨s₁, hs₁, ha⟩ := hmid.status_turn hg ht v s hs
    obtain ⟨s₀, hs₀, hb⟩ := ih s₁ hs₁
    exact ⟨s₀, hs₀, hb.trans ha.to_reflTransGen⟩

end Joins

theorem nested_isSound : Nested Graph.IsSound := by
  intro g id n inner origin hg hn hs
  cases hg with
  | intro _ nested => exact nested n (Graph.mem_of_node? hn).1 inner origin hs

end Conduit
