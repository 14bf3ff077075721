import Conduit.Proofs.Run.Joins
import Conduit.Proofs.Run.Strides
import Mathlib.Algebra.Order.BigOperators.Group.List
import Mathlib.Algebra.Order.Ring.Nat

/-!
# Bounds

Whatever nodes a run is sent to, its executions are numbered, and it skips no node more often than it
executes. A skip takes an arrival from every node before it, and so, round by round, an execution of
some node further up.
-/

namespace Conduit

namespace Happening

def isStart : Happening → Bool
  | .nodeStarted _ _ => true
  | _ => false

theorem isNode_of_isStart {e : Happening} (h : e.isStart) : e.isNode := by
  cases e with
  | nodeStarted => rfl
  | _ => cases h

def completesOne (p : String → Bool) : Happening → Bool
  | .nodeCompleted node => p node
  | _ => false

end Happening

namespace Errand

def admits : Errand → Bool
  | .admitted _ => true
  | _ => false

def executes : Errand → Bool
  | .during _ => true
  | _ => false

end Errand

/-- How many arrivals of an unfinished round a gate has counted. -/
def Gate.begun (gate : Gate) : Nat :=
  if gate.remaining = 0 then 0 else gate.inbound - gate.remaining

namespace Ledger

variable (l : Ledger) (v : String)

def starts : Nat := l.events.countP Happening.isStart

def completions (p : String → Bool) : Nat := l.events.countP (Happening.completesOne p)

/-- How many executions have been admitted and not started yet. -/
def admitted : Nat := errandCount Errand.admits l.errands

def executing : Nat := errandCount Errand.executes l.errands

/-- How often the node was skipped or is about to be. -/
def skips : Nat := l.skipped v + l.errands.count (.skipping v)

end Ledger

/-- The executions of a run are within its limit. -/
structure Ledger.Paced (l : Ledger) : Prop where
  steps : l.halted = false ∧ l.cancelled = false → l.steps = l.starts + l.admitted
  limited : l.starts + l.admitted ≤ l.limit
  completed : l.completions (fun _ => true) + l.executing ≤ l.starts

/-- What bounds the skips of a run. -/
structure Rounds (g : Graph Component) (l : Ledger) : Prop where
  flights : ∀ u v, l.flying u v + l.delivered u v + l.errands.count (.going u) ≤
    l.completed u + l.skipped u
  edges : ∀ u v, 0 < l.flying u v + l.delivered u v → g.Leads u v
  nodes : ∀ v, (l.nodes v).isSome = (g.node? v).isSome
  gates : ∀ v s n, l.nodes v = some s → g.node? v = some n →
    s.gate.inbound = n.predecessors.length ∧ s.gate.remaining ≤ n.predecessors.length ∧
    l.skips v * n.predecessors.length + s.gate.begun ≤
      (n.predecessors.map fun u => l.delivered u v).sum
  reached : ∀ v, 0 < l.skips v → ∃ u, g.Leads u v

section

variable {g : Graph Component} {r : Nat} {x y : Ledger}

open Joins (Still count_departures mem_departures edges_turn flights_turn get_withArrival
  still_of_nodes still_of_status delivered_asks delivered_cons not_delivers_of_asks sum_succ
  flying_pos)

/-! ## Executions -/

theorem errandCount_departures (source : String) (live : Bool) (rest : Multiset Errand)
    {f : Errand → Bool} (hf : ∀ u v b, f (.flying u v b) = false) :
    errandCount f (g.departures source live + rest) = errandCount f rest := by
  have hz : errandCount f (g.departures source live) = 0 := by
    refine Multiset.countP_eq_zero.2 fun e he => ?_
    obtain ⟨target, rfl, -⟩ := mem_departures he
    exact Bool.eq_false_iff.1 (hf ..)
  rw [errandCount_add, hz, zero_add]

theorem errandCount_arrival (a : Arrival) (v : String) (rest : Multiset Errand) {f : Errand → Bool}
    (hd : f (.dispatched v) = false) (hs : f (.skipping v) = false) :
    errandCount f (a.errands v + rest) = errandCount f rest := by
  cases a <;> simp [errandCount, Arrival.errands, hd, hs]

theorem Ledger.Paced.turn (h : Turn g r x y) (hp : x.Paced) : y.Paced := by
  obtain ⟨hs, hl, hc⟩ := hp
  cases h
  case count source target live passed rest s asks errands _ _ _ _ =>
    constructor <;>
      simp only [starts, admitted, completions, executing, errands, errandCount_cons,
        Errand.admits, Errand.executes, Bool.false_eq_true, if_false, add_zero] at hs hl hc ⊢ <;>
      rw [errandCount_arrival _ _ _ rfl rfl] <;> assumption
  case skip errands | spread errands _ =>
    constructor <;>
      simp only [starts, admitted, completions, executing, errands, errandCount_cons,
        Errand.admits, Errand.executes, Bool.false_eq_true, if_false, add_zero, List.countP_cons,
        Happening.isStart, Happening.completesOne] at hs hl hc ⊢ <;>
      rw [errandCount_departures _ _ _ fun _ _ _ => rfl] <;> assumption
  all_goals
    constructor <;>
      simp only [starts, admitted, completions, executing, *, errandCount_cons,
        List.countP_cons, Happening.isStart, Happening.completesOne, Errand.admits,
        Errand.executes] at hs hl hc ⊢ <;>
      grind

theorem Ledger.Paced.stride (h : Stride g r x y) (hp : x.Paced) : y.Paced := by
  rcases h with h | ⟨errands, goesOn⟩
  · exact hp.turn h
  · obtain ⟨hs, hl, hc⟩ := hp
    constructor <;>
      simp only [starts, admitted, completions, executing, errands, errandCount_cons,
        Errand.admits, Errand.executes] at hs hl hc ⊢ <;> assumption

/-! ## Rounds of arrivals -/

/-- An arrival takes the gate one on in its round. A skip ends the round. -/
theorem begun_arrive {gate : Gate} (hpos : 0 < gate.inbound) (hle : gate.remaining ≤ gate.inbound)
    (live : Bool) :
    (gate.arrive live).1.remaining ≤ gate.inbound ∧
      (if (gate.arrive live).2 = .skip then gate.inbound else 0) + (gate.arrive live).1.begun ≤
        gate.begun + 1 := by
  unfold Gate.arrive Gate.begun Gate.rearmed
  dsimp only
  split <;> split <;> simp_all <;> grind

/-- Nothing is delivered and no gate opens. -/
structure Idle (x y : Ledger) : Prop where
  still : Still x y
  skips : ∀ v, y.skips v ≤ x.skips v

/-- An arrival is counted. -/
structure Counts (x y : Ledger) (source target : String) (passed : Bool) (s : NodeState) : Prop where
  flying : 0 < x.flying source target
  state : x.nodes target = some s
  nodes : y.nodes = withArrival x.nodes target passed
  delivered : ∀ u v, y.delivered u v = x.delivered u v + if u = source ∧ v = target then 1 else 0
  skips : ∀ v, y.skips v =
    x.skips v + if v = target ∧ (s.gate.arrive passed).2 = .skip then 1 else 0

theorem Turn.idle_or_counts (h : Turn g r x y) :
    Idle x y ∨ ∃ source target passed s, Counts x y source target passed s := by
  cases h
  case count source target live passed rest s asks errands goesOn state _ hasks =>
    refine .inr ⟨source, target, passed, s, flying_pos errands, state, rfl, fun u v => ?_,
      fun v => ?_⟩
    · exact delivered_cons u v source target passed asks
        (fun d hd => not_delivers_of_asks hasks d hd u v) _ rfl
    · simp only [Ledger.skips, Ledger.skipped, errands, Multiset.count_cons, Multiset.count_add,
        Arrival.count_errands]
      grind
  case lose asks _ hasks errands _ =>
    refine .inl ⟨⟨⟨asks, rfl, not_delivers_of_asks hasks⟩, fun _ => rfl, fun _ s hs =>
      ⟨s, hs, rfl⟩⟩, fun v => ?_⟩
    simp [Ledger.skips, Ledger.skipped, errands]
  case skip node rest errands =>
    refine .inl ⟨still_of_status [] rfl rfl (by simp), fun v => ?_⟩
    simp only [Ledger.skips, Ledger.skipped, errands, Multiset.count_cons, Multiset.count_add,
      List.countP_cons, Happening.skips]
    rw [count_departures _ _ rfl]
    grind
  case spread node rest errands _ =>
    refine .inl ⟨still_of_nodes rfl rfl, fun v => ?_⟩
    simp only [Ledger.skips, Ledger.skipped, errands, Multiset.count_cons, Multiset.count_add]
    rw [count_departures _ _ rfl]
    grind
  case drop | take | halt | stop | cancel =>
    refine .inl ⟨still_of_nodes rfl rfl, fun v => ?_⟩
    simp only [Ledger.skips, Ledger.skipped, *, Multiset.count_cons]
    grind
  case refuse =>
    refine .inl ⟨still_of_status [_, _] rfl rfl (by simp [Deed.delivers]), fun v => ?_⟩
    simp only [Ledger.skips, Ledger.skipped, *, Multiset.count_cons, List.countP_cons,
      Happening.skips]
    grind
  case spoil | blame =>
    refine .inl ⟨still_of_status [_] rfl rfl (by simp [Deed.delivers]), fun v => ?_⟩
    simp only [Ledger.skips, Ledger.skipped, *, Multiset.count_cons, List.countP_cons,
      Happening.skips]
    grind
  case start | abandon | settle =>
    refine .inl ⟨still_of_status [] rfl rfl (by simp), fun v => ?_⟩
    simp only [Ledger.skips, Ledger.skipped, *, Multiset.count_cons, List.countP_cons,
      Happening.skips]
    grind

namespace Rounds

theorem nodes_turn (hr : Rounds g x) (h : Turn g r x y) (v : String) :
    (y.nodes v).isSome = (g.node? v).isSome := by
  rw [← hr.nodes v]
  rcases h.idle_or_counts with h | ⟨source, target, passed, s, h⟩
  · exact h.still.isSome v
  · rw [h.nodes]
    unfold withArrival
    split
    · next hv => rw [Option.isSome_map, hv]
    · rfl

theorem gates_turn (hg : g.IsWellFormed) (hr : Rounds g x) (h : Turn g r x y) (v : String)
    (s : NodeState) (n : GraphNode Component) (hs : y.nodes v = some s) (hn : g.node? v = some n) :
    s.gate.inbound = n.predecessors.length ∧ s.gate.remaining ≤ n.predecessors.length ∧
      y.skips v * n.predecessors.length + s.gate.begun ≤
        (n.predecessors.map fun u => y.delivered u v).sum := by
  -- Only counting an arrival changes a gate.
  rcases h.idle_or_counts with h | ⟨source, target, passed, s₁, h⟩
  · obtain ⟨s₀, hs₀, hgate⟩ := h.still.gates v s hs
    obtain ⟨hi, hrem, hle⟩ := hr.gates v s₀ n hs₀ hn
    simp only [hgate, h.still.delivered]
    refine ⟨hi, hrem, le_trans ?_ hle⟩
    exact Nat.add_le_add_right (Nat.mul_le_mul_right _ (h.skips v)) _
  rw [h.nodes] at hs
  rcases get_withArrival hs with ⟨hne, hs⟩ | ⟨rfl, s₀, hs₀, hgate, -⟩
  · obtain ⟨hi, hrem, hle⟩ := hr.gates v s n hs hn
    have hd : ∀ u, y.delivered u v = x.delivered u v := by
      intro u
      rw [h.delivered, if_neg fun hu => hne hu.2.symm, add_zero]
    have hk : y.skips v = x.skips v := by
      rw [h.skips, if_neg fun hv => hne hv.1.symm, add_zero]
    simp only [hd, hk]
    exact ⟨hi, hrem, hle⟩
  · have hgate : s.gate = (s₁.gate.arrive passed).1 := by
      rw [hgate, Option.some.inj (h.state.symm.trans hs₀)]
    obtain ⟨hi, hrem, hle⟩ := hr.gates target s₁ n h.state hn
    have hsource := (hg.mem_predecessors hn).2 (hr.edges _ _ (Nat.add_pos_left h.flying _))
    have hpos : 0 < s₁.gate.inbound := hi ▸ List.length_pos_of_mem hsource
    obtain ⟨hrem', hbegun⟩ := begun_arrive hpos (hi ▸ hrem) passed
    have hsum := sum_succ (fun u => x.delivered u target) (fun u => y.delivered u target)
      (hg.predecessors hn) hsource (by simp [h.delivered]) (by simp +contextual [h.delivered])
    rw [hgate, hsum, h.skips]
    refine ⟨(Gate.arrive_inbound _ _).trans hi, hi ▸ hrem', ?_⟩
    rw [hi] at hbegun
    split at hbegun
    · next hskip =>
      rw [if_pos ⟨rfl, hskip⟩, Nat.add_mul, Nat.one_mul]
      omega
    · next hskip =>
      rw [if_neg fun hv => hskip hv.2, Nat.add_zero]
      omega

theorem reached_turn (hr : Rounds g x) (h : Turn g r x y) (v : String) (hv : 0 < y.skips v) :
    ∃ u, g.Leads u v := by
  rcases h.idle_or_counts with h | ⟨source, target, passed, s, h⟩
  · exact hr.reached v (hv.trans_le (h.skips v))
  · rw [h.skips] at hv
    split at hv
    · next ht => exact ⟨source, ht.1 ▸ hr.edges _ _ (Nat.add_pos_left h.flying _)⟩
    · exact hr.reached v hv

theorem turn (hg : g.IsWellFormed) (h : Turn g r x y) (hr : Rounds g x) : Rounds g y where
  flights u v := flights_turn hg h (hr.flights u v)
  edges := edges_turn h hr.edges
  nodes := hr.nodes_turn h
  gates := hr.gates_turn hg h
  reached := hr.reached_turn h

theorem stride (hg : g.IsWellFormed) (h : Stride g r x y) (hr : Rounds g x) : Rounds g y := by
  rcases h with h | ⟨errands, goesOn⟩
  · exact hr.turn hg h
  · next node target rest =>
    have hflying : ∀ u v, (Ledger.flying { x with errands := .dispatched target ::ₘ rest } u v) =
        x.flying u v := by
      intro u v
      simp [Ledger.flying, errands]
    have hskips : ∀ v, (Ledger.skips { x with errands := .dispatched target ::ₘ rest } v) =
        x.skips v := by
      intro v
      simp [Ledger.skips, Ledger.skipped, errands]
    refine ⟨fun u v => ?_, fun u v hpos => ?_, hr.nodes, fun v s n hs hn => ?_, fun v hv => ?_⟩
    · have hf := hr.flights u v
      rw [errands, Multiset.count_cons] at hf
      rw [hflying]
      simp only [Multiset.count_cons_of_ne (show Errand.going u ≠ .dispatched target by simp)]
      exact le_trans (Nat.add_le_add_left (Nat.le_add_right ..) _) hf
    · rw [hflying] at hpos
      exact hr.edges u v hpos
    · rw [hskips]
      exact hr.gates v s n hs hn
    · exact hr.reached v (hskips v ▸ hv)

theorem opening (hg : g.IsWellFormed) (limit : Nat) (cancelled : Bool) :
    Rounds g (Ledger.opening g limit cancelled) := by
  have hnodes : ∀ v, (Ledger.opening g limit cancelled).nodes v =
      (g.node? v).map fun n => ⟨Gate.new n.predecessors.length, .pending⟩ :=
    Graph.get?_initialNodes hg.ids
  have hflying : ∀ u v, (Ledger.opening g limit cancelled).flying u v = 0 := by
    intro u v
    simp [Ledger.opening, Ledger.flying]
  have hskips : ∀ v, (Ledger.opening g limit cancelled).skips v = 0 := by
    intro v
    simp [Ledger.opening, Ledger.skips, Ledger.skipped]
  refine ⟨fun u v => ?_, fun u v hpos => ?_, fun v => ?_, fun v s n hs hn => ?_, fun v hv => ?_⟩
  · rw [hflying]
    simp [Ledger.opening, Ledger.delivered]
  · rw [hflying] at hpos
    cases hpos
  · rw [hnodes, Option.isSome_map]
  · rw [hnodes, hn] at hs
    cases hs
    refine ⟨rfl, Nat.le_refl _, ?_⟩
    rw [hskips]
    simp [Gate.new, Gate.begun]
  · rw [hskips] at hv
    cases hv

/-- Executions of a node and of nodes further up are executions above each node that it leads to. -/
theorem completed_add_completions {rank : String → Nat} {u v : String} (h : rank u < rank v)
    (x : Ledger) : x.completed u + x.completions (fun a => rank a < rank u) ≤
      x.completions fun a => rank a < rank v := by
  unfold Ledger.completed Ledger.completions
  induction x.events with
  | nil => exact Nat.le_refl 0
  | cons e es ih =>
    have hone : (if e.completes u then 1 else 0) +
        (if e.completesOne (fun a => rank a < rank u) then 1 else 0) ≤
        if e.completesOne (fun a => rank a < rank v) then 1 else 0 := by
      cases e <;> simp [Happening.completes, Happening.completesOne]
      grind
    simp only [List.countP_cons]
    omega

theorem skips_le (hg : g.IsWellFormed) (hr : Rounds g x) {rank : String → Nat}
    (hrank : ∀ {u v}, g.Leads u v → rank u < rank v) (v : String) :
    x.skips v ≤ x.completions fun u => rank u < rank v := by
  induction hk : rank v using Nat.strongRecOn generalizing v with
  | _ k ih =>
  subst hk
  by_cases hz : x.skips v = 0
  · exact hz ▸ Nat.zero_le _
  obtain ⟨u₀, hlead⟩ := hr.reached v (Nat.pos_of_ne_zero hz)
  obtain ⟨n, hn⟩ := hg.target hlead
  have hnode := hr.nodes v
  rw [hn] at hnode
  obtain ⟨s, hs⟩ := Option.isSome_iff_exists.1 hnode
  obtain ⟨-, -, hle⟩ := hr.gates v s n hs hn
  -- Every node before the node has gone on once for each of its executions and skips.
  have hone : ∀ u ∈ n.predecessors,
      x.delivered u v ≤ x.completions fun u => rank u < rank v := by
    intro u hu
    have hlt := hrank ((hg.mem_predecessors hn).1 hu)
    have hf := hr.flights u v
    have hs := ih (rank u) hlt u rfl
    have hadd := completed_add_completions hlt x
    unfold Ledger.skips at hs
    omega
  have hsum : (n.predecessors.map fun u => x.delivered u v).sum ≤
      n.predecessors.length * x.completions fun u => rank u < rank v := by
    have h := List.sum_le_card_nsmul (n.predecessors.map fun u => x.delivered u v)
      (x.completions fun u => rank u < rank v) (List.forall_mem_map.2 hone)
    rwa [List.length_map, Nat.nsmul_eq_mul] at h
  have hpos : 0 < n.predecessors.length :=
    List.length_pos_of_mem ((hg.mem_predecessors hn).2 hlead)
  refine Nat.le_of_mul_le_mul_right (c := n.predecessors.length) ?_ hpos
  rw [Nat.mul_comm n.predecessors.length] at hsum
  omega

end Rounds

end

end Conduit
