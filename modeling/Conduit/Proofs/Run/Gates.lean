import Conduit.Proofs.Run.Bounds
import Conduit.Proofs.Run.Causes
import Conduit.Proofs.Run.JoinSafety

/-!
# Gates

The gate of a node only counts: it fires or skips when as many arrivals have come as there are nodes
before it, wherever they came from. A jump that executes one of those nodes again lets arrivals of the
same node meet at the gate, and one of them then stands for a node that has not arrived.
-/

namespace Conduit

/-! ## Arrivals -/

/-- Where an arrival at the gate of a node came from, and whether it was live. -/
def Deed.arrival? (r : Nat) (v : String) : Deed → Option (String × Bool)
  | .delivered s source target live => if s = r ∧ target = v then some (source, live) else none
  | _ => none

/-- The arrivals at the gate of a node, the newest first. -/
def arrivalsAt (r : Nat) (v : String) (deeds : List Deed) : List (String × Bool) :=
  deeds.filterMap (Deed.arrival? r v)

def Gate.after (gate : Gate) (arrivals : List (String × Bool)) : Gate :=
  arrivals.foldr (fun a gate => (gate.arrive a.2).1) gate

theorem arrivalsAt_append (r : Nat) (v : String) (newer older : List Deed) :
    arrivalsAt r v (newer ++ older) = arrivalsAt r v newer ++ arrivalsAt r v older :=
  List.filterMap_append

theorem Gate.after_cons (gate : Gate) (a : String × Bool) (arrivals : List (String × Bool)) :
    gate.after (a :: arrivals) = ((gate.after arrivals).arrive a.2).1 := rfl

theorem Gate.after_append (gate : Gate) (newer older : List (String × Bool)) :
    gate.after (newer ++ older) = (gate.after older).after newer :=
  List.foldr_append

@[simp] theorem Gate.after_inbound (gate : Gate) (arrivals : List (String × Bool)) :
    (gate.after arrivals).inbound = gate.inbound := by
  induction arrivals with
  | nil => rfl
  | cons a arrivals ih => exact (Gate.arrive_inbound ..).trans ih

/-- An arrival brings the gate one nearer to the end of the round, or begins the next round. -/
theorem Gate.remaining_arrive (gate : Gate) (live : Bool) :
    (gate.arrive live).1.remaining + 1 =
      if gate.remaining = 0 then max gate.inbound 1 else gate.remaining := by
  unfold arrive rearmed
  by_cases h : gate.remaining = 0
  · simp only [if_pos h]
    omega
  · simp only [if_neg h]
    omega

theorem Gate.waiting_iff (gate : Gate) (live : Bool) :
    (gate.arrive live).2 = .waiting ↔ (gate.arrive live).1.remaining ≠ 0 := by
  have ended : ∀ {p : Prop} [Decidable p], (if p then Arrival.fire else .skip) ≠ .waiting := by
    intro p _
    split <;> nofun
  unfold arrive
  dsimp only
  split
  · next h => exact iff_of_true rfl (by omega)
  · next h => exact iff_of_false ended (by omega)

theorem arrivalsAt_eq_nil {r : Nat} {v : String} {deeds : List Deed}
    (h : ∀ d ∈ deeds, ∀ u v, d.delivers u v = false) : arrivalsAt r v deeds = [] := by
  refine List.filterMap_eq_nil_iff.2 fun d hd => ?_
  cases d with
  | delivered s source target live =>
    have hn := h _ hd source target
    simp [Deed.delivers] at hn
  | _ => rfl

theorem Deed.not_delivers {d : Deed} (h : d.isOfArrival = false) (u v : String) :
    d.delivers u v = false := by
  cases d with
  | delivered => cases h
  | _ => rfl

theorem arrivalsAt_filter (r : Nat) (v : String) (deeds : List Deed) :
    arrivalsAt r v (deeds.filter fun d => d.isIn r) = arrivalsAt r v deeds := by
  unfold arrivalsAt
  rw [List.filterMap_filter]
  refine List.filterMap_congr fun d _ => ?_
  cases d with
  | delivered s source target live =>
    by_cases h : s = r
    · simp [Deed.isIn, h]
    · simp [Deed.isIn, Deed.arrival?, h]
  | _ => simp [Deed.arrival?]

theorem count_arrivalsAt_le (r : Nat) (u v : String) (deeds : List Deed) :
    ((arrivalsAt r v deeds).map Prod.fst).count u ≤ deeds.countP (Deed.delivers u v) := by
  induction deeds with
  | nil => exact Nat.le_refl 0
  | cons d deeds ih =>
    unfold arrivalsAt at ih ⊢
    rw [List.countP_cons, List.filterMap_cons]
    cases d with
    | delivered s source target live =>
      simp only [Deed.arrival?, Deed.delivers]
      by_cases h : s = r ∧ target = v
      · obtain ⟨rfl, rfl⟩ := h
        simp only [and_self, if_true, List.map_cons, List.count_cons, beq_self_eq_true, Bool.and_true]
        exact Nat.add_le_add_right ih _
      · rw [if_neg h]
        exact Nat.le_add_right_of_le ih
    | _ => exact ih

/-! ## Gates of ledgers -/

section

variable {g : Graph Component} {r : Nat} {x y : Ledger}

open Joins (still_or_counted get_withArrival)

/-- The gates of a run are where the arrivals at them have brought them. -/
structure Gated (g : Graph Component) (r : Nat) (x : Ledger) : Prop where
  rounds : Rounds g x
  gates : ∀ v s n, x.nodes v = some s → g.node? v = some n →
    s.gate = (Gate.new n.predecessors.length).after (arrivalsAt r v x.deeds)

namespace Gated

theorem gates_turn (h : Gated g r x) (t : Turn g r x y) (v : String) (s : NodeState)
    (n : GraphNode Component) (hs : y.nodes v = some s) (hn : g.node? v = some n) :
    s.gate = (Gate.new n.predecessors.length).after (arrivalsAt r v y.deeds) := by
  rcases still_or_counted t with still | ⟨source, target, _, passed, _, asks, s₁, -, state, hd, hasks, hnodes⟩
  · obtain ⟨s₀, hs₀, hgate⟩ := still.gates v s hs
    obtain ⟨news, hd, hnews⟩ := still.deeds
    rw [hgate, hd, arrivalsAt_append, arrivalsAt_eq_nil hnews, List.nil_append]
    exact h.gates v s₀ n hs₀ hn
  · have hsame : arrivalsAt r v y.deeds = (Deed.arrival? r v (.delivered r source target passed)).toList ++
        arrivalsAt r v x.deeds := by
      rw [hd, ← List.singleton_append, arrivalsAt_append, arrivalsAt_append, arrivalsAt_eq_nil hasks]
      unfold arrivalsAt
      cases h : Deed.arrival? r v (.delivered r source target passed) <;> simp [h]
    rw [hsame, Gate.after_append]
    rw [hnodes] at hs
    rcases get_withArrival hs with ⟨hne, hs⟩ | ⟨rfl, s₀, hs₀, hgate, -⟩
    · rw [Deed.arrival?, if_neg fun h => hne h.2, ← h.gates v s n hs hn]
      rfl
    · rw [Deed.arrival?, if_pos ⟨rfl, rfl⟩, ← h.gates target s₀ n hs₀ hn]
      exact hgate

theorem stride (hg : g.IsWellFormed) (t : Stride g r x y) (h : Gated g r x) : Gated g r y where
  rounds := h.rounds.stride hg t
  gates := by
    rcases t with t | _
    · exact h.gates_turn t
    · exact h.gates

theorem opening (hg : g.IsWellFormed) (r limit : Nat) (cancelled : Bool) :
    Gated g r (Ledger.opening g limit cancelled) where
  rounds := .opening hg limit cancelled
  gates v s n hs hn := by
    have hnodes : (Ledger.opening g limit cancelled).nodes v =
        (g.node? v).map fun n => ⟨Gate.new n.predecessors.length, .pending⟩ :=
      Graph.get?_initialNodes hg.ids v
    rw [hnodes, hn] at hs
    cases hs
    rfl

end Gated

end

/-! ## Rounds -/

theorem arrivalsAt_eq_nil_of_not_isOfArrival {r : Nat} {v : String} {deeds : List Deed}
    (h : ∀ d ∈ deeds, d.isOfArrival = false) : arrivalsAt r v deeds = [] :=
  arrivalsAt_eq_nil fun d hd => Deed.not_delivers (h d hd)

theorem arrivalsAt_askDeeds (r s : Nat) (v source : String) (edge : Edge) (live : Bool) :
    arrivalsAt r v (World.askDeeds s source edge live) = [] := by
  unfold World.askDeeds
  split <;> rfl

theorem length_arrivalsAt_arriveDeeds (u : World) (t s : Nat) (source : String) (place : Nat)
    (live : Bool) (r : Nat) (v : String) :
    (arrivalsAt r v (u.arriveDeeds t s source place live)).length ≤ 1 := by
  have asks := fun edge => arrivalsAt_askDeeds r s v source edge live
  have counted : ∀ (d : Deed) (edge : Edge),
      (arrivalsAt r v (d :: World.askDeeds s source edge live)).length ≤ 1 := by
    intro d edge
    unfold arrivalsAt at asks ⊢
    rw [List.filterMap_cons, asks]
    cases d.arrival? r v <;> simp
  unfold World.arriveDeeds
  split
  · exact Nat.zero_le 1
  split
  · exact Nat.zero_le 1
  dsimp only
  split
  · exact counted _ _
  split
  · rw [asks]
    exact Nat.zero_le 1
  · exact counted _ _
  · rw [arrivalsAt_append, arrivalsAt_eq_nil_of_not_isOfArrival
      (World.not_isOfArrival_dispatchDeeds _ t s _), List.nil_append]
    exact counted _ _
  · exact counted _ _

theorem World.act_of_waiting {u : World} {a : Act} {r : Nat} {source v : String} {live : Bool}
    (h : .delivered r source v live ∈ u.deeds a) :
    ∃ t s, a = .step t ∧ (u.runs.get r).nodes.get? v = some s ∧
      ((s.gate.arrive live).2 = .waiting →
        (u.act a).tasks.get t = .over ∧ (u.act a).events = u.events) := by
  cases cause_of_mem_deeds h with
  | execution h => cases h
  | @arrival t _ _ _ _ _ edge s takes answer known =>
    refine ⟨t, s, rfl, known, fun hwait => ?_⟩
    obtain ⟨run, harrive, -⟩ := (u.runs.get r).arriveAt_eq live known
    have hwaiting : ((u.runs.get r).arriveAt edge.target live).2 = some .waiting := by
      rw [harrive, hwait]
    have hstep := takes.act_eq.trans ((takes.with_ready (u.ready.erase t)).arrive_eq answer)
    rw [hwaiting] at hstep
    rw [hstep]
    exact ⟨get_tasks_close .., events_close ..⟩

theorem length_arrivalsAt_deeds (u : World) (a : Act) (r : Nat) (v : String) :
    (arrivalsAt r v (u.deeds a)).length ≤ 1 := by
  have none_of : ∀ {deeds : List Deed}, (∀ d ∈ deeds, d.isOfArrival = false) →
      (arrivalsAt r v deeds).length ≤ 1 :=
    fun h => (arrivalsAt_eq_nil_of_not_isOfArrival h) ▸ Nat.zero_le 1
  have executed : ∀ {deeds : List Deed}, (∀ d ∈ deeds, d.isOfExecution) →
      (arrivalsAt r v deeds).length ≤ 1 :=
    fun h => none_of fun d hd => Deed.not_isOfArrival (h d hd)
  cases a with
  | pass ms => exact Nat.zero_le 1
  | cancel c => exact Nat.zero_le 1
  | step t =>
    show (arrivalsAt r v (World.pollDeeds _ t)).length ≤ 1
    unfold World.pollDeeds
    split
    · exact Nat.zero_le 1
    · exact Nat.zero_le 1
    · exact executed (World.ofExecution_conductingDeeds _ _ _)
    · exact length_arrivalsAt_arriveDeeds ..
    · exact none_of (World.not_isOfArrival_dispatchDeeds _ t _ _)
    · exact executed (World.ofExecution_awaitingDeeds _ t _ _)
    · exact executed (World.ofExecution_pausingDeeds _ _ _ _ _ _ _)
    · exact executed (World.ofExecution_nestingDeeds _ t _ _ _)

/-- The round of arrivals at the gate of a node is over. -/
def World.isResolved (w : World) (r : Nat) (v : String) : Bool :=
  ((w.runs.get r).nodes.get? v).any fun s => s.gate.remaining == 0

/-- Where the arrivals at the gate of a node came from that were counted since a round was last over,
up to the newest step, the newest first. -/
def roundAt (r : Nat) (v : String) : List (World × Act) → List String
  | [] => []
  | (u, a) :: past =>
    (arrivalsAt r v (u.deeds a)).map Prod.fst ++ if u.isResolved r v then [] else roundAt r v past

/-- Every node of `nodes` comes once in a list of as many of them, or some node comes twice. -/
theorem count_eq_one_or_twice {nodes sources : List String} (distinct : nodes.Nodup)
    (subset : ∀ u ∈ sources, u ∈ nodes) (length : sources.length = nodes.length) :
    (∀ u ∈ nodes, sources.count u = 1) ∨ ∃ u ∈ nodes, 2 ≤ sources.count u := by
  by_cases h : ∃ u ∈ nodes, 2 ≤ sources.count u
  · exact .inr h
  · refine .inl fun u hu => ?_
    have nodup : sources.Nodup := List.nodup_iff_count_le_one.2 fun x => by
      by_cases hx : x ∈ sources
      · exact Nat.le_of_lt_succ (Nat.lt_of_not_le fun hle => h ⟨x, subset x hx, hle⟩)
      · rw [List.count_eq_zero.2 hx]
        exact Nat.zero_le 1
    have perm : sources.Perm nodes :=
      (nodup.subperm subset).perm_of_length_le length.ge
    rw [perm.count_eq]
    exact List.count_eq_one_of_mem distinct hu

/-! ## Courses -/

section

variable {l : Launch} {past : List (World × Act)} {u w : World} {a : Act} {r : Nat} {v : String}
  {n : GraphNode Component}

theorem Course.gated (sound : l.graph.IsSound) (h : Course l.world past w) (fits : l.Fits)
    (hr : r < w.nextRun) : (w.runs.get r).graph.IsWellFormed ∧
      Gated (w.runs.get r).graph r ((w.view (l.allDeeds past)).ledger r) := by
  obtain ⟨hg, hx⟩ := h.ledgers_of_strides (G := Graph.IsSound) (P := Gated) nested_isSound
    (fun _ _ _ hg => .opening hg.isWellFormed _ _ _) (fun hg t hx => hx.stride hg.isWellFormed t)
    fits sound hr
  exact ⟨hg.isWellFormed, hx⟩

/-- The gate of a node is where the arrivals at it have brought it. -/
theorem Course.gate (sound : l.graph.IsSound) (h : Course l.world past w)
    (hn : (w.runs.get r).graph.node? v = some n) :
    ∃ s, (w.runs.get r).nodes.get? v = some s ∧
      s.gate = (Gate.new n.predecessors.length).after (arrivalsAt r v (l.allDeeds past)) := by
  obtain ⟨hr, fits⟩ := h.lt_nextRun hn
  obtain ⟨-, hx⟩ := h.gated sound fits hr
  obtain ⟨s, hs⟩ := Option.isSome_iff_exists.1 ((hx.rounds.nodes v).trans (hn ▸ rfl))
  refine ⟨s, hs, (hx.gates v s n hs hn).trans ?_⟩
  exact congrArg _ (arrivalsAt_filter ..)

theorem Course.not_arrived (h : Course l.world past w) (hr : ¬r < w.nextRun) :
    arrivalsAt r v (l.allDeeds past) = [] := by
  have hnone : (l.allDeeds past).filter (fun d => d.isIn r) = [] :=
    List.filter_eq_nil_iff.2 fun d hd hin => hr (h.orderly.deeds d hd r hin)
  rw [← arrivalsAt_filter, hnone]
  rfl

theorem Course.isResolved_iff (sound : l.graph.IsSound) (h : Course l.world past w)
    (hn : r < w.nextRun → (w.runs.get r).graph.node? v = some n) (hp : n.predecessors ≠ []) :
    w.isResolved r v ↔
      ((Gate.new n.predecessors.length).after (arrivalsAt r v (l.allDeeds past))).remaining = 0 := by
  by_cases hr : r < w.nextRun
  · obtain ⟨s, hs, hgate⟩ := h.gate sound (hn hr)
    unfold World.isResolved
    rw [hs, ← hgate]
    exact beq_iff_eq
  · unfold World.isResolved
    rw [show w.runs.get r = default from h.orderly.fresh r (Nat.le_of_not_lt hr),
      h.not_arrived hr]
    exact ⟨nofun, fun hz => absurd (List.length_eq_zero_iff.1 hz) hp⟩

/-- What the gate of a node still waits for, and what has arrived in the round, are together as many
as there are nodes before it. -/
theorem Course.remaining_add_roundAt (sound : l.graph.IsSound) (h : Course l.world past w)
    (hn : r < w.nextRun → (w.runs.get r).graph.node? v = some n) (hp : n.predecessors ≠ [])
    (arrived : w.isResolved r v = false ∨
      ∃ u a older, past = (u, a) :: older ∧ arrivalsAt r v (u.deeds a) ≠ []) :
    ((Gate.new n.predecessors.length).after (arrivalsAt r v (l.allDeeds past))).remaining +
      (roundAt r v past).length = n.predecessors.length := by
  have hk : 0 < n.predecessors.length := List.length_pos_iff.2 hp
  induction h with
  | start =>
    have hnone : arrivalsAt r v (l.allDeeds []) = [] :=
      arrivalsAt_eq_nil fun d hd _ _ => by
        obtain ⟨_, rfl⟩ := Launch.concluded_of_mem_deeds hd
        rfl
    rw [hnone]
    rfl
  -- A step counts one arrival at the most, so the gate and the round change together.
  | @next past u a before allowed ih =>
    have hnu : r < u.nextRun → (u.runs.get r).graph.node? v = some n := fun hr =>
      have ⟨_, hlt, hg⟩ := before.strides_act a hr
      hg ▸ hn hlt
    have hu := before.isResolved_iff sound hnu hp
    have hdeeds : arrivalsAt r v (l.allDeeds ((u, a) :: past)) =
        arrivalsAt r v (u.deeds a) ++ arrivalsAt r v (l.allDeeds past) := by
      rw [l.allDeeds_cons, arrivalsAt_append]
    have hone := length_arrivalsAt_deeds u a r v
    rw [hdeeds]
    unfold roundAt
    cases harrivals : arrivalsAt r v (u.deeds a) with
    | nil =>
      have open_still : (u.act a).isResolved r v = false :=
        arrived.resolve_right fun ⟨_, _, _, he, hne⟩ => by
          cases he
          exact hne harrivals
      have hw := (before.next a allowed).isResolved_iff sound hn hp
      rw [hdeeds, harrivals, List.nil_append, ← hu, open_still] at hw
      have hopen : u.isResolved r v = false := Bool.eq_false_iff.2 fun hr => nomatch hw.2 hr
      rw [hopen, List.nil_append]
      exact ih hnu (.inl hopen)
    | cons p rest =>
      obtain rfl : rest = [] := List.length_eq_zero_iff.1 (by
        rw [harrivals, List.length_cons] at hone
        omega)
      have harrive := (((Gate.new n.predecessors.length).after
        (arrivalsAt r v (l.allDeeds past)))).remaining_arrive p.2
      rw [Gate.after_inbound] at harrive
      rw [List.singleton_append, Gate.after_cons]
      cases hopen : u.isResolved r v with
      | true =>
        rw [if_pos (hu.1 hopen)] at harrive
        have hin : (Gate.new n.predecessors.length).inbound = n.predecessors.length := rfl
        simp only [List.map_cons, List.map_nil, if_true, List.append_nil, List.length_singleton]
        omega
      | false =>
        have hne := fun hz => Bool.false_ne_true (hopen.symm.trans (hu.2 hz))
        rw [if_neg hne] at harrive
        have hlen := ih hnu (.inl hopen)
        simp only [List.map_cons, List.map_nil, List.singleton_append, List.length_cons,
          Bool.false_eq_true, if_false]
        omega

theorem roundAt_sublist (l : Launch) (r : Nat) (v : String) (past : List (World × Act)) :
    (roundAt r v past).Sublist ((arrivalsAt r v (l.allDeeds past)).map Prod.fst) := by
  induction past with
  | nil => exact List.nil_sublist _
  | cons p past ih =>
    obtain ⟨u, a⟩ := p
    rw [l.allDeeds_cons, arrivalsAt_append, List.map_append]
    unfold roundAt
    refine (List.Sublist.refl _).append ?_
    split
    · exact List.nil_sublist _
    · exact ih

theorem World.countP_closes (w : World) (L : List Deed) (r : Nat) (u : String) :
    ((w.view L).ledger r).completed u + ((w.view L).ledger r).skipped u =
      (w.happenings r).countP (Happening.closes u) := by
  rw [w.completed_ledger, w.skipped_ledger]
  induction w.happenings r with
  | nil => rfl
  | cons e es ih =>
    have hone : (if e.completes u then 1 else 0) + (if e.skips u then 1 else 0) =
        if e.closes u then 1 else 0 := by
      cases e <;> simp [Happening.closes, Happening.completes, Happening.skips]
    simp only [List.countP_cons]
    omega

theorem Course.gate_of_arrived (sound : l.graph.IsSound) (h : Course l.world ((u, a) :: past) w)
    (hn : (w.runs.get r).graph.node? v = some n) {s : NodeState}
    (hs : (u.runs.get r).nodes.get? v = some s) {source : String} {live : Bool}
    (arrived : arrivalsAt r v (u.deeds a) = [(source, live)]) :
    (Gate.new n.predecessors.length).after (arrivalsAt r v (l.allDeeds ((u, a) :: past))) =
      (s.gate.arrive live).1 := by
  cases h with | next _ before allowed =>
  obtain ⟨hr, -⟩ := before.lt_nextRun_of_ne_default fun hd => by
    rw [hd] at hs
    cases hs
  obtain ⟨-, -, hg⟩ := before.strides_act a hr
  obtain ⟨s₀, hs₀, hgate⟩ := before.gate sound (hg ▸ hn)
  obtain rfl := Option.some.inj (hs.symm.trans hs₀)
  rw [l.allDeeds_cons, arrivalsAt_append, arrived, List.singleton_append, Gate.after_cons, hgate]

theorem arrivalsAt_of_delivered {source : String} {live : Bool}
    (arrived : .delivered r source v live ∈ u.deeds a) :
    arrivalsAt r v (u.deeds a) = [(source, live)] := by
  have hmem : (source, live) ∈ arrivalsAt r v (u.deeds a) :=
    List.mem_filterMap.2 ⟨_, arrived, if_pos ⟨rfl, rfl⟩⟩
  obtain ⟨p, hp⟩ := List.length_eq_one_iff.1
    (Nat.le_antisymm (length_arrivalsAt_deeds u a r v) (List.length_pos_of_mem hmem))
  rw [hp] at hmem ⊢
  rw [List.mem_singleton.1 hmem]

theorem count_roundAt_le_delivered (l : Launch) (r : Nat) (v x : String) (past : List (World × Act))
    (w : World) :
    (roundAt r v past).count x ≤ ((w.view (l.allDeeds past)).ledger r).delivered x v := by
  refine ((roundAt_sublist l r v past).count_le x).trans ?_
  rw [← arrivalsAt_filter]
  exact count_arrivalsAt_le r x v _

/-- What arrives at a gate comes from the nodes before it. -/
theorem Course.mem_predecessors_of_roundAt (sound : l.graph.IsSound) (h : Course l.world past w)
    (hn : (w.runs.get r).graph.node? v = some n) {x : String} (hmem : x ∈ roundAt r v past) :
    x ∈ n.predecessors := by
  obtain ⟨hr, fits⟩ := h.lt_nextRun hn
  obtain ⟨hg, hx⟩ := h.gated sound fits hr
  have hpos := (List.count_pos_iff.2 hmem).trans_le (count_roundAt_le_delivered l r v x past w)
  exact (hg.mem_predecessors hn).2 (hx.rounds.edges x v (Nat.add_pos_right _ hpos))

/-- A node arrives at a gate at most as often as it is done or skipped. -/
theorem Course.count_roundAt_le_closes (sound : l.graph.IsSound) (h : Course l.world past w)
    (hn : (w.runs.get r).graph.node? v = some n) (x : String) :
    (roundAt r v past).count x ≤ (w.happenings r).countP (Happening.closes x) := by
  obtain ⟨hr, fits⟩ := h.lt_nextRun hn
  obtain ⟨-, hx⟩ := h.gated sound fits hr
  have hf := hx.rounds.flights x v
  have hc := count_roundAt_le_delivered l r v x past w
  rw [← w.countP_closes (l.allDeeds past)]
  omega

/-- An arrival ends the round of a gate exactly when it is the last of as many as there are nodes before
the node, all from such nodes. Until then the arrival opens nothing. Each of the nodes has then arrived
once in the round, unless one of them has been closed, and has arrived, more than once. Without jumps
that cannot be. -/
theorem Course.rounds_filled (compiled : Compiled l.graph) (h : Course l.world ((u, a) :: past) w)
    (hn : (w.runs.get r).graph.node? v = some n) {source : String} {live : Bool}
    (arrived : .delivered r source v live ∈ u.deeds a) :
    (∀ x ∈ roundAt r v ((u, a) :: past), x ∈ n.predecessors) ∧
    (w.isResolved r v ↔ (roundAt r v ((u, a) :: past)).length = n.predecessors.length) ∧
    (w.isResolved r v = false →
      ∃ t, a = .step t ∧ w.tasks.get t = .over ∧ w.events = u.events) ∧
    (w.isResolved r v →
      (∀ x ∈ n.predecessors, (roundAt r v ((u, a) :: past)).count x = 1) ∨
        ∃ x ∈ n.predecessors, 2 ≤ (roundAt r v ((u, a) :: past)).count x ∧
          (roundAt r v ((u, a) :: past)).count x ≤ (w.happenings r).countP (Happening.closes x)) ∧
    (Entries.get? l.values Values.overrideKey = none →
      Unwritten Values.overrideKey (deedsOf ((u, a) :: past)) → w.isResolved r v →
        ∀ x ∈ n.predecessors, (roundAt r v ((u, a) :: past)).count x = 1) := by
  obtain ⟨hr, fits⟩ := h.lt_nextRun hn
  obtain ⟨hg, -⟩ := h.gated compiled.isSound fits hr
  have sources : ∀ x ∈ roundAt r v ((u, a) :: past), x ∈ n.predecessors :=
    fun x => h.mem_predecessors_of_roundAt compiled.isSound hn
  have hclosed := h.count_roundAt_le_closes compiled.isSound hn
  have harrivals := arrivalsAt_of_delivered arrived
  obtain ⟨t, s, hstep, hs, hwaiting⟩ := World.act_of_waiting arrived
  have hp : n.predecessors ≠ [] := by
    refine List.ne_nil_of_mem (sources source ?_)
    unfold roundAt
    rw [harrivals]
    exact List.mem_cons_self
  have hover := h.isResolved_iff compiled.isSound (fun _ => hn) hp
  have hlength := h.remaining_add_roundAt compiled.isSound (fun _ => hn) hp
    (.inr ⟨u, a, past, rfl, fun hnone => nomatch harrivals.symm.trans hnone⟩)
  have hfull : w.isResolved r v ↔ (roundAt r v ((u, a) :: past)).length = n.predecessors.length := by
    rw [hover]
    omega
  have honce := fun ended => count_eq_one_or_twice (hg.predecessors hn) sources (hfull.1 ended)
  refine ⟨sources, hfull, fun hwait => ⟨t, hstep, ?_⟩, fun ended => (honce ended).imp_right
    fun ⟨x, hxp, htwo⟩ => ⟨x, hxp, htwo, hclosed x⟩, fun absent unwritten ended => ?_⟩
  -- A gate whose round goes on answers that the node has to wait.
  · have hgate := h.gate_of_arrived compiled.isSound hn hs harrivals
    have hwaits := (Gate.waiting_iff s.gate live).2 fun hz =>
      Bool.false_ne_true (hwait.symm.trans (hover.2 (hgate ▸ hz)))
    cases h with | next _ _ _ => exact hwaiting hwaits
  -- Without jumps no node is closed twice.
  · refine (honce ended).resolve_right fun ⟨x, _, htwo⟩ => ?_
    obtain ⟨-, hj⟩ := h.joins fits compiled.isSound absent unwritten hr
    have hone := (hj.closed_le x).2
    rw [w.countP_closes] at hone
    have hle := hclosed x
    omega

end

/-! ## A node that is executed again -/

namespace Again

def activities : List (String × Activity) :=
  [("idle", .done), ("again", .write Values.overrideKey (.string "a") .done)]

/-- Three nodes after a node: the gate of a fourth one waits for two of them, and the third one asks
for one of these again. -/
def definition : Definition :=
  { Definition.new "again" with
    nodes := [Workshop.spec "r" "idle" ["a", "b", "x"], Workshop.spec "a" "idle" ["d"],
      Workshop.spec "b" "idle" ["d"], Workshop.spec "x" "again" [], Workshop.spec "d" "idle" []] }

def joint : GraphNode Component := Workshop.node "d" "idle" .done ["a", "b"] []

def graph : Graph Component :=
  ⟨"again", "r", [Workshop.node "r" "idle" .done [] ["a", "b", "x"],
    Workshop.node "a" "idle" .done ["r"] ["d"], Workshop.node "b" "idle" .done ["r"] ["d"],
    Workshop.node "x" "again" (.write Values.overrideKey (.string "a") .done) ["r"] [], joint]⟩

theorem compiled : Compiled graph :=
  Workshop.compiled activities definition (.done _)

def launch : Launch := ⟨Http.unreachable, [], false, none, graph, ⟨2, 8⟩, none⟩

end Again

/-- The gate fires for two arrivals of the node that is executed again. -/
theorem rounds_filled_again : ∃ past u a w, Course Again.launch.world ((u, a) :: past) w ∧
    .delivered 0 "a" "d" true ∈ u.deeds a ∧ w.isResolved 0 "d" ∧
    ∃ x ∈ ["a", "b"], 2 ≤ (roundAt 0 "d" ((u, a) :: past)).count x ∧
      (roundAt 0 "d" ((u, a) :: past)).count x ≤ (w.happenings 0).countP (Happening.closes x) := by
  have h : Course Again.launch.world ((_, _) :: [_, _, _, _, _]) _ :=
    ((((((Course.start : Course Again.launch.world [] _).step 1 (by decide)).step 2 (by decide)).step 5
      (by decide)).step 4 (by decide)).step 6 (by decide)).step 7 (by decide)
  obtain ⟨-, -, -, honce, -⟩ := h.rounds_filled Again.compiled (r := 0) (v := "d") (n := Again.joint)
    rfl (show Deed.delivered 0 "a" "d" true ∈ _ from List.mem_cons_of_mem _ (List.mem_singleton_self _))
  refine ⟨_, _, _, _, h, List.mem_cons_of_mem _ (List.mem_singleton_self _), by decide, ?_⟩
  exact (honce (by decide)).resolve_left fun hall => absurd (hall "b" (by decide)) (by decide)

/-- A node that is executed again stands in for a node that has not arrived. -/
theorem not_once_each : ¬∀ (l : Launch) (past : List (World × Act)) (u w : World) (a : Act) (r : Nat)
    (v source : String) (live : Bool) (n : GraphNode Component), Compiled l.graph →
    Course l.world ((u, a) :: past) w → (w.runs.get r).graph.node? v = some n →
    .delivered r source v live ∈ u.deeds a → w.isResolved r v →
    ∀ x ∈ n.predecessors, (roundAt r v ((u, a) :: past)).count x = 1 := by
  intro hall
  have h : Course Again.launch.world ((_, _) :: [_, _, _, _, _]) _ :=
    ((((((Course.start : Course Again.launch.world [] _).step 1 (by decide)).step 2 (by decide)).step 5
      (by decide)).step 4 (by decide)).step 6 (by decide)).step 7 (by decide)
  have hb := hall _ _ _ _ _ 0 "d" "a" true Again.joint Again.compiled h rfl
    (List.mem_cons_of_mem _ (List.mem_singleton_self _)) (by decide) "b" (by decide)
  exact absurd hb (by decide)

end Conduit
