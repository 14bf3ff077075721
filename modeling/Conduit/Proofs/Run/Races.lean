import Conduit.Proofs.Run.Exact
import Conduit.Proofs.Run.Footprints
import Conduit.Proofs.Run.Single

/-!
# Races

In a graph without races, of two nodes that touch the same key one comes before the other, so they never
execute at the same time. What a node does then depends only on what the nodes before it did, and so does
whether an arrival from it passes.
-/

namespace Conduit

/-! ## Graphs without races -/

/-- The context keys that the nodes of a graph read and write. -/
structure Footprint where
  reads : String → String → Prop
  writes : String → String → Prop

namespace Graph

/-- Edges lead from the first node to the second. -/
def Before (g : Graph Component) : String → String → Prop := Relation.TransGen g.Leads

def Has (g : Graph Component) (node : String) : Prop := ∃ n, g.node? node = some n

def Executes (g : Graph Component) (node : String) (activity : Activity) : Prop :=
  ∃ n kind origin, g.node? node = some n ∧ n.slot = .ready (.basic kind activity) origin

theorem Executes.unique {g : Graph Component} {node : String} {a b : Activity} (ha : g.Executes node a)
    (hb : g.Executes node b) : a = b := by
  obtain ⟨n, kind, origin, hn, hslot⟩ := ha
  obtain ⟨m, kind', origin', hm, hslot'⟩ := hb
  obtain rfl := Option.some.inj (hn.symm.trans hm)
  cases hslot.symm.trans hslot'
  rfl

/-- Executions keep to the footprint, which has no key that runs heed. Of two nodes that neither comes
before the other, none writes a key that the other reads or writes, and a key that the condition of an
edge reads is written only before or after the edge. -/
structure RaceFree (g : Graph Component) (network : Http.Network) (f : Footprint) : Prop where
  confined : ∀ v, g.Has v → ∃ a, g.Executes v a ∧ a.Confined network (f.reads v) (f.writes v)
  unsteered : ∀ v, g.Has v → ∀ k ∈ [Values.errorKey, Values.endKey, Values.overrideKey], ¬f.writes v k
  apart : ∀ u v, g.Has u → g.Has v → u ≠ v → ¬g.Before u v → ¬g.Before v u →
    ∀ k, f.writes u k → ¬f.reads v k ∧ ¬f.writes v k
  asked : ∀ u n, g.node? u = some n → ∀ edge ∈ n.edges, ∀ k ∈ edge.keys, ∀ v, g.Has v → f.writes v k →
    v = u ∨ g.Before v u ∨ v = edge.target ∨ g.Before edge.target v

namespace RaceFree

variable {g : Graph Component} {network : Http.Network} {f : Footprint}

theorem confined_of_executes (race : g.RaceFree network f) {v : String} {a : Activity}
    (h : g.Executes v a) : a.Confined network (f.reads v) (f.writes v) := by
  obtain ⟨n, _, _, hn, -⟩ := id h
  obtain ⟨b, hb, hc⟩ := race.confined v ⟨n, hn⟩
  exact h.unique hb ▸ hc

theorem before_or_before (race : g.RaceFree network f) {u v k : String} (hu : g.Has u) (hv : g.Has v)
    (hne : u ≠ v) (huk : f.writes u k) (hvk : f.reads v k ∨ f.writes v k) :
    g.Before u v ∨ g.Before v u := by
  by_contra hno
  obtain ⟨huv, hvu⟩ := not_or.1 hno
  obtain ⟨hr, hw⟩ := race.apart u v hu hv hne huv hvu k huk
  exact hvk.elim hr hw

end RaceFree

theorem IsWellFormed.wellFounded_before {g : Graph Component} (hg : g.IsWellFormed) :
    WellFounded g.Before := by
  obtain ⟨rank, hrank⟩ := hg.acyclic
  exact (Subrelation.wf hrank (InvImage.wf rank Nat.lt_wfRel.wf)).transGen

theorem IsWellFormed.not_before_self {g : Graph Component} (hg : g.IsWellFormed) (v : String) :
    ¬g.Before v v :=
  fun h => hg.wellFounded_before.asymmetric v v h h

end Graph

/-! ## Nodes that execute at the same time -/

namespace Joins

variable {g : Graph Component} {x : Ledger} {r : Nat} {u v : String}

theorem closed_of_before (hg : g.IsWellFormed) (hj : Joins g r x)
    (hu : Relation.ReflTransGen g.Leads g.root u) (h : g.Before u v) (hv : 0 < x.visits v) :
    0 < x.completed u + x.skipped u := by
  have arrived : ∀ {w v}, Relation.ReflTransGen g.Leads g.root w → g.Leads w v → 0 < x.visits v →
      0 < x.completed w + x.skipped w := by
    intro w v hw hl hv
    have hf := hj.flights w v
    rcases hj.full v hv with rfl | ⟨n, hn, -, hall⟩
    · exact absurd (Relation.TransGen.tail' hw hl) (hg.not_before_self _)
    · have hd := hall w ((hg.mem_predecessors hn).2 hl)
      omega
  induction h with
  | single hl => exact arrived hu hl hv
  | @tail w v hb hl ih =>
    have hc := arrived (hu.trans hb.to_reflTransGen) hl hv
    exact ih (hc.trans_le (hj.closed_le w).1)

theorem open_of_during (hj : Joins g r x) (h : .during v ∈ x.errands) :
    0 < x.started v ∧ x.completed v + x.skipped v = 0 := by
  have hpos := Multiset.count_pos.2 h
  have hone := hj.once v
  have he := hj.executed v
  unfold Ledger.visits at hone
  omega

theorem visits_of_started (h : 0 < x.started v) : 0 < x.visits v := by
  unfold Ledger.visits
  omega

theorem not_before_of_during (hg : g.IsWellFormed) (hj : Joins g r x) (h : .during u ∈ x.errands)
    (hv : 0 < x.visits v) : ¬g.Before u v := by
  intro hb
  obtain ⟨hs, hc⟩ := hj.open_of_during h
  have hclosed := hj.closed_of_before hg (hj.reached u (visits_of_started hs)) hb hv
  omega

end Joins

/-! ## Strands -/

/-- What a task still executes of a node. -/
def Duty.script? : Duty → Option (String × Activity)
  | .performing node activity => some (node, activity)
  | .pausing node _ next _ => some (node, next)
  | .ended node result => some (node, .finish result)
  | _ => none

/-- What an execution did to keys. -/
def Deed.entries : Deed → Log
  | .performed _ node touches _ => Log.entries node touches
  | _ => []

def Deed.delivered? : Deed → Option (String × String × Bool)
  | .delivered _ source target live => some (source, target, live)
  | _ => none

/-- What a run has done to keys, and what it still executes. -/
@[ext] structure Strand where
  values : Values
  scripts : Multiset (String × Activity)
  log : Log
  completed : List String
  /-- The arrivals that were counted, and whether they were live. -/
  delivered : List (String × String × Bool)

def scriptsOf (crew : Multiset (Nat × Duty)) : Multiset (String × Activity) :=
  crew.filterMap fun p => p.2.script?

def Stage.strand (S : Stage) : Strand where
  values := S.values 0
  scripts := scriptsOf S.crew
  log := S.deeds.flatMap Deed.entries
  completed := S.events.filterMap fun e => e.2.completed?
  delivered := S.deeds.filterMap Deed.delivered?

/-- What a move does to the strand of a run that nothing goes wrong in. -/
inductive Stir (g : Graph Component) (network : Http.Network) (x : Ledger) (s : Strand) : Strand → Prop where
  | still : Stir g network x s s
  | count {source : String} {n : GraphNode Component} {edge : Edge} {live passed : Bool}
      (flying : .flying source edge.target live ∈ x.errands) (node_eq : g.node? source = some n)
      (mem : edge ∈ n.edges) (isLive : edge.isLive s.values live = .ok passed) :
      Stir g network x s { s with delivered := (source, edge.target, passed) :: s.delivered }
  | start {node : String} {activity : Activity} (admitted : .admitted node ∈ x.errands)
      (executes : g.Executes node activity) :
      Stir g network x s { s with scripts := (node, activity) ::ₘ s.scripts }
  | play {node : String} {activity : Activity} {rest : Multiset (String × Activity)} {scene : Scene}
      {pending : Pending} (scripts : s.scripts = (node, activity) ::ₘ rest)
      (burst : activity.burst network ⟨s.values, false, [], []⟩ = (scene, pending)) :
      Stir g network x s { s with
        values := scene.values
        scripts := (node, pending.rest) ::ₘ rest
        log := Log.entries node (activity.touches network ⟨s.values, false, [], []⟩) ++ s.log }
  | settle {node : String} {result : Result} {rest : Multiset (String × Activity)}
      (scripts : s.scripts = (node, .finish result) ::ₘ rest) :
      Stir g network x s { s with scripts := rest, completed := node :: s.completed }

/-- The strand shows what the ledger shows. -/
structure Linked (x : Ledger) (s : Strand) : Prop where
  scripts : (s.scripts.map fun p => Errand.during p.1) ≤ x.errands
  completed : ∀ v, v ∈ s.completed ↔ 0 < x.completed v
  delivered : ∀ u v live, (u, v, live) ∈ s.delivered ↔ .delivered 0 u v live ∈ x.deeds
  arrived : ∀ u v, 0 < x.delivered u v → ∃ live, (u, v, live) ∈ s.delivered

namespace Linked

variable {x : Ledger} {s : Strand}

theorem during (h : Linked x s) {p : String × Activity} (hp : p ∈ s.scripts) :
    .during p.1 ∈ x.errands :=
  Multiset.mem_of_le h.scripts (Multiset.mem_map_of_mem _ hp)

theorem ne_of_mem {g : Graph Component} (h : Linked x s) (hj : Joins g 0 x) {v : String} {a : Activity}
    {rest : Multiset (String × Activity)} (scripts : s.scripts = (v, a) ::ₘ rest)
    {p : String × Activity} (hp : p ∈ rest) : p.1 ≠ v := by
  rintro rfl
  have hle := Multiset.count_le_of_le (Errand.during p.1) h.scripts
  have hpos : 0 < (rest.map fun q => Errand.during q.1).count (.during p.1) :=
    Multiset.count_pos.2 (Multiset.mem_map_of_mem (fun q : String × Activity => Errand.during q.1) hp)
  rw [scripts, Multiset.map_cons, Multiset.count_cons_self] at hle
  have hone := hj.once p.1
  have he := hj.executed p.1
  unfold Ledger.visits at hone
  omega

end Linked

/-! ## Tracked strands -/

/-- Whatever touched keys did so after all nodes before it, and what a node has done and is going to do is
what it does after the nodes before it alone. -/
structure Tracked (g : Graph Component) (network : Http.Network) (f : Footprint) (values : Values)
    (x : Ledger) (s : Strand) : Prop where
  values_eq : s.values = s.log.replay values
  written : ∀ e ∈ s.log, f.writes e.1 e.2.key
  started : ∀ e ∈ s.log, 0 < x.started e.1
  ordered : s.log.IsOrdered g.Before
  playing : ∀ p ∈ s.scripts, p.2.Confined network (f.reads p.1) (f.writes p.1) ∧
    ∃ a, g.Executes p.1 a ∧ s.log.touchesOf p.1 ++ p.2.solo network s.values =
      a.solo network ((s.log.only fun u => g.Before u p.1).replay values)
  played : ∀ v ∈ s.completed, ∃ a, g.Executes v a ∧
    s.log.touchesOf v = a.solo network ((s.log.only fun u => g.Before u v).replay values)
  delivered : ∀ u v live, (u, v, live) ∈ s.delivered → u ∈ s.completed → ∀ n edge, g.node? u = some n →
    edge ∈ n.edges → edge.target = v →
      edge.isLive ((s.log.only fun w => w = u ∨ g.Before w u).replay values) true = .ok live

namespace Tracked

open Joins

variable {g : Graph Component} {network : Http.Network} {f : Footprint} {values : Values} {x y : Ledger}
  {s t : Strand}

theorem has (hg : g.IsWellFormed) (hj : Joins g 0 x) (h : Tracked g network f values x s)
    {e : String × Touch} (he : e ∈ s.log) : g.Has e.1 :=
  hj.exists_node hg (visits_of_started (h.started e he))

/-- What a node reads when it starts was left by the nodes before it. -/
theorem reads_of_admitted (hg : g.IsWellFormed) (race : g.RaceFree network f) (hj : Joins g 0 x)
    (h : Tracked g network f values x s) {v : String} (admitted : .admitted v ∈ x.errands) :
    s.log.touchesOf v = [] ∧ ∀ k, f.reads v k → Entries.get? s.values k =
      Entries.get? ((s.log.only fun u => g.Before u v).replay values) k := by
  have hcount := Multiset.count_pos.2 admitted
  have hone := hj.once v
  have hc := hj.executed v
  unfold Ledger.visits at hone
  have hv : 0 < x.visits v := by
    unfold Ledger.visits
    omega
  have hno : ∀ e ∈ s.log, e.1 ≠ v := by
    rintro e he rfl
    have hs := h.started e he
    omega
  refine ⟨List.eq_nil_iff_forall_not_mem.2 fun t ht => hno _ (Log.mem_touchesOf.1 ht) rfl,
    fun k hk => ?_⟩
  rw [h.values_eq]
  refine (Log.get?_replay_only (fun e he hek => ?_) values).symm
  refine (race.before_or_before (h.has hg hj he) (hj.exists_node hg hv) (hno e he)
    (hek ▸ h.written e he) (.inl hk)).resolve_right fun hb => ?_
  have hclosed := hj.closed_of_before hg (hj.reached v hv) hb (visits_of_started (h.started e he))
  omega

/-- What the condition of an edge reads was left by the source of the edge and the nodes before it. -/
theorem reads_of_flying (hg : g.IsWellFormed) (race : g.RaceFree network f) (hj : Joins g 0 x)
    (h : Tracked g network f values x s) {u : String} {n : GraphNode Component} {edge : Edge}
    {live : Bool} (flying : .flying u edge.target live ∈ x.errands) (hn : g.node? u = some n)
    (he : edge ∈ n.edges) {k : String} (hk : k ∈ edge.keys) : Entries.get? s.values k =
      Entries.get? ((s.log.only fun w => w = u ∨ g.Before w u).replay values) k := by
  have hpos : 0 < x.flying u edge.target := by
    have hc := Multiset.count_pos.2 flying
    unfold Ledger.flying
    cases live <;> omega
  obtain ⟨-, hu, hl, -, hv⟩ := hj.of_flying hg hpos
  rw [h.values_eq]
  refine (Log.get?_replay_only (fun e hm hek => ?_) values).symm
  have hs := visits_of_started (h.started e hm)
  rcases race.asked u n hn edge he k hk e.1 (h.has hg hj hm) (hek ▸ h.written e hm) with
    hw | hw | hw | hw
  · exact .inl hw
  · exact .inr hw
  · rw [hw] at hs
    omega
  · have hclosed := hj.closed_of_before hg ((hj.reached u hu).tail hl) hw hs
    have hle := (hj.closed_le edge.target).1
    omega

theorem still (h : Tracked g network f values x s) (started : ∀ v, x.started v ≤ y.started v) :
    Tracked g network f values y s :=
  { h with started := fun e he => (h.started e he).trans_le (started e.1) }

theorem count (hg : g.IsWellFormed) (race : g.RaceFree network f) (hj : Joins g 0 x)
    (hx : Exact g 0 x) (linked : Linked x s) (h : Tracked g network f values x s) {source : String}
    {n : GraphNode Component} {edge : Edge} {live passed : Bool}
    (flying : .flying source edge.target live ∈ x.errands) (node_eq : g.node? source = some n)
    (mem : edge ∈ n.edges) (isLive : edge.isLive s.values live = .ok passed) :
    Tracked g network f values x { s with
      delivered := (source, edge.target, passed) :: s.delivered } := by
  refine { h with delivered := fun u v b hm hu m edge' hm' he' ht => ?_ }
  rcases List.mem_cons.1 hm with hm | hm
  · cases hm
    obtain rfl := Option.some.inj (node_eq.symm.trans hm')
    obtain rfl := hg.edge_eq node_eq mem he' ht.symm
    -- A dead arrival comes from a node that was skipped, which this one was not.
    obtain rfl : live = true := by
      by_contra hl
      rw [Bool.not_eq_true] at hl
      have hs := hx.dead _ _ (hl ▸ flying)
      have hc := (linked.completed _).1 hu
      have hone := (hj.closed_le source).2
      omega
    rw [← isLive]
    exact Edge.isLive_congr (fun k hk => (h.reads_of_flying hg race hj flying node_eq mem hk).symm) _
  · exact h.delivered u v b hm hu m edge' hm' he' ht

theorem start (hg : g.IsWellFormed) (race : g.RaceFree network f) (hj : Joins g 0 x)
    (h : Tracked g network f values x s) {node : String} {activity : Activity}
    (admitted : .admitted node ∈ x.errands) (executes : g.Executes node activity) :
    Tracked g network f values x { s with scripts := (node, activity) ::ₘ s.scripts } := by
  have confined := race.confined_of_executes executes
  obtain ⟨hnone, hreads⟩ := h.reads_of_admitted hg race hj admitted
  refine { h with playing := fun p hp => ?_ }
  rcases Multiset.mem_cons.1 hp with rfl | hp
  · refine ⟨confined, activity, executes, ?_⟩
    rw [hnone, List.nil_append]
    exact confined.solo_congr hreads
  · exact h.playing p hp

/-- What another node does is nothing to what a node that executes is still going to do. -/
theorem solo_of_apart (hg : g.IsWellFormed) (race : g.RaceFree network f) (hj : Joins g 0 x)
    (linked : Linked x s) (h : Tracked g network f values x s) {node : String}
    (during : .during node ∈ x.errands) {p : String × Activity} (hp : p ∈ s.scripts) (hne : p.1 ≠ node)
    {touches : List Touch} (written : ∀ t ∈ touches, f.writes node t.key) :
    p.2.solo network (touches.foldl Touch.apply s.values) = p.2.solo network s.values := by
  have hpduring := linked.during hp
  have hnode := visits_of_started (hj.open_of_during during).1
  have hpnode := visits_of_started (hj.open_of_during hpduring).1
  refine (h.playing p hp).1.solo_congr fun k hk => Touch.get?_foldl_apply (fun t ht htk => ?_) _
  rcases race.before_or_before (hj.exists_node hg hnode) (hj.exists_node hg hpnode) hne.symm
    (htk ▸ written t ht) (.inl hk) with hbefore | hbefore
  · exact hj.not_before_of_during hg during hpnode hbefore
  · exact hj.not_before_of_during hg hpduring hnode hbefore

theorem play (hg : g.IsWellFormed) (race : g.RaceFree network f) (hj : Joins g 0 x)
    (linked : Linked x s) (h : Tracked g network f values x s) {node : String} {activity : Activity}
    {rest : Multiset (String × Activity)} {scene : Scene} {pending : Pending}
    (scripts : s.scripts = (node, activity) ::ₘ rest)
    (burst : activity.burst network ⟨s.values, false, [], []⟩ = (scene, pending)) :
    Tracked g network f values x { s with
      values := scene.values
      scripts := (node, pending.rest) ::ₘ rest
      log := Log.entries node (activity.touches network ⟨s.values, false, [], []⟩) ++ s.log } := by
  have hmem : (node, activity) ∈ s.scripts := scripts ▸ Multiset.mem_cons_self _ _
  have hduring : .during node ∈ x.errands := linked.during hmem
  obtain ⟨hstarted, hopen⟩ := hj.open_of_during hduring
  obtain ⟨confined, a, executes, hsolo⟩ := h.playing _ hmem
  obtain ⟨-, hrest, hkeys, hburst⟩ := confined.burst ⟨s.values, false, [], []⟩ rfl
  have hvalues := (Activity.bursts_of_burst burst).values_eq
  dsimp only at hrest hkeys hburst
  rw [burst] at hrest hburst
  have notBefore : ∀ {v}, 0 < x.visits v → ¬g.Before node v := hj.not_before_of_during hg hduring
  refine
    { values_eq := ?_, written := ?_, started := ?_, playing := ?_, played := ?_, delivered := ?_
      ordered := h.ordered.entries_append (hg.not_before_self node)
        (fun e he => notBefore (visits_of_started (h.started e he))) _ }
  · rw [Log.replay_entries, ← h.values_eq]
    exact hvalues
  · intro e he
    rcases List.mem_append.1 he with he | he
    · obtain ⟨hv, ht⟩ := Log.mem_entries.1 he
      exact hv ▸ hkeys e.2 ht
    · exact h.written e he
  · intro e he
    rcases List.mem_append.1 he with he | he
    · exact (Log.mem_entries.1 he).1 ▸ hstarted
    · exact h.started e he
  · intro p hp
    rcases Multiset.mem_cons.1 hp with rfl | hp
    · refine ⟨hrest, a, executes, ?_⟩
      dsimp only at hsolo hburst ⊢
      rw [Log.touchesOf_entries_self, Log.only_entries_of_not (g.Before · node)
        (hg.not_before_self node), ← hsolo, hburst, List.append_assoc]
    · -- The other scripts stand apart from this one, which writes nothing that they read.
      have hne := linked.ne_of_mem hj scripts hp
      have hp : p ∈ s.scripts := scripts ▸ Multiset.mem_cons_of_mem hp
      have hpstarted := (hj.open_of_during (linked.during hp)).1
      obtain ⟨hconfined, b, hb, hsolo⟩ := h.playing p hp
      refine ⟨hconfined, b, hb, ?_⟩
      rw [Log.touchesOf_entries_of_ne hne.symm, Log.only_entries_of_not (g.Before · p.1)
        (notBefore (visits_of_started hpstarted)), ← hsolo]
      exact congrArg _ ((congrArg _ hvalues).trans (h.solo_of_apart hg race hj linked hduring hp hne hkeys))
  · intro v hv
    have hc := (linked.completed v).1 hv
    have hle := hj.closed_le v
    -- A node that is done is not the one that performs, nor does that one come before it.
    have hne : node ≠ v := by
      rintro rfl
      omega
    obtain ⟨b, hb, hplayed⟩ := h.played v hv
    refine ⟨b, hb, ?_⟩
    rw [Log.touchesOf_entries_of_ne hne, Log.only_entries_of_not (g.Before · v)
      (notBefore (by omega)), hplayed]
  · intro u v live hd hu n edge hn he ht
    have hc := (linked.completed u).1 hu
    have hle := hj.closed_le u
    have hnot : ¬(node = u ∨ g.Before node u) := by
      rintro (rfl | hb)
      · omega
      · exact notBefore (by omega) hb
    rw [Log.only_entries_of_not (fun w => w = u ∨ g.Before w u) hnot]
    exact h.delivered u v live hd hu n edge hn he ht

theorem settle (hj : Joins g 0 x) (linked : Linked x s) (h : Tracked g network f values x s)
    {node : String} {result : Result} {rest : Multiset (String × Activity)}
    (scripts : s.scripts = (node, .finish result) ::ₘ rest) :
    Tracked g network f values x { s with scripts := rest, completed := node :: s.completed } := by
  have hmem : (node, .finish result) ∈ s.scripts := scripts ▸ Multiset.mem_cons_self _ _
  have hduring : .during node ∈ x.errands := linked.during hmem
  have hopen := (hj.open_of_during hduring).2
  refine { h with
    playing := fun p hp => h.playing p (scripts ▸ Multiset.mem_cons_of_mem hp)
    played := fun v hv => ?_
    delivered := fun u v live hd hu => ?_ }
  · rcases List.mem_cons.1 hv with rfl | hv
    · obtain ⟨-, a, executes, hsolo⟩ := h.playing _ hmem
      exact ⟨a, executes, (List.append_nil _).symm.trans hsolo⟩
    · exact h.played v hv
  · rcases List.mem_cons.1 hu with rfl | hu
    · have hpos : 0 < x.delivered u v :=
        List.countP_pos_iff.2 ⟨_, (linked.delivered u v live).1 hd, by simp [Deed.delivers]⟩
      have hf := hj.flights u v
      omega
    · exact h.delivered u v live hd hu

theorem stir (hg : g.IsWellFormed) (race : g.RaceFree network f) (hj : Joins g 0 x) (hx : Exact g 0 x)
    (linked : Linked x s) (h : Tracked g network f values x s) (m : Stir g network x s t) :
    Tracked g network f values x t := by
  cases m with
  | still => exact h
  | count flying node_eq mem isLive => exact h.count hg race hj hx linked flying node_eq mem isLive
  | start admitted executes => exact h.start hg race hj admitted executes
  | play scripts burst => exact h.play hg race hj linked scripts burst
  | settle scripts => exact h.settle hj linked scripts

end Tracked

end Conduit
