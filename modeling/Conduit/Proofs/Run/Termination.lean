import Conduit.Proofs.Run.Joins
import Conduit.Proofs.Run.Tally
import Mathlib.Algebra.Order.BigOperators.Group.List
import Mathlib.Data.Multiset.DershowitzManna
import Mathlib.SetTheory.Ordinal.Family
import Mathlib.Tactic.Abel

/-!
# Termination

Every move takes a piece of work from the crew and leaves lighter pieces. Dispatching a node costs a
step, arrivals go down in an acyclic graph, an execution goes on in a smaller activity, and the run of
a pipeline works on a smaller graph. So tasks go on only so often, whoever goes on when.
-/

namespace Conduit

/-! ## Heights -/

open Classical in
/-- A number for every node of an acyclic graph that grows along the edges. -/
noncomputable def Graph.depth (g : Graph Component) : String → Nat :=
  if h : ∃ rank : String → Nat, ∀ {u v}, g.Leads u v → rank u < rank v then h.choose else fun _ => 0

/-- How far a node is from the depth that no node reaches. -/
noncomputable def Graph.height (g : Graph Component) (v : String) : Nat :=
  (g.nodes.map fun n => g.depth n.id).sum + 1 - g.depth v

theorem Graph.IsWellFormed.height_lt {g : Graph Component} (hg : g.IsWellFormed) {u v : String}
    (h : g.Leads u v) : g.height v < g.height u := by
  have hd : g.depth u < g.depth v := by
    unfold depth
    rw [dif_pos hg.acyclic]
    exact hg.acyclic.choose_spec h
  obtain ⟨n, hn⟩ := hg.target h
  obtain ⟨hm, rfl⟩ := mem_of_node? hn
  have hle : g.depth n.id ≤ (g.nodes.map fun n => g.depth n.id).sum :=
    List.le_sum_of_mem (List.mem_map_of_mem hm)
  unfold height
  omega

/-! ## Ranks of activities -/

open Ordinal in
/-- How much an execution has still to do. A wait takes more than what it puts off. -/
noncomputable def Activity.rank : Activity → Ordinal.{0}
  | .finish _ => 1
  | .look next => ⨆ values, (next values).rank + 1
  | .write _ _ next => next.rank + 1
  | .erase _ next => next.rank + 1
  | .cancel next => next.rank + 1
  | .emit _ next => next.rank + 1
  | .note _ next => next.rank + 1
  | .pause _ next stopped => max next.rank stopped.rank + 2
  | .send _ next stopped => (⨆ reply, max (next reply).rank stopped.rank + 2)

namespace Activity

theorem rank_lt_look (next : Values → Activity) (values : Values) :
    (next values).rank < (look next).rank :=
  (lt_add_one _).trans_le (Ordinal.le_iSup (fun values => (next values).rank + 1) values)

theorem rank_send (request : Http.Request) (next : Http.Reply → Activity) (stopped : Activity)
    (reply : Http.Reply) :
    max (next reply).rank stopped.rank + 2 ≤ (send request next stopped).rank :=
  Ordinal.le_iSup (fun reply => max (next reply).rank stopped.rank + 2) reply

theorem lt_add_two {a b : Ordinal} (h : a ≤ b) : a < b + 2 :=
  h.trans_lt (lt_add_of_pos_right b two_pos)

theorem rank_pos (a : Activity) : 0 < a.rank := by
  cases a with
  | finish result => exact zero_lt_one
  | look next => exact zero_le.trans_lt (rank_lt_look next [])
  | pause ms next stopped => exact lt_add_two zero_le
  | send request next stopped =>
    exact (lt_add_two zero_le).trans_le (rank_send request next stopped .lost)
  | _ => exact zero_le.trans_lt (lt_add_one _)

/-- What an execution waits with has less to do than the execution. -/
theorem Bursts.rank_lt {network : Http.Network} {a : Activity} {s s' : Scene} {ts : List Touch}
    {p : Pending} (b : a.Bursts network s ts s' p) {ms : Nat} {next stopped : Activity}
    (waits : p = .asleep ms next stopped) : max next.rank stopped.rank + 1 < a.rank := by
  have hone : ∀ x : Ordinal.{0}, x + 1 < x + 2 := fun x => add_lt_add_right one_lt_two x
  induction b with
  | finish => cases waits
  | @look f s _ _ _ rest ih => exact (ih waits).trans (rank_lt_look f s.values)
  | write rest ih | erase rest ih | cancel rest ih | emit rest ih | note rest ih =>
    exact (ih waits).trans (lt_add_one _)
  | cut rest ih => exact (ih waits).trans (lt_add_two (le_max_right ..))
  | pass rest ih => exact (ih waits).trans (lt_add_two (le_max_left ..))
  | pause =>
    cases waits
    exact hone _
  | @drop request f b _ _ _ _ rest ih =>
    exact (ih waits).trans_le ((lt_add_two (le_max_right ..)).le.trans (rank_send request f b .lost))
  | @reply request f b _ _ _ _ reply rest ih =>
    exact (ih waits).trans ((lt_add_two (le_max_left ..)).trans_le (rank_send request f b reply))
  | @send request f b _ ms reply =>
    have hr := rank_send request f b reply
    cases waits
    exact (hone _).trans_le hr

end Activity

/-! ## Weights -/

/-- The size of the graph that is worked on, how far the work is from a node's end, and what is left
of it there. -/
abbrev Weight := ℕ ×ₗ ℕ ×ₗ Ordinal.{0}

def weigh (size phase : Nat) (rest : Ordinal.{0}) : Weight := toLex (size, toLex (phase, rest))

theorem weigh_lt_of_size {m n : Nat} (h : m < n) (p q : Nat) (a b : Ordinal.{0}) :
    weigh m p a < weigh n q b :=
  Prod.Lex.left _ _ h

theorem weigh_lt_of_phase (m : Nat) {p q : Nat} (h : p < q) (a b : Ordinal.{0}) :
    weigh m p a < weigh m q b :=
  Prod.Lex.right _ (Prod.Lex.left _ _ h)

theorem weigh_lt_of_rest (m p : Nat) {a b : Ordinal.{0}} (h : a < b) :
    weigh m p a < weigh m p b :=
  Prod.Lex.right _ (Prod.Lex.right _ h)

namespace Duty

def phase : Duty → Nat
  | .arriving _ _ _ => 0
  | .skipping _ => 0
  | .dispatched _ => 0
  | .leaving => 0
  | .going _ => 1
  | .performing _ _ => 2
  | .pausing _ _ _ _ => 2
  | .ended _ _ => 2
  | .nesting _ _ => 3
  | .admitted _ => 4
  | .awaiting _ => 5

/-- What is left of a duty within its phase. An arrival at a node comes before its dispatch. -/
noncomputable def rest (g : Graph Component) : Duty → Ordinal.{0}
  | .arriving source place _ =>
    match (g.node? source).bind fun n => n.edges[place]? with
    | some edge => (2 * g.height edge.target + 2 : ℕ)
    | none => 1
  | .skipping node => (2 * g.height node + 1 : ℕ)
  | .dispatched node => (2 * g.height node + 1 : ℕ)
  | .performing _ activity => activity.rank
  | .pausing _ _ next stopped => max next.rank stopped.rank + 1
  | _ => 0

noncomputable def weight (g : Graph Component) (d : Duty) : Weight :=
  weigh (sizeOf g) d.phase (d.rest g)

end Duty

/-- The steps that a run has left, each heavier than all that the run does at a node. -/
noncomputable def Run.spare (run : Run) : Multiset Weight :=
  Multiset.replicate (run.limits.steps - run.steps) (weigh (sizeOf run.graph) 6 0)

namespace Stage

noncomputable def spare (S : Stage) : Multiset Weight :=
  (Multiset.range S.nextRun).bind fun r => (S.runs r).spare

/-- All that is left to do. -/
noncomputable def load (S : Stage) : Multiset Weight :=
  (S.crew.map fun p => p.2.weight (S.runs p.1).graph) + S.spare

theorem spare_congr {S S' : Stage} (nextRun : S'.nextRun = S.nextRun)
    (runs : ∀ s, (S'.runs s).spare = (S.runs s).spare) : S'.spare = S.spare := by
  unfold spare
  rw [nextRun]
  exact Multiset.bind_congr fun s _ => runs s

theorem spare_step {S S' : Stage} {r : Nat} {run : Run} (hr : r < S.nextRun)
    (nextRun : S'.nextRun = S.nextRun) (runs : S'.runs = Function.update S.runs r run)
    (graph : run.graph = (S.runs r).graph) (limits : run.limits = (S.runs r).limits)
    (steps : run.steps = (S.runs r).steps + 1)
    (le : (S.runs r).steps + 1 ≤ (S.runs r).limits.steps) :
    S.spare = weigh (sizeOf (S.runs r).graph) 6 0 ::ₘ S'.spare := by
  have hrun : (S.runs r).spare = weigh (sizeOf (S.runs r).graph) 6 0 ::ₘ run.spare := by
    unfold Run.spare
    rw [graph, limits, steps, ← Multiset.replicate_succ]
    congr 1
    omega
  have hrange : Multiset.range S.nextRun = r ::ₘ (Multiset.range S.nextRun).erase r :=
    (Multiset.cons_erase (Multiset.mem_range.2 hr)).symm
  have hrest : ∀ s ∈ (Multiset.range S.nextRun).erase r, (S'.runs s).spare = (S.runs s).spare := by
    intro s hs
    have hne : s ≠ r := ((Multiset.nodup_range _).mem_erase_iff.1 hs).1
    rw [runs, Function.update_of_ne hne]
  unfold spare
  rw [nextRun, hrange, Multiset.cons_bind, Multiset.cons_bind, Multiset.bind_congr hrest, hrun, runs,
    Function.update_self, Multiset.cons_add]

theorem spare_begin {S S' : Stage} (r : Nat)
    (runs : ∀ s, s < r → (S'.runs s).spare = (S.runs s).spare) (hr : r = S.nextRun)
    (nextRun : S'.nextRun = S.nextRun + 1) : S'.spare = (S'.runs r).spare + S.spare := by
  unfold spare
  rw [nextRun, Multiset.range_succ, Multiset.cons_bind, ← hr]
  congr 1
  exact Multiset.bind_congr fun s hs => runs s (Multiset.mem_range.1 hs)

theorem load_congr {S S' : Stage} (crew : S'.crew = S.crew) (nextRun : S'.nextRun = S.nextRun)
    (graph : ∀ s, (S'.runs s).graph = (S.runs s).graph)
    (spare : ∀ s, (S'.runs s).spare = (S.runs s).spare) : S'.load = S.load := by
  unfold load
  rw [spare_congr nextRun spare, crew]
  simp only [graph]

variable {S S' : Stage} {r : Nat} {d : Duty} {rest : Multiset (Nat × Duty)}

/-- A duty and some steps are given for lighter work. -/
theorem lighter_of (news : Multiset (Nat × Duty)) (spent gained : Multiset Weight)
    {kept : Multiset Weight} (crew : S.crew = (r, d) ::ₘ rest) (crew' : S'.crew = news + rest)
    (graph : ∀ p ∈ rest, (S'.runs p.1).graph = (S.runs p.1).graph)
    (spare : S.spare = spent + kept) (spare' : S'.spare = gained + kept)
    (light : ∀ p ∈ news, ∃ z ∈ d.weight (S.runs r).graph ::ₘ spent,
      p.2.weight (S'.runs p.1).graph < z)
    (light' : ∀ y ∈ gained, y < d.weight (S.runs r).graph) :
    S'.load.IsDershowitzMannaLT S.load := by
  have hrest : rest.map (fun p => p.2.weight (S'.runs p.1).graph) =
      rest.map fun p => p.2.weight (S.runs p.1).graph :=
    Multiset.map_congr rfl fun p hp => by rw [graph p hp]
  refine ⟨rest.map (fun p => p.2.weight (S.runs p.1).graph) + kept,
    news.map (fun p => p.2.weight (S'.runs p.1).graph) + gained,
    d.weight (S.runs r).graph ::ₘ spent, Multiset.cons_ne_zero, ?_, ?_, ?_⟩
  · unfold load
    rw [crew', Multiset.map_add, hrest, spare']
    abel
  · unfold load
    rw [crew, Multiset.map_cons, spare, Multiset.cons_add, Multiset.add_cons]
    congr 1
    abel
  · intro y hy
    rcases Multiset.mem_add.1 hy with hy | hy
    · obtain ⟨p, hp, rfl⟩ := Multiset.mem_map.1 hy
      exact light p hp
    · exact ⟨_, Multiset.mem_cons_self _ _, light' y hy⟩

theorem lighter_of_news (news : Multiset (Nat × Duty)) (crew : S.crew = (r, d) ::ₘ rest)
    (crew' : S'.crew = news + rest) (graph : ∀ p ∈ S.crew, (S'.runs p.1).graph = (S.runs p.1).graph)
    (spare : S'.spare = S.spare)
    (light : ∀ p ∈ news, p.1 = r ∧ p.2.weight (S.runs r).graph < d.weight (S.runs r).graph) :
    S'.load.IsDershowitzMannaLT S.load := by
  have hr := graph (r, d) (crew ▸ Multiset.mem_cons_self _ _)
  refine lighter_of news 0 0 crew crew'
    (fun p hp => graph p (crew ▸ Multiset.mem_cons_of_mem hp)) (zero_add _).symm
    (spare.trans (zero_add _).symm) (fun p hp => ?_) fun _ hy => absurd hy (Multiset.notMem_zero _)
  obtain ⟨hp, hlt⟩ := light p hp
  refine ⟨_, Multiset.mem_cons_self _ _, ?_⟩
  rw [hp, hr]
  exact hlt

theorem lighter_turnTo {e : Duty} (crew : S.crew = (r, d) ::ₘ rest)
    (crew' : S'.crew = (r, e) ::ₘ rest) (graph : ∀ p ∈ S.crew, (S'.runs p.1).graph = (S.runs p.1).graph)
    (spare : S'.spare = S.spare)
    (light : e.weight (S.runs r).graph < d.weight (S.runs r).graph) :
    S'.load.IsDershowitzMannaLT S.load := by
  refine lighter_of_news {(r, e)} crew crew' graph spare fun p hp => ?_
  rw [Multiset.mem_singleton.1 hp]
  exact ⟨rfl, light⟩

end Stage

theorem natCast_succ_pos (n : Nat) : (0 : Ordinal.{0}) < (n + 1 : ℕ) := by
  rw [← Nat.cast_zero, Nat.cast_lt]
  exact Nat.succ_pos n

namespace Duty

variable {g : Graph Component} {d e : Duty}

theorem weight_lt_of_phase (h : e.phase < d.phase) : e.weight g < d.weight g :=
  weigh_lt_of_phase _ h _ _

theorem weight_lt_of_rest (hp : e.phase = d.phase) (h : e.rest g < d.rest g) :
    e.weight g < d.weight g := by
  unfold weight
  rw [hp]
  exact weigh_lt_of_rest _ _ h

theorem leaving_lt (hd : d ≠ .leaving) : leaving.weight g < d.weight g := by
  cases d with
  | arriving source place live =>
    refine weight_lt_of_rest rfl ?_
    rw [show leaving.rest g = 0 from rfl]
    unfold rest
    dsimp only
    split
    · exact natCast_succ_pos _
    · exact zero_lt_one
  | skipping node => exact weight_lt_of_rest rfl (natCast_succ_pos _)
  | dispatched node => exact weight_lt_of_rest rfl (natCast_succ_pos _)
  | leaving => exact absurd rfl hd
  | _ => exact weight_lt_of_phase (Nat.succ_pos _)

theorem rest_arriving {run : Run} {source : String} {place : Nat} {edge : Edge}
    (h : run.edge? source place = some edge) (live : Bool) :
    (arriving source place live).rest run.graph = (2 * run.graph.height edge.target + 2 : ℕ) := by
  unfold Run.edge? at h
  simp only [rest, h]

end Duty

theorem leads_of_edge? {run : Run} {source : String} {place : Nat} {edge : Edge}
    (h : run.edge? source place = some edge) : run.graph.Leads source edge.target := by
  obtain ⟨n, hn, he⟩ := Option.bind_eq_some_iff.1 h
  exact ⟨n, hn, edge, List.mem_of_getElem? he, rfl⟩

/-- Arrivals go down from the node that they leave. -/
theorem arrivals_lt {run : Run} (hg : run.graph.IsWellFormed) {r : Nat} {source : String} {live : Bool}
    {d : Duty} (h : (Duty.skipping source).weight run.graph ≤ d.weight run.graph) :
    ∀ p ∈ run.arrivals r source live, p.1 = r ∧ p.2.weight run.graph < d.weight run.graph := by
  intro p hp
  obtain ⟨place, hm, rfl⟩ := Multiset.mem_map.1 hp
  refine ⟨rfl, lt_of_lt_of_le (b := (Duty.skipping source).weight run.graph) ?_ h⟩
  refine Duty.weight_lt_of_rest rfl ?_
  have hplace : place < run.outDegree source := Multiset.mem_range.1 hm
  unfold Run.outDegree at hplace
  split at hplace
  · next n hn =>
    have he : run.edge? source place = some n.edges[place] := by
      unfold Run.edge?
      rw [hn, Option.bind_some, List.getElem?_eq_getElem hplace]
    rw [Duty.rest_arriving he]
    have hlt := hg.height_lt (leads_of_edge? he)
    have hnat : 2 * run.graph.height n.edges[place].target + 2 < 2 * run.graph.height source + 1 := by
      omega
    exact Nat.cast_lt.2 hnat
  · cases hplace

theorem sizeOf_inner {g inner : Graph Component} {id : String} {n : GraphNode Component}
    {origin : Origin} (hn : g.node? id = some n) (slot : n.slot = .ready (.pipeline inner) origin) :
    sizeOf inner < sizeOf g := by
  have hm := List.sizeOf_lt_of_mem (Graph.mem_of_node? hn).1
  obtain ⟨pipeline, root, nodes⟩ := g
  obtain ⟨id, componentId, s, predecessors, edges⟩ := n
  cases slot
  simp only [Graph.mk.sizeOf_spec, GraphNode.mk.sizeOf_spec, Slot.ready.sizeOf_spec,
    Component.pipeline.sizeOf_spec] at hm ⊢
  omega

/-! ## Moves -/

theorem Run.spare_released (run : Run) : run.released.spare = run.spare :=
  apply_released (fun _ _ _ _ => rfl) run

theorem Run.lasting_spare : Lasting spare := fun _ _ _ _ => rfl

theorem Stage.spare_update {S S' : Stage} {r : Nat} {run : Run}
    (runs : S'.runs = Function.update S.runs r run) (spare : run.spare = (S.runs r).spare)
    (nextRun : S'.nextRun = S.nextRun) : S'.spare = S.spare :=
  Stage.spare_congr nextRun fun _ => Stage.lasting_update r runs spare

/-- A task leaves, and lighter duties of its run set out. -/
theorem Stage.lighter_leaving {S S' : Stage} {r : Nat} {d : Duty} {rest : Multiset (Nat × Duty)}
    (news : Multiset (Nat × Duty)) (crew : S.crew = (r, d) ::ₘ rest)
    (crew' : S'.crew = (r, .leaving) ::ₘ (news + rest))
    (graph : ∀ p ∈ S.crew, (S'.runs p.1).graph = (S.runs p.1).graph) (spare : S'.spare = S.spare)
    (hd : d ≠ .leaving)
    (light : ∀ p ∈ news, p.1 = r ∧ p.2.weight (S.runs r).graph < d.weight (S.runs r).graph) :
    S'.load.IsDershowitzMannaLT S.load := by
  refine lighter_of_news ((r, .leaving) ::ₘ news) crew (crew'.trans (Multiset.cons_add ..).symm)
    graph spare fun p hp => ?_
  rcases Multiset.mem_cons.1 hp with rfl | hp
  · exact ⟨rfl, Duty.leaving_lt hd⟩
  · exact light p hp

/-- A move leaves less to do, or only the task that conducts a run ends. -/
theorem Move.lighter {S S' : Stage} {r : Nat} (m : Move r S S') (ho : Orderly S)
    (hg : ∀ s, s < S.nextRun → (S.runs s).graph.IsWellFormed) :
    S'.load.IsDershowitzMannaLT S.load ∨ S'.load = S.load ∧ S'.posts.card < S.posts.card := by
  have graph : ∀ p ∈ S.crew, (S'.runs p.1).graph = (S.runs p.1).graph := fun p hp =>
    m.graph (ho.crew p hp).1
  have hr : ∀ {d rest}, S.crew = (r, d) ::ₘ rest → r < S.nextRun :=
    fun hc => (ho.crew _ (hc ▸ Multiset.mem_cons_self _ _)).1
  have graph_self : ∀ {d rest}, S.crew = (r, d) ::ₘ rest → (S'.runs r).graph = (S.runs r).graph :=
    fun hc => graph _ (hc ▸ Multiset.mem_cons_self _ _)
  have leave : ∀ {d rest}, S.crew = (r, d) ::ₘ rest → S'.crew = (r, .leaving) ::ₘ rest →
      d ≠ .leaving → S'.spare = S.spare → S'.load.IsDershowitzMannaLT S.load :=
    fun hc hc' hd hs => Stage.lighter_turnTo hc hc' graph hs (Duty.leaving_lt hd)
  have spent : ∀ {run : Run}, r < S.nextRun → S'.nextRun = S.nextRun →
      S'.runs = Function.update S.runs r run → run.graph = (S.runs r).graph →
      run.limits = (S.runs r).limits → run.steps = (S.runs r).steps + 1 →
      (S.runs r).steps + 1 ≤ (S.runs r).limits.steps →
      S.spare = {weigh (sizeOf (S.runs r).graph) 6 0} + S'.spare :=
    fun hr hn hruns hg hl hs hle => Stage.spare_step hr hn hruns hg hl hs hle
  cases m
  -- The task leaves, and the run has the steps left that it had.
  case giveUp d _ crew isOpen _ =>
    exact .inl (leave crew rfl (by rintro rfl; cases isOpen) rfl)
  case stray crew _ _ | lost crew _ _ _ _ | rest crew _ =>
    exact .inl (leave crew rfl Duty.noConfusion rfl)
  case refuse crew _ _ _ | unknown crew _ _ | unusable crew _ _ _ =>
    refine .inl (leave crew rfl Duty.noConfusion ?_)
    exact Stage.spare_congr (Stage.fail_adds ..).2.2.1 fun s =>
      Stage.lasting_fail _ r Run.lasting_spare ..
  case exceed node rest _ _ _ crew _ _ _ steps =>
    refine .inl (leave crew rfl Duty.noConfusion ?_)
    -- The step that is counted here was none of those left.
    have hspare : ({ S.runs r with steps := (S.runs r).steps + 1 } : Run).spare =
        (S.runs r).spare := by
      unfold Run.spare
      dsimp only
      rw [Nat.sub_eq_zero_of_le steps.le, Nat.sub_eq_zero_of_le (Nat.le_of_lt_succ steps)]
    exact Stage.spare_congr (Stage.fail_adds ..).2.2.1 fun s =>
      (Stage.lasting_fail _ r Run.lasting_spare ..).trans (S.lasting_change r hspare)
  case withdraw crew _ _ | halt crew _ =>
    exact .inl (leave crew rfl Duty.noConfusion (Stage.spare_update rfl rfl rfl))
  case retreat crew _ =>
    exact .inl (leave crew rfl Duty.noConfusion (Stage.spare_update rfl (Run.spare_released _) rfl))
  case abandon crew _ =>
    exact .inl (leave crew rfl Duty.noConfusion (Stage.spare_update rfl
      ((Run.lasting_spare.changeNode ..).trans (Run.spare_released _)) rfl))
  case blame crew _ _ =>
    refine .inl (leave crew rfl Duty.noConfusion ?_)
    exact Stage.spare_congr (Stage.fail_adds ..).2.2.1 fun s =>
      (Stage.lasting_fail _ r Run.lasting_spare ..).trans
        (S.lasting_change r (Run.spare_released _))
  -- The task goes over to a lighter duty.
  case count source place live rest edge passed st crew _ edge_eq _ _ =>
    refine .inl (Stage.lighter_turnTo crew rfl graph
      (Stage.spare_update rfl (Run.lasting_spare.changeNode ..) rfl) ?_)
    have hlt : 2 * (S.runs r).graph.height edge.target + 1 <
        2 * (S.runs r).graph.height edge.target + 2 := Nat.lt_succ_self _
    cases (st.gate.arrive passed).2
    · exact Duty.leaving_lt Duty.noConfusion
    all_goals
      refine Duty.weight_lt_of_rest rfl ?_
      rw [Duty.rest_arriving edge_eq]
      exact Nat.cast_lt.2 hlt
  case grant crew _ =>
    exact .inl (Stage.lighter_turnTo crew rfl graph (Stage.spare_update rfl rfl rfl)
      (Duty.weight_lt_of_phase (Nat.lt_succ_self 4)))
  case start crew _ _ _ =>
    exact .inl (Stage.lighter_turnTo crew rfl graph
      (Stage.spare_update rfl (Run.lasting_spare.changeNode ..) rfl)
      (Duty.weight_lt_of_phase (by simp [Duty.phase])))
  case finish node rest activity _ _ crew burst =>
    exact .inl (Stage.lighter_turnTo crew rfl graph rfl
      (Duty.weight_lt_of_rest rfl activity.rank_pos))
  case doze crew burst =>
    exact .inl (Stage.lighter_turnTo crew rfl graph rfl
      (Duty.weight_lt_of_rest rfl ((Activity.bursts_of_burst burst).rank_lt rfl)))
  case resume crew =>
    exact .inl (Stage.lighter_turnTo crew rfl graph rfl
      (Duty.weight_lt_of_rest rfl ((le_max_left ..).trans_lt (lt_add_one _))))
  case interrupt crew _ =>
    exact .inl (Stage.lighter_turnTo crew rfl graph rfl
      (Duty.weight_lt_of_rest rfl ((le_max_right ..).trans_lt (lt_add_one _))))
  case surface inner node rest cancelled crew _ =>
    refine .inl (Stage.lighter_turnTo crew rfl graph ?_
      (Duty.weight_lt_of_phase (Nat.lt_succ_self 2)))
    exact Stage.spare_congr (Stage.conclude_adds ..).2.2.1 fun s =>
      S.lasting_conclude inner Run.lasting_spare cancelled
  case settle crew _ _ =>
    exact .inl (Stage.lighter_turnTo crew rfl graph
      (Stage.spare_update rfl ((Run.lasting_spare.changeNode ..).trans (Run.spare_released _)) rfl)
      (Duty.weight_lt_of_phase (Nat.lt_succ_self 1)))
  -- New tasks set out. Those for edges are lighter because the graph has no circles, and the one
  -- that is dispatched elsewhere because its node has been executed.
  case skip node rest crew =>
    exact .inl (Stage.lighter_leaving ((S.runs r).arrivals r node false) crew rfl graph
      (Stage.spare_update rfl (Run.lasting_spare.changeNode ..) rfl) Duty.noConfusion
      (arrivals_lt (hg r (hr crew)) (le_refl _)))
  case spread node rest crew _ _ _ =>
    exact .inl (Stage.lighter_leaving ((S.runs r).arrivals r node true) crew rfl graph
      (Stage.spare_update rfl rfl rfl) Duty.noConfusion
      (arrivals_lt (hg r (hr crew)) (Duty.weight_lt_of_phase (by simp [Duty.phase])).le))
  case jump node target rest crew _ _ _ =>
    refine .inl (Stage.lighter_leaving {(r, .dispatched target)} crew
      (by rw [Multiset.singleton_add]; rfl) graph (Stage.spare_update rfl rfl rfl)
      Duty.noConfusion fun p hp => ?_)
    rw [Multiset.mem_singleton.1 hp]
    exact ⟨rfl, Duty.weight_lt_of_phase (by simp [Duty.phase])⟩
  case close rest crew =>
    exact .inl (Stage.lighter_of_news 0 crew (zero_add _).symm graph
      (Stage.spare_update rfl rfl rfl) fun p hp => absurd hp (Multiset.notMem_zero p))
  -- A step of the run is spent, which outweighs all that comes of it at the node.
  case take node rest _ _ _ crew _ _ _ steps _ | queue _ node rest _ _ _ crew _ _ _ steps _ =>
    refine .inl (Stage.lighter_of {(r, _)} _ 0 crew rfl
      (fun p hp => graph p (crew ▸ Multiset.mem_cons_of_mem hp))
      (spent (hr crew) rfl rfl rfl rfl rfl steps) (zero_add _).symm
      (fun p hp => ⟨_, Multiset.mem_cons_of_mem (Multiset.mem_singleton_self _), ?_⟩)
      fun _ hy => absurd hy (Multiset.notMem_zero _))
    rw [Multiset.mem_singleton.1 hp, graph_self crew]
    exact weigh_lt_of_phase _ (by simp [Duty.phase]) _ _
  -- All that the inner run may do is lighter, since its graph is smaller.
  case enter t node rest n inner origin crew _ node_eq slot =>
    have hsize : sizeOf inner < sizeOf (S.runs r).graph := sizeOf_inner node_eq slot
    have hrun : (((S.change r fun run => run.setStatus node .running).say r
        (.nodeStarted node n.componentId)).begin inner (S.runs r).context t (S.runs r).limits).runs
          S.nextRun = _ :=
      Stage.runs_begin_self ((S.change r fun run => run.setStatus node .running).say r
        (.nodeStarted node n.componentId)) inner (S.runs r).context t (S.runs r).limits
    refine .inl (Stage.lighter_of
      ((r, .nesting node S.nextRun) ::ₘ {(S.nextRun, .dispatched inner.root)}) 0 _ crew
      (by rw [Multiset.cons_add, Multiset.singleton_add]; rfl)
      (fun p hp => graph p (crew ▸ Multiset.mem_cons_of_mem hp)) (zero_add _).symm
      (Stage.spare_begin S.nextRun ?_ rfl rfl) (fun p hp => ⟨_, Multiset.mem_cons_self _ _, ?_⟩)
      fun y hy => ?_)
    · exact fun s hs => (congrArg Run.spare (Function.update_of_ne (Nat.ne_of_lt hs) _ _)).trans
        (S.lasting_change r (g := fun run => run.setStatus node .running)
          (Run.lasting_spare.changeNode ..))
    · rcases Multiset.mem_cons.1 hp with rfl | hp
      · rw [graph_self crew]
        exact Duty.weight_lt_of_phase (by simp [Duty.phase])
      · rw [Multiset.mem_singleton.1 hp]
        exact weigh_lt_of_size (by erw [hrun]; exact hsize) ..
    · erw [hrun] at hy
      rw [Multiset.eq_of_mem_replicate hy]
      exact weigh_lt_of_size hsize ..
  -- The task that conducts the run ends.
  case conclude t posts cancelled post _ =>
    obtain ⟨-, -, hn, -, hc⟩ := S.conclude_adds r cancelled
    refine .inr ⟨Stage.load_congr hc hn (fun s => ?_) fun s => ?_, ?_⟩
    · exact S.lasting_conclude r (fun _ _ _ _ => rfl) cancelled
    · exact S.lasting_conclude r Run.lasting_spare cancelled
    · rw [post, Multiset.card_cons]
      exact Nat.lt_succ_self _
  case expire t posts post _ =>
    obtain ⟨-, -, hn, -, hc⟩ := (S.cancel (S.runs r).context true).conclude_adds r true
    refine .inr ⟨Stage.load_congr hc hn (fun s => ?_) fun s => ?_, ?_⟩
    · exact (S.cancel _ true).lasting_conclude r (f := Run.graph) (fun _ _ _ _ => rfl) true
    · exact (S.cancel _ true).lasting_conclude r Run.lasting_spare true
    · rw [post, Multiset.card_cons]
      exact Nat.lt_succ_self _

/-- The graphs of all runs that have begun are sound. -/
structure Founded (S : Stage) : Prop where
  orderly : Orderly S
  sound : ∀ s, s < S.nextRun → (S.runs s).graph.IsSound

theorem Founded.move {S S' : Stage} {r : Nat} (h : Founded S) (m : Move r S S') : Founded S' where
  orderly := h.orderly.move m
  sound s hs := by
    rcases m.known_or_begun hs with hold | ⟨hn, rfl⟩
    · rw [m.graph hold]
      exact h.sound s hold
    · obtain ⟨id, n, g, origin, _, _, hr, hid, slot, -, hg, -⟩ :=
        (m.begins h.orderly).resolve_left hn
      rw [hg]
      exact nested_isSound (h.sound r hr) hid slot

theorem Course.founded {l : Launch} {past : List (World × Act)} {w : World}
    (h : Course l.world past w) (fits : l.Fits) (sound : l.graph.IsSound) :
    Founded (w.view (l.allDeeds past)) := by
  refine h.invariant (fun _ => ⟨l.orderly_opening, fun s hs => ?_⟩) (fun hb => absurd fits hb)
    (fun m hS => hS.move m) fun c hS => ⟨hS.orderly.cancel c, hS.sound⟩
  obtain rfl : s = 0 := Nat.lt_one_iff.1 hs
  exact sound

/-- What is left to do, and how many tasks conduct runs. -/
noncomputable def Stage.burden (S : Stage) : Multiset Weight × Nat := (S.load, S.posts.card)

def Eases : Multiset Weight × Nat → Multiset Weight × Nat → Prop :=
  Prod.Lex Multiset.IsDershowitzMannaLT (· < ·)

theorem wellFounded_eases : WellFounded Eases :=
  WellFounded.prod_lex Multiset.wellFounded_isDershowitzMannaLT Nat.lt_wfRel.wf

theorem Moves.eases {S S' : Stage} (m : Moves S S') (h : Founded S) :
    Relation.TransGen Eases S'.burden S.burden := by
  have single : ∀ {S S' : Stage} {r : Nat}, Move r S S' → Founded S → Eases S'.burden S.burden := by
    intro S S' r m h
    rcases m.lighter h.orderly fun s hs => (h.sound s hs).isWellFormed with hl | ⟨hl, hp⟩
    · exact .left _ _ hl
    · unfold Stage.burden
      rw [hl]
      exact .right _ hp
  induction m with
  | single m => exact .single (single m h)
  | head m _ ih => exact .tail (ih (h.move m)) (single m h)

/-! ## Worlds -/

/-- What is left to do in a world. A timer wakes a task, so it counts for more. -/
noncomputable def World.toil (w : World) : (Multiset Weight × Nat) × Nat :=
  ((w.view []).burden, 2 * w.timers.length + w.ready.length)

def Wanes : (Multiset Weight × Nat) × Nat → (Multiset Weight × Nat) × Nat → Prop :=
  Prod.Lex (Relation.TransGen Eases) (· < ·)

theorem wellFounded_wanes : WellFounded Wanes :=
  WellFounded.prod_lex wellFounded_eases.transGen Nat.lt_wfRel.wf

namespace World

/-- The act brings something about. -/
def Advances (w : World) : Act → Prop
  | .step _ => True
  | .pass ms => ∃ e ∈ w.timers, e.1 ≤ w.now + ms
  | .cancel _ => False

theorem length_wakeAll (w : World) (ts : List Nat) :
    (w.wakeAll ts).ready.length ≤ w.ready.length + ts.length ∧ (w.wakeAll ts).timers = w.timers := by
  induction ts generalizing w with
  | nil => exact ⟨Nat.le_refl _, rfl⟩
  | cons t ts ih =>
    have hwake : (w.wake t).ready.length ≤ w.ready.length + 1 ∧ (w.wake t).timers = w.timers := by
      unfold wake
      split
      · exact ⟨Nat.le_succ _, rfl⟩
      · exact ⟨by simp, rfl⟩
    obtain ⟨hr, ht⟩ := ih (w.wake t)
    refine ⟨?_, ht.trans hwake.2⟩
    have hall : w.wakeAll (t :: ts) = (w.wake t).wakeAll ts := rfl
    rw [hall, List.length_cons]
    omega

/-- Time that passes makes no work, and less is left to do when it wakes somebody. -/
theorem toil_pass (w : World) (ms : Nat) :
    ((w.pass ms).toil = w.toil ∨ Wanes (w.pass ms).toil w.toil) ∧
      (w.Advances (.pass ms) → Wanes (w.pass ms).toil w.toil) := by
  have hburden : (w.pass ms).toil.1 = w.toil.1 := congrArg Stage.burden (w.view_pass ms [])
  have hwanes : (w.pass ms).toil.2 < w.toil.2 → Wanes (w.pass ms).toil w.toil := by
    intro hlt
    unfold Wanes
    rw [Prod.lex_def]
    exact .inr ⟨hburden, hlt⟩
  have hsplit : w.timers.length = (w.timers.filter fun e => decide (e.1 ≤ w.now + ms)).length +
      (w.timers.filter fun e => !decide (e.1 ≤ w.now + ms)).length := by
    rw [← List.countP_eq_length_filter, ← List.countP_eq_length_filter]
    simpa only [decide_not, Bool.decide_eq_true] using
      List.length_eq_countP_add_countP fun e : Nat × Nat => decide (e.1 ≤ w.now + ms)
  obtain ⟨hready, htimers⟩ := length_wakeAll { w with
    now := w.now + ms
    timers := w.timers.filter fun e => !decide (e.1 ≤ w.now + ms) }
    ((w.timers.filter fun e => decide (e.1 ≤ w.now + ms)).map Prod.snd)
  have ht : (w.pass ms).timers = w.timers.filter fun e => !decide (e.1 ≤ w.now + ms) := htimers
  have hr : (w.pass ms).ready.length ≤ w.ready.length +
      (w.timers.filter fun e => decide (e.1 ≤ w.now + ms)).length := by
    rw [List.length_map] at hready
    exact hready
  -- Who is woken is one step of toil where the timer was two.
  have hle : (w.pass ms).toil.2 + (w.timers.filter fun e => decide (e.1 ≤ w.now + ms)).length ≤
      w.toil.2 := by
    simp only [toil, ht]
    omega
  constructor
  · by_cases heq : (w.pass ms).toil.2 = w.toil.2
    · exact .inl (Prod.ext hburden heq)
    · exact .inr (hwanes (by omega))
  · rintro ⟨e, he, hdue⟩
    have hpos : 0 < (w.timers.filter fun e => decide (e.1 ≤ w.now + ms)).length :=
      List.length_pos_of_mem (List.mem_filter.2 ⟨he, decide_eq_true hdue⟩)
    exact hwanes (by omega)

end World

section

variable {l : Launch} {past : List (World × Act)} {w : World}

theorem Course.toil_step (h : Course l.world past w) (fits : l.Fits) (sound : l.graph.IsSound)
    {t : Nat} (ht : t ∈ w.ready) : Wanes (w.step t).toil w.toil := by
  unfold Wanes
  rw [Prod.lex_def]
  rcases World.view_step h.awake t (l.allDeeds past) with ⟨hv, hr, hts, -⟩ | hm
  · have hburden : (w.step t).toil.1 = w.toil.1 := (congrArg Stage.burden hv :)
    refine .inr ⟨hburden, ?_⟩
    · have hlen := List.length_erase_of_mem ht
      have hpos := List.length_pos_of_mem ht
      simp only [World.toil, hr, hts]
      omega
  · exact .inl (hm.eases (h.founded fits sound))

/-! ## Schedules -/

/-- A world and what happens from there on, forever. -/
structure Schedule (w : World) where
  world : Nat → World
  act : Nat → Act
  start : world 0 = w
  allowed : ∀ i, (world i).Allows (act i)
  next : ∀ i, world (i + 1) = (world i).act (act i)

/-- Something is brought about as long as something is left to happen, and nobody cancels a context
that there is not. -/
structure Schedule.IsFair (σ : Schedule w) : Prop where
  goesOn : ∀ i, ¬(σ.world i).Quiet → ∃ j, i ≤ j ∧ (σ.world j).Advances (σ.act j)
  contexts : ∀ i c, σ.act i = .cancel c → c < w.nextContext

theorem Schedule.onward (σ : Schedule w) (h : Course l.world past w) (i : Nat) :
    ∃ newer, Course l.world (newer ++ past) (σ.world i) := by
  induction i with
  | zero => exact ⟨[], σ.start.symm ▸ h⟩
  | succ i ih =>
    obtain ⟨newer, hi⟩ := ih
    rw [σ.next i]
    exact ⟨_ :: newer, hi.next (σ.act i) (σ.allowed i)⟩

theorem Schedule.course (σ : Schedule w) (h : Course l.world past w) (i : Nat) :
    ∃ past, Course l.world past (σ.world i) :=
  (σ.onward h i).imp' (· ++ past) fun _ hi => hi

/-- A cancellation of a context that is cancelled already brings nothing about. -/
def Schedule.Idles (σ : Schedule w) (i : Nat) : Prop :=
  ∀ c, σ.act i = .cancel c → ((σ.world i).contexts.get c).cancelled

/-- Without cancellations less and less is left to do. -/
theorem Schedule.wanes (σ : Schedule w) (h : Course l.world past w) (fits : l.Fits)
    (sound : l.graph.IsSound) {i : Nat} (calm : σ.Idles i) :
    ((σ.world (i + 1)).toil = (σ.world i).toil ∨
        Wanes (σ.world (i + 1)).toil (σ.world i).toil) ∧
      ((σ.world i).Advances (σ.act i) → Wanes (σ.world (i + 1)).toil (σ.world i).toil) := by
  obtain ⟨past, hi⟩ := σ.course h i
  have hallowed := σ.allowed i
  rw [σ.next i]
  cases ha : σ.act i with
  | step t =>
    rw [ha] at hallowed
    have ht := hi.toil_step fits sound hallowed
    exact ⟨.inr ht, fun _ => ht⟩
  | pass ms => exact (σ.world i).toil_pass ms
  | cancel c =>
    have hc : (σ.world i).cancel c = σ.world i := if_pos (calm c ha)
    exact ⟨.inl (congrArg World.toil hc), False.elim⟩

theorem Course.cancelled_act (h : Course l.world past w) (a : Act) {c : Nat}
    (hc : (w.contexts.get c).cancelled) : ((w.act a).contexts.get c).cancelled := by
  have hmoves : ∀ {S S' : Stage}, Moves S S' → S.cancelled c → S'.cancelled c := by
    intro S S' m hS
    induction m with
    | single m => exact m.cancelled hS
    | head m _ ih => exact ih (m.cancelled hS)
  cases a with
  | step t =>
    rcases World.view_step h.awake t [] with ⟨hv, -⟩ | hm
    · exact (congrArg (fun S => S.cancelled c) hv).trans hc
    · exact hmoves hm hc
  | pass ms => exact (congrArg (fun S => S.cancelled c) (w.view_pass ms [])).trans hc
  | cancel d =>
    exact (congrArg (fun S => S.cancelled c) (w.view_cancel d [])).trans
      (Stage.cancelled_cancel _ d true hc)

/-- From some point on nothing is cancelled that was not cancelled before. -/
theorem Schedule.idles_from (σ : Schedule w) (h : Course l.world past w) (contexts : List Nat) :
    ∃ n, ∀ i, n ≤ i → ∀ c ∈ contexts, σ.act i = .cancel c →
      ((σ.world i).contexts.get c).cancelled := by
  induction contexts with
  | nil => exact ⟨0, fun _ _ _ hc => nomatch hc⟩
  | cons c contexts ih =>
    obtain ⟨n, hn⟩ := ih
    -- A context is cancelled from some time on, or never.
    by_cases hc : ∃ i, ((σ.world i).contexts.get c).cancelled
    · obtain ⟨i, hi⟩ := hc
      have hstays : ∀ j, i ≤ j → ((σ.world j).contexts.get c).cancelled := by
        intro j hj
        induction j, hj using Nat.le_induction with
        | base => exact hi
        | succ j hj ihj =>
          obtain ⟨_, hcourse⟩ := σ.course h j
          rw [σ.next j]
          exact hcourse.cancelled_act (σ.act j) ihj
      refine ⟨max n i, fun j hj d hd ha => ?_⟩
      rcases List.mem_cons.1 hd with rfl | hd
      · exact hstays j (le_of_max_le_right hj)
      · exact hn j (le_of_max_le_left hj) d hd ha
    · refine ⟨n, fun j hj d hd ha => ?_⟩
      rcases List.mem_cons.1 hd with rfl | hd
      · refine absurd ⟨j + 1, ?_⟩ hc
        have hv := congrArg (fun S => S.cancelled d) ((σ.world j).view_cancel d [])
        have hself : (((σ.world j).view []).cancel d true).cancelled d = true := by
          simp [Stage.cancel]
        rw [σ.next j, ha]
        exact hv.trans hself
      · exact hn j hj d hd ha

theorem Schedule.quiets_of_fits (σ : Schedule w) (fair : σ.IsFair) (h : Course l.world past w)
    (fits : l.Fits) (sound : l.graph.IsSound) : ∃ n, (σ.world n).Quiet := by
  obtain ⟨n, hn⟩ := σ.idles_from h (List.range w.nextContext)
  have calm : ∀ i, n ≤ i → σ.Idles i :=
    fun i hi c ha => hn i hi c (List.mem_range.2 (fair.contexts i c ha)) ha
  have hle : ∀ i j, n ≤ i → i ≤ j →
      Relation.ReflTransGen Wanes (σ.world j).toil (σ.world i).toil := by
    intro i j hi hj
    induction j, hj using Nat.le_induction with
    | base => exact .refl
    | succ j hj ih =>
      rcases (σ.wanes h fits sound (calm j (hi.trans hj))).1 with he | hw
      · exact he ▸ ih
      · exact .head hw ih
  -- Each advance makes the toil wane, and that is well-founded.
  have hall : ∀ x, ∀ i, n ≤ i → (σ.world i).toil = x → ∃ n, (σ.world n).Quiet := by
    intro x
    induction x using wellFounded_wanes.transGen.induction with
    | _ x ih =>
      rintro i hi rfl
      by_cases hq : (σ.world i).Quiet
      · exact ⟨i, hq⟩
      · obtain ⟨j, hj, hadv⟩ := fair.goesOn i hq
        have hn := hi.trans hj
        have hlt := (σ.wanes h fits sound (calm j hn)).2 hadv
        exact ih _ (.head' hlt (hle i j hi hj)) (j + 1) (hn.trans (Nat.le_succ j)) rfl
  exact hall _ n (Nat.le_refl n) rfl

/-! ## New tasks -/

/-- New tasks are made only when less is left to do afterwards. -/
theorem Course.burden_act (h : Course l.world past w) (fits : l.Fits) (sound : l.graph.IsSound)
    {a : Act} (ha : w.Allows a) :
    (w.act a).toil.1 = w.toil.1 ∧ (w.act a).nextTask = w.nextTask ∨
      Relation.TransGen Eases (w.act a).toil.1 w.toil.1 := by
  cases a with
  | step t =>
    rcases World.view_step h.awake t (l.allDeeds past) with ⟨hv, -, -, hn⟩ | hm
    · exact .inl ⟨(congrArg Stage.burden hv :), hn⟩
    · exact .inr (hm.eases (h.founded fits sound))
  | pass ms =>
    refine .inl ⟨congrArg Stage.burden (w.view_pass ms []), ?_⟩
    exact congrArg Prod.snd (World.roster_wakeAll _ _)
  | cancel c =>
    have hv : ((w.cancel c).view []).burden = ((w.view []).cancel c true).burden :=
      congrArg Stage.burden (w.view_cancel c [])
    exact .inl ⟨hv.trans rfl, congrArg Prod.snd (World.roster_cancel w c)⟩

theorem Schedule.tasks_bounded_of_fits (σ : Schedule w) (h : Course l.world past w) (fits : l.Fits)
    (sound : l.graph.IsSound) : ∃ n, ∀ i, (σ.world i).nextTask ≤ n := by
  have hbefore : ∀ j, ∃ n, ∀ i, i < j → (σ.world i).nextTask ≤ n := by
    intro j
    induction j with
    | zero => exact ⟨0, fun i hi => absurd hi (Nat.not_lt_zero i)⟩
    | succ j ih =>
      obtain ⟨n, hn⟩ := ih
      refine ⟨max n (σ.world j).nextTask, fun i hi => ?_⟩
      rcases Nat.lt_succ_iff_lt_or_eq.1 hi with hi | rfl
      · exact (hn i hi).trans (le_max_left ..)
      · exact le_max_right ..
  have hall : ∀ x, ∀ i, (σ.world i).toil.1 = x → ∃ n, ∀ j, i ≤ j → (σ.world j).nextTask ≤ n := by
    intro x
    induction x using wellFounded_eases.transGen.induction with
    | _ x ih =>
      rintro i rfl
      by_cases hlighter : ∃ j, i ≤ j ∧
          Relation.TransGen Eases (σ.world j).toil.1 (σ.world i).toil.1
      · obtain ⟨j, -, hlt⟩ := hlighter
        obtain ⟨n, hn⟩ := ih _ hlt j rfl
        obtain ⟨m, hm⟩ := hbefore j
        refine ⟨max m n, fun k _ => ?_⟩
        by_cases hk : k < j
        · exact (hm k hk).trans (le_max_left ..)
        · exact (hn k (Nat.le_of_not_lt hk)).trans (le_max_right ..)
      · -- Nothing gets lighter any more, so no task is made.
        have hsame : ∀ j, i ≤ j → (σ.world j).toil.1 = (σ.world i).toil.1 ∧
            (σ.world j).nextTask = (σ.world i).nextTask := by
          intro j hj
          induction j, hj using Nat.le_induction with
          | base => exact ⟨rfl, rfl⟩
          | succ j hj ihj =>
            obtain ⟨_, hcourse⟩ := σ.course h j
            have hact := hcourse.burden_act fits sound (σ.allowed j)
            rw [← σ.next j] at hact
            rcases hact with ⟨hb, hn⟩ | hlt
            · exact ⟨hb.trans ihj.1, hn.trans ihj.2⟩
            · exact absurd ⟨j + 1, hj.trans (Nat.le_succ j), ihj.1 ▸ hlt⟩ hlighter
        exact ⟨(σ.world i).nextTask, fun j hj => (hsame j hj).2.le⟩
  obtain ⟨n, hn⟩ := hall _ 0 rfl
  exact ⟨n, fun i => hn i (Nat.zero_le i)⟩

/-! ## Launches that break off -/

/-- Nothing happens by itself, and nobody waits for a cancellation. -/
structure World.Still (w : World) : Prop where
  quiet : w.Quiet
  listeners : ∀ c, (w.contexts.get c).listeners = []

theorem World.Still.act {a : Act} (h : w.Still) (ha : w.Allows a) :
    (w.act a).Still ∧ (w.act a).nextTask = w.nextTask := by
  obtain ⟨hr, ht⟩ := h.quiet
  cases a with
  | step t =>
    have hm : t ∈ w.ready := ha
    rw [hr] at hm
    cases hm
  | pass ms =>
    have hp : w.pass ms = { w with now := w.now + ms } := by
      simp [World.pass, World.wakeAll, ht]
    rw [World.act, hp]
    exact ⟨⟨⟨hr, ht⟩, h.listeners⟩, rfl⟩
  | cancel c =>
    rw [World.act]
    unfold World.cancel
    dsimp only
    split
    · exact ⟨h, rfl⟩
    · rw [h.listeners c]
      refine ⟨⟨⟨hr, ht⟩, fun d => ?_⟩, rfl⟩
      refine (congrArg Context.listeners (Table.get_change w.contexts c d _)).trans ?_
      split
      · rfl
      · exact h.listeners d

theorem Course.still_of_not_fits (h : Course l.world past w) (hb : ¬l.Fits) : w.Still := by
  induction h with
  | start =>
    rw [l.world_eq_breakOff hb]
    refine ⟨⟨rfl, rfl⟩, fun c => ?_⟩
    refine (congrArg Context.listeners (Table.get_set _ _ _ _)).trans ?_
    split <;> rfl
  | next a _ allowed ih => exact (ih.act allowed).1

theorem Schedule.still (σ : Schedule w) (h : w.Still) (i : Nat) :
    (σ.world i).Still ∧ (σ.world i).nextTask = w.nextTask := by
  induction i with
  | zero =>
    rw [σ.start]
    exact ⟨h, rfl⟩
  | succ i ih =>
    rw [σ.next i]
    obtain ⟨hs, hn⟩ := ih.1.act (σ.allowed i)
    exact ⟨hs, hn.trans ih.2⟩

/-! ## Schedules of launched runs -/

/-- Every fair schedule comes to a world in which nothing is left to happen. -/
theorem Schedule.quiets (σ : Schedule w) (fair : σ.IsFair) (h : Course l.world past w)
    (sound : l.graph.IsSound) : ∃ n, (σ.world n).Quiet := by
  by_cases fits : l.Fits
  · exact σ.quiets_of_fits fair h fits sound
  · exact ⟨0, (σ.still (h.still_of_not_fits fits) 0).1.quiet⟩

theorem Schedule.tasks_bounded (σ : Schedule w) (h : Course l.world past w)
    (sound : l.graph.IsSound) : ∃ n, ∀ i, (σ.world i).nextTask ≤ n := by
  by_cases fits : l.Fits
  · exact σ.tasks_bounded_of_fits h fits sound
  · exact ⟨w.nextTask, fun i => (σ.still (h.still_of_not_fits fits) i).2.le⟩

end

end Conduit
