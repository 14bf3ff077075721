import Conduit.Proofs.Run.Ends
import Conduit.Proofs.Run.Failures
import Conduit.Proofs.Run.Races

/-!
# Runs without races

The strand of a run without races stays tracked on every course on which it is not cancelled and
conditions can be evaluated: nothing can go wrong in it.
-/

namespace Conduit

/-! ## The strand of a stage -/

theorem scriptsOf_cons_none {r : Nat} {d : Duty} (h : d.script? = none) (crew : Multiset (Nat × Duty)) :
    scriptsOf ((r, d) ::ₘ crew) = scriptsOf crew :=
  Multiset.filterMap_cons_none _ _ h

theorem scriptsOf_cons_some {r : Nat} {d : Duty} {p : String × Activity} (h : d.script? = some p)
    (crew : Multiset (Nat × Duty)) : scriptsOf ((r, d) ::ₘ crew) = p ::ₘ scriptsOf crew :=
  Multiset.filterMap_cons_some _ _ _ h

theorem scriptsOf_add (crew others : Multiset (Nat × Duty)) :
    scriptsOf (crew + others) = scriptsOf crew + scriptsOf others := by
  unfold scriptsOf
  exact Multiset.filterMap_add _ _ _

theorem scriptsOf_arrivals (run : Run) (r : Nat) (source : String) (live : Bool)
    (crew : Multiset (Nat × Duty)) :
    scriptsOf (run.arrivals r source live + crew) = scriptsOf crew := by
  have hnone : scriptsOf (run.arrivals r source live) = 0 := by
    refine Multiset.eq_zero_of_forall_notMem fun p hp => ?_
    obtain ⟨q, hq, hs⟩ := (Multiset.mem_filterMap _ _).1 hp
    obtain ⟨place, -, rfl⟩ := Multiset.mem_map.1 hq
    cases hs
  rw [scriptsOf_add, hnone, zero_add]

namespace Single

variable {g : Graph Component} {S S' : Stage}

theorem scripts_le (h : Single g S) :
    (S.strand.scripts.map fun p => Errand.during p.1) ≤ (S.ledger 0).errands := by
  have hall : ∀ p ∈ S.crew, p.1 = 0 := by
    intro p hp
    have hlt := (h.orderly.crew p hp).1
    rw [h.nextRun] at hlt
    omega
  change ((scriptsOf S.crew).map fun p => Errand.during p.1) ≤ errandsIn (S.runs 0).graph 0 S.crew
  revert hall
  induction S.crew using Multiset.induction_on with
  | empty => exact fun _ => Multiset.zero_le _
  | cons p crew ih =>
    intro hall
    obtain ⟨r, d⟩ := p
    obtain rfl : r = 0 := hall _ (Multiset.mem_cons_self _ _)
    have ih := ih fun p hp => hall p (Multiset.mem_cons_of_mem hp)
    rw [errandsIn_cons_self]
    cases hd : d.script? with
    | none =>
      rw [scriptsOf_cons_none hd]
      exact ih.trans (Multiset.le_add_left _ _)
    | some p =>
      have he : d.errands (S.runs 0).graph = {.during p.1} := by
        cases d <;> cases hd <;> rfl
      rw [scriptsOf_cons_some hd, Multiset.map_cons, he, Multiset.singleton_add]
      exact Multiset.cons_le_cons _ ih

theorem linked (h : Single g S) : Linked (S.ledger 0) S.strand where
  scripts := h.scripts_le
  completed v := by
    unfold Ledger.completed
    rw [List.countP_pos_iff]
    constructor
    · intro hv
      obtain ⟨⟨r, e⟩, hm, he⟩ := List.mem_filterMap.1 hv
      have hlt := h.orderly.events _ hm
      rw [h.nextRun] at hlt
      obtain rfl : r = 0 := Nat.lt_one_iff.1 hlt
      cases e <;> cases he
      exact ⟨_, List.mem_map.2 ⟨_, List.mem_filter.2 ⟨hm, rfl⟩, rfl⟩, beq_self_eq_true v⟩
    · rintro ⟨e, hm, he⟩
      obtain ⟨p, hp, rfl⟩ := List.mem_map.1 hm
      refine List.mem_filterMap.2 ⟨p, (List.mem_filter.1 hp).1, ?_⟩
      cases hcase : p.2 with
      | nodeCompleted node =>
        rw [hcase] at he
        exact congrArg some (eq_of_beq he)
      | _ =>
        rw [hcase] at he
        cases he
  delivered u v live := by
    constructor
    · intro hm
      obtain ⟨d, hm, hd⟩ := List.mem_filterMap.1 hm
      cases d with
      | delivered r source target b =>
        cases hd
        have hlt := h.orderly.deeds _ hm r (beq_self_eq_true r)
        rw [h.nextRun] at hlt
        obtain rfl : r = 0 := Nat.lt_one_iff.1 hlt
        exact List.mem_filter.2 ⟨hm, rfl⟩
      | _ => cases hd
    · exact fun hm => List.mem_filterMap.2 ⟨_, (List.mem_filter.1 hm).1, rfl⟩
  arrived u v hpos := by
    obtain ⟨d, hm, hd⟩ := List.countP_pos_iff.1 hpos
    cases d with
    | delivered r source target live =>
      obtain ⟨hu, hv⟩ := Bool.and_eq_true_iff.1 hd
      obtain rfl := eq_of_beq hu
      obtain rfl := eq_of_beq hv
      exact ⟨live, List.mem_filterMap.2 ⟨_, (List.mem_filter.1 hm).1, rfl⟩⟩
    | _ => cases hd

end Single

/-! ## What moves do to a strand -/

theorem Deed.flatMap_entries_askDeeds (r : Nat) (source : String) (edge : Edge) (live : Bool) :
    (World.askDeeds r source edge live).flatMap Deed.entries = [] ∧
      (World.askDeeds r source edge live).filterMap Deed.delivered? = [] ∧
      (World.askDeeds r source edge live).filterMap Deed.failed? = [] := by
  rcases askDeeds_cases r source edge live with h | ⟨-, h⟩ <;> rw [h] <;> exact ⟨rfl, rfl, rfl⟩

theorem Move.network {S S' : Stage} {r : Nat} (m : Move r S S') : S'.network = S.network := by
  have failed : ∀ (X : Stage) node e, (X.fail r node e).network = X.network := by
    intro X node e
    unfold Stage.fail Stage.keepFailure
    dsimp only
    split <;> rfl
  have concluded : ∀ (X : Stage) s b, (X.conclude s b).network = X.network := by
    intro X s b
    unfold Stage.conclude
    dsimp only
    split <;> rfl
  cases m
  case refuse | unknown | unusable | exceed | blame => exact failed ..
  case conclude | expire => exact concluded ..
  case surface => exact concluded ..
  all_goals rfl

section

variable {g : Graph Component} {network : Http.Network} {f : Footprint} {S S' : Stage}

theorem strand_withDuty {d e : Duty} {rest : Multiset (Nat × Duty)} {X : Stage}
    (crew : S.crew = (0, d) ::ₘ rest) (script : e.script? = d.script?)
    (hX : X.strand = S.strand) : (X.withCrew ((0, e) ::ₘ rest)).strand = S.strand := by
  have hs : scriptsOf ((0, e) ::ₘ rest) = scriptsOf S.crew := by
    rw [crew]
    cases hd : d.script? with
    | none => rw [scriptsOf_cons_none hd, scriptsOf_cons_none (script.trans hd)]
    | some p => rw [scriptsOf_cons_some hd, scriptsOf_cons_some (script.trans hd)]
  have hw : (X.withCrew ((0, e) ::ₘ rest)).strand = { X.strand with
      scripts := scriptsOf ((0, e) ::ₘ rest) } := rfl
  rw [hw, hX, hs]
  rfl

theorem Entries.erase_eq_self {α : Type} {entries : Entries α} {key : String}
    (h : Entries.get? entries key = none) : Entries.erase entries key = entries := by
  refine List.filter_eq_self.2 fun e he => decide_eq_true fun hk => ?_
  induction entries with
  | nil => cases he
  | cons a rest ih =>
    rw [Entries.get?_cons] at h
    split at h
    · cases h
    · next hne =>
      rcases List.mem_cons.1 he with rfl | he
      · exact hne hk
      · exact ih h he

theorem strand_asks (S : Stage) (r : Nat) (source : String) (edge : Edge) (live : Bool) :
    (S.record (World.askDeeds r source edge live)).strand = S.strand := by
  obtain ⟨hlog, hdelivered, -⟩ := Deed.flatMap_entries_askDeeds r source edge live
  unfold Stage.strand Stage.record
  rw [List.flatMap_append, List.filterMap_append, hlog, hdelivered]
  rfl

theorem Stage.conclude_eq (S : Stage) (r : Nat) (goesOn : S.cancelled (S.runs r).context = false) :
    S.conclude r false = ((S.change r fun run => { run with failure := none }).say r
      (.runCompleted (S.runs r).failure.isNone (S.runs r).ended)).record
        [.concluded r (S.resultOf r false)] := by
  unfold conclude
  simp [goesOn]

theorem Stir.of_count (single : Single g S) {source : String} {place : Nat} {live passed : Bool}
    {rest : Multiset (Nat × Duty)} {edge : Edge} {s : NodeState} {X : Stage}
    (crew : S.crew = (0, .arriving source place live) ::ₘ rest)
    (edge_eq : (S.runs 0).edge? source place = some edge)
    (isLive : edge.isLive (S.values 0) live = .ok passed) (values : X.values 0 = S.values 0)
    (crew' : X.crew = (0, (s.gate.arrive passed).2.duty edge.target) ::ₘ rest)
    (deeds : X.deeds = .delivered 0 source edge.target passed ::
      (World.askDeeds 0 source edge live ++ S.deeds)) (events : X.events = S.events) :
    Stir g network (S.ledger 0) S.strand X.strand := by
  obtain ⟨n, hn, he⟩ := Option.bind_eq_some_iff.1 edge_eq
  rw [single.graph] at hn
  have hflying : .flying source edge.target live ∈ (S.ledger 0).errands := by
    rw [errands_one crew (errands_arriving edge_eq live)]
    exact Multiset.mem_cons_self _ _
  obtain ⟨hlog, hdelivered, -⟩ := Deed.flatMap_entries_askDeeds 0 source edge live
  -- An arrival performs nothing, whatever becomes of it.
  have hscripts : scriptsOf X.crew = scriptsOf S.crew := by
    rw [crew', crew, scriptsOf_cons_none (d := .arriving source place live) rfl]
    cases (s.gate.arrive passed).2 <;> exact scriptsOf_cons_none rfl _
  have hX : X.strand = { S.strand with
      delivered := (source, edge.target, passed) :: S.strand.delivered } := by
    refine Strand.ext values hscripts ?_ (congrArg (List.filterMap _) events) ?_
    · refine (congrArg (List.flatMap _) deeds).trans ?_
      exact List.flatMap_append.trans (congrArg (· ++ _) hlog)
    · refine (congrArg (List.filterMap _) deeds).trans ?_
      exact congrArg (List.cons _) (List.filterMap_append.trans (congrArg (· ++ _) hdelivered))
  rw [hX]
  exact .count hflying hn (List.mem_of_getElem? he) isLive

/-- An execution goes on until it ends or has to wait. -/
theorem Stir.of_burst (single : Single g S) (network_eq : S.network = network)
    (uncancelled : S.cancelled (S.runs 0).context = false) {node : String} {activity : Activity}
    {rest : Multiset (Nat × Duty)} {d : Duty} {scene : Scene} {pending : Pending}
    {result : Option Result} {X : Stage} (crew : S.crew = (0, .performing node activity) ::ₘ rest)
    (burst : activity.burst S.network
      ⟨S.valuesOf 0, S.cancelled (S.runs 0).context, [], []⟩ = (scene, pending))
    (script : d.script? = some (node, pending.rest)) (values : X.values 0 = scene.values)
    (crew' : X.crew = (0, d) ::ₘ rest)
    (deeds : X.deeds = .performed 0 node (activity.touches S.network
      ⟨S.valuesOf 0, S.cancelled (S.runs 0).context, [], []⟩) result :: S.deeds)
    (events : X.events = S.events) : Stir g network (S.ledger 0) S.strand X.strand := by
  rw [network_eq, uncancelled, show S.valuesOf 0 = S.strand.values from
    congrArg S.values single.context] at burst deeds
  have hX : X.strand =
      { S.strand with
        values := scene.values
        scripts := (node, pending.rest) ::ₘ scriptsOf rest
        log := Log.entries node (activity.touches network ⟨S.strand.values, false, [], []⟩) ++
          S.strand.log } := by
    refine Strand.ext values ?_ ?_ (congrArg (List.filterMap _) events) ?_
    · exact (congrArg scriptsOf crew').trans (scriptsOf_cons_some script _)
    · exact congrArg (List.flatMap Deed.entries) deeds
    · exact (congrArg (List.filterMap Deed.delivered?) deeds).trans rfl
  rw [hX]
  exact .play ((congrArg scriptsOf crew).trans (scriptsOf_cons_some rfl _)) burst

/-- What a move of a run without races does to its strand, when conditions can be evaluated and the run
is not cancelled. Nothing fails. -/
theorem Move.stir (m : Move 0 S S') (single : Single g S) (network_eq : S.network = network)
    (usable : ∀ v n, g.node? v = some n → ∃ kind a origin, n.slot = .ready (.basic kind a) origin)
    (confined : ∀ p ∈ S.strand.scripts, p.2.Confined network (f.reads p.1) (f.writes p.1))
    (absent : ∀ k ∈ [Values.errorKey, Values.endKey, Values.overrideKey],
      Entries.get? (S.values 0) k = none)
    (goesOn : S'.cancelled 0 = false) (evaluable : ∀ u v text,
      (0, .conditionEval u v text) ∉ failures S'.deeds)
    (ofNode : ∀ node e, .failed 0 node e ∈ S'.deeds → e.isOfNode) :
    Stir g network (S.ledger 0) S.strand S'.strand ∧ failures S'.deeds = failures S.deeds := by
  have still : ∀ {S' : Stage}, S'.strand = S.strand → Stir g network (S.ledger 0) S.strand S'.strand :=
    fun h => h ▸ .still
  have turned : ∀ {s : Strand}, Stir g network (S.ledger 0) S.strand s → S'.strand = s →
      Stir g network (S.ledger 0) S.strand S'.strand := fun h hs => hs ▸ h
  have cleared : ∀ {d : Duty} {rest : Multiset (Nat × Duty)}, S.crew = (0, d) ::ₘ rest →
      d.script? = none → scriptsOf S.crew = scriptsOf rest :=
    fun crew hd => crew ▸ scriptsOf_cons_none hd _
  have scripted : ∀ {d : Duty} {rest : Multiset (Nat × Duty)} {p : String × Activity},
      S.crew = (0, d) ::ₘ rest → d.script? = some p → scriptsOf S.crew = p ::ₘ scriptsOf rest :=
    fun crew hd => crew ▸ scriptsOf_cons_some hd _
  have uncancelled : S.cancelled (S.runs 0).context = false := by
    rw [single.context]
    exact m.goesOn goesOn
  have hvalues : S.valuesOf 0 = S.values 0 := congrArg S.values single.context
  have none_of : ∀ {k : String}, k ∈ [Values.errorKey, Values.endKey, Values.overrideKey] →
      Entries.get? (S.valuesOf 0) k = none := fun hk => hvalues ▸ absent _ hk
  have valued : ∀ change : Values → Values,
      (S.setValues (S.runs 0).context change).values 0 = change (S.values 0) := by
    intro change
    rw [single.context]
    exact Function.update_self 0 _ S.values
  have failed : ∀ {X : Stage} {node : String} {e : PipelineError} {crew : Multiset (Nat × Duty)},
      .failed 0 node e ∈ ((X.fail 0 node e).withCrew crew).deeds := by
    intro X node e crew
    exact (X.fail_adds 0 node e).2.1 ▸ List.mem_cons_self
  cases m
  -- The arrivals.
  case stray crew _ _ => exact ⟨still (strand_withDuty crew rfl rfl), rfl⟩
  case lost source place live rest edge passed crew _ _ _ _ =>
    refine ⟨still (strand_withDuty crew rfl (strand_asks ..)), ?_⟩
    exact List.filterMap_append.trans (congrArg (· ++ _)
      (Deed.flatMap_entries_askDeeds 0 source edge live).2.2)
  case refuse => exact absurd (mem_failures.2 ⟨_, failed⟩) (evaluable _ _ _)
  case count source place live rest edge passed st crew _ edge_eq isLive _ =>
    refine ⟨.of_count single crew edge_eq (hvalues ▸ isLive) rfl rfl rfl rfl, ?_⟩
    exact List.filterMap_append.trans (congrArg (· ++ _)
      (Deed.flatMap_entries_askDeeds 0 source edge live).2.2)
  case skip node rest crew =>
    refine ⟨still (Strand.ext rfl ?_ rfl rfl rfl), rfl⟩
    exact (scriptsOf_cons_none rfl _).trans ((scriptsOf_arrivals ..).trans (cleared crew rfl).symm)
  -- The dispatched nodes. All of them exist and have components that are no pipelines, and there are
  -- steps for all of them.
  case unknown | exceed => cases ofNode _ _ failed
  case unusable node rest n reason crew _ node_eq slot =>
    obtain ⟨_, _, _, hslot⟩ := usable node n (single.graph ▸ node_eq)
    cases hslot.symm.trans slot
  case enter node rest n graph origin crew _ node_eq slot =>
    obtain ⟨_, _, _, hslot⟩ := usable node n (single.graph ▸ node_eq)
    cases hslot.symm.trans slot
  case take crew _ _ _ _ _ | queue crew _ _ _ _ _ | grant crew _ | withdraw crew _ _ | retreat crew _ =>
    exact ⟨still (strand_withDuty crew rfl rfl), rfl⟩
  case start node rest n kind activity origin crew _ node_eq slot =>
    have hadmitted : .admitted node ∈ (S.ledger 0).errands := by
      rw [errands_one crew (e := .admitted node) rfl]
      exact Multiset.mem_cons_self _ _
    refine ⟨turned (.start hadmitted ⟨n, kind, origin, single.graph ▸ node_eq, slot⟩)
      (Strand.ext rfl ?_ rfl rfl rfl), rfl⟩
    exact (scriptsOf_cons_some rfl _).trans (congrArg (Multiset.cons _) (cleared crew rfl).symm)
  -- The executions.
  case finish scene _ crew burst | doze scene _ crew burst =>
    exact ⟨.of_burst single network_eq uncancelled crew burst rfl (valued fun _ => scene.values) rfl rfl
      rfl, rfl⟩
  case resume crew => exact ⟨still (strand_withDuty crew rfl rfl), rfl⟩
  case interrupt cancelled | abandon cancelled => cases cancelled.symm.trans uncancelled
  case surface crew _ => exact absurd (crew ▸ Multiset.mem_cons_self _ _) single.not_nesting
  -- The ends of executions. They all succeed, and no key asks for anything.
  case blame node result e rest crew _ verdict =>
    have hscript : (node, .finish result) ∈ S.strand.scripts := by
      rw [show S.strand.scripts = _ from scripted crew rfl]
      exact Multiset.mem_cons_self _ _
    obtain rfl := (confined _ hscript).succeeded
    unfold Result.verdict at verdict
    rw [none_of (by simp)] at verdict
    cases verdict
  case settle node result rest crew _ verdict =>
    refine ⟨turned (.settle (scripted crew rfl)) (Strand.ext rfl ?_ rfl rfl rfl), rfl⟩
    exact scriptsOf_cons_none rfl _
  case halt crew ends =>
    cases ends.symm.trans (Values.endRequested_of_absent (none_of (by simp)))
  case jump crew _ _ next =>
    cases next.symm.trans (Values.override?_of_absent (none_of (by simp)))
  case rest crew _ => exact ⟨still (strand_withDuty crew rfl rfl), rfl⟩
  case spread node rest crew _ _ _ =>
    refine ⟨still (Strand.ext ?_ ?_ rfl rfl rfl), rfl⟩
    · exact (valued _).trans (Entries.erase_eq_self (absent _ (by simp)))
    · exact (scriptsOf_cons_none rfl _).trans ((scriptsOf_arrivals ..).trans (cleared crew rfl).symm)
  case giveUp d rest crew isOpen stops =>
    have hd : d.script? = none := by
      obtain ⟨_, _, _, rfl⟩ | ⟨_, rfl⟩ := Duty.eq_of_isOpen isOpen <;> rfl
    exact ⟨still (strand_withDuty crew hd.symm rfl), rfl⟩
  case close rest crew =>
    exact ⟨still (Strand.ext rfl (cleared crew rfl).symm rfl rfl rfl), rfl⟩
  -- The end of the run.
  case conclude t posts cancelled post isOver =>
    obtain rfl : cancelled = false := by
      refine Bool.eq_false_iff.2 fun hc => ?_
      cases (cancelled_of_isOver (hc ▸ isOver)).symm.trans uncancelled
    rw [S.conclude_eq 0 uncancelled]
    exact ⟨still rfl, rfl⟩
  case expire =>
    rw [single.context] at goesOn
    have hc := (congrFun (Stage.cancelled_conclude ..) 0).symm.trans goesOn
    cases (Bool.or_true (S.cancelled 0)).symm.trans hc

end

/-! ## Courses of a run without races -/

theorem Turn.started_le {g : Graph Component} {r : Nat} {x y : Ledger} (h : Turn g r x y) (v : String) :
    x.started v ≤ y.started v := by
  cases h
  case refuse | skip | spoil | start | abandon | blame | settle =>
    exact (List.sublist_cons_self _ _).countP_le
  all_goals exact Nat.le_refl _

/-- Nothing has gone wrong in a run without races. -/
structure Undisturbed (l : Launch) (f : Footprint) (S : Stage) : Prop where
  steady : Steady l.graph 0 (S.ledger 0)
  limit : l.graph.nodes.length ≤ (S.ledger 0).limit
  network : S.network = l.network
  failures : failures S.deeds = []
  ended : (S.runs 0).ended = false
  tracked : Tracked l.graph l.network f l.values (S.ledger 0) S.strand

def Evaluable (deeds : List Deed) : Prop := ∀ u v text, (0, .conditionEval u v text) ∉ failures deeds

theorem Evaluable.of_failures_eq_nil {deeds : List Deed} (h : failures deeds = []) : Evaluable deeds :=
  fun _ _ _ hf => List.not_mem_nil (h ▸ hf)

section

variable {l : Launch} {f : Footprint} {S S' : Stage}

namespace Graph.RaceFree

theorem isFlat {g : Graph Component} {network : Http.Network} (hg : g.IsWellFormed)
    (race : g.RaceFree network f) : g.IsFlat := by
  intro n hn inner origin hslot
  have hnode := Graph.node?_of_mem hg.ids hn
  obtain ⟨a, ⟨m, kind, origin', hm, hbasic⟩, -⟩ := race.confined n.id ⟨n, hnode⟩
  obtain rfl := Option.some.inj (hnode.symm.trans hm)
  cases hbasic.symm.trans hslot

theorem usable {g : Graph Component} {network : Http.Network} (race : g.RaceFree network f) (v : String)
    (n : GraphNode Component) (hn : g.node? v = some n) :
    ∃ kind a origin, n.slot = .ready (.basic kind a) origin := by
  obtain ⟨a, ⟨m, kind, origin, hm, hbasic⟩, -⟩ := race.confined v ⟨n, hn⟩
  obtain rfl := Option.some.inj (hn.symm.trans hm)
  exact ⟨kind, a, origin, hbasic⟩

end Graph.RaceFree

namespace Undisturbed

theorem absent (hg : l.graph.IsWellFormed) (race : l.graph.RaceFree l.network f)
    (clean : ∀ k ∈ [Values.errorKey, Values.endKey, Values.overrideKey], Entries.get? l.values k = none)
    (h : Undisturbed l f S) (k : String)
    (hk : k ∈ [Values.errorKey, Values.endKey, Values.overrideKey]) :
    Entries.get? (S.values 0) k = none := by
  rw [show S.values 0 = _ from h.tracked.values_eq]
  refine (Log.get?_replay_of_ne (fun e he hek => ?_) _).trans (clean k hk)
  exact race.unsteered e.1 (h.tracked.has hg h.steady.joins he) k hk (hek ▸ h.tracked.written e he)

theorem exact (h : Undisturbed l f S) (single : Single l.graph S) (goesOn : S.cancelled 0 = false) :
    Exact l.graph 0 (S.ledger 0) := by
  have cancelled : (S.ledger 0).cancelled = false := (congrArg S.cancelled single.context).trans goesOn
  refine h.steady.exact (h.steady.not_halted (fun node e hd => ?_) h.ended cancelled) cancelled
  exact not_failed_of_calm h.failures 0 node e (List.mem_filter.1 hd).1

theorem opening (hg : l.graph.IsWellFormed) (small : l.graph.nodes.length ≤ l.limits.steps) :
    Undisturbed l f l.opening where
  steady := l.ledger_opening ▸ .opening hg 0 _ _
  limit := l.ledger_opening ▸ small.trans (le_max_left ..)
  network := rfl
  failures := rfl
  ended := rfl
  tracked :=
    { values_eq := rfl
      written := nofun
      started := nofun
      ordered := .nil
      playing := fun p hp => by
        rw [show l.opening.strand.scripts = 0 from scriptsOf_cons_none rfl 0] at hp
        cases hp
      played := nofun
      delivered := nofun }

theorem move (hg : l.graph.IsWellFormed) (race : l.graph.RaceFree l.network f)
    (clean : ∀ k ∈ [Values.errorKey, Values.endKey, Values.overrideKey], Entries.get? l.values k = none)
    (h : Undisturbed l f S) (single : Single l.graph S) (m : Move 0 S S')
    (goesOn : S'.cancelled 0 = false) (evaluable : Evaluable S'.deeds) : Undisturbed l f S' := by
  have uncancelled := m.goesOn goesOn
  have absent := h.absent hg race clean
  -- Nothing steers the run, so that the move is made of turns.
  have straight : (S.valuesOf 0).override? = none :=
    Values.override?_of_absent
      ((congrArg (fun c => Entries.get? (S.values c) Values.overrideKey) single.context).trans
        (absent _ (by simp)))
  have turns := m.turns single.orderly straight
  rw [single.graph] at turns
  have steady : Steady l.graph 0 (S'.ledger 0) :=
    turns.keep (P := Steady) (fun ht hx => hx.turn hg ht) h.steady
  have limit : l.graph.nodes.length ≤ (S'.ledger 0).limit :=
    turns.keep (P := fun g _ x => g.nodes.length ≤ x.limit) (fun ht hx => ht.limit ▸ hx) h.limit
  have started : ∀ v, (S.ledger 0).started v ≤ (S'.ledger 0).started v := fun v =>
    turns.keep (P := fun _ _ x => (S.ledger 0).started v ≤ x.started v)
      (fun ht hx => hx.trans (ht.started_le v)) (Nat.le_refl _)
  have ofNode : ∀ node e, .failed 0 node e ∈ S'.deeds → e.isOfNode := fun node e hd =>
    steady.failed limit node e (List.mem_filter.2 ⟨hd, beq_self_eq_true 0⟩)
  obtain ⟨stir, calm⟩ := m.stir single h.network race.usable (fun p hp => (h.tracked.playing p hp).1)
    absent goesOn evaluable ofNode
  have ended : (S'.runs 0).ended = false := by
    refine Bool.eq_false_iff.2 fun he => ?_
    rcases m.ended he with he | ⟨-, ends⟩
    · cases he.symm.trans h.ended
    · have never := Values.endRequested_of_absent (absent Values.endKey (by simp))
      rw [Stage.valuesOf, single.context, never] at ends
      cases ends
  exact
    { steady := steady
      limit := limit
      network := m.network.trans h.network
      failures := calm.trans h.failures
      ended := ended
      tracked := (h.tracked.stir hg race h.steady.joins (h.exact single uncancelled) single.linked
        stir).still started }

theorem cancel (hg : l.graph.IsWellFormed) (h : Undisturbed l f S) (c : Nat) :
    Undisturbed l f (S.cancel c true) := by
  have turns := S.ledger_cancel_turns (r := 0) l.graph c true
  exact
    { steady := turns.keep (P := Steady) (fun ht hx => hx.turn hg ht) h.steady
      limit := h.limit
      network := h.network
      failures := h.failures
      ended := h.ended
      tracked := h.tracked.still fun _ => Nat.le_refl _ }

end Undisturbed

/-- As long as a run without races is not cancelled and conditions can be evaluated, nothing goes wrong. -/
theorem Course.undisturbed {past : List (World × Act)} {w : World} (compiled : Compiled l.graph)
    (race : l.graph.RaceFree l.network f) (small : l.graph.nodes.length ≤ l.limits.steps)
    (clean : ∀ k ∈ [Values.errorKey, Values.endKey, Values.overrideKey], Entries.get? l.values k = none)
    (fits : l.Fits) (h : Course l.world past w) (goesOn : (w.contexts.get 0).cancelled = false)
    (evaluable : Evaluable (l.allDeeds past)) :
    Single l.graph (w.view (l.allDeeds past)) ∧ Undisturbed l f (w.view (l.allDeeds past)) := by
  have hg := compiled.isSound.isWellFormed
  refine (Course.single (P := fun S => S.cancelled 0 = false → Evaluable S.deeds → Undisturbed l f S)
    (race.isFlat hg) fits (fun _ _ => .opening hg small) (fun {S _} single m ih goesOn evaluable => ?_)
    (fun c _ ih goesOn evaluable => ?_) h).imp_right fun hw => hw goesOn evaluable
  · have before : Evaluable S.deeds := fun u v text hf =>
      evaluable u v text (List.filterMap_subset _ m.deeds_subset hf)
    exact .move hg race clean (ih (m.goesOn goesOn) before) single m goesOn evaluable
  · exact (ih (Stage.goesOn_of_cancel goesOn) evaluable).cancel hg c

end

end Conduit
