import Conduit.Proofs.Run.Keys
import Conduit.Proofs.Run.Ledger

/-!
# Turns

Every move is some turns in the ledger of each run that it finds. So what holds of the ledger of a
run that begins, and is kept by every turn, holds of the ledgers of all runs after every course.
-/

namespace Conduit

/-! ## Moves as turns -/

theorem errands_arriving {run : Run} {source : String} {place : Nat} {edge : Edge}
    (h : run.edge? source place = some edge) (live : Bool) :
    (Duty.arriving source place live).errands run.graph = {.flying source edge.target live} := by
  unfold Run.edge? at h
  simp only [Duty.errands, h]

theorem map_eq_map_range {α β : Type} (f : α → β) (b : β) (xs : List α) :
    xs.map f = (List.range xs.length).map fun i => (xs[i]?.map f).getD b := by
  refine List.ext_getElem? fun i => ?_
  rw [List.getElem?_map, List.getElem?_map]
  by_cases h : i < xs.length
  · rw [List.getElem?_range h, List.getElem?_eq_getElem h]
    simp only [Option.map_some, List.getElem?_eq_getElem h, Option.getD_some]
  · rw [List.getElem?_eq_none (Nat.le_of_not_lt h),
      List.getElem?_eq_none (by rw [List.length_range]; exact Nat.le_of_not_lt h)]
    rfl

theorem errands_arrivals (run : Run) (r : Nat) (source : String) (live : Bool) :
    errandsIn run.graph r (run.arrivals r source live) = run.graph.departures source live := by
  unfold Run.arrivals Run.outDegree errandsIn Graph.departures
  rw [Multiset.bind_map]
  cases hn : run.graph.node? source with
  | none => rfl
  | some n =>
    have hb : ∀ place ∈ Multiset.range n.edges.length,
        (if r = r then (Duty.arriving source place live).errands run.graph else 0) =
          {((n.edges[place]?).map fun edge => Errand.flying source edge.target live).getD
            (.going source)} := by
      intro place hp
      have hlt : place < n.edges.length := Multiset.mem_range.1 hp
      rw [if_pos rfl, Duty.errands, hn, Option.bind_some, List.getElem?_eq_getElem hlt]
      rfl
    dsimp only
    rw [Multiset.bind_congr hb, Multiset.bind_singleton,
      map_eq_map_range (fun edge : Edge => Errand.flying source edge.target live) (.going source)]
    rfl

section

variable {S S' : Stage} {r : Nat}

theorem errands_ledger {d : Duty} {rest : Multiset (Nat × Duty)}
    (crew : S.crew = (r, d) ::ₘ rest) :
    (S.ledger r).errands = d.errands (S.runs r).graph + errandsIn (S.runs r).graph r rest := by
  rw [← errandsIn_cons_self, ← crew]
  rfl

theorem errands_one {d : Duty} {e : Errand} {rest : Multiset (Nat × Duty)}
    (crew : S.crew = (r, d) ::ₘ rest) (hd : d.errands (S.runs r).graph = {e}) :
    (S.ledger r).errands = e ::ₘ errandsIn (S.runs r).graph r rest := by
  rw [errands_ledger crew, hd, Multiset.singleton_add]

theorem ledger_withDuty (X : Stage) (hg : (X.runs r).graph = (S.runs r).graph) (d : Duty)
    (rest : Multiset (Nat × Duty)) :
    (X.withCrew ((r, d) ::ₘ rest)).ledger r = { X.ledger r with
      errands := d.errands (S.runs r).graph + errandsIn (S.runs r).graph r rest } := by
  rw [X.ledger_withCrew hg, errandsIn_cons_self]

theorem stops_iff (S : Stage) (r : Nat) :
    S.stops r = true ↔ (S.ledger r).halted = true ∨ (S.ledger r).cancelled = true := by
  unfold Stage.stops
  rw [Bool.or_eq_true]
  rfl

theorem goesOn_iff (S : Stage) (r : Nat) :
    S.stops r = false ↔ (S.ledger r).halted = false ∧ (S.ledger r).cancelled = false := by
  unfold Stage.stops
  rw [Bool.or_eq_false_iff]
  rfl

theorem turns_withDuty {X : Stage} {d e : Duty} {rest : Multiset (Nat × Duty)}
    (crew : S.crew = (r, d) ::ₘ rest) (hg : (X.runs r).graph = (S.runs r).graph)
    (hc : X.crew = S.crew) (hX : Turns (S.runs r).graph r (S.ledger r) (X.ledger r))
    (he : e.errands (S.runs r).graph = d.errands (S.runs r).graph) :
    Turns (S.runs r).graph r (S.ledger r) ((X.withCrew ((r, e) ::ₘ rest)).ledger r) := by
  have hx : (X.ledger r).errands = (S.ledger r).errands := by
    simp only [Stage.ledger, hg, hc]
  rw [ledger_withDuty X hg, he, ← errands_ledger crew, ← hx]
  exact hX

theorem Duty.errands_cases (d : Duty) (g : Graph Component) :
    d.errands g = 0 ∨ ∃ e, d.errands g = {e} := by
  cases d with
  | arriving source place live =>
    unfold Duty.errands
    dsimp only
    split
    · exact .inr ⟨_, rfl⟩
    · exact .inl rfl
  | leaving => exact .inl rfl
  | _ => exact .inr ⟨_, rfl⟩

theorem Duty.mem_errands_arriving {g : Graph Component} {source : String} {place : Nat} {live : Bool}
    {e : Errand} (h : e ∈ (Duty.arriving source place live).errands g) :
    ∃ target, e = .flying source target live := by
  unfold Duty.errands at h
  dsimp only at h
  split at h
  · exact ⟨_, Multiset.mem_singleton.1 h⟩
  · exact absurd h (Multiset.notMem_zero _)

theorem Duty.errands_leaving (g : Graph Component) : Duty.leaving.errands g = 0 := rfl

theorem Duty.not_during_of_isOpen {d : Duty} (h : d.isOpen) (g : Graph Component) (node : String) :
    .during node ∉ d.errands g := by
  intro hm
  obtain ⟨_, _, _, rfl⟩ | ⟨_, rfl⟩ := Duty.eq_of_isOpen h
  · obtain ⟨_, he⟩ := Duty.mem_errands_arriving hm
    cases he
  · cases Multiset.mem_singleton.1 hm

/-- A task that leaves a run that stops drops its errand, if it has one. -/
theorem turns_drop {X : Stage} {d : Duty} {rest : Multiset (Nat × Duty)}
    (crew : S.crew = (r, d) ::ₘ rest) (idle : ∀ node, .during node ∉ d.errands (S.runs r).graph)
    (hg : (X.runs r).graph = (S.runs r).graph) (hX : X.ledger r = S.ledger r)
    (stops : (S.ledger r).halted = true ∨ (S.ledger r).cancelled = true) :
    Turns (S.runs r).graph r (S.ledger r) ((X.withCrew ((r, .leaving) ::ₘ rest)).ledger r) := by
  have he := errands_ledger crew
  rw [ledger_withDuty X hg .leaving, hX, Duty.errands_leaving, zero_add]
  rcases d.errands_cases (S.runs r).graph with hd | ⟨e, hd⟩
  · rw [hd, zero_add] at he
    rw [← he]
  · rw [hd, Multiset.singleton_add] at he
    refine .single (.drop (fun node hn => idle node ?_) he stops)
    rw [hd, hn]
    exact Multiset.mem_singleton_self _

theorem ledger_leaving (X : Stage) (hg : (X.runs r).graph = (S.runs r).graph)
    (rest : Multiset (Nat × Duty)) :
    (X.withCrew ((r, .leaving) ::ₘ rest)).ledger r = { X.ledger r with
      errands := errandsIn (S.runs r).graph r rest } := by
  rw [ledger_withDuty X hg, Duty.errands_leaving, zero_add]

theorem graph_begin (X : Stage) (graph : Graph Component) (context supervisor : Nat)
    (limits : Limits) (h : r ≠ X.nextRun) :
    ((X.begin graph context supervisor limits).runs r).graph = (X.runs r).graph :=
  congrArg Run.graph (Function.update_of_ne h _ _)

/-! ## Asking and counting -/

theorem isIn_askDeeds {source : String} {edge : Edge} {live : Bool} {d : Deed}
    (hd : d ∈ World.askDeeds r source edge live) : d.isIn r = true := by
  unfold World.askDeeds at hd
  split at hd
  · rw [List.mem_singleton.1 hd]
    exact beq_self_eq_true r
  · exact absurd hd List.not_mem_nil

theorem askDeeds_cases (r : Nat) (source : String) (edge : Edge) (live : Bool) :
    World.askDeeds r source edge live = [] ∨
      live = true ∧ World.askDeeds r source edge live = [.asked r source edge.target] := by
  unfold World.askDeeds
  split
  · next h => exact .inr ⟨(Bool.and_eq_true_iff.1 h).1, rfl⟩
  · exact .inl rfl

theorem askDeeds_eq {source : String} {edge : Edge} {live : Bool} (hl : live = true)
    (hc : edge.condition.isSome = true) :
    World.askDeeds r source edge live = [.asked r source edge.target] := by
  unfold World.askDeeds
  rw [hl, hc]
  rfl

theorem live_of_passed {edge : Edge} {values : Values} {live passed : Bool}
    (h : edge.isLive values live = .ok passed) (hp : passed = true) : live = true := by
  cases live with
  | true => rfl
  | false =>
    have hf : edge.isLive values false = .ok false := by
      unfold Edge.isLive
      cases edge.condition <;> rfl
    rw [hf] at h
    exact (Except.ok.inj h).trans hp

/-- Only a condition that is asked can refuse. -/
theorem live_of_refused {edge : Edge} {values : Values} {live : Bool} {e : Condition.EvalError}
    (h : edge.isLive values live = .error e) : live = true ∧ edge.condition.isSome = true := by
  unfold Edge.isLive at h
  cases hc : edge.condition <;> cases live <;> rw [hc] at h
  · cases h
  · cases h
  · cases h
  · exact ⟨rfl, rfl⟩

theorem turns_conclude (S : Stage) (g : Graph Component) (r s : Nat) (b : Bool)
    (hb : b = true → S.cancelled (S.runs r).context = true) :
    Turns g s (S.ledger s) ((S.conclude r b).ledger s) := by
  by_cases h : r = s
  · exact h ▸ S.ledger_conclude b hb g
  · rw [S.ledger_conclude_of_ne h]

theorem cancelled_of_isOver (h : S.isOver r = some true) :
    S.cancelled (S.runs r).context = true := by
  unfold Stage.isOver at h
  split at h
  · cases h
  · split at h
    · assumption
    · cases h

/-- A move is some turns in the ledger of its own run, unless the run is sent to another node. -/
theorem Move.turns_or_jumps (h : Move r S S') (ho : Orderly S) :
    Turns (S.runs r).graph r (S.ledger r) (S'.ledger r) ∨
      ∃ node target rest, (S.valuesOf r).override? = some target ∧
        (S.ledger r).errands = .going node ::ₘ rest ∧ S.stops r = false ∧
        S'.ledger r = { S.ledger r with errands := .dispatched target ::ₘ rest } := by
  cases h
  -- The only move that is no row of turns: the run goes on where no edge leads.
  case jump node target rest crew _ goesOn next =>
    have hg : (((S.setValues (S.runs r).context fun v => Entries.erase v Values.overrideKey).change r
        fun run => run.joinedBy 1).runs r).graph = (S.runs r).graph :=
      Stage.graph_change _ r (fun run => run.joinedBy 1) rfl
    refine .inr ⟨node, target, _, next, errands_one crew rfl, goesOn, ?_⟩
    rw [Stage.ledger_withCrew _ (by exact hg), Stage.ledger_change_same _ rfl rfl,
      Stage.ledger_setValues, errandsIn_cons_self, errandsIn_cons_self, Duty.errands_leaving,
      zero_add]
    rfl
  all_goals refine .inl ?_
  -- Errands that are dropped because the run stops.
  case giveUp crew isOpen stops =>
    exact turns_drop crew (Duty.not_during_of_isOpen isOpen _) rfl rfl ((stops_iff S r).1 stops)
  case rest crew stops =>
    exact turns_drop crew (by simp [Duty.errands]) rfl rfl ((stops_iff S r).1 stops)
  case withdraw crew cancelled _ =>
    exact turns_drop crew (by simp [Duty.errands]) (S.graph_change r _ rfl)
      (Stage.ledger_change_same _ rfl rfl) (.inr cancelled)
  -- Duties that change, and the ledger does not.
  case stray crew _ edge =>
    refine turns_withDuty crew rfl rfl .refl ?_
    unfold Run.edge? at edge
    simp only [Duty.errands, edge]
  case resume crew | interrupt crew _ => exact turns_withDuty crew rfl rfl .refl rfl
  case grant crew _ =>
    refine turns_withDuty crew (S.graph_change r _ rfl) rfl ?_ rfl
    rw [Stage.ledger_change_same _ rfl rfl]
  -- Arrivals.
  case lost edge _ crew goesOn edge_eq _ state =>
    have he := errands_one crew (errands_arriving edge_eq _)
    rw [ledger_leaving _ (by rfl), Stage.ledger_record _ fun d hd => isIn_askDeeds hd]
    exact .single (.lose _ ((goesOn_iff S r).1 goesOn) (askDeeds_cases ..) he state)
  case refuse edge e crew goesOn edge_eq isLive =>
    have hl := live_of_refused isLive
    have he := errands_one crew (errands_arriving edge_eq _)
    rw [hl.1] at he
    rw [ledger_leaving _ (by exact congrArg Prod.fst (Stage.frame_fail ..)), Stage.ledger_fail,
      Stage.ledger_record _ fun d hd => isIn_askDeeds hd, askDeeds_eq hl.1 hl.2]
    exact .single (.refuse he ((goesOn_iff S r).1 goesOn))
  case count source _ live _ edge passed s crew goesOn edge_eq isLive state =>
    have he := errands_one crew (errands_arriving edge_eq _)
    have hd : ((s.gate.arrive passed).2.duty edge.target).errands (S.runs r).graph =
        (s.gate.arrive passed).2.errands edge.target := by
      cases (s.gate.arrive passed).2 <;> rfl
    have hg := S.graph_change r (fun run => run.counted edge.target passed)
      (Run.frame_counted ..)
    have hm : ∀ d ∈ Deed.delivered r source edge.target passed ::
        World.askDeeds r source edge live, d.isIn r = true := by
      intro d hd
      rcases List.mem_cons.1 hd with rfl | hd
      · exact beq_self_eq_true r
      · exact isIn_askDeeds hd
    rw [ledger_withDuty _ (by exact hg), hd, Stage.ledger_record _ hm, Stage.ledger_counted]
    exact .single (.count _ he ((goesOn_iff S r).1 goesOn) state (live_of_passed isLive)
      (askDeeds_cases r source edge live))
  -- Dead arrivals go down all edges, in the place of the skip.
  case skip node rest crew =>
    have he := errands_one crew rfl
    have hx : (S.change r fun run => (run.setStatus node .skipped).joinedBy (run.outDegree node)) =
        (S.change r fun run => run.setStatus node .skipped).change r fun run =>
          run.joinedBy ((S.runs r).outDegree node) := by
      rw [Stage.change_change]
      rfl
    have hg := S.graph_change r
      (fun run => (run.setStatus node .skipped).joinedBy (run.outDegree node))
      (Run.frame_setStatus _ node .skipped)
    rw [Stage.ledger_withCrew _ (by exact hg), Stage.ledger_say _ rfl, hx,
      Stage.ledger_change_same _ rfl rfl, Stage.ledger_setStatus, errandsIn_cons_self,
      errandsIn_add, errands_arrivals, Duty.errands_leaving, zero_add]
    exact .single (.skip he)
  -- Dispatches that fail.
  case unknown node rest crew goesOn node_eq =>
    have he := errands_one crew rfl
    rw [ledger_leaving _ (congrArg Prod.fst (S.frame_fail ..)), Stage.ledger_fail]
    exact .single (.spoil he ((goesOn_iff S r).1 goesOn) _ (.inl node_eq))
  case unusable node rest _ reason crew goesOn node_eq slot =>
    have he := errands_one crew rfl
    rw [ledger_leaving _ (congrArg Prod.fst (S.frame_fail ..)), Stage.ledger_fail]
    exact .single (.spoil he ((goesOn_iff S r).1 goesOn) _ (.inr (.inl ⟨reason, rfl⟩)))
  case exceed node rest _ _ _ crew goesOn node_eq slot steps =>
    have he := errands_one crew rfl
    have hg := S.graph_change r (fun run => { run with steps := run.steps + 1 }) rfl
    rw [ledger_leaving _ (by exact (congrArg Prod.fst (Stage.frame_fail ..)).trans hg),
      Stage.ledger_fail, Stage.ledger_change _ rfl rfl rfl]
    exact .single (.spoil he ((goesOn_iff S r).1 goesOn) _
      (.inr (.inr ⟨rfl, Nat.le_of_lt_succ steps⟩)))
  -- Dispatches that come through: a permit is there, or the task has to queue for one.
  case take node rest n _ _ crew goesOn _ _ steps _ =>
    have he := errands_one crew rfl
    have hg := S.graph_change r
      (fun run => { run with steps := run.steps + 1, free := run.free - 1 }) rfl
    rw [ledger_withDuty _ (by exact hg), Stage.ledger_change _ rfl rfl rfl]
    exact .single (.take he ((goesOn_iff S r).1 goesOn) steps)
  case queue t node rest n _ _ crew goesOn _ _ steps _ =>
    have he := errands_one crew rfl
    have hg := S.graph_change r
      (fun run => { run with steps := run.steps + 1, waiting := run.waiting ++ [t] }) rfl
    rw [ledger_withDuty _ (by exact hg), Stage.ledger_change _ rfl rfl rfl]
    exact .single (.take he ((goesOn_iff S r).1 goesOn) steps)
  -- A task with a permit has a node that can be used, so only a stop can turn it back.
  case retreat node rest crew reason =>
    have hg := S.graph_change r Run.released (Run.frame_released _)
    refine turns_drop crew (by simp [Duty.errands]) hg S.ledger_released ((stops_iff S r).1 ?_)
    refine reason.resolve_right fun hu => ?_
    obtain ⟨n, hn, hs⟩ := (ho.crew _ (crew ▸ Multiset.mem_cons_self _ _)).2
    exact absurd hs (Bool.eq_false_iff.1 (hu n hn))
  -- Starts.
  case start node rest n kind activity origin crew goesOn node_eq slot =>
    have he := errands_one crew rfl
    have hg := S.graph_change r (fun run => run.setStatus node .running) (Run.frame_setStatus ..)
    rw [ledger_withDuty _ (by exact hg), Stage.ledger_say _ rfl, Stage.ledger_setStatus]
    exact .single (.start he ((goesOn_iff S r).1 goesOn) node_eq)
  case enter t node rest n graph origin crew goesOn node_eq slot =>
    have he := errands_one crew rfl
    have hr : r ≠ S.nextRun := Nat.ne_of_lt (ho.crew _ (crew ▸ Multiset.mem_cons_self _ _)).1
    have hg := S.graph_change r (fun run => run.setStatus node .running) (Run.frame_setStatus ..)
    rw [ledger_withDuty (S := S) _ (by exact (graph_begin _ _ _ _ _ (by exact hr)).trans hg),
      Stage.ledger_begin _ _ _ _ _ (by exact hr), Stage.ledger_say _ rfl, Stage.ledger_setStatus,
      errandsIn_cons_of_ne hr.symm]
    exact .single (.start he ((goesOn_iff S r).1 goesOn) node_eq)
  -- Of an execution that goes on only a cancellation is seen.
  case finish crew burst | doze crew burst =>
    refine turns_withDuty crew rfl rfl ?_ rfl
    rw [Stage.ledger_record_of_not _ (by simp [Deed.isIn])]
    exact Stage.ledger_cancel_turns _ _ _ _
  -- The pipeline's run is another one, so its end is not seen here.
  case surface inner node rest cancelled crew isOver =>
    have hn := ho.crew (r, .nesting node inner) (crew ▸ Multiset.mem_cons_self _ _)
    have hi : inner ≠ r := Nat.ne_of_gt hn.2.1
    have hc := (S.conclude_adds inner cancelled).2.2.2.2
    refine turns_withDuty (X := (S.conclude inner cancelled).setValues _ _) crew ?_ hc ?_ rfl
    · exact congrArg Prod.fst (S.frame_conclude inner cancelled)
    · rw [Stage.ledger_setValues, S.ledger_conclude_of_ne hi]
  -- Ends of executions.
  case abandon node result rest crew cancelled =>
    have he := errands_one crew rfl
    have hx : (S.change r fun run => run.released.setStatus node .failed) =
        (S.change r Run.released).change r fun run => run.setStatus node .failed := by
      rw [Stage.change_change]
    have hg := S.graph_change r (fun run => run.released.setStatus node .failed)
      ((Run.frame_setStatus ..).trans (Run.frame_released _))
    rw [ledger_leaving _ (by exact hg), Stage.ledger_say _ rfl, hx, Stage.ledger_setStatus,
      Stage.ledger_released]
    exact .single (.abandon he cancelled)
  case blame node result e rest crew goesOn verdict =>
    have he := errands_one crew rfl
    have hg := S.graph_change r Run.released (Run.frame_released _)
    rw [ledger_leaving _ (by exact (congrArg Prod.fst (Stage.frame_fail ..)).trans hg),
      Stage.ledger_fail, Stage.ledger_released]
    exact .single (.blame he)
  case settle node result rest crew goesOn verdict =>
    have he := errands_one crew rfl
    have hx : (S.change r fun run => run.released.completed node) =
        (S.change r Run.released).change r fun run => run.completed node := by
      rw [Stage.change_change]
    have hg := S.graph_change r (fun run => run.released.completed node)
      ((Run.frame_completed ..).trans (Run.frame_released _))
    rw [ledger_withDuty _ (by exact hg), Stage.ledger_say _ rfl, hx, Stage.ledger_completed,
      Stage.ledger_released]
    exact .single (.settle he goesOn)
  -- Nodes that are done.
  case halt node rest crew ends =>
    have he := errands_one crew rfl
    have hg := S.graph_change r (fun run => { run with ended := true, halted := true }) rfl
    rw [ledger_leaving _ (by exact hg), Stage.ledger_change _ rfl rfl rfl]
    exact .single (.halt he)
  case spread node rest crew ends goesOn next =>
    have he := errands_one crew rfl
    have hg : (((S.setValues (S.runs r).context fun v => Entries.erase v Values.overrideKey).change r
        fun run => run.joinedBy (run.outDegree node)).runs r).graph = (S.runs r).graph :=
      Stage.graph_change _ r (fun run => run.joinedBy (run.outDegree node)) rfl
    rw [Stage.ledger_withCrew _ (by exact hg), Stage.ledger_change_same _ rfl rfl,
      Stage.ledger_setValues, errandsIn_cons_self, errandsIn_add, errands_arrivals,
      Duty.errands_leaving, zero_add]
    exact .single (.spread he ((goesOn_iff S r).1 goesOn))
  -- The end of the task, and that of the run.
  case close rest crew =>
    have hg := S.graph_change r (fun run => { run with unfinished := run.unfinished - 1 }) rfl
    have he := errands_ledger crew
    rw [Duty.errands_leaving, zero_add] at he
    rw [Stage.ledger_withCrew _ (by exact hg), Stage.ledger_change_same _ rfl rfl, ← he]
  case conclude t posts cancelled post isOver =>
    exact turns_conclude S _ r r cancelled fun hc =>
      cancelled_of_isOver (isOver.trans (congrArg some hc))
  case expire t posts post isOver =>
    refine (S.ledger_cancel_turns _ (S.runs r).context true).trans ?_
    exact turns_conclude (S.cancel (S.runs r).context true) _ r r true fun _ => by
      simp only [Stage.cancel, Bool.or_true, Function.update_self]

theorem Move.turns (h : Move r S S') (ho : Orderly S) (hn : (S.valuesOf r).override? = none) :
    Turns (S.runs r).graph r (S.ledger r) (S'.ledger r) := by
  refine (h.turns_or_jumps ho).resolve_right ?_
  rintro ⟨_, _, _, hs, -⟩
  exact Option.some_ne_none _ (hs.symm.trans hn)

/-! ## The ledgers of other runs -/

variable {s : Nat}

theorem ledger_crew_of_ne {d : Duty} {rest crew : Multiset (Nat × Duty)}
    (hd : S.crew = (r, d) ::ₘ rest) (hs : r ≠ s)
    (hc : errandsIn (S.runs s).graph s crew = errandsIn (S.runs s).graph s rest) :
    (S.withCrew crew).ledger s = S.ledger s := by
  have he : errandsIn (S.runs s).graph s crew = (S.ledger s).errands := by
    rw [hc, ← errandsIn_cons_of_ne hs, ← hd]
    rfl
  rw [S.ledger_withCrew rfl, he]

theorem ledger_duty_of_ne {d e : Duty} {rest : Multiset (Nat × Duty)}
    (crew : S.crew = (r, d) ::ₘ rest) (hs : r ≠ s) :
    (S.withCrew ((r, e) ::ₘ rest)).ledger s = S.ledger s :=
  ledger_crew_of_ne crew hs (errandsIn_cons_of_ne hs ..)

theorem errandsIn_arrivals_of_ne (g : Graph Component) (run : Run) (hs : r ≠ s) (source : String)
    (live : Bool) (crew : Multiset (Nat × Duty)) :
    errandsIn g s (run.arrivals r source live + crew) = errandsIn g s crew := by
  have hz : errandsIn g s (run.arrivals r source live) = 0 := by
    unfold Run.arrivals errandsIn
    rw [Multiset.bind_map]
    exact (Multiset.bind_congr fun _ _ => if_neg hs).trans (Multiset.bind_zero _)
  rw [errandsIn_add, hz, zero_add]

theorem isIn_of_ne {d : Deed} (hd : d.isIn r = true) (hs : r ≠ s) : d.isIn s = false := by
  cases d <;> simp_all [Deed.isIn]

theorem crew_fail (S : Stage) (r : Nat) (node : String) (e : PipelineError) :
    (S.fail r node e).crew = S.crew := by
  unfold Stage.fail Stage.keepFailure
  dsimp only
  split <;> rfl

/-- A move of another run is seen only if it cancels the context, or concludes the run. -/
theorem Move.turns_of_ne (h : Move r S S') (hs : r ≠ s) (hlt : s < S.nextRun) :
    Turns (S.runs s).graph s (S.ledger s) (S'.ledger s) := by
  have hask : ∀ source edge live, ∀ d ∈ World.askDeeds r source edge live, d.isIn s = false :=
    fun _ _ _ d hd => isIn_of_ne (isIn_askDeeds hd) hs
  cases h
  -- Moves that change the task alone, then those that change its run or its context.
  case giveUp crew _ _ | stray crew _ _ | rest crew _ | resume crew | interrupt crew _ =>
    rw [ledger_duty_of_ne crew hs]
  case lost crew _ _ _ _ =>
    rw [ledger_duty_of_ne (by exact crew) hs, Stage.ledger_record_of_not _ (hask _ _ _)]
  case refuse crew _ _ _ =>
    rw [ledger_duty_of_ne (by exact (crew_fail ..).trans crew) hs, Stage.ledger_fail_of_ne _ hs,
      Stage.ledger_record_of_not _ (hask _ _ _)]
  case unknown crew _ _ | unusable crew _ _ _ =>
    rw [ledger_duty_of_ne (by exact (crew_fail ..).trans crew) hs, Stage.ledger_fail_of_ne _ hs]
  case exceed crew _ _ _ _ | blame crew _ _ =>
    rw [ledger_duty_of_ne (by exact (crew_fail ..).trans crew) hs, Stage.ledger_fail_of_ne _ hs,
      Stage.ledger_change_of_ne _ hs]
  case take crew _ _ _ _ _ | queue crew _ _ _ _ _ | grant crew _ | withdraw crew _ _
      | retreat crew _ | halt crew _ =>
    rw [ledger_duty_of_ne (by exact crew) hs, Stage.ledger_change_of_ne _ hs]
  case start crew _ _ _ | abandon crew _ | settle crew _ _ =>
    rw [ledger_duty_of_ne (by exact crew) hs, Stage.ledger_say_of_ne _ _ (.inl hs),
      Stage.ledger_change_of_ne _ hs]
  case skip crew =>
    rw [ledger_crew_of_ne (by exact crew) hs ((errandsIn_cons_of_ne hs ..).trans
        (errandsIn_arrivals_of_ne _ _ hs ..)),
      Stage.ledger_say_of_ne _ _ (.inl hs), Stage.ledger_change_of_ne _ hs]
  case count source _ live _ edge passed st crew _ _ _ _ =>
    have hd : ∀ d ∈ Deed.delivered r source edge.target passed ::
        World.askDeeds r source edge live, d.isIn s = false := by
      intro d hd
      rcases List.mem_cons.1 hd with rfl | hd
      · exact isIn_of_ne (beq_self_eq_true r) hs
      · exact hask _ _ _ d hd
    rw [ledger_duty_of_ne (by exact crew) hs, Stage.ledger_record_of_not _ hd,
      Stage.ledger_change_of_ne _ hs]
  case enter t node rest n graph origin crew _ _ _ =>
    have hn : s ≠ S.nextRun := Nat.ne_of_lt hlt
    rw [ledger_crew_of_ne (by exact crew) hs ((errandsIn_cons_of_ne hs ..).trans
        (errandsIn_cons_of_ne hn.symm ..)),
      Stage.ledger_begin _ _ _ _ _ (by exact hn), Stage.ledger_say_of_ne _ _ (.inl hs),
      Stage.ledger_change_of_ne _ hs]
  case finish crew _ | doze crew _ =>
    rw [ledger_duty_of_ne (by exact crew) hs, Stage.ledger_record_of_not _ (by simp [Deed.isIn])]
    exact Stage.ledger_cancel_turns _ _ _ _
  case surface inner node rest cancelled crew isOver =>
    rw [ledger_duty_of_ne (by exact (S.conclude_adds inner cancelled).2.2.2.2.trans crew) hs,
      Stage.ledger_setValues]
    refine turns_conclude S _ inner s cancelled fun hc => ?_
    exact cancelled_of_isOver (isOver.trans (congrArg some hc))
  case jump crew _ _ _ =>
    rw [ledger_crew_of_ne (by exact crew) hs ((errandsIn_cons_of_ne hs ..).trans
        (errandsIn_cons_of_ne hs ..)), Stage.ledger_change_of_ne _ hs, Stage.ledger_setValues]
  case spread crew _ _ _ =>
    rw [ledger_crew_of_ne (by exact crew) hs ((errandsIn_cons_of_ne hs ..).trans
        (errandsIn_arrivals_of_ne _ _ hs ..)),
      Stage.ledger_change_of_ne _ hs, Stage.ledger_setValues]
  case close rest crew =>
    rw [ledger_crew_of_ne (by exact crew) hs rfl, Stage.ledger_change_of_ne _ hs]
  case conclude t posts cancelled post isOver =>
    exact turns_conclude S _ r s cancelled fun hc =>
      cancelled_of_isOver (isOver.trans (congrArg some hc))
  case expire =>
    refine (S.ledger_cancel_turns _ (S.runs r).context true).trans ?_
    exact turns_conclude (S.cancel (S.runs r).context true) _ r s true fun _ => by
      simp only [Stage.cancel, Bool.or_true, Function.update_self]

/-! ## Ledgers that open -/

/-- The ledger of a run that has just begun. -/
def Ledger.opening (g : Graph Component) (limit : Nat) (cancelled : Bool) : Ledger where
  errands := {.dispatched g.root}
  nodes := (Run.initialNodes g).get?
  steps := 0
  limit := limit
  halted := false
  ended := false
  cancelled := cancelled
  executed := []
  events := []
  deeds := []

theorem Orderly.events_eq_nil (ho : Orderly S) {s : Nat} (hs : S.nextRun ≤ s) :
    S.events.filter (fun e => e.1 == s && e.2.isNode) = [] := by
  refine List.filter_eq_nil_iff.2 fun e hm hb => ?_
  have hlt := ho.events e hm
  rw [eq_of_beq (Bool.and_eq_true_iff.1 hb).1] at hlt
  omega

theorem Orderly.deeds_eq_nil (ho : Orderly S) {s : Nat} (hs : S.nextRun ≤ s) :
    S.deeds.filter (fun d => d.isIn s) = [] := by
  refine List.filter_eq_nil_iff.2 fun d hm hb => ?_
  have hlt := ho.deeds d hm s hb
  omega

theorem Orderly.errandsIn_eq_zero (ho : Orderly S) (g : Graph Component)
    {crew : Multiset (Nat × Duty)} (hc : crew ≤ S.crew) {s : Nat} (hs : S.nextRun ≤ s) :
    errandsIn g s crew = 0 := by
  refine (Multiset.bind_congr fun p hp => if_neg ?_).trans (Multiset.bind_zero _)
  intro hps
  have hlt := (ho.crew p (Multiset.mem_of_le hc hp)).1
  omega

theorem Stage.runs_begin_self (X : Stage) (graph : Graph Component) (context supervisor : Nat)
    (limits : Limits) : (X.begin graph context supervisor limits).runs X.nextRun =
      (Run.new graph context supervisor limits.atLeastOne).joinedBy 1 :=
  Function.update_self ..

theorem Stage.ledger_begin_self (X : Stage) (graph : Graph Component) (context supervisor : Nat)
    (limits : Limits) (crew : Multiset (Nat × Duty))
    (hevents : X.events.filter (fun e => e.1 == X.nextRun && e.2.isNode) = [])
    (hdeeds : X.deeds.filter (fun d => d.isIn X.nextRun) = []) :
    ((X.begin graph context supervisor limits).withCrew crew).ledger X.nextRun =
      { Ledger.opening graph limits.atLeastOne.steps (X.cancelled context) with
        errands := errandsIn graph X.nextRun crew } := by
  have hb : (X.nextRun == X.nextRun && (Happening.runStarted graph.pipeline).isNode) = false :=
    Bool.and_false _
  simp only [ledger, withCrew, begin, Function.update_self, List.filter_cons, hb,
    Bool.false_eq_true, if_false, hevents, hdeeds, List.map_nil]
  rfl

theorem Move.begins (h : Move r S S') (ho : Orderly S) :
    S'.nextRun = S.nextRun ∨ ∃ node n graph origin limit cancelled,
      r < S.nextRun ∧ (S.runs r).graph.node? node = some n ∧
      n.slot = .ready (.pipeline graph) origin ∧ S'.nextRun = S.nextRun + 1 ∧
      (S'.runs S.nextRun).graph = graph ∧
      S'.ledger S.nextRun = Ledger.opening graph limit cancelled := by
  cases h
  case enter t node rest n graph origin crew _ node_eq slot =>
    have hr := (ho.crew _ (crew ▸ Multiset.mem_cons_self _ _)).1
    refine .inr ⟨node, n, graph, origin, (S.runs r).limits.atLeastOne.steps,
      S.cancelled (S.runs r).context, hr, node_eq, slot, rfl, ?_, ?_⟩
    · exact congrArg Run.graph (Stage.runs_begin_self ((S.change r _).say r _) graph _ t _)
    have hrest : rest ≤ S.crew := crew ▸ Multiset.le_cons_self _ _
    have he : errandsIn graph S.nextRun ((r, .nesting node S.nextRun) ::ₘ
        (S.nextRun, .dispatched graph.root) ::ₘ rest) = {.dispatched graph.root} := by
      rw [errandsIn_cons_of_ne (Nat.ne_of_lt hr), errandsIn_cons_self,
        ho.errandsIn_eq_zero graph hrest (Nat.le_refl _), add_zero]
      rfl
    have hl := Stage.ledger_begin_self ((S.change r fun run => run.setStatus node .running).say r
      (.nodeStarted node n.componentId)) graph (S.runs r).context t (S.runs r).limits
      ((r, .nesting node S.nextRun) ::ₘ (S.nextRun, .dispatched graph.root) ::ₘ rest)
      ((Stage.events_say_of_ne _ _ (.inl (Nat.ne_of_lt hr))).trans
        (ho.events_eq_nil (Nat.le_refl _)))
      (ho.deeds_eq_nil (Nat.le_refl _))
    refine hl.trans ?_
    exact congrArg (fun e => { Ledger.opening graph (S.runs r).limits.atLeastOne.steps
      (S.cancelled (S.runs r).context) with errands := e }) he
  case refuse | unknown | unusable | exceed | blame => exact .inl (Stage.fail_adds ..).2.2.1
  case surface | conclude | expire => exact .inl (Stage.conclude_adds ..).2.2.1
  all_goals exact .inl rfl

theorem Move.run_begun (m : Move r S S') (hne : S'.nextRun ≠ S.nextRun) :
    S'.nextRun = S.nextRun + 1 ∧ ∃ graph supervisor, S'.runs S.nextRun =
      (Run.new graph (S.runs r).context supervisor (S.runs r).limits.atLeastOne).joinedBy 1 := by
  cases m
  case enter t node rest n graph origin crew _ _ _ =>
    exact ⟨rfl, graph, t, Stage.runs_begin_self ((S.change r fun run =>
      run.setStatus node .running).say r (.nodeStarted node n.componentId)) graph _ t _⟩
  case refuse | unknown | unusable | exceed | blame => exact (hne (Stage.fail_adds ..).2.2.1).elim
  case surface | conclude | expire => exact (hne (Stage.conclude_adds ..).2.2.1).elim
  all_goals exact (hne rfl).elim

/-- A run that has begun after a move had begun before, or is the one that begins in the move. -/
theorem Move.known_or_begun (m : Move r S S') (hs : s < S'.nextRun) :
    s < S.nextRun ∨ S'.nextRun ≠ S.nextRun ∧ s = S.nextRun := by
  by_cases hold : s < S.nextRun
  · exact .inl hold
  · have hn : S'.nextRun ≠ S.nextRun := by omega
    have hnext := (m.run_begun hn).1
    exact .inr ⟨hn, by omega⟩

/-! ## Straight runs -/

/-- No run is sent to another node than those its edges lead to. -/
structure Straight (S : Stage) : Prop where
  orderly : Orderly S
  absent : ∀ c, Entries.get? (S.values c) Values.overrideKey = none

theorem Straight.override?_eq_none (hs : Straight S) (r : Nat) :
    (S.valuesOf r).override? = none :=
  Values.override?_of_absent (hs.absent _)

theorem Straight.move (hs : Straight S) (h : Move r S S')
    (hw : Unwritten Values.overrideKey S'.deeds) : Straight S' where
  orderly := hs.orderly.move h
  absent c := h.absent (by decide) hw c (hs.absent c)

theorem Straight.turns (hs : Straight S) (h : Move r S S') (hlt : s < S.nextRun) :
    Turns (S.runs s).graph s (S.ledger s) (S'.ledger s) := by
  by_cases hr : r = s
  · exact hr ▸ h.turns hs.orderly (hs.override?_eq_none r)
  · exact h.turns_of_ne hr hlt

theorem Move.graph (h : Move r S S') (hlt : s < S.nextRun) :
    (S'.runs s).graph = (S.runs s).graph :=
  congrArg Prod.fst (h.frame hlt)

theorem Move.nextRun_le (h : Move r S S') (ho : Orderly S) : S.nextRun ≤ S'.nextRun := by
  rcases h.begins ho with hn | ⟨_, _, _, _, _, _, _, _, _, hn, _⟩
  · exact hn.ge
  · omega

theorem Unwritten.mono {k : String} {deeds others : List Deed} (h : Unwritten k others)
    (hs : deeds ⊆ others) : Unwritten k deeds := fun d hd => h d (hs hd)

theorem Moves.deeds_subset (h : Moves S S') : S.deeds ⊆ S'.deeds := by
  induction h with
  | single h => exact h.deeds_subset
  | head h _ ih => exact List.Subset.trans h.deeds_subset ih

theorem Straight.turns_of_moves (h : Moves S S') (hs : Straight S)
    (hw : Unwritten Values.overrideKey S'.deeds) (hlt : s < S.nextRun) :
    Turns (S.runs s).graph s (S.ledger s) (S'.ledger s) := by
  induction h with
  | single h => exact hs.turns h hlt
  | head h rest ih =>
    have ht := hs.turns h hlt
    have hm := hs.move h (hw.mono rest.deeds_subset)
    have hn := h.nextRun_le hs.orderly
    exact ht.trans (h.graph hlt ▸ ih hm hw (hlt.trans_le hn))

end

/-! ## The ledgers of all runs -/

section

variable {l : Launch} {past : List (World × Act)} {w : World}

theorem Launch.deeds_unwritten (l : Launch) (k : String) : Unwritten k l.deeds := by
  intro d hd
  obtain ⟨_, rfl⟩ := concluded_of_mem_deeds hd
  rfl

theorem Launch.unwritten_allDeeds {k : String} (h : Unwritten k (deedsOf past)) :
    Unwritten k (l.allDeeds past) := by
  intro d hd
  rcases List.mem_append.1 hd with hd | hd
  · exact h d hd
  · exact l.deeds_unwritten k d hd

theorem Launch.straight_opening (h : Entries.get? l.values Values.overrideKey = none) :
    Straight l.opening where
  orderly := l.orderly_opening
  absent c := by
    simp only [opening, contextValues]
    split
    · exact h
    · rfl

theorem Launch.straight_broken (h : Entries.get? l.values Values.overrideKey = none) :
    Straight l.broken where
  orderly := l.orderly_broken
  absent c := (l.straight_opening h).absent c

theorem Course.straight (h : Course l.world past w)
    (ha : Entries.get? l.values Values.overrideKey = none)
    (hw : Unwritten Values.overrideKey (deedsOf past)) :
    Straight (w.view (l.allDeeds past)) := by
  refine h.invariant (P := fun S => Unwritten Values.overrideKey S.deeds → Straight S)
    (fun _ _ => l.straight_opening ha) (fun _ _ => l.straight_broken ha) ?_ ?_
    (Launch.unwritten_allDeeds hw)
  · intro r S S' m hs hu
    exact (hs (hu.mono m.deeds_subset)).move m hu
  · intro S c hs hu
    exact ⟨(hs hu).orderly.cancel c, (hs hu).absent⟩

theorem Course.turns (h : Course l.world past w)
    (ha : Entries.get? l.values Values.overrideKey = none) {a : Act}
    (hw : Unwritten Values.overrideKey (deedsOf ((w, a) :: past))) {r : Nat} (hr : r < w.nextRun) :
    Turns (w.runs.get r).graph r ((w.view (l.allDeeds past)).ledger r)
      (((w.act a).view (l.allDeeds ((w, a) :: past))).ledger r) := by
  have hs := h.straight ha (hw.mono (List.subset_append_right _ _))
  have hu := Launch.unwritten_allDeeds (l := l) hw
  unfold Launch.allDeeds at hu ⊢
  rw [deedsOf_cons, List.append_assoc] at hu ⊢
  cases a with
  | step t =>
    rcases World.view_step h.awake t (deedsOf past ++ l.deeds) with ⟨hv, -⟩ | hv
    · exact hv ▸ .refl
    · exact hs.turns_of_moves hv hu hr
  | pass ms =>
    simp only [World.act, World.deeds, List.nil_append, World.view_pass]
    exact .refl
  | cancel c =>
    simp only [World.act, World.deeds, List.nil_append, World.view_cancel]
    exact Stage.ledger_cancel_turns _ _ c true

theorem Launch.ledger_opening (l : Launch) : l.opening.ledger 0 =
    Ledger.opening l.graph l.limits.atLeastOne.steps (l.isCancelled 0) := by
  have he : errandsIn l.graph 0 {(0, .dispatched l.graph.root)} = {.dispatched l.graph.root} :=
    errandsIn_cons_self l.graph 0 _ 0
  have hl : l.opening.ledger 0 = { Ledger.opening l.graph l.limits.atLeastOne.steps
      (l.isCancelled 0) with errands := errandsIn l.graph 0 {(0, .dispatched l.graph.root)} } := rfl
  rw [hl, he]
  rfl

section

variable {G : Graph Component → Prop} {P : Graph Component → Nat → Ledger → Prop}

/-- The graphs are some for which `G` holds, and so are all pipelines in them. -/
def Nested (G : Graph Component → Prop) : Prop :=
  ∀ ⦃g : Graph Component⦄ ⦃id : String⦄ ⦃n : GraphNode Component⦄ ⦃inner : Graph Component⦄
    ⦃origin : Origin⦄, G g → g.node? id = some n → n.slot = .ready (.pipeline inner) origin →
      G inner

theorem Turns.keep {g : Graph Component} {r : Nat} {x y : Ledger}
    (turn : ∀ {x y : Ledger}, Turn g r x y → P g r x → P g r y) (h : Turns g r x y)
    (hx : P g r x) : P g r y := by
  induction h with
  | refl => exact hx
  | tail _ ht ih => exact turn ht ih

/-- Something holds of the graphs and the ledgers of all runs that have begun. -/
def Ledgers (G : Graph Component → Prop) (P : Graph Component → Nat → Ledger → Prop)
    (S : Stage) : Prop :=
  ∀ s, s < S.nextRun → G (S.runs s).graph ∧ P (S.runs s).graph s (S.ledger s)

theorem Launch.ledgers_opening (graph : G l.graph)
    (opening : ∀ {g : Graph Component} (r limit : Nat) (cancelled : Bool), G g →
      P g r (Ledger.opening g limit cancelled)) : Ledgers G P l.opening := by
  intro s hs
  obtain rfl : s = 0 := Nat.lt_one_iff.1 hs
  exact ⟨graph, l.ledger_opening ▸ opening 0 _ _ graph⟩

/-- What a move keeps of the ledgers that it finds holds of the ledger of a run that it lets begin,
too. -/
theorem Ledgers.move (nested : Nested G)
    (opening : ∀ {g : Graph Component} (r limit : Nat) (cancelled : Bool), G g →
      P g r (Ledger.opening g limit cancelled)) {S S' : Stage} {r : Nat} (h : Ledgers G P S)
    (ho : Orderly S) (m : Move r S S')
    (keep : ∀ s, s < S.nextRun → G (S.runs s).graph → P (S.runs s).graph s (S.ledger s) →
      P (S.runs s).graph s (S'.ledger s)) : Ledgers G P S' := by
  intro s hlt
  rcases m.known_or_begun hlt with hold | ⟨hnew, rfl⟩
  · rw [m.graph hold]
    exact ⟨(h s hold).1, keep s hold (h s hold).1 (h s hold).2⟩
  · obtain ⟨id, n, g, origin, limit, c, hr, hid, hn, -, hg, hl⟩ := (m.begins ho).resolve_left hnew
    have hinner := nested (h r hr).1 hid hn
    rw [hg, hl]
    exact ⟨hinner, opening _ limit c hinner⟩

/-- What holds of the ledger of every run that begins, and is kept by every turn, holds of the
ledgers of all runs after every course. -/
theorem Course.ledgers (nested : Nested G)
    (opening : ∀ {g : Graph Component} (r limit : Nat) (cancelled : Bool), G g →
      P g r (Ledger.opening g limit cancelled))
    (turn : ∀ {g : Graph Component} {r : Nat} {x y : Ledger}, G g → Turn g r x y → P g r x →
      P g r y)
    (h : Course l.world past w) (fits : l.Fits) (graph : G l.graph)
    (ha : Entries.get? l.values Values.overrideKey = none)
    (hw : Unwritten Values.overrideKey (deedsOf past)) {r : Nat} (hr : r < w.nextRun) :
    G (w.runs.get r).graph ∧
      P (w.runs.get r).graph r ((w.view (l.allDeeds past)).ledger r) := by
  have hturns : ∀ {g : Graph Component} {r : Nat} {x y : Ledger}, G g → Turns g r x y →
      P g r x → P g r y := fun hg ht hx => ht.keep (turn hg) hx
  -- As long as no successor is requested, all runs go straight down their edges.
  have hall := h.invariant (P := fun S => Unwritten Values.overrideKey S.deeds → Straight S ∧
    Ledgers G P S) ?_ (fun hb => absurd fits hb) ?_ ?_
  · exact (hall (Launch.unwritten_allDeeds hw)).2 r hr
  · exact fun _ _ => ⟨l.straight_opening ha, l.ledgers_opening graph opening⟩
  · intro r S S' m ih hu
    obtain ⟨hs, hp⟩ := ih (hu.mono m.deeds_subset)
    exact ⟨hs.move m hu, hp.move nested opening hs.orderly m fun s hlt hg hx =>
      hturns hg (hs.turns m hlt) hx⟩
  · intro S c ih hu
    obtain ⟨hs, hp⟩ := ih hu
    refine ⟨⟨hs.orderly.cancel c, hs.absent⟩, fun s hlt => ?_⟩
    exact ⟨(hp s hlt).1, hturns (hp s hlt).1 (S.ledger_cancel_turns _ c true) (hp s hlt).2⟩

end

end

end Conduit
