import Conduit.Proofs.Run.Crew

/-!
# Ledgers

A ledger shows of a stage what one run has still to do at its nodes, where the nodes stand and what
has happened to them. It changes in turns, and every move is some turns in the ledger of each run.
-/

namespace Conduit

/-! ## Errands -/

/-- What a task has still to do for a node. -/
inductive Errand where
  | flying (source target : String) (live : Bool)
  | skipping (node : String)
  | dispatched (node : String)
  /-- Was let through by the step limit. -/
  | admitted (node : String)
  /-- Executes the node. -/
  | during (node : String)
  | going (node : String)
  deriving DecidableEq

/-- A task that takes no edge of the graph has nothing to do. -/
def Duty.errands (g : Graph Component) : Duty → Multiset Errand
  | .arriving source place live =>
    match (g.node? source).bind fun n => n.edges[place]? with
    | some edge => {.flying source edge.target live}
    | none => 0
  | .skipping node => {.skipping node}
  | .dispatched node => {.dispatched node}
  | .awaiting node => {.admitted node}
  | .admitted node => {.admitted node}
  | .performing node _ => {.during node}
  | .pausing node _ _ _ => {.during node}
  | .nesting node _ => {.during node}
  | .ended node _ => {.during node}
  | .going node => {.going node}
  | .leaving => 0

def errandsIn (g : Graph Component) (r : Nat) (crew : Multiset (Nat × Duty)) : Multiset Errand :=
  crew.bind fun p => if p.1 = r then p.2.errands g else 0

theorem errandsIn_cons_self (g : Graph Component) (r : Nat) (d : Duty)
    (crew : Multiset (Nat × Duty)) :
    errandsIn g r ((r, d) ::ₘ crew) = d.errands g + errandsIn g r crew := by
  rw [errandsIn, Multiset.cons_bind, if_pos rfl]
  rfl

theorem errandsIn_cons_of_ne {g : Graph Component} {r s : Nat} (h : r ≠ s) (d : Duty)
    (crew : Multiset (Nat × Duty)) : errandsIn g s ((r, d) ::ₘ crew) = errandsIn g s crew := by
  rw [errandsIn, Multiset.cons_bind, if_neg h, zero_add]
  rfl

theorem errandsIn_add (g : Graph Component) (r : Nat) (crew others : Multiset (Nat × Duty)) :
    errandsIn g r (crew + others) = errandsIn g r crew + errandsIn g r others :=
  Multiset.add_bind ..

/-- The errands of the tasks for all edges of a node. -/
def Graph.departures (g : Graph Component) (source : String) (live : Bool) : Multiset Errand :=
  match g.node? source with
  | some n => (n.edges.map fun edge => Errand.flying source edge.target live : List Errand)
  | none => 0

/-! ## Ledgers -/

structure Ledger where
  errands : Multiset Errand
  nodes : String → Option NodeState
  /-- How many executions were admitted or refused for their number. -/
  steps : Nat
  limit : Nat
  halted : Bool
  ended : Bool
  cancelled : Bool
  executed : List String
  /-- What happened to the nodes, the newest first. -/
  events : List Happening
  deeds : List Deed

def Happening.isNode : Happening → Bool
  | .runStarted _ => false
  | .runCompleted _ _ => false
  | _ => true

def Happening.completed? : Happening → Option String
  | .nodeCompleted node => some node
  | _ => none

theorem Happening.countP_isNode (es : List Happening) {f : Happening → Bool}
    (hf : ∀ e, f e → e.isNode) : (es.filter isNode).countP f = es.countP f := by
  rw [List.countP_filter]
  refine List.countP_congr fun e _ => ?_
  rw [Bool.and_eq_true]
  exact ⟨And.left, fun h => ⟨h, hf e h⟩⟩

def Stage.ledger (S : Stage) (r : Nat) : Ledger where
  errands := errandsIn (S.runs r).graph r S.crew
  nodes := (S.runs r).nodes.get?
  steps := (S.runs r).steps
  limit := (S.runs r).limits.steps
  halted := (S.runs r).halted
  ended := (S.runs r).ended
  cancelled := S.cancelled (S.runs r).context
  executed := (S.runs r).executed
  events := (S.events.filter fun e => e.1 == r && e.2.isNode).map Prod.snd
  deeds := S.deeds.filter fun d => d.isIn r

def withStatus (nodes : String → Option NodeState) (node : String) (s : NodeStatus) (other : String) :
    Option NodeState :=
  if node = other then (nodes node).map fun x => { x with status := s } else nodes other

def withArrival (nodes : String → Option NodeState) (node : String) (live : Bool)
    (other : String) : Option NodeState :=
  if node = other then
    (nodes node).map fun s =>
      ⟨(s.gate.arrive live).1,
        if (s.gate.arrive live).2 = .waiting ∧ s.status = .pending then .blocked else s.status⟩
  else nodes other

def Arrival.errands (node : String) : Arrival → Multiset Errand
  | .waiting => 0
  | .fire => {.dispatched node}
  | .skip => {.skipping node}

theorem Arrival.mem_errands {a : Arrival} {node : String} {e : Errand} :
    e ∈ a.errands node ↔ a = .fire ∧ e = .dispatched node ∨ a = .skip ∧ e = .skipping node := by
  cases a <;> simp [Arrival.errands]

theorem Arrival.count_errands (a : Arrival) (node : String) (e : Errand) :
    (a.errands node).count e =
      if a = .fire ∧ e = .dispatched node ∨ a = .skip ∧ e = .skipping node then 1 else 0 := by
  cases a <;> simp [Arrival.errands, Multiset.count_singleton]

/-- What a move does to the ledger of the run `r` over the graph `g`. -/
inductive Turn (g : Graph Component) (r : Nat) (l : Ledger) : Ledger → Prop where
  | drop {e : Errand} {rest : Multiset Errand} (idle : ∀ node, e ≠ .during node)
      (errands : l.errands = e ::ₘ rest)
      (stops : l.halted ∨ l.cancelled) :
      Turn g r l { l with errands := rest }
  | lose {source target : String} {live : Bool} {rest : Multiset Errand} (asks : List Deed)
      (goesOn : l.halted = false ∧ l.cancelled = false)
      (asks_eq : asks = [] ∨ live ∧ asks = [.asked r source target])
      (errands : l.errands = .flying source target live ::ₘ rest)
      (state : l.nodes target = none) :
      Turn g r l { l with errands := rest, deeds := asks ++ l.deeds }
  | refuse {source target : String} {rest : Multiset Errand} {error : String}
      (errands : l.errands = .flying source target true ::ₘ rest)
      (goesOn : l.halted = false ∧ l.cancelled = false) :
      Turn g r l { l with
        errands := rest
        nodes := withStatus l.nodes target .failed
        halted := true
        events := .nodeFailed target (PipelineError.conditionEval source target error).message ::
          l.events
        deeds := .failed r target (.conditionEval source target error) ::
          .asked r source target :: l.deeds }
  | count {source target : String} {live passed : Bool} {rest : Multiset Errand} {s : NodeState}
      (asks : List Deed) (errands : l.errands = .flying source target live ::ₘ rest)
      (goesOn : l.halted = false ∧ l.cancelled = false) (state : l.nodes target = some s)
      (passed_le : passed → live)
      (asks_eq : asks = [] ∨ live ∧ asks = [.asked r source target]) :
      Turn g r l { l with
        errands := (s.gate.arrive passed).2.errands target + rest
        nodes := withArrival l.nodes target passed
        deeds := .delivered r source target passed :: (asks ++ l.deeds) }
  | skip {node : String} {rest : Multiset Errand} (errands : l.errands = .skipping node ::ₘ rest) :
      Turn g r l { l with
        errands := g.departures node false + rest
        nodes := withStatus l.nodes node .skipped
        events := .nodeSkipped node :: l.events }
  | spoil {node : String} {rest : Multiset Errand} {e : PipelineError}
      (errands : l.errands = .dispatched node ::ₘ rest)
      (goesOn : l.halted = false ∧ l.cancelled = false) (steps : Nat)
      (reason : g.node? node = none ∨ (∃ why, e = .missingComponent node why) ∨
        e = .stepLimitExceeded l.limit ∧ l.limit ≤ l.steps) :
      Turn g r l { l with
        errands := rest
        nodes := withStatus l.nodes node .failed
        steps := steps
        halted := true
        events := .nodeFailed node e.message :: l.events
        deeds := .failed r node e :: l.deeds }
  | take {node : String} {rest : Multiset Errand}
      (errands : l.errands = .dispatched node ::ₘ rest)
      (goesOn : l.halted = false ∧ l.cancelled = false) (steps : l.steps < l.limit) :
      Turn g r l { l with errands := .admitted node ::ₘ rest, steps := l.steps + 1 }
  | start {node : String} {rest : Multiset Errand} {n : GraphNode Component}
      (errands : l.errands = .admitted node ::ₘ rest)
      (goesOn : l.halted = false ∧ l.cancelled = false) (node_eq : g.node? node = some n) :
      Turn g r l { l with
        errands := .during node ::ₘ rest
        nodes := withStatus l.nodes node .running
        events := .nodeStarted node n.componentId :: l.events }
  | abandon {node : String} {rest : Multiset Errand} (errands : l.errands = .during node ::ₘ rest)
      (cancelled : l.cancelled) :
      Turn g r l { l with
        errands := rest
        nodes := withStatus l.nodes node .failed
        events := .nodeFailed node PipelineError.cancelled.message :: l.events }
  | blame {node : String} {rest : Multiset Errand} {e : ComponentError}
      (errands : l.errands = .during node ::ₘ rest) :
      Turn g r l { l with
        errands := rest
        nodes := withStatus l.nodes node .failed
        halted := true
        events := .nodeFailed node (PipelineError.componentExecution node e).message :: l.events
        deeds := .failed r node (.componentExecution node e) :: l.deeds }
  | settle {node : String} {rest : Multiset Errand} (errands : l.errands = .during node ::ₘ rest)
      (goesOn : l.cancelled = false) :
      Turn g r l { l with
        errands := .going node ::ₘ rest
        nodes := withStatus l.nodes node .done
        executed := l.executed ++ [node]
        events := .nodeCompleted node :: l.events }
  | halt {node : String} {rest : Multiset Errand} (errands : l.errands = .going node ::ₘ rest) :
      Turn g r l { l with errands := rest, halted := true, ended := true }
  | spread {node : String} {rest : Multiset Errand} (errands : l.errands = .going node ::ₘ rest)
      (goesOn : l.halted = false ∧ l.cancelled = false) :
      Turn g r l { l with errands := g.departures node true + rest }
  | stop (cancelled : l.cancelled) : Turn g r l { l with halted := true }
  | cancel : Turn g r l { l with cancelled := true }

theorem Turn.halted {g : Graph Component} {r : Nat} {x y : Ledger} (h : Turn g r x y)
    (hx : x.halted) : y.halted := by
  cases h
  case refuse | spoil | blame | halt | stop => rfl
  all_goals exact hx

theorem Turn.cancelled {g : Graph Component} {r : Nat} {x y : Ledger} (h : Turn g r x y)
    (hx : x.cancelled) : y.cancelled := by
  cases h
  case cancel => rfl
  all_goals exact hx

theorem Turn.limit {g : Graph Component} {r : Nat} {x y : Ledger} (h : Turn g r x y) :
    y.limit = x.limit := by
  cases h <;> rfl

/-- A failure that a turn reports is that of a condition or of an execution, or else a dispatched node
could not be taken. -/
theorem Turn.failed_arises {g : Graph Component} {r : Nat} {x y : Ledger} (h : Turn g r x y)
    {node : String} {e : PipelineError} (hm : .failed r node e ∈ y.deeds) :
    .failed r node e ∈ x.deeds ∨ (∃ source error, e = .conditionEval source node error) ∨
      (∃ e', e = .componentExecution node e') ∨
      .dispatched node ∈ x.errands ∧ (x.halted = false ∧ x.cancelled = false) ∧
        (g.node? node = none ∨ (∃ why, e = .missingComponent node why) ∨
          e = .stepLimitExceeded x.limit ∧ x.limit ≤ x.steps) := by
  have asked : ∀ {source target : String} {asks : List Deed} {live : Bool},
      (asks = [] ∨ live ∧ asks = [.asked r source target]) →
        .failed r node e ∈ asks ++ x.deeds → .failed r node e ∈ x.deeds := by
    rintro source target asks live (rfl | ⟨-, rfl⟩) hm
    · exact hm
    · exact (List.mem_cons.1 hm).resolve_left nofun
  cases h
  case lose asks_eq _ _ => exact .inl (asked asks_eq hm)
  case count asks_eq => exact .inl (asked asks_eq ((List.mem_cons.1 hm).resolve_left nofun))
  case refuse =>
    rcases List.mem_cons.1 hm with he | hm
    · cases he
      exact .inr (.inl ⟨_, _, rfl⟩)
    · exact .inl ((List.mem_cons.1 hm).resolve_left nofun)
  case blame =>
    rcases List.mem_cons.1 hm with he | hm
    · cases he
      exact .inr (.inr (.inl ⟨_, rfl⟩))
    · exact .inl hm
  case spoil errands goesOn _ reason =>
    rcases List.mem_cons.1 hm with he | hm
    · cases he
      exact .inr (.inr (.inr ⟨errands ▸ Multiset.mem_cons_self _ _, goesOn, reason⟩))
    · exact .inl hm
  all_goals exact .inl hm

abbrev Turns (g : Graph Component) (r : Nat) : Ledger → Ledger → Prop :=
  Relation.ReflTransGen (Turn g r)

/-- What a move does to the ledger of a run that may be sent to another node than those its edges
lead to. -/
inductive Stride (g : Graph Component) (r : Nat) (l : Ledger) : Ledger → Prop where
  | turn {l' : Ledger} (h : Turn g r l l') : Stride g r l l'
  | jump {node target : String} {rest : Multiset Errand} (errands : l.errands = .going node ::ₘ rest)
      (goesOn : l.halted = false ∧ l.cancelled = false) :
      Stride g r l { l with errands := .dispatched target ::ₘ rest }

theorem Stride.halted {g : Graph Component} {r : Nat} {x y : Ledger} (h : Stride g r x y)
    (hx : x.halted) : y.halted := by
  cases h with
  | turn h => exact h.halted hx
  | jump => exact hx

theorem Stride.cancelled {g : Graph Component} {r : Nat} {x y : Ledger} (h : Stride g r x y)
    (hx : x.cancelled) : y.cancelled := by
  cases h with
  | turn h => exact h.cancelled hx
  | jump => exact hx

abbrev Strides (g : Graph Component) (r : Nat) : Ledger → Ledger → Prop :=
  Relation.ReflTransGen (Stride g r)

theorem Turns.strides {g : Graph Component} {r : Nat} {x y : Ledger} (h : Turns g r x y) :
    Strides g r x y :=
  h.lift id fun _ _ => Stride.turn

/-! ## What operations do to ledgers -/

namespace Stage

variable (S : Stage) {r s : Nat}

theorem ledger_withCrew {g : Graph Component} (hg : (S.runs r).graph = g)
    (crew : Multiset (Nat × Duty)) :
    (S.withCrew crew).ledger r = { S.ledger r with errands := errandsIn g r crew } := by
  subst hg
  rfl

theorem ledger_change {f : Run → Run} (hg : (f (S.runs r)).graph = (S.runs r).graph)
    (hc : (f (S.runs r)).context = (S.runs r).context)
    (hl : (f (S.runs r)).limits = (S.runs r).limits) :
    (S.change r f).ledger r = { S.ledger r with
      nodes := (f (S.runs r)).nodes.get?
      steps := (f (S.runs r)).steps
      halted := (f (S.runs r)).halted
      ended := (f (S.runs r)).ended
      executed := (f (S.runs r)).executed } := by
  simp only [ledger, change, Function.update_self, hg, hc, hl]

theorem ledger_change_same {f : Run → Run} (hf : (f (S.runs r)).frame = (S.runs r).frame)
    (h : ((f (S.runs r)).nodes, (f (S.runs r)).steps, (f (S.runs r)).halted, (f (S.runs r)).ended,
        (f (S.runs r)).executed) =
      ((S.runs r).nodes, (S.runs r).steps, (S.runs r).halted, (S.runs r).ended,
        (S.runs r).executed)) :
    (S.change r f).ledger r = S.ledger r := by
  simp only [Run.frame, Prod.mk.injEq] at hf h
  obtain ⟨hg, hc, -, hl⟩ := hf
  obtain ⟨hn, hs, hh, he, hx⟩ := h
  rw [S.ledger_change hg hc hl, hn, hs, hh, he, hx]
  rfl

theorem ledger_change_of_ne (h : r ≠ s) (f : Run → Run) :
    (S.change r f).ledger s = S.ledger s := by
  simp only [ledger, change, Function.update_of_ne h.symm]

theorem ledger_say {h : Happening} (hn : h.isNode) :
    (S.say r h).ledger r = { S.ledger r with events := h :: (S.ledger r).events } := by
  simp only [ledger, say, List.filter_cons, beq_self_eq_true, hn, Bool.and_self, if_true,
    List.map_cons]

theorem events_say_of_ne (h : Happening) (hn : r ≠ s ∨ h.isNode = false) :
    (S.say r h).events.filter (fun e => e.1 == s && e.2.isNode) =
      S.events.filter fun e => e.1 == s && e.2.isNode := by
  have hb : (r == s && h.isNode) = false := by
    rcases hn with hn | hn
    · rw [beq_false_of_ne hn, Bool.false_and]
    · rw [hn, Bool.and_false]
  simp only [say, List.filter_cons, hb, Bool.false_eq_true, if_false]

theorem ledger_say_of_ne (h : Happening) (hn : r ≠ s ∨ h.isNode = false) :
    (S.say r h).ledger s = S.ledger s := by
  have he := S.events_say_of_ne h hn
  simp only [ledger, he]
  rfl

theorem ledger_record {deeds : List Deed} (h : ∀ d ∈ deeds, d.isIn r) :
    (S.record deeds).ledger r = { S.ledger r with deeds := deeds ++ (S.ledger r).deeds } := by
  simp only [ledger, record, List.filter_append, List.filter_eq_self.2 h]

theorem ledger_record_of_not {deeds : List Deed} (h : ∀ d ∈ deeds, d.isIn s = false) :
    (S.record deeds).ledger s = S.ledger s := by
  have hf : deeds.filter (fun d => d.isIn s) = [] :=
    List.filter_eq_nil_iff.2 fun d hd => Bool.eq_false_iff.1 (h d hd)
  simp only [ledger, record, List.filter_append, hf, List.nil_append]

theorem ledger_setValues (c : Nat) (f : Values → Values) :
    (S.setValues c f).ledger r = S.ledger r := rfl

theorem ledger_cancel (c : Nat) (b : Bool) :
    (S.cancel c b).ledger r = S.ledger r ∨
      (S.cancel c b).ledger r = { S.ledger r with cancelled := true } := by
  by_cases hc : (S.runs r).context = c
  · cases b with
    | true =>
      refine .inr ?_
      simp only [ledger, cancel, hc, Function.update_self, Bool.or_true]
    | false =>
      refine .inl ?_
      simp only [ledger, cancel, Bool.or_false, Function.update_eq_self]
  · refine .inl ?_
    simp only [ledger, cancel, Function.update_of_ne hc]

theorem ledger_cancel_turns (g : Graph Component) (c : Nat) (b : Bool) :
    Turns g r (S.ledger r) ((S.cancel c b).ledger r) := by
  rcases S.ledger_cancel (r := r) c b with h | h
  · rw [h]
  · rw [h]
    exact .single .cancel

theorem ledger_keepFailure (e : PipelineError) :
    (S.keepFailure r e).ledger s = S.ledger s := by
  unfold keepFailure
  split
  · rfl
  by_cases h : r = s
  · subst h
    exact ledger_change _ rfl rfl rfl
  · rw [ledger_change_of_ne _ h, ledger_setValues]

theorem nodes_setStatus (run : Run) (node : String) (x : NodeStatus) :
    (run.setStatus node x).nodes.get? = withStatus run.nodes.get? node x := by
  funext other
  exact run.get?_changeNode node other _

theorem ledger_setStatus (node : String) (x : NodeStatus) :
    (S.change r fun run => run.setStatus node x).ledger r =
      { S.ledger r with nodes := withStatus (S.ledger r).nodes node x } := by
  have h := S.ledger_change (r := r) (f := fun run => run.setStatus node x) (by simp) (by simp)
    (by simp)
  rw [h, nodes_setStatus, Run.setStatus, Run.changeNode_eq]
  rfl

theorem ledger_counted (node : String) (live : Bool) :
    (S.change r fun run => run.counted node live).ledger r =
      { S.ledger r with nodes := withArrival (S.ledger r).nodes node live } := by
  have hn : ((S.runs r).counted node live).nodes.get? =
      withArrival (S.runs r).nodes.get? node live := by
    funext other
    exact (S.runs r).get?_changeNode node other _
  have hf := Run.frame_counted (S.runs r) node live
  have h := S.ledger_change (r := r) (f := fun run => run.counted node live)
    (congrArg Prod.fst hf) (congrArg (fun p => p.2.1) hf) (congrArg (fun p => p.2.2.2) hf)
  rw [h, hn, Run.counted, Run.changeNode_eq]
  rfl

theorem ledger_completed (node : String) :
    (S.change r fun run => run.completed node).ledger r = { S.ledger r with
      nodes := withStatus (S.ledger r).nodes node .done
      executed := (S.ledger r).executed ++ [node] } := by
  have h := S.ledger_change (r := r) (f := fun run => run.completed node)
    (Run.graph_setStatus ..) (Run.context_setStatus ..) (Run.limits_setStatus ..)
  rw [h, show ((S.runs r).completed node).nodes = ((S.runs r).setStatus node .done).nodes from rfl,
    nodes_setStatus, Run.completed, Run.setStatus, Run.changeNode_eq]
  rfl

theorem ledger_released :
    (S.change r Run.released).ledger r = S.ledger r := by
  refine S.ledger_change_same (Run.frame_released _) ?_
  exact Run.apply_released (f := fun run => (run.nodes, run.steps, run.halted, run.ended, run.executed))
    (fun _ _ _ _ => rfl) _

theorem ledger_begin (graph : Graph Component) (context supervisor : Nat) (limits : Limits)
    (h : r ≠ S.nextRun) : (S.begin graph context supervisor limits).ledger r = S.ledger r := by
  have hb : (S.nextRun == r && (Happening.runStarted graph.pipeline).isNode) = false :=
    Bool.and_false _
  simp only [ledger, begin, Function.update_of_ne h, List.filter_cons, hb, Bool.false_eq_true,
    if_false]

theorem ledger_halt :
    (S.change r fun run => { run with halted := true }).ledger r =
      { S.ledger r with halted := true } :=
  ledger_change _ rfl rfl rfl

theorem ledger_fail (node : String) (e : PipelineError) :
    (S.fail r node e).ledger r = { S.ledger r with
      nodes := withStatus (S.ledger r).nodes node .failed
      halted := true
      events := .nodeFailed node e.message :: (S.ledger r).events
      deeds := .failed r node e :: (S.ledger r).deeds } := by
  unfold fail
  dsimp only
  rw [ledger_record _ (by simp [Deed.isIn]), ledger_halt, ledger_keepFailure, ledger_say _ rfl,
    ledger_setStatus]
  rfl

theorem ledger_fail_of_ne (h : r ≠ s) (node : String) (e : PipelineError) :
    (S.fail r node e).ledger s = S.ledger s := by
  unfold fail
  rw [ledger_record_of_not _ (by simp [Deed.isIn, h]), ledger_change_of_ne _ h, ledger_keepFailure,
    ledger_say_of_ne _ _ (.inl h), ledger_change_of_ne _ h]

theorem ledger_conclude (b : Bool) (hb : b = true → S.cancelled (S.runs r).context = true)
    (g : Graph Component) : Turns g r (S.ledger r) ((S.conclude r b).ledger r) := by
  have hs : ((S.change r fun run => { run with failure := none }).say r (.runCompleted
      ((S.runs r).failure.isNone && !(b || S.cancelled (S.runs r).context))
        (S.runs r).ended)).ledger r = S.ledger r := by
    rw [ledger_say_of_ne _ _ (.inr rfl)]
    exact ledger_change _ rfl rfl rfl
  unfold conclude
  dsimp only
  rw [ledger_record_of_not _ (by simp [Deed.isIn])]
  split
  · next h =>
    rw [ledger_setValues, ledger_halt, hs]
    refine .single (.stop ?_)
    rcases Bool.or_eq_true_iff.1 (Bool.and_eq_true_iff.1 h).2 with hc | hc
    · exact hb hc
    · exact hc
  · rw [hs]

theorem ledger_conclude_of_ne (h : r ≠ s) (b : Bool) :
    (S.conclude r b).ledger s = S.ledger s := by
  unfold conclude
  dsimp only
  rw [ledger_record_of_not _ (by simp [Deed.isIn])]
  split
  · rw [ledger_setValues, ledger_change_of_ne _ h, ledger_say_of_ne _ _ (.inl h),
      ledger_change_of_ne _ h]
  · rw [ledger_say_of_ne _ _ (.inl h), ledger_change_of_ne _ h]

end Stage

end Conduit
