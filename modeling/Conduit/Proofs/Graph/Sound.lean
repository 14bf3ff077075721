import Conduit.Graph.Compiler
import Conduit.Proofs.Entries
import Conduit.Proofs.Except
import Conduit.Proofs.Graph.Layout
import Conduit.Run.State

/-!
# Sound graphs

A compiled graph is sound, whatever is found when pipelines are looked up: its nodes and edges fit
together, no edges go round in a circle, and the pipelines in it are sound as well.
-/

namespace Conduit

/-! ## Outcomes of compiling -/

/-- The work can end with the outcome, for some pipelines that are looked up. -/
inductive Suspended.Yields {α : Type} : Suspended α → α → Prop where
  | done (a : α) : Yields (.done a) a
  | pause {next : Suspended α} {a : α} (h : Yields next a) : Yields (.pause next) a
  | lookup {id : String} {next : Except PipelineError (Option Definition) → Suspended α} {a : α}
      (found : Except PipelineError (Option Definition)) (h : Yields (next found) a) :
      Yields (.lookup id next) a

theorem Suspended.yields_bind {α β : Type} {x : Suspended α} {f : α → Suspended β} {b : β}
    (h : (x.bind f).Yields b) : ∃ a, x.Yields a ∧ (f a).Yields b := by
  induction x with
  | done a => exact ⟨a, .done a, h⟩
  | pause next ih =>
    cases h with
    | pause h =>
      obtain ⟨a, ha, hb⟩ := ih h
      exact ⟨a, .pause ha, hb⟩
  | lookup id next ih =>
    cases h with
    | lookup found h =>
      obtain ⟨a, ha, hb⟩ := ih found h
      exact ⟨a, .lookup found ha, hb⟩

instance : LawfulMonad Suspended := LawfulMonad.mk' _
  (fun x => by
    change x.bind _ = x
    induction x with
    | done a => rfl
    | pause next ih => exact congrArg Suspended.pause ih
    | lookup id next ih => exact congrArg (Suspended.lookup id) (funext ih))
  (fun _ _ => rfl)
  (fun x f g => by
    change (x.bind f).bind g = x.bind fun a => (f a).bind g
    induction x with
    | done a => rfl
    | pause next ih => exact congrArg Suspended.pause ih
    | lookup id next ih => exact congrArg (Suspended.lookup id) (funext ih))

namespace Compiling

/-- A step can succeed with the outcome when so many components were created, and so many are then. -/
def Gives {α : Type} (x : Compiling α) (n : Nat) (a : α) (m : Nat) : Prop :=
  (x.run.run n).Yields (.ok a, m)

variable {α β : Type} {n m : Nat}

theorem gives_pure {a b : α} (h : Gives (pure a) n b m) : a = b := by
  cases h
  rfl

theorem gives_bind {x : Compiling α} {f : α → Compiling β} {b : β}
    (h : Gives (x >>= f) n b m) : ∃ a k, Gives x n a k ∧ Gives (f a) k b m := by
  obtain ⟨⟨outcome, k⟩, hx, hf⟩ := Suspended.yields_bind h
  cases outcome with
  | error e => cases hf
  | ok a => exact ⟨a, k, hx, hf⟩

theorem gives_check {outcome : Except GraphError α} {a : α} (h : Gives (check outcome) n a m) :
    outcome = .ok a := by
  cases outcome with
  | error e => cases h
  | ok b =>
    cases h
    rfl

theorem gives_make {ε : Type} {making : Making ε α} {outcome : Except ε α}
    (h : Gives (make making) n outcome m) : making.run n = (outcome, m) := by
  unfold Gives make at h
  cases hr : making.run n with
  | mk o k =>
    simp only [ExceptT.run_mk, StateT.run, hr] at h
    cases h with
    | pause h =>
      cases h
      rfl

theorem gives_mapM {f : α → Compiling β} {xs : List α} {ys : List β}
    (h : Gives (xs.mapM f) n ys m) : List.Forall₂ (fun x y => ∃ n m, Gives (f x) n y m) xs ys := by
  induction xs generalizing n m ys with
  | nil =>
    rw [List.mapM_nil] at h
    cases gives_pure h
    exact .nil
  | cons x xs ih =>
    rw [List.mapM_cons] at h
    obtain ⟨y, k, hy, h⟩ := gives_bind h
    obtain ⟨rest, j, hr, h⟩ := gives_bind h
    cases gives_pure h
    exact .cons ⟨n, k, hy⟩ (ih hr)

end Compiling

theorem Making.run_bind_of_ok {ε α β : Type} {x : Making ε α} {f : α → Making ε β} {a : α}
    {i k : Nat} (h : x.run i = (.ok a, k)) : (x >>= f).run i = (f a).run k :=
  congrArg (fun made : Except ε α × Nat => ExceptT.bindCont f made.1 made.2) h

theorem Making.run_bind_of_error {ε α β : Type} {x : Making ε α} {f : α → Making ε β} {e : ε}
    {i k : Nat} (h : x.run i = (.error e, k)) : (x >>= f).run i = (.error e, k) :=
  congrArg (fun made : Except ε α × Nat => ExceptT.bindCont f made.1 made.2) h

theorem Making.run_bind {ε α β : Type} {x : Making ε α} {f : α → Making ε β} {b : β} {i j : Nat}
    (h : (x >>= f).run i = (.ok b, j)) :
    ∃ a k, x.run i = (.ok a, k) ∧ (f a).run k = (.ok b, j) := by
  cases hx : x.run i with
  | mk outcome k =>
    cases outcome with
    | error e => cases (run_bind_of_error hx).symm.trans h
    | ok a => exact ⟨a, k, rfl, (run_bind_of_ok hx).symm.trans h⟩

/-- The graph is what some definition can be compiled to, with prototypes that were made by
factories. -/
def Compiled (g : Graph Component) : Prop :=
  ∃ (c : Compiler) (definition : Definition) (n m : Nat),
    (∀ p ∈ c.prototypes, ∃ i j,
      (Prototype.make p.2.name p.2.factory p.2.parameters).run i = (.ok p.2, j)) ∧
    (c.compile definition).Gives n g m

/-! ## Soundness -/

namespace Graph

/-- There is an edge from one node to the other. -/
def Leads (g : Graph Component) (source target : String) : Prop :=
  ∃ n, g.node? source = some n ∧ ∃ e ∈ n.edges, e.target = target

/-- The nodes and the edges of a graph fit together. -/
structure IsWellFormed (g : Graph Component) : Prop where
  ids : (g.nodes.map GraphNode.id).Nodup
  root : ∃ n, g.node? g.root = some n
  target : ∀ {u v}, g.Leads u v → ∃ n, g.node? v = some n
  targets : ∀ {u n}, g.node? u = some n → (n.edges.map Edge.target).Nodup
  predecessors : ∀ {v n}, g.node? v = some n → n.predecessors.Nodup
  mem_predecessors : ∀ {u v n}, g.node? v = some n → (u ∈ n.predecessors ↔ g.Leads u v)
  acyclic : ∃ rank : String → Nat, ∀ {u v}, g.Leads u v → rank u < rank v

/-- The graph and all pipelines in it are well-formed. -/
inductive IsSound : Graph Component → Prop where
  | intro {g : Graph Component} (wellFormed : g.IsWellFormed)
      (nested : ∀ n ∈ g.nodes, ∀ inner origin, n.slot = .ready (.pipeline inner) origin →
        IsSound inner) : IsSound g

variable {g : Graph Component}

theorem IsSound.isWellFormed (h : g.IsSound) : g.IsWellFormed := by
  cases h with
  | intro h _ => exact h

theorem mem_of_node? {id : String} {n : GraphNode Component} (h : g.node? id = some n) :
    n ∈ g.nodes ∧ n.id = id :=
  ⟨List.mem_of_find?_eq_some h, eq_of_beq (List.find?_some (p := fun n => GraphNode.id n == id) h)⟩

theorem node?_of_mem (hids : (g.nodes.map GraphNode.id).Nodup) {n : GraphNode Component}
    (h : n ∈ g.nodes) : g.node? n.id = some n := by
  cases hf : g.node? n.id with
  | none =>
    have hne := List.find?_eq_none.1 hf n h
    rw [beq_self_eq_true] at hne
    exact absurd rfl hne
  | some m =>
    obtain ⟨hm, hid⟩ := mem_of_node? hf
    exact congrArg some (List.inj_on_of_nodup_map hids hm h hid)

theorem IsWellFormed.edge_eq (hg : g.IsWellFormed) {source : String} {n : GraphNode Component}
    (hn : g.node? source = some n) {edge other : Edge} (he : edge ∈ n.edges) (ho : other ∈ n.edges)
    (ht : edge.target = other.target) : edge = other :=
  List.inj_on_of_nodup_map (hg.targets hn) he ho ht

theorem get?_foldl_insert {α β : Type} {key : α → String} (value : α → β) {xs : List α}
    (h : (xs.map key).Nodup) (acc : Entries β) (id : String) :
    Entries.get? ((xs.map fun x => (key x, value x)).foldl
        (fun entries p => Entries.insert p.1 p.2 entries) acc) id =
      ((xs.find? fun x => key x == id).map value).or (Entries.get? acc id) := by
  induction xs generalizing acc with
  | nil => rfl
  | cons x xs ih =>
    rw [List.map_cons, List.nodup_cons] at h
    rw [List.map_cons, List.foldl_cons, ih h.2, List.find?_cons, Entries.get?_insert]
    by_cases hx : key x = id
    · have hnone : xs.find? (fun x => key x == id) = none := by
        refine List.find?_eq_none.2 fun y hy hb => h.1 ?_
        rw [hx, ← eq_of_beq hb]
        exact List.mem_map_of_mem hy
      rw [hnone, if_pos hx, hx, beq_self_eq_true]
      rfl
    · rw [if_neg hx, beq_false_of_ne hx]

theorem get?_initialNodes (hids : (g.nodes.map GraphNode.id).Nodup) (id : String) :
    (Run.initialNodes g).get? id =
      (g.node? id).map fun n => ⟨Gate.new n.predecessors.length, .pending⟩ :=
  (get?_foldl_insert (fun n : GraphNode Component =>
    NodeState.mk (Gate.new n.predecessors.length) .pending) hids [] id).trans Option.or_none

theorem isSound_of_layout {l : Layout} (hl : l.IsSound (g.nodes.map GraphNode.id))
    (root : g.root = l.root)
    (nodes : ∀ n ∈ g.nodes, n.predecessors = l.incoming n.id ∧
      n.edges.map Edge.target = l.outgoing n.id)
    (nested : ∀ n ∈ g.nodes, ∀ inner origin, n.slot = .ready (.pipeline inner) origin →
      IsSound inner) : IsSound g := by
  have hsome : ∀ {id : String}, id ∈ g.nodes.map GraphNode.id → ∃ n, g.node? id = some n := by
    intro id hid
    obtain ⟨n, hn, rfl⟩ := List.mem_map.1 hid
    exact ⟨n, node?_of_mem hl.distinct hn⟩
  have hleads : ∀ {u v : String}, g.Leads u v ↔ (u, v) ∈ l.edges := by
    intro u v
    rw [← Layout.mem_outgoing]
    constructor
    · rintro ⟨n, hn, e, he, rfl⟩
      obtain ⟨hm, rfl⟩ := mem_of_node? hn
      rw [← (nodes n hm).2]
      exact List.mem_map_of_mem he
    · intro hv
      obtain ⟨n, hn⟩ := hsome (hl.ends _ (Layout.mem_outgoing.1 hv)).1
      obtain ⟨hm, rfl⟩ := mem_of_node? hn
      rw [← (nodes n hm).2] at hv
      obtain ⟨e, he, hev⟩ := List.mem_map.1 hv
      exact ⟨n, hn, e, he, hev⟩
  refine .intro ?_ nested
  exact
    { ids := hl.distinct
      root := hsome (root ▸ hl.root)
      target := fun h => hsome (hl.ends _ (hleads.1 h)).2
      targets := fun h => by
        rw [(nodes _ (mem_of_node? h).1).2]
        exact hl.nodup_outgoing _
      predecessors := fun h => by
        rw [(nodes _ (mem_of_node? h).1).1]
        exact hl.nodup_incoming _
      mem_predecessors := fun h => by
        rw [(nodes _ (mem_of_node? h).1).1, (mem_of_node? h).2, Layout.mem_incoming, hleads]
      acyclic := hl.rank.imp fun rank hr _ _ h => hr _ (hleads.1 h) }

end Graph

/-! ## Compiled graphs are sound -/

theorem Layout.map_edgesOf {l : Layout} {spec : NodeSpec} {edges : List Edge}
    (h : l.edgesOf spec = .ok edges) : edges.map Edge.target = l.outgoing spec.id := by
  unfold edgesOf at h
  have hall := Except.mapM_eq_ok_iff.1 h
  clear h
  generalize l.outgoing spec.id = targets at hall
  induction hall with
  | nil => rfl
  | @cons target edge targets edges he _ ih =>
    cases hc : readCondition spec target with
    | error e =>
      rw [hc] at he
      cases he
    | ok condition =>
      rw [hc] at he
      cases he
      exact congrArg (target :: ·) ih

theorem Prototype.basic_of_prepare {draft : Draft} {config : Config} {component : Component}
    (h : prepare draft config = .ok component) : ∃ kind activity, component = .basic kind activity := by
  unfold prepare at h
  cases hp : draft.prepare config with
  | error e =>
    rw [hp] at h
    cases h
  | ok activity =>
    rw [hp] at h
    cases h
    exact ⟨draft.kind, activity, rfl⟩

theorem Prototype.shared_of_make {name : String} {factory : Factory} {parameters : Json}
    {p : Prototype} {i j : Nat} (h : (make name factory parameters).run i = (.ok p, j)) :
    ∃ kind activity, p.shared = .basic kind activity := by
  unfold make at h
  obtain ⟨draft, k, -, h⟩ := Making.run_bind h
  obtain ⟨component, k, hc, h⟩ := Making.run_bind h
  cases h
  exact basic_of_prepare (congrArg Prod.fst hc)

theorem Prototype.basic_of_instantiate {p : Prototype} {node : String} {overrides : Json}
    {component : Component} {i j : Nat}
    (h : (p.instantiate node overrides).run i = (.ok component, j)) :
    ∃ kind activity, component = .basic kind activity := by
  unfold instantiate at h
  obtain ⟨draft, k, -, h⟩ := Making.run_bind h
  exact basic_of_prepare (congrArg Prod.fst h)

namespace Compiler

variable {c : Compiler} {n m : Nat} {inner : Graph Component} {origin : Origin}

theorem not_pipeline_of_fromPrototype {spec : NodeSpec} {p : Prototype}
    (hp : ∃ kind activity, p.shared = .basic kind activity)
    (h : (fromPrototype spec p).Gives n (.ready (.pipeline inner) origin) m) : False := by
  unfold fromPrototype at h
  split at h
  · obtain ⟨kind, activity, hs⟩ := hp
    rw [hs] at h
    cases Compiling.gives_pure h
  · split at h
    · cases Compiling.gives_pure h
    · obtain ⟨outcome, k, hm, h⟩ := Compiling.gives_bind h
      cases outcome with
      | error e => cases Compiling.gives_pure h
      | ok component =>
        have hrun := Compiling.gives_make hm
        obtain ⟨kind, activity, rfl⟩ := Prototype.basic_of_instantiate hrun
        cases Compiling.gives_pure h

theorem pipeline_of_lookup {spec : NodeSpec} {slot : Slot Component} {stack : List String}
    {nested : Option (Definition → List String → Compiling (Graph Component))}
    (hp : c.prototypes.get? spec.componentId = none)
    (h : (c.resolve stack nested spec).Gives n slot m) :
    ∃ compile ∈ nested, ∃ d stack i g j,
      (compile d stack).Gives i g j ∧ slot = .ready (.pipeline g) .own := by
  unfold resolve at h
  rw [hp] at h
  dsimp only at h
  unfold fromPipeline at h
  split at h
  · cases Compiling.gives_check h
  split at h
  · cases Compiling.gives_check h
  split at h
  · cases Compiling.gives_check h
  · next compile =>
    obtain ⟨found, k, -, h⟩ := Compiling.gives_bind h
    cases found with
    | none => cases Compiling.gives_check h
    | some d =>
      obtain ⟨g, k, hg, h⟩ := Compiling.gives_bind h
      exact ⟨compile, rfl, _, _, _, _, _, hg, (Compiling.gives_pure h).symm⟩

theorem ready_of_resolve {stack : List String}
    {nested : Option (Definition → List String → Compiling (Graph Component))} {spec : NodeSpec}
    {component : Component} (h : (c.resolve stack nested spec).Gives n (.ready component origin) m) :
    (∃ q ∈ c.prototypes, (fromPrototype spec q.2).Gives n (.ready component origin) m) ∨
      ∃ compile ∈ nested, ∃ d stack i g j, (compile d stack).Gives i g j ∧ component = .pipeline g := by
  cases hp : c.prototypes.get? spec.componentId with
  | some p =>
    unfold resolve at h
    rw [hp] at h
    exact .inl ⟨_, Entries.mem_of_get? hp, h⟩
  | none =>
    obtain ⟨compile, hc, d, stack, i, g, j, hg, hs⟩ := pipeline_of_lookup hp h
    cases hs
    exact .inr ⟨compile, hc, d, stack, i, g, j, hg, rfl⟩

theorem sound_of_resolve (made : ∀ p ∈ c.prototypes, ∃ kind activity,
      p.2.shared = .basic kind activity) {stack : List String}
    {nested : Option (Definition → List String → Compiling (Graph Component))}
    (sound : ∀ compile ∈ nested, ∀ d stack i g j, (compile d stack).Gives i g j →
      Graph.IsSound g) {spec : NodeSpec}
    (h : (c.resolve stack nested spec).Gives n (.ready (.pipeline inner) origin) m) :
    Graph.IsSound inner := by
  rcases ready_of_resolve h with ⟨q, hq, h⟩ | ⟨compile, hc, d, stack, i, g, j, hg, he⟩
  · exact (not_pipeline_of_fromPrototype (made q hq) h).elim
  · cases he
    exact sound compile hc _ _ _ _ _ hg

theorem forall₂_of_zip {α β γ : Type} {R : α → β → Prop} {Q : α × β → γ → Prop} {xs : List α}
    {ys : List β} {zs : List γ} (h : List.Forall₂ R xs ys) (hz : List.Forall₂ Q (xs.zip ys) zs) :
    List.Forall₂ (fun x z => ∃ y, R x y ∧ Q (x, y) z) xs zs := by
  induction h generalizing zs with
  | nil =>
    cases hz
    exact .nil
  | cons hr _ ih =>
    cases hz with
    | cons hq hz => exact .cons ⟨_, hr, hq⟩ (ih hz)

/-- What compiles the pipelines that a definition refers to, with so many levels left. -/
def nested (c : Compiler) : Nat → Option (Definition → List String → Compiling (Graph Component))
  | 0 => none
  | n + 1 => some (c.compileWith n)

def assemble (c : Compiler) (stack : List String)
    (nested : Option (Definition → List String → Compiling (Graph Component))) (d : Definition) :
    Compiling (Graph Component) := do
  let layout ← Compiling.check (Layout.ofDefinition d)
  let edges ← Compiling.check (d.nodes.mapM layout.edgesOf)
  let nodes ← (d.nodes.zip edges).mapM fun (spec, leaving) => do
    let slot ← c.resolve stack nested spec
    return ⟨spec.id, spec.componentId, slot, layout.incoming spec.id, leaving⟩
  return ⟨d.id, layout.root, nodes⟩

theorem compileWith_eq (c : Compiler) (levels : Nat) (d : Definition) (stack : List String) :
    c.compileWith levels d stack = c.assemble stack (c.nested levels) d := by
  cases levels <;> rfl

/-- The node is what the definition says of it. -/
def Realizes (c : Compiler) (stack : List String)
    (nested : Option (Definition → List String → Compiling (Graph Component))) (l : Layout)
    (spec : NodeSpec) (node : GraphNode Component) : Prop :=
  node.id = spec.id ∧ node.componentId = spec.componentId ∧
    node.predecessors = l.incoming spec.id ∧ l.edgesOf spec = .ok node.edges ∧
    ∃ i j, (c.resolve stack nested spec).Gives i node.slot j

theorem exists_layout {stack : List String}
    {inner : Option (Definition → List String → Compiling (Graph Component))} {d : Definition}
    {g : Graph Component} (h : (c.assemble stack inner d).Gives n g m) :
    ∃ l, Layout.ofDefinition d = .ok l ∧ g.pipeline = d.id ∧ g.root = l.root ∧
      List.Forall₂ (c.Realizes stack inner l) d.nodes g.nodes := by
  obtain ⟨l, k, hl, h⟩ := Compiling.gives_bind h
  obtain ⟨edges, k, he, h⟩ := Compiling.gives_bind h
  obtain ⟨nodes, k, hn, h⟩ := Compiling.gives_bind h
  cases Compiling.gives_pure h
  have hall := forall₂_of_zip (Except.mapM_eq_ok_iff.1 (Compiling.gives_check he))
    (Compiling.gives_mapM hn)
  refine ⟨l, Compiling.gives_check hl, rfl, rfl, hall.imp fun spec node hnode => ?_⟩
  obtain ⟨leaving, hleave, i, j, hg⟩ := hnode
  obtain ⟨slot, k, hr, hg⟩ := Compiling.gives_bind hg
  cases Compiling.gives_pure hg
  exact ⟨rfl, rfl, rfl, hleave, i, k, hr⟩

section

variable {l : Layout} {stack : List String}
  {inner : Option (Definition → List String → Compiling (Graph Component))}
  {specs : List NodeSpec} {nodes : List (GraphNode Component)}

theorem map_id_of_realizes (h : List.Forall₂ (c.Realizes stack inner l) specs nodes) :
    nodes.map GraphNode.id = specs.map NodeSpec.id := by
  refine (List.forall₂_eq_eq_eq ▸ List.forall₂_map_left_iff.2 (List.forall₂_map_right_iff.2 ?_))
  exact h.flip.imp fun node spec hf => hf.1

theorem exists_spec (h : List.Forall₂ (c.Realizes stack inner l) specs nodes) :
    ∀ node ∈ nodes, ∃ spec ∈ specs, c.Realizes stack inner l spec node := by
  induction h with
  | nil => exact fun _ hm => absurd hm List.not_mem_nil
  | cons hf _ ih =>
    intro node hm
    rcases List.mem_cons.1 hm with rfl | hm
    · exact ⟨_, List.mem_cons_self, hf⟩
    · obtain ⟨spec, hs, hf⟩ := ih node hm
      exact ⟨spec, List.mem_cons_of_mem _ hs, hf⟩

end

theorem sound_of_assemble (made : ∀ p ∈ c.prototypes, ∃ kind activity,
      p.2.shared = .basic kind activity) {stack : List String}
    {inner : Option (Definition → List String → Compiling (Graph Component))}
    (sound : ∀ compile ∈ inner, ∀ d stack i g j, (compile d stack).Gives i g j →
      Graph.IsSound g) {d : Definition} {g : Graph Component}
    (h : (c.assemble stack inner d).Gives n g m) : g.IsSound := by
  obtain ⟨l, hl, -, hroot, hall⟩ := exists_layout h
  refine Graph.isSound_of_layout (l := l) (map_id_of_realizes hall ▸ Layout.isSound_ofDefinition hl)
    hroot (fun node hm => ?_) fun node hm inner origin hs => ?_
  · obtain ⟨spec, -, hid, -, hpred, hedges, -⟩ := exists_spec hall node hm
    rw [hid]
    exact ⟨hpred, Layout.map_edgesOf hedges⟩
  · obtain ⟨spec, -, -, -, -, -, i, j, hr⟩ := exists_spec hall node hm
    exact sound_of_resolve made sound (hs ▸ hr)

theorem sound_of_compileWith (made : ∀ p ∈ c.prototypes, ∃ kind activity,
      p.2.shared = .basic kind activity) (levels : Nat) :
    ∀ {d : Definition} {stack : List String} {n m : Nat} {g : Graph Component},
      (c.compileWith levels d stack).Gives n g m → g.IsSound := by
  induction levels with
  | zero =>
    intro d stack n m g h
    exact sound_of_assemble made (fun _ hc => by cases hc) (compileWith_eq .. ▸ h)
  | succ levels ih =>
    intro d stack n m g h
    refine sound_of_assemble made (fun _ hc _ _ _ _ _ hg => ?_) (compileWith_eq .. ▸ h)
    cases hc
    exact ih hg

end Compiler

/-- The graph is compiled from a definition that does not name its entry node. -/
def Graph.IsInferred (g : Graph Component) : Prop :=
  ∃ (c : Compiler) (definition : Definition) (n m : Nat),
    definition.root = none ∧ (c.compile definition).Gives n g m

/-- In a graph whose entry node was not named, all other nodes are entered. -/
theorem Graph.IsInferred.eq_root {g : Graph Component} (h : g.IsInferred) {n : GraphNode Component}
    (hn : n ∈ g.nodes) (hp : n.predecessors = []) : n.id = g.root := by
  obtain ⟨c, d, i, j, unnamed, h⟩ := h
  unfold Compiler.compile at h
  rw [Compiler.compileWith_eq] at h
  obtain ⟨l, hl, -, hroot, hall⟩ := Compiler.exists_layout h
  obtain ⟨spec, hspec, hid, -, hpred, -⟩ := Compiler.exists_spec hall n hn
  rw [hroot, hid]
  refine Layout.eq_root_of_not_entered hl unnamed (List.mem_map_of_mem hspec) fun source he => ?_
  have hm := Layout.mem_incoming.2 he
  rw [← hpred, hp] at hm
  cases hm

/-- Every compiled graph is sound. -/
theorem Compiled.isSound {g : Graph Component} (h : Compiled g) : g.IsSound := by
  obtain ⟨c, d, n, m, made, h⟩ := h
  refine Compiler.sound_of_compileWith (fun p hp => ?_) _ h
  obtain ⟨i, j, hp⟩ := made p hp
  exact Prototype.shared_of_make hp

/-! ## Graphs of given activities -/

namespace Workshop

def factory (name : String) (activity : Activity) : Factory :=
  ⟨name, fun _ => .ok (.plain name activity), .null, "", "", false⟩

def compiler (activities : List (String × Activity)) : Compiler :=
  ⟨activities.map fun a => (a.1, ⟨a.1, factory a.1 a.2, .null, .basic a.1 a.2⟩), false, 1⟩

def spec (id activity : String) (successors : List String) : NodeSpec :=
  { NodeSpec.new id with base := some activity, successors := successors }

def node (id name : String) (activity : Activity) (predecessors successors : List String) :
    GraphNode Component :=
  ⟨id, name, .ready (.basic name activity) (.shared name), predecessors,
    successors.map fun v => ⟨v, none⟩⟩

theorem compiled (activities : List (String × Activity)) (d : Definition) {g : Graph Component}
    (h : ((compiler activities).compile d).Gives 0 g 0) : Compiled g := by
  refine ⟨_, d, 0, 0, fun p hp => ?_, h⟩
  obtain ⟨a, -, rfl⟩ := List.mem_map.1 hp
  exact ⟨0, 0, rfl⟩

end Workshop

end Conduit
