import Conduit.Proofs.Graph.Outcomes

/-!
# One set of prototypes

All components of a compiled graph, those of the pipelines in it included, come from the prototypes
that the compiler was given, whatever is found when pipelines are looked up.
-/

namespace Conduit

/-- What a node gets from its prototype: the shared component, or one of its own if it has
parameters. -/
def Prototype.slot (p : Prototype) (spec : NodeSpec) : Slot Component :=
  if spec.parameter.isEmptyParameter then .ready p.shared (.shared spec.componentId)
  else
    match readParameter spec.parameter with
    | .error reason => .unusable reason
    | .ok overrides =>
      match ((p.instantiate spec.id overrides).run 0).1 with
      | .ok component => .ready component .own
      | .error e => .unusable e.message

/-- The node is the one that the definition asks for, with a component of the prototypes or, if
there is none of the name, with a pipeline. -/
structure Fills (prototypes : Prototypes) (spec : NodeSpec) (node : GraphNode Component) :
    Prop where
  id : node.id = spec.id
  componentId : node.componentId = spec.componentId
  prototype : ∀ p, prototypes.get? spec.componentId = some p → node.slot = p.slot spec
  pipeline : prototypes.get? spec.componentId = none →
    ∃ inner, node.slot = .ready (.pipeline inner) .own

/-- The nodes of the graph are those of the definition, with components of the prototypes, and so
are those of the pipelines in it. -/
inductive Resolved (prototypes : Prototypes) : Definition → Graph Component → Prop where
  | intro {d : Definition} {g : Graph Component} (found : GraphNode Component → Definition)
      (nodes : List.Forall₂ (Fills prototypes) d.nodes g.nodes)
      (nested : ∀ node ∈ g.nodes, prototypes.get? node.componentId = none →
        ∀ inner, node.slot = .ready (.pipeline inner) .own →
          Resolved prototypes (found node) inner) : Resolved prototypes d g

namespace Compiler

variable {c : Compiler} {n m : Nat} {spec : NodeSpec} {slot : Slot Component}

theorem slot_of_fromPrototype {p : Prototype} (h : (fromPrototype spec p).Gives n slot m) :
    slot = p.slot spec := by
  unfold fromPrototype at h
  unfold Prototype.slot
  split at h
  · next he =>
    rw [if_pos he]
    exact (Compiling.gives_pure h).symm
  · next he =>
    rw [if_neg he]
    generalize readParameter spec.parameter = read at h ⊢
    cases read with
    | error reason => exact (Compiling.gives_pure h).symm
    | ok overrides =>
      obtain ⟨outcome, k, hm, h⟩ := Compiling.gives_bind h
      have hrun := congrArg Prod.fst (Compiling.gives_make hm)
      dsimp only
      rw [p.steady_instantiate spec.id overrides 0 n, hrun]
      cases outcome <;> exact (Compiling.gives_pure h).symm

theorem fills_of_realizes {stack : List String}
    {inner : Option (Definition → List String → Compiling (Graph Component))} {l : Layout}
    {node : GraphNode Component} (h : c.Realizes stack inner l spec node) :
    Fills c.prototypes spec node := by
  obtain ⟨hid, hcid, -, -, i, j, hr⟩ := h
  refine ⟨hid, hcid, fun p hp => ?_, fun hp => ?_⟩
  · unfold resolve at hr
    rw [hp] at hr
    exact slot_of_fromPrototype hr
  · obtain ⟨compile, -, d, stack, i, g, j, -, hs⟩ := pipeline_of_lookup hp hr
    exact ⟨g, hs⟩

theorem resolved_of_assemble {stack : List String}
    {inner : Option (Definition → List String → Compiling (Graph Component))}
    (resolved : ∀ compile ∈ inner, ∀ d stack i g j, (compile d stack).Gives i g j →
      Resolved c.prototypes d g) {d : Definition} {g : Graph Component}
    (h : (c.assemble stack inner d).Gives n g m) : Resolved c.prototypes d g := by
  obtain ⟨l, -, -, -, hall⟩ := exists_layout h
  have hfound : ∀ node, ∃ e, node ∈ g.nodes → c.prototypes.get? node.componentId = none →
      ∀ inner, node.slot = .ready (.pipeline inner) .own → Resolved c.prototypes e inner := by
    intro node
    by_cases hm : node ∈ g.nodes ∧ c.prototypes.get? node.componentId = none
    · obtain ⟨spec, -, -, hcid, -, -, i, j, hr⟩ := exists_spec hall node hm.1
      obtain ⟨compile, hc, e, stack, i, inner, j, hg, hs⟩ := pipeline_of_lookup (hcid ▸ hm.2) hr
      refine ⟨e, fun _ _ inner' hs' => ?_⟩
      cases hs.symm.trans hs'
      exact resolved compile hc _ _ _ _ _ hg
    · exact ⟨d, fun hn hp => absurd ⟨hn, hp⟩ hm⟩
  -- The definitions that pipelines were compiled from are picked node by node.
  choose found hfound using hfound
  exact .intro found (hall.imp fun spec node => fills_of_realizes) fun node hn hp inner hs =>
    hfound node hn hp inner hs

theorem resolved_of_compileWith (levels : Nat) {d : Definition} {stack : List String}
    {g : Graph Component} (h : (c.compileWith levels d stack).Gives n g m) :
    Resolved c.prototypes d g := by
  induction levels generalizing d stack n m g with
  | zero => exact resolved_of_assemble (fun _ hc => by cases hc) (compileWith_eq .. ▸ h)
  | succ levels ih =>
    refine resolved_of_assemble (fun _ hc _ _ _ _ _ hg => ?_) (compileWith_eq .. ▸ h)
    cases hc
    exact ih hg

end Compiler

end Conduit
