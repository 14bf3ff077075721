import Conduit.Proofs.Graph.Outcomes
import Mathlib

/-!
# Accepted definitions

A definition is accepted when it has a layout and all its conditions can be read. The main statement
says that these are exactly the well-formed definitions, and that a graph that is compiled from one has
the declared edges, each once at either end, and no others.
-/

namespace Conduit

/-! ## Well-formed definitions -/

/-- There is to be an edge from one node to the other: either of them lists the other, or the first
one has a condition for it. -/
def Definition.Declares (d : Definition) (source target : String) : Prop :=
  ∃ n ∈ d.nodes, (n.id = source ∧ target ∈ n.successors) ∨
    (n.id = target ∧ source ∈ n.predecessors) ∨
    (n.id = source ∧ (Entries.get? n.conditions target).isSome)

/-- The node mentions the id as one end of an edge. -/
def NodeSpec.Mentions (n : NodeSpec) (id : String) : Prop :=
  id ∈ n.successors ∨ id ∈ n.predecessors ∨ (Entries.get? n.conditions id).isSome

/-- It is clear where to enter: at the node that is named, or at the only one that no edge enters. -/
def Definition.HasEntry (d : Definition) : Prop :=
  match d.root with
  | some root => root ∈ d.nodes.map NodeSpec.id
  | none => ∃! id, id ∈ d.nodes.map NodeSpec.id ∧ ∀ source, ¬d.Declares source id

structure Definition.IsWellFormed (d : Definition) : Prop where
  nonempty : d.nodes ≠ []
  ids : (d.nodes.map NodeSpec.id).Nodup
  known : ∀ n ∈ d.nodes, ∀ id, n.Mentions id → id ∈ d.nodes.map NodeSpec.id
  acyclic : ∀ id, ¬Relation.TransGen d.Declares id id
  entry : d.HasEntry
  /-- A condition that is not blank can be read. -/
  conditions : ∀ n ∈ d.nodes, ∀ target source, Entries.get? n.conditions target = some source →
    Text.isAllBlank source.toList = false → ∃ c, Condition.parse source = .ok c

namespace Layout

/-! ## Layouts -/

theorem mem_declared {d : Definition} {e : String × String} :
    e ∈ declared d ↔ d.Declares e.1 e.2 := by
  obtain ⟨source, target⟩ := e
  simp only [declared, declaredBy, Definition.Declares, List.mem_flatMap, List.mem_append,
    List.mem_map, Prod.mk.injEq, Entries.mem_keys, or_assoc]
  constructor
  · rintro ⟨n, hn, ⟨t, ht, rfl, rfl⟩ | ⟨s, hs, rfl, rfl⟩ | ⟨t, ht, rfl, rfl⟩⟩
    · exact ⟨n, hn, .inl ⟨rfl, ht⟩⟩
    · exact ⟨n, hn, .inr (.inl ⟨rfl, hs⟩)⟩
    · exact ⟨n, hn, .inr (.inr ⟨rfl, ht⟩)⟩
  · rintro ⟨n, hn, ⟨rfl, ht⟩ | ⟨rfl, hs⟩ | ⟨rfl, ht⟩⟩
    · exact ⟨n, hn, .inl ⟨target, ht, rfl, rfl⟩⟩
    · exact ⟨n, hn, .inr (.inl ⟨source, hs, rfl, rfl⟩)⟩
    · exact ⟨n, hn, .inr (.inr ⟨target, ht, rfl, rfl⟩)⟩

theorem exists_eq_singleton_iff {α : Type} {items : List α} (h : items.Nodup) :
    (∃ a, items = [a]) ↔ ∃! a, a ∈ items := by
  constructor
  · rintro ⟨a, rfl⟩
    exact ⟨a, List.mem_singleton_self a, fun b hb => List.mem_singleton.1 hb⟩
  · rintro ⟨a, ha, hu⟩
    refine ⟨a, List.perm_singleton.1 ((List.perm_ext_iff_of_nodup h (List.nodup_singleton a)).2 ?_)⟩
    exact fun b => ⟨fun hb => List.mem_singleton.2 (hu b hb), fun hb => List.mem_singleton.1 hb ▸ ha⟩

theorem exists_root_iff {named : Option String} {ids : List String}
    {edges : List (String × String)} (hids : ids.Nodup) :
    (∃ root, findRoot named ids edges = .ok root) ↔
      match named with
      | some root => root ∈ ids
      | none => ∃! id, id ∈ ids ∧ ∀ source, ¬Joins edges source id := by
  unfold findRoot
  cases named with
  | some root =>
    dsimp only
    rw [← List.contains_iff_mem]
    split <;> simp_all
  | none =>
    dsimp only
    rw [← (exists_eq_singleton_iff (hids.filter _)).trans (existsUnique_congr fun _ => mem_entries)]
    split
    · next single hs => exact ⟨fun _ => ⟨single, hs⟩, fun _ => ⟨single, rfl⟩⟩
    · next hs =>
      refine ⟨fun h => ?_, fun h => ?_⟩
      · obtain ⟨_, h⟩ := h
        cases h
      · obtain ⟨_, h⟩ := h
        cases hs.symm.trans h
    · next many h1 h2 =>
      refine ⟨fun h => ?_, fun h => ?_⟩
      · obtain ⟨_, h⟩ := h
        cases h
      · obtain ⟨a, h⟩ := h
        exact absurd h (h1 a)

/-- Without circles there is an entry node, so the lack of one is not reported. -/
theorem findRoot_ne_no_entry {named : Option String} {ids : List String}
    {edges : List (String × String)} (hne : ids ≠ []) (hm : ∀ e ∈ edges, e.1 ∈ ids)
    (free : IsCircleFree edges) : findRoot named ids edges ≠ .error (.invalid "no entry node") := by
  intro h
  unfold findRoot at h
  split at h
  · split at h <;> cases h
  · split at h
    · cases h
    · next hs =>
      obtain ⟨id, hid, hnone⟩ := exists_not_entered hne hm free
      have hin := mem_entries.2 ⟨hid, hnone⟩
      rw [hs] at hin
      cases hin
    · have hhead := congrArg (fun t => t.toList.head?)
        (GraphError.invalid.inj (Except.error.inj h))
      simp at hhead

theorem isCircleFree_declared {d : Definition} :
    IsCircleFree (declared d) ↔ ∀ id, ¬Relation.TransGen d.Declares id id := by
  have he : Joins (declared d) = d.Declares :=
    funext fun a => funext fun b => propext (mem_declared (e := (a, b)))
  rw [← he]
  exact Iff.rfl

theorem known_iff {d : Definition} :
    (∀ e ∈ declared d, e.1 ∈ d.nodes.map NodeSpec.id ∧ e.2 ∈ d.nodes.map NodeSpec.id) ↔
      ∀ n ∈ d.nodes, ∀ id, n.Mentions id → id ∈ d.nodes.map NodeSpec.id := by
  constructor
  · intro h n hn id hm
    rcases hm with hm | hm | hm
    · exact (h (n.id, id) (mem_declared.2 ⟨n, hn, .inl ⟨rfl, hm⟩⟩)).2
    · exact (h (id, n.id) (mem_declared.2 ⟨n, hn, .inr (.inl ⟨rfl, hm⟩)⟩)).1
    · exact (h (n.id, id) (mem_declared.2 ⟨n, hn, .inr (.inr ⟨rfl, hm⟩)⟩)).2
  · intro h e he
    obtain ⟨n, hn, ⟨hid, hm⟩ | ⟨hid, hm⟩ | ⟨hid, hm⟩⟩ := mem_declared.1 he
    · exact ⟨hid ▸ List.mem_map_of_mem hn, h n hn _ (.inl hm)⟩
    · exact ⟨h n hn _ (.inr (.inl hm)), hid ▸ List.mem_map_of_mem hn⟩
    · exact ⟨hid ▸ List.mem_map_of_mem hn, h n hn _ (.inr (.inr hm))⟩

theorem hasEntry_iff {d : Definition} (hids : (d.nodes.map NodeSpec.id).Nodup) :
    (∃ root, findRoot d.root (d.nodes.map NodeSpec.id) (distinct (declared d)) = .ok root) ↔
      d.HasEntry := by
  have he : Joins (distinct (declared d)) = d.Declares :=
    funext fun a => funext fun b =>
      propext ((mem_distinct (declared d)).trans (mem_declared (e := (a, b))))
  rw [exists_root_iff hids, he]
  exact Iff.rfl

theorem exists_layout_iff {d : Definition} :
    (∃ l, ofDefinition d = .ok l) ↔ d.nodes ≠ [] ∧ (d.nodes.map NodeSpec.id).Nodup ∧
      (∀ n ∈ d.nodes, ∀ id, n.Mentions id → id ∈ d.nodes.map NodeSpec.id) ∧
      (∀ id, ¬Relation.TransGen d.Declares id id) ∧ d.HasEntry := by
  rw [← known_iff, ← isCircleFree_declared]
  constructor
  · rintro ⟨l, hl⟩
    obtain ⟨hne, hids, hends, free, hroot, -⟩ := ofDefinition_eq_ok_iff.1 hl
    exact ⟨hne, hids, hends, free, (hasEntry_iff hids).1 ⟨_, hroot⟩⟩
  · rintro ⟨hne, hids, hends, free, hentry⟩
    obtain ⟨root, hroot⟩ := (hasEntry_iff hids).2 hentry
    exact ⟨⟨root, _⟩, ofDefinition_eq_ok_iff.2 ⟨hne, hids, hends, free, hroot, rfl⟩⟩

theorem ofDefinition_ne_no_entry (d : Definition) :
    ofDefinition d ≠ .error (.invalid "no entry node") := by
  intro h
  unfold ofDefinition at h
  dsimp only at h
  split at h
  · have hhead := congrArg (fun t => t.toList.head?) (GraphError.invalid.inj (Except.error.inj h))
    simp at hhead
  next hne =>
  split at h
  · have hhead := congrArg (fun t => t.toList.head?) (GraphError.invalid.inj (Except.error.inj h))
    simp at hhead
  split at h
  · cases h
  next hunk =>
  have hends : ∀ e ∈ distinct (declared d), e.1 ∈ d.nodes.map NodeSpec.id ∧
      e.2 ∈ d.nodes.map NodeSpec.id := fun e he =>
    firstUnknown?_eq_none_iff.1 hunk e ((mem_distinct _).1 he)
  split at h
  · next hac =>
    -- Without circles one of the nodes is entered by no edge.
    have hroot : findRoot d.root _ _ ≠ _ := findRoot_ne_no_entry
      (fun hn => hne (List.isEmpty_iff.2 hn)) (fun e he => (hends e he).1)
      ((isAcyclic_iff hends).1 hac)
    refine hroot ?_
    cases hr : findRoot d.root (d.nodes.map NodeSpec.id) (distinct (declared d)) with
    | error e =>
      rw [hr] at h
      exact congrArg Except.error (Except.error.inj h)
    | ok root =>
      rw [hr] at h
      cases h
  · cases h

theorem findRoot_ne_recursive {named : Option String} {ids : List String}
    {edges : List (String × String)} (text : String) :
    findRoot named ids edges ≠ .error (.recursivePipeline text) := by
  unfold findRoot
  split
  · split <;> exact fun h => nomatch h
  · split <;> exact fun h => nomatch h

theorem ofDefinition_ne_recursive (d : Definition) (text : String) :
    ofDefinition d ≠ .error (.recursivePipeline text) := by
  unfold ofDefinition
  dsimp only
  split
  · exact fun h => nomatch h
  split
  · exact fun h => nomatch h
  split
  · exact fun h => nomatch h
  split
  · cases hr : findRoot d.root (d.nodes.map NodeSpec.id) (distinct (declared d)) with
    | error e =>
      exact fun h => findRoot_ne_recursive text (hr.trans (congrArg Except.error (Except.error.inj h)))
    | ok root => exact fun h => nomatch h
  · exact fun h => nomatch h

/-! ## Conditions -/

theorem readCondition_eq_ok_iff {spec : NodeSpec} {target : String} {condition : Option Condition} :
    readCondition spec target = .ok condition ↔
      match Entries.get? spec.conditions target with
      | none => condition = none
      | some source =>
        if Text.isAllBlank source.toList then condition = none
        else ∃ c, Condition.parse source = .ok c ∧ condition = some c := by
  unfold readCondition
  cases Entries.get? spec.conditions target with
  | none => exact ⟨fun h => (Except.ok.inj h).symm, fun h => congrArg Except.ok h.symm⟩
  | some source =>
    dsimp only
    split
    · exact ⟨fun h => (Except.ok.inj h).symm, fun h => congrArg Except.ok h.symm⟩
    · cases Condition.parse source with
      | error e =>
        refine ⟨fun h => (nomatch h), fun h => ?_⟩
        obtain ⟨c, hc, -⟩ := h
        cases hc
      | ok c =>
        refine ⟨fun h => ⟨c, rfl, (Except.ok.inj h).symm⟩, fun h => ?_⟩
        obtain ⟨c', hc, rfl⟩ := h
        cases hc
        rfl

theorem mem_outgoing_iff {d : Definition} {l : Layout} (hl : ofDefinition d = .ok l)
    {source target : String} : target ∈ l.outgoing source ↔ d.Declares source target := by
  obtain ⟨-, -, -, -, -, hedges⟩ := ofDefinition_eq_ok_iff.1 hl
  rw [mem_outgoing, hedges, mem_distinct]
  exact mem_declared

theorem mem_incoming_iff {d : Definition} {l : Layout} (hl : ofDefinition d = .ok l)
    {source target : String} : source ∈ l.incoming target ↔ d.Declares source target := by
  rw [mem_incoming, ← mem_outgoing]
  exact mem_outgoing_iff hl

theorem exists_edgesOf_iff {d : Definition} {l : Layout} (hl : ofDefinition d = .ok l) :
    (∃ edges, d.nodes.mapM l.edgesOf = .ok edges) ↔
      ∀ n ∈ d.nodes, ∀ target source, Entries.get? n.conditions target = some source →
        Text.isAllBlank source.toList = false → ∃ c, Condition.parse source = .ok c := by
  rw [Except.exists_mapM_iff]
  refine forall₂_congr fun n hn => ?_
  unfold edgesOf
  rw [Except.exists_mapM_iff]
  constructor
  · intro h target source hs hb
    have hm : target ∈ l.outgoing n.id :=
      (mem_outgoing_iff hl).2 ⟨n, hn, .inr (.inr ⟨rfl, by rw [hs]; rfl⟩)⟩
    obtain ⟨edge, he⟩ := h target hm
    cases hr : readCondition n target with
    | error e =>
      rw [hr] at he
      cases he
    | ok condition =>
      have hread := readCondition_eq_ok_iff.1 hr
      simp only [hs, hb, Bool.false_eq_true, if_false] at hread
      exact hread.imp fun c hc => hc.1
  · intro h target _
    have hread : ∃ condition, readCondition n target = .ok condition := by
      cases hs : Entries.get? n.conditions target with
      | none => exact ⟨none, readCondition_eq_ok_iff.2 (by rw [hs])⟩
      | some source =>
        cases hb : Text.isAllBlank source.toList with
        | true => exact ⟨none, readCondition_eq_ok_iff.2 (by simp only [hs, hb, if_true])⟩
        | false =>
          obtain ⟨c, hc⟩ := h target source hs hb
          exact ⟨some c, readCondition_eq_ok_iff.2 (by
            simp only [hs, hb, Bool.false_eq_true, if_false]
            exact ⟨c, hc, rfl⟩)⟩
    obtain ⟨condition, hc⟩ := hread
    exact ⟨⟨target, condition⟩, by rw [hc]; rfl⟩

/-- A definition is accepted exactly if it is well-formed. -/
theorem accepted_iff {d : Definition} :
    (∃ l edges, ofDefinition d = .ok l ∧ d.nodes.mapM l.edgesOf = .ok edges) ↔
      d.IsWellFormed := by
  constructor
  · rintro ⟨l, edges, hl, he⟩
    obtain ⟨hne, hids, hknown, hacyclic, hentry⟩ := exists_layout_iff.1 ⟨l, hl⟩
    exact ⟨hne, hids, hknown, hacyclic, hentry, (exists_edgesOf_iff hl).1 ⟨edges, he⟩⟩
  · intro h
    obtain ⟨l, hl⟩ := exists_layout_iff.2 ⟨h.nonempty, h.ids, h.known, h.acyclic, h.entry⟩
    obtain ⟨edges, he⟩ := (exists_edgesOf_iff hl).2 h.conditions
    exact ⟨l, edges, hl, he⟩

/-! ## Edges by their ends -/

theorem perm_flatMap_leaving {ids : List String} (hids : ids.Nodup)
    {edges : List (String × String)} (hedges : edges.Nodup) (hm : ∀ e ∈ edges, e.1 ∈ ids) :
    (ids.flatMap fun id => edges.filter fun e => e.1 == id).Perm edges := by
  refine (List.perm_ext_iff_of_nodup ?_ hedges).2 fun e => ?_
  · refine List.nodup_flatMap.2 ⟨fun id _ => hedges.filter _, hids.imp fun hne => ?_⟩
    intro e he he'
    exact hne ((eq_of_beq (List.mem_filter.1 he).2).symm.trans (eq_of_beq (List.mem_filter.1 he').2))
  · rw [List.mem_flatMap]
    refine ⟨fun ⟨id, _, he⟩ => (List.mem_filter.1 he).1, fun he => ?_⟩
    exact ⟨e.1, hm e he, List.mem_filter.2 ⟨he, beq_self_eq_true _⟩⟩

end Layout

/-! ## Compiled edges -/

/-- The edges of the graph are those that the definition declares, each once at either end, with the
conditions that are not blank. -/
structure Graph.HasEdgesOf (g : Graph Component) (d : Definition) : Prop where
  ids : g.nodes.map GraphNode.id = d.nodes.map NodeSpec.id
  targets : ∀ u ∈ g.nodes, (u.edges.map Edge.target).Nodup ∧
    ∀ target, (u.edges.map Edge.target).count target = 1 ↔ d.Declares u.id target
  predecessors : ∀ v ∈ g.nodes, v.predecessors.Nodup ∧
    ∀ source, v.predecessors.count source = 1 ↔ d.Declares source v.id
  conditions : ∀ spec ∈ d.nodes, ∀ u ∈ g.nodes, u.id = spec.id → ∀ e ∈ u.edges,
    match Entries.get? spec.conditions e.target with
    | none => e.condition = none
    | some source =>
      if Text.isAllBlank source.toList then e.condition = none
      else ∃ c, Condition.parse source = .ok c ∧ e.condition = some c
  /-- A node waits for as many arrivals as edges lead to it. -/
  inbound : ∀ v ∈ g.nodes,
    v.predecessors.length = (g.nodes.flatMap GraphNode.edges).countP fun e => e.target == v.id

namespace Compiler

open Layout

variable {c : Compiler} {d : Definition} {g : Graph Component} {n m : Nat} {stack : List String}
  {inner : Option (Definition → List String → Compiling (Graph Component))}

theorem map_target_of_realizes {l : Layout} {specs : List NodeSpec}
    {nodes : List (GraphNode Component)}
    (h : List.Forall₂ (c.Realizes stack inner l) specs nodes) :
    (nodes.flatMap GraphNode.edges).map Edge.target =
      (specs.map NodeSpec.id).flatMap l.outgoing := by
  induction h with
  | nil => rfl
  | cons hf _ ih =>
    obtain ⟨-, -, -, hedges, -⟩ := hf
    rw [List.flatMap_cons, List.map_append, ih, map_edgesOf hedges, List.map_cons,
      List.flatMap_cons]

theorem countP_into {l : Layout} (hl : ofDefinition d = .ok l)
    (hall : List.Forall₂ (c.Realizes stack inner l) d.nodes g.nodes) (id : String) :
    (g.nodes.flatMap GraphNode.edges).countP (fun e => e.target == id) =
      (l.incoming id).length := by
  have hsound := isSound_ofDefinition hl
  have hperm := perm_flatMap_leaving hsound.distinct hsound.edges fun e he => (hsound.ends e he).1
  calc (g.nodes.flatMap GraphNode.edges).countP (fun e => e.target == id)
      = ((g.nodes.flatMap GraphNode.edges).map Edge.target).countP (· == id) := by
        rw [List.countP_map]
        rfl
    _ = (l.edges.map Prod.snd).countP (· == id) := by
        rw [map_target_of_realizes hall, ← (hperm.map Prod.snd).countP_eq, List.map_flatMap]
        rfl
    _ = (l.incoming id).length := by
        rw [List.countP_map, List.countP_eq_length_filter, incoming, List.length_map]
        rfl

theorem count_eq_one_iff {items : List String} (h : items.Nodup) {item : String} :
    items.count item = 1 ↔ item ∈ items := by
  refine ⟨fun hc => List.count_pos_iff.1 (by omega), fun hm => ?_⟩
  exact List.count_eq_one_of_mem h hm

theorem readCondition_of_edgesOf {l : Layout} {spec : NodeSpec} {edges : List Edge}
    (h : l.edgesOf spec = .ok edges) :
    ∀ e ∈ edges, readCondition spec e.target = .ok e.condition := by
  unfold edgesOf at h
  have hall := Except.mapM_eq_ok_iff.1 h
  clear h
  generalize l.outgoing spec.id = targets at hall
  induction hall with
  | nil => exact fun _ hm => absurd hm List.not_mem_nil
  | @cons target edge targets edges he _ ih =>
    refine List.forall_mem_cons.2 ⟨?_, ih⟩
    cases hc : readCondition spec target with
    | error e =>
      rw [hc] at he
      cases he
    | ok condition =>
      rw [hc] at he
      cases he
      exact hc

theorem hasEdgesOf_of_assemble (h : (c.assemble stack inner d).Gives n g m) : g.HasEdgesOf d := by
  obtain ⟨l, hl, -, -, hall⟩ := exists_layout h
  have hsound := isSound_ofDefinition hl
  refine
    { ids := map_id_of_realizes hall
      targets := fun u hu => ?_
      predecessors := fun v hv => ?_
      conditions := fun spec hs u hu hid e he => ?_
      inbound := fun v hv => ?_ }
  · obtain ⟨spec, -, hid, -, -, hedges, -⟩ := exists_spec hall u hu
    rw [map_edgesOf hedges, hid]
    have hnodup := hsound.nodup_outgoing spec.id
    exact ⟨hnodup, fun target => (count_eq_one_iff hnodup).trans (mem_outgoing_iff hl)⟩
  · obtain ⟨spec, -, hid, -, hpred, -⟩ := exists_spec hall v hv
    rw [hpred, hid]
    have hnodup := hsound.nodup_incoming spec.id
    exact ⟨hnodup, fun source => (count_eq_one_iff hnodup).trans (mem_incoming_iff hl)⟩
  · obtain ⟨spec', hs', hid', -, -, hedges, -⟩ := exists_spec hall u hu
    obtain rfl : spec' = spec := List.inj_on_of_nodup_map hsound.distinct hs' hs (hid' ▸ hid)
    exact readCondition_eq_ok_iff.1 (readCondition_of_edgesOf hedges e he)
  · obtain ⟨spec, -, hid, -, hpred, -⟩ := exists_spec hall v hv
    rw [countP_into hl hall, hpred, hid]

theorem isWellFormed_of_assemble (h : (c.assemble stack inner d).Gives n g m) :
    d.IsWellFormed := by
  obtain ⟨l, k, hl, h⟩ := Compiling.gives_bind h
  obtain ⟨edges, k, he, -⟩ := Compiling.gives_bind h
  exact accepted_iff.1 ⟨l, edges, Compiling.gives_check hl, Compiling.gives_check he⟩

/-! ## The error that is never reported -/

def noEntry : PipelineError := .graph (.invalid "no entry node")

theorem graph_tooDeep_ne_noEntry (id : String) : .graph (c.tooDeep id) ≠ noEntry := by
  intro h
  -- The two texts differ in their first character.
  have hhead := congrArg (fun t => t.toList.head?)
    (GraphError.invalid.inj (PipelineError.graph.inj h))
  simp at hhead

open Compiling in
theorem avoids_resolve {find : Lookup} (hfind : ∀ id, find id ≠ .error noEntry)
    (hinner : ∀ f ∈ inner, ∀ d s, Avoids find noEntry (f d s)) (spec : NodeSpec) :
    Avoids find noEntry (c.resolve stack inner spec) := by
  unfold resolve
  cases c.prototypes.get? spec.componentId with
  | some p => exact avoids_fromPrototype spec p
  | none =>
    exact avoids_fromPipeline (hfind _) (fun h => nomatch h) (graph_tooDeep_ne_noEntry _)
      (fun _ h => nomatch h) fun f hf d _ => hinner f hf d _

theorem exists_of_mapM_eq_error {ε α β : Type} {f : α → Except ε β} {xs : List α} {e : ε}
    (h : xs.mapM f = .error e) : ∃ x ∈ xs, f x = .error e := by
  by_contra hnone
  have hall : ∀ x ∈ xs, f x ≠ .error e := fun x hx he => hnone ⟨x, hx, he⟩
  clear hnone
  induction xs with
  | nil => cases h
  | cons x xs ih =>
    rw [List.forall_mem_cons] at hall
    rw [List.mapM_cons] at h
    cases hx : f x with
    | error e' =>
      rw [hx] at h
      exact hall.1 (hx.trans (congrArg Except.error (Except.error.inj h)))
    | ok y =>
      rw [hx] at h
      cases hr : xs.mapM f with
      | error e' =>
        rw [hr] at h
        exact ih (hr.trans (congrArg Except.error (Except.error.inj h))) hall.2
      | ok ys =>
        rw [hr] at h
        cases h

theorem eq_invalidCondition_of_edgesOf {l : Layout} {specs : List NodeSpec} {e : GraphError}
    (h : specs.mapM l.edgesOf = .error e) :
    ∃ source target text, e = .invalidCondition source target text := by
  obtain ⟨spec, -, he⟩ := exists_of_mapM_eq_error h
  obtain ⟨target, -, he⟩ := exists_of_mapM_eq_error he
  unfold readCondition at he
  split at he
  · cases he
  · split at he
    · cases he
    · split at he
      · cases he
      · cases he
        exact ⟨_, _, _, rfl⟩

open Compiling in
/-- Assembling a graph ends with an error only if the layout, a condition or a node does. -/
theorem avoids_assemble {find : Lookup} {e : PipelineError} {d : Definition}
    (hlayout : ∀ g, ofDefinition d = .error g → .graph g ≠ e)
    (hcondition : ∀ source target text, .graph (.invalidCondition source target text) ≠ e)
    (hresolve : ∀ spec ∈ d.nodes, Avoids find e (c.resolve stack inner spec)) :
    Avoids find e (c.assemble stack inner d) := by
  refine (Avoids.check hlayout).bind fun l => (Avoids.check fun g hg => ?_).bind fun edges =>
    (Avoids.mapM _ fun (spec, leaving) hm => ?_).bind fun nodes => .pure _
  · obtain ⟨source, target, text, rfl⟩ := eq_invalidCondition_of_edgesOf hg
    exact hcondition source target text
  · exact (hresolve spec (List.of_mem_zip hm).1).bind fun slot => .pure _

open Compiling in
theorem avoids_noEntry {find : Lookup} (hfind : ∀ id, find id ≠ .error noEntry)
    (hinner : ∀ f ∈ inner, ∀ d s, Avoids find noEntry (f d s)) (d : Definition) :
    Avoids find noEntry (c.assemble stack inner d) := by
  refine avoids_assemble (fun g hg h => ?_) (fun _ _ _ h => nomatch h)
    fun spec _ => avoids_resolve hfind hinner spec
  cases h
  exact ofDefinition_ne_no_entry d hg

open Compiling in
theorem avoids_compileWith {find : Lookup} (hfind : ∀ id, find id ≠ .error noEntry) (levels : Nat)
    (d : Definition) (stack : List String) :
    Avoids find noEntry (c.compileWith levels d stack) := by
  induction levels generalizing d stack with
  | zero =>
    rw [compileWith_eq]
    exact avoids_noEntry hfind (fun f hf => by cases hf) d
  | succ levels ih =>
    rw [compileWith_eq]
    refine avoids_noEntry hfind (fun f hf d s => ?_) d
    cases hf
    exact ih d s

end Compiler

/-! ## Exactness -/

/-- A definition is accepted exactly if it is well-formed. What is compiled from it has the declared
edges, each once at either end, and no others, and the lack of an entry node is never reported. -/
theorem Definition.accepted_exactly (d : Definition) :
    ((∃ l edges, Layout.ofDefinition d = .ok l ∧ d.nodes.mapM l.edgesOf = .ok edges) ↔
      d.IsWellFormed) ∧
    (∀ (c : Compiler) (levels : Nat) (stack : List String) (g : Graph Component) (n m : Nat),
      (c.compileWith levels d stack).Gives n g m → d.IsWellFormed ∧ g.HasEdgesOf d) ∧
    Layout.ofDefinition d ≠ .error (.invalid "no entry node") ∧
    ∀ (c : Compiler) (levels : Nat) (stack : List String) (find : Lookup) (n : Nat),
      (∀ id, find id ≠ .error (.graph (.invalid "no entry node"))) →
      ((c.compileWith levels d stack).outcome find n).1 ≠
        .error (.graph (.invalid "no entry node")) := by
  refine ⟨Layout.accepted_iff, fun c levels stack g n m h => ?_, Layout.ofDefinition_ne_no_entry d,
    fun c levels stack find n hfind => Compiler.avoids_compileWith hfind levels d stack n⟩
  rw [Compiler.compileWith_eq] at h
  exact ⟨Compiler.isWellFormed_of_assemble h, Compiler.hasEdgesOf_of_assemble h⟩

/-! ## A branch -/

namespace Branch

/-- The first node has conditions for both of the others, a blank one for the node that it lists. -/
def first : NodeSpec :=
  { NodeSpec.new "a" with
    base := some "idle", successors := ["b"], conditions := [("b", " "), ("c", "exists x")] }

/-- A node, one that lists the first and is listed by it, and one that lists the second twice. -/
def definition : Definition :=
  { Definition.new "branch" with
    nodes := [
      first,
      { NodeSpec.new "b" with base := some "idle", predecessors := ["a"] },
      { NodeSpec.new "c" with base := some "idle", predecessors := ["b", "b"] }] }

def compiler : Compiler := Workshop.compiler [("idle", .done)]

def node (id : String) (predecessors : List String) (edges : List Edge) : GraphNode Component :=
  ⟨id, "idle", .ready (.basic "idle" .done) (.shared "idle"), predecessors, edges⟩

def graph : Graph Component :=
  ⟨"branch", "a", [node "a" [] [⟨"b", none⟩, ⟨"c", some ⟨"exists x", .present ["x"]⟩⟩],
    node "b" ["a"] [⟨"c", none⟩], node "c" ["a", "b"] []]⟩

def layout : Layout := ⟨"a", [("a", "b"), ("a", "c"), ("b", "c")]⟩

theorem edges : definition.nodes.mapM layout.edgesOf = .ok (graph.nodes.map GraphNode.edges) := by
  have hb : Layout.readCondition first "b" = .ok none := Layout.readCondition_eq_ok_iff.2 rfl
  have hc : Layout.readCondition first "c" = .ok (some ⟨"exists x", .present ["x"]⟩) :=
    Layout.readCondition_eq_ok_iff.2 ⟨_, by cbv, rfl⟩
  have hfirst : layout.edgesOf first =
      .ok [⟨"b", none⟩, ⟨"c", some ⟨"exists x", .present ["x"]⟩⟩] := by
    change ["b", "c"].mapM _ = _
    rw [List.mapM_cons, hb, List.mapM_cons, hc]
    rfl
  change (first :: _).mapM _ = _
  rw [List.mapM_cons, hfirst]
  rfl

theorem gives : (compiler.compileWith 0 definition ["branch"]).Gives 0 graph 0 := by
  rw [Compiler.compileWith_eq]
  unfold Compiler.assemble
  rw [show Layout.ofDefinition definition = .ok layout from rfl, Compiling.check_ok_bind, edges,
    Compiling.check_ok_bind]
  exact .done _

end Branch

/-- A definition that has its edges declared at either end, once by a condition and once twice. -/
theorem accepted_exactly_branch : Branch.definition.IsWellFormed ∧
    Branch.graph.HasEdgesOf Branch.definition ∧ Branch.definition.Declares "b" "c" :=
  have h := Branch.definition.accepted_exactly.2.1 Branch.compiler 0 ["branch"] Branch.graph 0 0
    Branch.gives
  ⟨h.1, h.2, (h.2.targets _ (List.mem_cons_of_mem _ List.mem_cons_self)).2 "c" |>.1 rfl⟩

end Conduit
