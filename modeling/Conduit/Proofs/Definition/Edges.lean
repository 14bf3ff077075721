import Conduit.Definition.Basic
import Conduit.Proofs.Entries
import Mathlib.Data.List.Dedup

/-!
# Both ends of an edge

A definition is built by calls. After any of them its edges are those asked for so far, listed once at
either end, and a condition is the latest one given for its edge. So it does not matter in which order
the edges are asked for, nor how often.
-/

namespace Conduit.Definition

/-- A call that builds a definition. -/
inductive Call where
  | addNode (node : NodeSpec)
  | withRoot (root : String)
  | connect (source target : String)
  | connectWhen (source target condition : String)

def ids (d : Definition) : List String := d.nodes.map NodeSpec.id

/-- The source of the edge lists its target. -/
def HasEdge (d : Definition) (source target : String) : Prop :=
  ∃ n ∈ d.nodes, n.id = source ∧ target ∈ n.successors

namespace Call

def on (d : Definition) : Call → Definition
  | .addNode node => d.addNode node
  | .withRoot root => d.withRoot root
  | .connect source target => d.connect source target
  | .connectWhen source target condition => d.connectWhen source target condition

def node? : Call → Option NodeSpec
  | .addNode node => some node
  | _ => none

def root? : Call → Option String
  | .withRoot root => some root
  | _ => none

def edge? : Call → Option (String × String)
  | .connect source target => some (source, target)
  | .connectWhen source target _ => some (source, target)
  | _ => none

def condition? : Call → Option (String × String × String)
  | .connectWhen source target condition => some (source, target, condition)
  | _ => none

/-- The condition that is given, if it is for the edge. -/
def conditionFor? (source target : String) : Call → Option String
  | .connectWhen s t condition => if s = source ∧ t = target then some condition else none
  | _ => none

theorem eq_of_conditionFor? {c : Call} {source target condition : String}
    (h : c.conditionFor? source target = some condition) :
    c = .connectWhen source target condition := by
  cases c with
  | connectWhen s t other =>
    obtain ⟨⟨rfl, rfl⟩, he⟩ := Option.ite_none_right_eq_some.1 h
    cases he
    rfl
  | addNode | withRoot | connect => cases h

end Call

end Definition

def NodeSpec.bare (n : NodeSpec) : NodeSpec :=
  { n with predecessors := [], successors := [], conditions := [] }

namespace Definition

/-- A node to add is new and has no edges yet, and an edge is between nodes that are there. -/
def Call.Fits (d : Definition) : Call → Prop
  | .addNode node => node.id ∉ d.ids ∧ node.bare = node
  | .withRoot _ => True
  | .connect source target => source ∈ d.ids ∧ target ∈ d.ids
  | .connectWhen source target _ => source ∈ d.ids ∧ target ∈ d.ids

/-- What calls make of a definition without nodes. The latest call is the first. -/
inductive Built (id : String) : List Call → Definition → Prop
  | new : Built id [] (Definition.new id)
  | call {calls : List Call} {d : Definition} (built : Built id calls d) {c : Call} (fits : c.Fits d) :
      Built id (c :: calls) (c.on d)

/-! ## What was asked for -/

/-- The edges asked for, the latest first. -/
def asked (calls : List Call) : List (String × String) := calls.filterMap Call.edge?

/-- The conditions given, the latest first. -/
def given (calls : List Call) : List (String × String × String) := calls.filterMap Call.condition?

def added (calls : List Call) : List NodeSpec := (calls.filterMap Call.node?).reverse

def valuesAt {α : Type} (pairs : List (String × α)) (key : String) : List α :=
  pairs.filterMap fun p => if p.1 = key then some p.2 else none

theorem valuesAt_cons {α : Type} (p : String × α) (pairs : List (String × α)) (key : String) :
    valuesAt (p :: pairs) key = if key = p.1 then p.2 :: valuesAt pairs key else valuesAt pairs key := by
  rw [valuesAt, List.filterMap_cons]
  split
  · next h => rw [if_neg fun he => by simp [he] at h, valuesAt]
  · next h =>
    obtain ⟨hk, hv⟩ := Option.ite_none_right_eq_some.1 h
    cases hv
    rw [if_pos hk.symm, valuesAt]

theorem mem_valuesAt {α : Type} {pairs : List (String × α)} {key : String} {value : α} :
    value ∈ valuesAt pairs key ↔ (key, value) ∈ pairs := by
  simp only [valuesAt, List.mem_filterMap, Option.ite_none_right_eq_some, Option.some.injEq]
  constructor
  · rintro ⟨⟨k, v⟩, h, rfl, rfl⟩
    exact h
  · intro h
    exact ⟨_, h, rfl, rfl⟩

theorem asked_of_given {calls : List Call} {source target condition : String}
    (h : (source, target, condition) ∈ given calls) : (source, target) ∈ asked calls := by
  obtain ⟨c, hc, he⟩ := List.mem_filterMap.1 h
  refine List.mem_filterMap.2 ⟨c, hc, ?_⟩
  cases c <;> cases he
  rfl

theorem get?_given (calls : List Call) (source target : String) :
    Entries.get? (valuesAt (given calls) source) target =
      calls.findSome? (Call.conditionFor? source target) := by
  induction calls with
  | nil => rfl
  | cons c calls ih =>
    rw [List.findSome?_cons, ← ih]
    cases c with
    | connectWhen s t condition =>
      simp only [given, List.filterMap_cons, Call.condition?, Call.conditionFor?, valuesAt_cons]
      by_cases hs : source = s
      · by_cases ht : t = target <;> simp [hs, ht, Entries.get?_cons]
      · simp [hs, Ne.symm hs]
    | addNode | withRoot | connect => rfl

theorem get?_given_eq_some {calls : List Call} {source target condition : String} :
    Entries.get? (valuesAt (given calls) source) target = some condition ↔
      ∃ later earlier, calls = later ++ .connectWhen source target condition :: earlier ∧
        ∀ other, Call.connectWhen source target other ∉ later := by
  rw [get?_given, List.findSome?_eq_some_iff]
  constructor
  · rintro ⟨later, c, earlier, rfl, hc, hlater⟩
    refine ⟨later, earlier, by rw [Call.eq_of_conditionFor? hc], fun other hm => ?_⟩
    have := hlater _ hm
    simp [Call.conditionFor?] at this
  · rintro ⟨later, earlier, rfl, hlater⟩
    refine ⟨later, _, earlier, rfl, if_pos ⟨rfl, rfl⟩, fun c hc => ?_⟩
    rw [Option.eq_none_iff_forall_ne_some]
    intro other he
    exact hlater other (Call.eq_of_conditionFor? he ▸ hc)

/-! ## What is made of it -/

/-- A node with the edges and the conditions asked for, in the order in which they first were. -/
def wired (calls : List Call) (n : NodeSpec) : NodeSpec :=
  { n with
    successors := (valuesAt (asked calls) n.id).dedup.reverse
    predecessors := (valuesAt ((asked calls).map Prod.swap) n.id).dedup.reverse
    conditions := Entries.ofPairs (valuesAt (given calls) n.id).reverse }

theorem wired_id (calls : List Call) (n : NodeSpec) : (wired calls n).id = n.id := rfl

theorem including_dedup (items : List String) (item : String) :
    including items.dedup.reverse item = (item :: items).dedup.reverse := by
  unfold including
  by_cases h : item ∈ items
  · rw [if_pos (by simpa using h), List.dedup_cons_of_mem h]
  · rw [if_neg (by simpa using h), List.dedup_cons_of_notMem h, List.reverse_cons]

theorem ofPairs_reverse_cons (p : String × String) (pairs : List (String × String)) :
    Entries.ofPairs (p :: pairs).reverse = (Entries.ofPairs pairs.reverse).insert p.1 p.2 := by
  simp [Entries.ofPairs]

/-- The pair that comes first is put last. -/
theorem get?_ofPairs_reverse (pairs : List (String × String)) (key : String) :
    (Entries.ofPairs pairs.reverse).get? key = Entries.get? pairs key := by
  induction pairs with
  | nil => rfl
  | cons p pairs ih => rw [ofPairs_reverse_cons, Entries.get?_insert, ih, ← Entries.get?_cons]

theorem changeFirst_map {nodes : List NodeSpec} (nodup : (nodes.map NodeSpec.id).Nodup)
    {wire : NodeSpec → NodeSpec} (keeps : ∀ n, (wire n).id = n.id) (id : String)
    (change : NodeSpec → NodeSpec) :
    changeFirst id change (nodes.map wire) =
      nodes.map fun n => if n.id = id then change (wire n) else wire n := by
  induction nodes with
  | nil => rfl
  | cons n rest ih =>
    obtain ⟨new, nodup⟩ := List.nodup_cons.1 nodup
    rw [List.map_cons, List.map_cons, changeFirst, keeps]
    split
    · next h =>
      congr 1
      apply List.map_congr_left
      intro other hother
      rw [if_neg fun he => new (List.mem_map.2 ⟨other, hother, he.trans h.symm⟩)]
    · rw [ih nodup]

theorem wired_connect {calls : List Call} {nodes : List NodeSpec}
    (nodup : (nodes.map NodeSpec.id).Nodup) (source target : String) :
    changeFirst target (fun n => { n with predecessors := including n.predecessors source })
        (changeFirst source (fun n => { n with successors := including n.successors target })
          (nodes.map (wired calls))) =
      nodes.map (wired (.connect source target :: calls)) := by
  rw [changeFirst_map nodup (wired_id calls), changeFirst_map nodup]
  · apply List.map_congr_left
    intro n hn
    simp only [wired, asked, given, List.filterMap_cons, Call.edge?, Call.condition?, List.map_cons,
      Prod.swap_prod_mk, valuesAt_cons]
    split <;> split <;> simp only [including_dedup]
  · intro n
    split <;> rfl

theorem wired_connectWhen {calls : List Call} {nodes : List NodeSpec}
    (nodup : (nodes.map NodeSpec.id).Nodup) (source target condition : String) :
    changeFirst source (fun n => { n with conditions := n.conditions.insert target condition })
        (nodes.map (wired (.connect source target :: calls))) =
      nodes.map (wired (.connectWhen source target condition :: calls)) := by
  rw [changeFirst_map nodup (wired_id _)]
  apply List.map_congr_left
  intro n hn
  simp only [wired, asked, given, List.filterMap_cons, Call.edge?, Call.condition?,
    valuesAt_cons]
  split
  · rw [ofPairs_reverse_cons]
  · rfl

/-- The definition that is made of the calls. -/
def assembled (id : String) (calls : List Call) : Definition :=
  { Definition.new id with
    root := calls.findSome? Call.root?
    nodes := (added calls).map (wired calls) }

theorem ids_assembled (id : String) (calls : List Call) :
    (assembled id calls).ids = (added calls).map NodeSpec.id := by
  rw [ids, assembled, List.map_map]
  rfl

/-- The invariant of a definition that is built: it is made of what was asked for. -/
structure Wired (id : String) (calls : List Call) (d : Definition) : Prop where
  eq : d = assembled id calls
  nodup : d.ids.Nodup
  bare : ∀ n ∈ added calls, n.bare = n
  ends : ∀ e ∈ asked calls, e.1 ∈ d.ids ∧ e.2 ∈ d.ids

namespace Wired

variable {id : String} {calls : List Call} {d : Definition}

theorem nodes_eq (h : Wired id calls d) : d.nodes = (added calls).map (wired calls) :=
  congrArg Definition.nodes h.eq

theorem ids_eq (h : Wired id calls d) : d.ids = (added calls).map NodeSpec.id := by
  rw [h.eq, ids_assembled]

theorem new : Wired id [] (Definition.new id) where
  eq := rfl
  nodup := List.nodup_nil
  bare n hn := by cases hn
  ends e he := by cases he

theorem wired_fresh (h : Wired id calls d) {n : NodeSpec} (fresh : n.id ∉ d.ids) (bare : n.bare = n) :
    wired calls n = n := by
  have hs : valuesAt (asked calls) n.id = [] :=
    List.eq_nil_iff_forall_not_mem.2 fun t ht => fresh (h.ends _ (mem_valuesAt.1 ht)).1
  have hp : valuesAt ((asked calls).map Prod.swap) n.id = [] := by
    refine List.eq_nil_iff_forall_not_mem.2 fun t ht => fresh ?_
    obtain ⟨e, he, hswap⟩ := List.mem_map.1 (mem_valuesAt.1 ht)
    have hid : e.2 = n.id := congrArg Prod.fst hswap
    exact hid ▸ (h.ends _ he).2
  have hc : valuesAt (given calls) n.id = [] :=
    List.eq_nil_iff_forall_not_mem.2 fun t ht =>
      fresh (h.ends _ (asked_of_given (mem_valuesAt.1 ht))).1
  rw [wired, hs, hp, hc]
  exact bare

theorem addNode (h : Wired id calls d) {n : NodeSpec} (fresh : n.id ∉ d.ids) (bare : n.bare = n) :
    Wired id (.addNode n :: calls) (d.addNode n) := by
  have hadded : added (.addNode n :: calls) = added calls ++ [n] := List.reverse_cons
  have hids : (d.addNode n).ids = d.ids ++ [n.id] := List.map_append
  refine ⟨?_, ?_, ?_, ?_⟩
  -- No edge was asked for at the new node, so wiring leaves it as it was given.
  · have hwired : wired (.addNode n :: calls) n = n := h.wired_fresh fresh bare
    rw [assembled, hadded, List.map_append, List.map_singleton, hwired, h.eq]
    rfl
  · rw [hids]
    exact List.concat_eq_append ▸ h.nodup.concat fresh
  · intro m hm
    rw [hadded] at hm
    rcases List.mem_append.1 hm with hm | hm
    · exact h.bare m hm
    · rw [List.mem_singleton.1 hm]
      exact bare
  · intro e he
    rw [hids]
    exact (h.ends e he).imp (List.mem_append_left _) (List.mem_append_left _)

theorem withRoot (h : Wired id calls d) (root : String) :
    Wired id (.withRoot root :: calls) (d.withRoot root) where
  eq := by
    rw [h.eq]
    rfl
  nodup := h.nodup
  bare := h.bare
  ends := h.ends

theorem connect (h : Wired id calls d) {source target : String} (hs : source ∈ d.ids)
    (ht : target ∈ d.ids) : Wired id (.connect source target :: calls) (d.connect source target) := by
  have hnodup := h.ids_eq ▸ h.nodup
  have heq : d.connect source target = assembled id (.connect source target :: calls) := by
    rw [h.eq, Definition.connect, assembled, wired_connect hnodup]
    rfl
  have hids : (d.connect source target).ids = d.ids := by
    rw [heq, h.ids_eq, ids_assembled]
    rfl
  refine ⟨heq, hids ▸ h.nodup, h.bare, fun e he => ?_⟩
  rw [hids]
  rcases List.mem_cons.1 he with rfl | he
  · exact ⟨hs, ht⟩
  · exact h.ends e he

theorem connectWhen (h : Wired id calls d) {source target : String} (hs : source ∈ d.ids)
    (ht : target ∈ d.ids) (condition : String) :
    Wired id (.connectWhen source target condition :: calls)
      (d.connectWhen source target condition) := by
  have hconnect := h.connect hs ht
  have hnodup := h.ids_eq ▸ h.nodup
  have heq : d.connectWhen source target condition =
      assembled id (.connectWhen source target condition :: calls) := by
    rw [Definition.connectWhen, hconnect.eq, assembled, assembled]
    simp only [Definition.mk.injEq, true_and]
    exact ⟨rfl, wired_connectWhen hnodup source target condition⟩
  have hids : (d.connectWhen source target condition).ids = (d.connect source target).ids := by
    rw [heq, hconnect.ids_eq, ids_assembled]
    rfl
  exact ⟨heq, hids ▸ hconnect.nodup, h.bare, hids ▸ hconnect.ends⟩

end Wired

/-- A call keeps the invariant. -/
theorem wired_on {id : String} {calls : List Call} {d : Definition} (h : Wired id calls d) {c : Call}
    (fits : c.Fits d) : Wired id (c :: calls) (c.on d) := by
  cases c with
  | addNode n => exact h.addNode fits.1 fits.2
  | withRoot root => exact h.withRoot root
  | connect source target => exact h.connect fits.1 fits.2
  | connectWhen source target condition => exact h.connectWhen fits.1 fits.2 condition

theorem Built.wired {id : String} {calls : List Call} {d : Definition} (built : Built id calls d) :
    Wired id calls d := by
  induction built with
  | new => exact .new
  | call built fits ih => exact wired_on ih fits

/-! ## The edges of what is built -/

section

variable {id : String} {calls : List Call} {d : Definition} (h : Wired id calls d) {n : NodeSpec}
  (hn : n ∈ d.nodes)

include h hn

theorem mem_successors_iff {target : String} :
    target ∈ n.successors ↔ (n.id, target) ∈ asked calls := by
  rw [h.nodes_eq] at hn
  obtain ⟨m, hm, rfl⟩ := List.mem_map.1 hn
  simp only [wired, List.mem_reverse, List.mem_dedup, mem_valuesAt]

theorem mem_predecessors_iff {source : String} :
    source ∈ n.predecessors ↔ (source, n.id) ∈ asked calls := by
  rw [h.nodes_eq] at hn
  obtain ⟨m, hm, rfl⟩ := List.mem_map.1 hn
  simp only [wired, List.mem_reverse, List.mem_dedup, mem_valuesAt, List.mem_map, Prod.exists,
    Prod.swap_prod_mk, Prod.mk.injEq]
  constructor
  · rintro ⟨s, t, hst, rfl, rfl⟩
    exact hst
  · intro hst
    exact ⟨_, _, hst, rfl, rfl⟩

theorem nodup_ends : n.successors.Nodup ∧ n.predecessors.Nodup := by
  rw [h.nodes_eq] at hn
  obtain ⟨m, hm, rfl⟩ := List.mem_map.1 hn
  exact ⟨List.nodup_reverse.2 (List.nodup_dedup _), List.nodup_reverse.2 (List.nodup_dedup _)⟩

theorem get?_conditions (target : String) :
    n.conditions.get? target = Entries.get? (valuesAt (given calls) n.id) target := by
  rw [h.nodes_eq] at hn
  obtain ⟨m, hm, rfl⟩ := List.mem_map.1 hn
  exact get?_ofPairs_reverse _ _

theorem keys_conditions_subset : n.conditions.keys ⊆ n.successors := by
  intro target ht
  obtain ⟨condition, hc⟩ := Option.isSome_iff_exists.1 (Entries.mem_keys.1 ht)
  rw [get?_conditions h hn] at hc
  exact (mem_successors_iff h hn).2 (asked_of_given (mem_valuesAt.1 (Entries.mem_of_get? hc)))

end

theorem hasEdge_iff {id : String} {calls : List Call} {d : Definition} (h : Wired id calls d)
    {source target : String} : d.HasEdge source target ↔ (source, target) ∈ asked calls := by
  constructor
  · rintro ⟨n, hn, rfl, ht⟩
    exact (mem_successors_iff h hn).1 ht
  · intro he
    obtain ⟨n, hn, hid⟩ := List.mem_map.1 (h.ends _ he).1
    subst hid
    exact ⟨n, hn, rfl, (mem_successors_iff h hn).2 he⟩

/-- After any call, the edges at either end are those asked for so far, each listed once, and the
conditions are the latest ones given. All else is as it was put in. The edges do not depend on the order
of the calls, nor on how often an edge is asked for. -/
theorem ends_in_step {id : String} {calls : List Call} {d : Definition} (built : Built id calls d) :
    (∀ a ∈ d.nodes, ∀ b ∈ d.nodes,
      (b.id ∈ a.successors ↔ a.id ∈ b.predecessors) ∧
      (b.id ∈ a.successors ↔ (a.id, b.id) ∈ asked calls)) ∧
    (∀ n ∈ d.nodes, n.successors ⊆ d.ids ∧ n.predecessors ⊆ d.ids ∧
      n.successors.Nodup ∧ n.predecessors.Nodup) ∧
    (∀ n ∈ d.nodes, n.conditions.keys ⊆ n.successors ∧ ∀ target condition,
      n.conditions.get? target = some condition ↔
        ∃ later earlier, calls = later ++ .connectWhen n.id target condition :: earlier ∧
          ∀ other, Call.connectWhen n.id target other ∉ later) ∧
    d = { Definition.new id with root := calls.findSome? Call.root?, nodes := d.nodes } ∧
    d.nodes.map NodeSpec.bare = added calls ∧
    ∀ {other : String} {others : List Call} {e : Definition}, Built other others e →
      (∀ edge, edge ∈ asked others ↔ edge ∈ asked calls) →
        ∀ source target, e.HasEdge source target ↔ d.HasEdge source target := by
  have h := built.wired
  refine ⟨fun a ha b hb => ?_, fun n hn => ?_, fun n hn => ?_, ?_, ?_, ?_⟩
  · rw [mem_successors_iff h ha, mem_predecessors_iff h hb]
    exact ⟨Iff.rfl, Iff.rfl⟩
  · refine ⟨fun t ht => ?_, fun s hs => ?_, nodup_ends h hn⟩
    · exact (h.ends _ ((mem_successors_iff h hn).1 ht)).2
    · exact (h.ends _ ((mem_predecessors_iff h hn).1 hs)).1
  · refine ⟨keys_conditions_subset h hn, fun target condition => ?_⟩
    rw [get?_conditions h hn, get?_given_eq_some]
  · rw [h.nodes_eq]
    exact h.eq
  · rw [h.nodes_eq, List.map_map]
    exact (List.map_congr_left h.bare).trans (List.map_id _)
  · intro other others e hbuilt hasked source target
    rw [hasEdge_iff hbuilt.wired, hasEdge_iff h, hasked]

/-- A node that is connected to itself twice, under two conditions. -/
theorem ends_in_step_loop : ∃ d, d.nodes = [⟨"a", none, .null, ["a"], ["a"], [("a", "y")]⟩] ∧
    Built "p" [.connectWhen "a" "a" "y", .connectWhen "a" "a" "x", .addNode (.new "a")] d ∧
    ∀ a ∈ d.nodes, ∀ b ∈ d.nodes, b.id ∈ a.successors ↔ a.id ∈ b.predecessors := by
  have hnode : Call.Fits (.new "p") (.addNode (.new "a")) := ⟨by decide, rfl⟩
  have hfirst : Call.Fits (Call.on (.new "p") (.addNode (.new "a"))) (.connectWhen "a" "a" "x") :=
    ⟨by decide, by decide⟩
  have hsecond : Call.Fits (Call.on (Call.on (.new "p") (.addNode (.new "a")))
      (.connectWhen "a" "a" "x")) (.connectWhen "a" "a" "y") := ⟨by decide, by decide⟩
  have built := ((Built.new.call hnode).call hfirst).call hsecond
  refine ⟨_, rfl, built, fun a ha b hb => ?_⟩
  exact ((ends_in_step built).1 a ha b hb).1

end Conduit.Definition
