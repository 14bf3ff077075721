import Conduit.Graph.Layout
import Mathlib.Data.List.Nodup
import Mathlib.Logic.Relation

/-!
# Sound layouts

What a definition with a layout is known to satisfy: its ids differ, the edges are between them and
can be ranked, and the entry node is one of them.
-/

namespace Conduit.Layout

/-! ## Checks -/

theorem firstRepeated?_eq_none_iff {ids : List String} :
    ∀ {seen : List String}, firstRepeated? seen ids = none ↔
      ids.Nodup ∧ ∀ id ∈ ids, id ∉ seen := by
  induction ids with
  | nil =>
    intro seen
    exact ⟨fun _ => ⟨List.nodup_nil, fun _ h => absurd h List.not_mem_nil⟩, fun _ => rfl⟩
  | cons id rest ih =>
    intro seen
    unfold firstRepeated?
    rw [List.nodup_cons, List.forall_mem_cons]
    split
    · next hs =>
      refine ⟨fun h => (nomatch h), fun h => ?_⟩
      exact absurd (List.contains_iff_mem.1 hs) h.2.1
    · next hs =>
      rw [List.contains_iff_mem] at hs
      rw [ih]
      constructor
      · rintro ⟨hn, hd⟩
        refine ⟨⟨fun hm => hd id hm List.mem_cons_self, hn⟩, hs, fun other ho hm => ?_⟩
        exact hd other ho (List.mem_cons_of_mem _ hm)
      · rintro ⟨⟨hid, hn⟩, -, hd⟩
        refine ⟨hn, fun other ho hm => ?_⟩
        rcases List.mem_cons.1 hm with rfl | hm
        · exact hid ho
        · exact hd other ho hm

theorem firstUnknown?_eq_none_iff {ids : List String} {edges : List (String × String)} :
    firstUnknown? ids edges = none ↔ ∀ e ∈ edges, e.1 ∈ ids ∧ e.2 ∈ ids := by
  induction edges with
  | nil => exact ⟨fun _ _ h => absurd h List.not_mem_nil, fun _ => rfl⟩
  | cons e rest ih =>
    obtain ⟨source, target⟩ := e
    rw [List.forall_mem_cons, ← ih, firstUnknown?]
    by_cases hs : source ∈ ids
    · by_cases ht : target ∈ ids <;> simp [hs, ht]
    · simp [hs]

/-! ## Ranks -/

/-- Every edge leads to a higher rank. -/
def Ranks (rank : String → Nat) (edges : List (String × String)) : Prop :=
  ∀ e ∈ edges, rank e.1 < rank e.2

/-- Ids that are used up by taking away those that no edge enters can be ranked: each by the round
in which it is taken away. -/
theorem exists_rank_of_peels {rounds : Nat} {ids : List String} {edges : List (String × String)}
    (h : peels rounds ids edges = true) (hm : ∀ e ∈ edges, e.1 ∈ ids ∧ e.2 ∈ ids) :
    ∃ rank, Ranks rank edges := by
  have hnone : ∀ {ids : List String} {edges : List (String × String)}, ids.isEmpty = true →
      (∀ e ∈ edges, e.1 ∈ ids ∧ e.2 ∈ ids) → ∃ rank, Ranks rank edges := by
    intro ids edges hi hm
    refine ⟨fun _ => 0, fun e he => ?_⟩
    have h1 := (hm e he).1
    rw [List.isEmpty_iff.1 hi] at h1
    cases h1
  induction rounds generalizing ids edges with
  | zero => exact hnone h hm
  | succ rounds ih =>
    unfold peels at h
    dsimp only at h
    split at h
    · exact hnone h hm
    · have hbound : ∀ e ∈ edges, e.2 ∈ ids.filter fun id => edges.any fun e => e.2 == id := by
        intro e he
        exact List.mem_filter.2 ⟨(hm e he).2, List.any_eq_true.2 ⟨e, he, beq_self_eq_true _⟩⟩
      generalize ids.filter (fun id => edges.any fun e => e.2 == id) = bound at h hbound
      obtain ⟨rank, hr⟩ := ih h fun e he => by
        obtain ⟨he, hb⟩ := List.mem_filter.1 he
        exact ⟨List.contains_iff_mem.1 hb, hbound e he⟩
      -- What is taken away in this round comes before all that is left.
      refine ⟨fun id => if id ∈ bound then rank id + 1 else 0, fun e he => ?_⟩
      dsimp only
      rw [if_pos (hbound e he)]
      split
      · next hb =>
        have hlt := hr e (List.mem_filter.2 ⟨he, List.contains_iff_mem.2 hb⟩)
        omega
      · omega

/-! ## Circles -/

def Joins (edges : List (String × String)) (source target : String) : Prop :=
  (source, target) ∈ edges

/-- No edges go round in a circle. -/
def IsCircleFree (edges : List (String × String)) : Prop :=
  ∀ id, ¬Relation.TransGen (Joins edges) id id

theorem IsCircleFree.mono {edges others : List (String × String)} (h : IsCircleFree edges)
    (hs : ∀ e ∈ others, e ∈ edges) : IsCircleFree others :=
  fun id hc => h id (Relation.TransGen.mono (fun a b he => hs (a, b) he) _ _ hc)

theorem isCircleFree_of_rank {rank : String → Nat} {edges : List (String × String)}
    (h : Ranks rank edges) : IsCircleFree edges := by
  have hlt : ∀ {a b}, Relation.TransGen (Joins edges) a b → rank a < rank b := by
    intro a b hab
    induction hab with
    | single he => exact h _ he
    | tail _ he ih => exact Nat.lt_trans ih (h _ he)
  exact fun id hc => Nat.lt_irrefl _ (hlt hc)

theorem IsCircleFree.exists_least {edges : List (String × String)} (free : IsCircleFree edges) :
    ∀ {ids : List String}, ids ≠ [] →
      ∃ least ∈ ids, ∀ id ∈ ids, ¬Relation.TransGen (Joins edges) id least
  | [], hne => absurd rfl hne
  | [id], _ => ⟨id, List.mem_singleton_self id, fun other ho => List.mem_singleton.1 ho ▸ free id⟩
  | id :: next :: rest, _ => by
    obtain ⟨least, hm, hmin⟩ := free.exists_least (List.cons_ne_nil next rest)
    by_cases hlt : Relation.TransGen (Joins edges) id least
    · refine ⟨id, List.mem_cons_self, fun other ho hpath => ?_⟩
      rcases List.mem_cons.1 ho with rfl | ho
      · exact free _ hpath
      · exact hmin other ho (hpath.trans hlt)
    · refine ⟨least, List.mem_cons_of_mem _ hm, fun other ho => ?_⟩
      rcases List.mem_cons.1 ho with rfl | ho
      · exact hlt
      · exact hmin other ho

theorem exists_not_entered {ids : List String} {edges : List (String × String)}
    (hne : ids ≠ []) (hm : ∀ e ∈ edges, e.1 ∈ ids) (free : IsCircleFree edges) :
    ∃ id ∈ ids, ∀ source, ¬Joins edges source id := by
  obtain ⟨least, hleast, hmin⟩ := free.exists_least hne
  exact ⟨least, hleast, fun source hs => hmin source (hm _ hs) (.single hs)⟩

theorem peels_of_isCircleFree {rounds : Nat} {ids : List String} {edges : List (String × String)}
    (hr : ids.length ≤ rounds) (hm : ∀ e ∈ edges, e.1 ∈ ids ∧ e.2 ∈ ids)
    (free : IsCircleFree edges) : peels rounds ids edges = true := by
  induction rounds generalizing ids edges with
  | zero =>
    rw [List.eq_nil_of_length_eq_zero (Nat.le_zero.1 hr)]
    rfl
  | succ rounds ih =>
    unfold peels
    dsimp only
    split
    · next hlen =>
      have hall : ∀ id ∈ ids, ∃ source, Joins edges source id := fun id hid => by
        obtain ⟨e, he, ht⟩ := List.any_eq_true.1 (List.length_filter_eq_length_iff.1 hlen id hid)
        exact ⟨e.1, (eq_of_beq ht) ▸ he⟩
      -- If a round leaves all ids there are none: without a circle one is entered by no edge.
      by_contra hne
      obtain ⟨id, hid, hnone⟩ := exists_not_entered (fun h => hne (List.isEmpty_iff.2 h))
        (fun e he => (hm e he).1) free
      obtain ⟨source, hs⟩ := hall id hid
      exact hnone source hs
    · next hlen =>
      have hle := List.length_filter_le (fun id => edges.any fun e => e.2 == id) ids
      refine ih (by omega) (fun e he => ?_) (free.mono fun e he => (List.mem_filter.1 he).1)
      obtain ⟨he, hs⟩ := List.mem_filter.1 he
      exact ⟨List.contains_iff_mem.1 hs, List.mem_filter.2
        ⟨(hm e he).2, List.any_eq_true.2 ⟨e, he, beq_self_eq_true _⟩⟩⟩

theorem isAcyclic_iff {ids : List String} {edges : List (String × String)}
    (hm : ∀ e ∈ edges, e.1 ∈ ids ∧ e.2 ∈ ids) : isAcyclic ids edges ↔ IsCircleFree edges := by
  constructor
  · intro h
    obtain ⟨rank, hrank⟩ := exists_rank_of_peels h hm
    exact isCircleFree_of_rank hrank
  · exact peels_of_isCircleFree (Nat.le_refl _) hm

theorem mem_entries {ids : List String} {edges : List (String × String)} {id : String} :
    id ∈ entries ids edges ↔ id ∈ ids ∧ ∀ source, ¬Joins edges source id := by
  unfold entries
  rw [List.mem_filter, Bool.not_eq_true', List.any_eq_false]
  refine and_congr_right fun _ => ⟨fun h source hs => h _ hs (beq_self_eq_true _), ?_⟩
  exact fun h e he ht => h e.1 ((eq_of_beq ht) ▸ he)

/-! ## Layouts of definitions -/

/-- The layout of a definition with these ids. -/
structure IsSound (l : Layout) (ids : List String) : Prop where
  distinct : ids.Nodup
  edges : l.edges.Nodup
  ends : ∀ e ∈ l.edges, e.1 ∈ ids ∧ e.2 ∈ ids
  rank : ∃ rank, Ranks rank l.edges
  root : l.root ∈ ids

theorem root_mem_of_findRoot {named : Option String} {ids : List String}
    {edges : List (String × String)} {root : String}
    (h : findRoot named ids edges = .ok root) : root ∈ ids := by
  unfold findRoot at h
  split at h
  · split at h
    · next hc =>
      cases h
      exact List.contains_iff_mem.1 hc
    · cases h
  · split at h
    · next hs =>
      cases h
      have hm : root ∈ entries ids edges := hs ▸ List.mem_singleton_self root
      exact (List.mem_filter.1 hm).1
    · cases h
    · cases h

theorem ofDefinition_eq_ok_iff {d : Definition} {l : Layout} :
    ofDefinition d = .ok l ↔ d.nodes ≠ [] ∧ (d.nodes.map NodeSpec.id).Nodup ∧
      (∀ e ∈ declared d, e.1 ∈ d.nodes.map NodeSpec.id ∧ e.2 ∈ d.nodes.map NodeSpec.id) ∧
      IsCircleFree (declared d) ∧
      findRoot d.root (d.nodes.map NodeSpec.id) (distinct (declared d)) = .ok l.root ∧
      l.edges = distinct (declared d) := by
  have hmem : ∀ e, e ∈ distinct (declared d) ↔ e ∈ declared d := fun _ => mem_distinct _
  constructor
  · intro h
    unfold ofDefinition at h
    dsimp only at h
    split at h
    · cases h
    next hne =>
    split at h
    · cases h
    next hrep =>
    split at h
    · cases h
    next hunk =>
    have hends := firstUnknown?_eq_none_iff.1 hunk
    split at h
    · next hac =>
      cases hr : findRoot d.root (d.nodes.map NodeSpec.id) (distinct (declared d)) with
      | error e =>
        rw [hr] at h
        cases h
      | ok root =>
        rw [hr] at h
        cases h
        refine ⟨fun hn => hne (by rw [hn]; rfl), (firstRepeated?_eq_none_iff.1 hrep).1, hends, ?_,
          rfl, rfl⟩
        -- Circles do not depend on how often an edge is declared.
        have free := (isAcyclic_iff fun e he => hends e ((hmem e).1 he)).1 hac
        exact free.mono fun e he => (hmem e).2 he
    · cases h
  · rintro ⟨hne, hids, hends, free, hroot, hedges⟩
    have hac := (isAcyclic_iff fun e he => hends e ((hmem e).1 he)).2
      (free.mono fun e he => (hmem e).1 he)
    have hempty : (d.nodes.map NodeSpec.id).isEmpty = false := by
      rw [List.isEmpty_map, List.isEmpty_eq_false_iff]
      exact hne
    unfold ofDefinition
    dsimp only
    rw [hempty, firstRepeated?_eq_none_iff.2 ⟨hids, fun _ _ => List.not_mem_nil⟩,
      firstUnknown?_eq_none_iff.2 hends, hac, hroot]
    obtain ⟨root, edges⟩ := l
    cases hedges
    rfl

theorem isSound_ofDefinition {d : Definition} {l : Layout} (h : ofDefinition d = .ok l) :
    l.IsSound (d.nodes.map NodeSpec.id) := by
  obtain ⟨-, hids, hends, free, hroot, hedges⟩ := ofDefinition_eq_ok_iff.1 h
  have hm : ∀ e ∈ l.edges, e.1 ∈ d.nodes.map NodeSpec.id ∧ e.2 ∈ d.nodes.map NodeSpec.id :=
    fun e he => hends e ((mem_distinct _).1 (hedges ▸ he))
  exact
    { distinct := hids
      edges := hedges ▸ nodup_distinct _
      ends := hm
      rank := exists_rank_of_peels
        (peels_of_isCircleFree (Nat.le_refl _) hm (free.mono fun e he => (mem_distinct _).1 (hedges ▸ he))) hm
      root := root_mem_of_findRoot hroot }

theorem eq_root_of_not_entered {d : Definition} {l : Layout} (h : ofDefinition d = .ok l)
    (unnamed : d.root = none) {id : String} (hid : id ∈ d.nodes.map NodeSpec.id)
    (hin : ∀ source, (source, id) ∉ l.edges) : id = l.root := by
  obtain ⟨-, -, -, -, hroot, hedges⟩ := ofDefinition_eq_ok_iff.1 h
  have hm := mem_entries.2 ⟨hid, hedges ▸ hin⟩
  rw [unnamed] at hroot
  unfold findRoot at hroot
  dsimp only at hroot
  split at hroot
  · next hs =>
    cases hroot
    exact List.mem_singleton.1 (hs ▸ hm)
  · cases hroot
  · cases hroot

section

variable {l : Layout} {ids : List String}

theorem mem_outgoing {source target : String} :
    target ∈ l.outgoing source ↔ (source, target) ∈ l.edges := by
  simp only [outgoing, List.mem_map, List.mem_filter, beq_iff_eq, Prod.exists, exists_eq_right]

theorem mem_incoming {source target : String} :
    source ∈ l.incoming target ↔ (source, target) ∈ l.edges := by
  simp only [incoming, List.mem_map, List.mem_filter, beq_iff_eq, Prod.exists, exists_and_right,
    exists_eq_right]

theorem IsSound.nodup_outgoing (h : l.IsSound ids) (id : String) : (l.outgoing id).Nodup := by
  refine List.Nodup.map_on ?_ (h.edges.filter _)
  intro e he f hf heq
  exact Prod.ext ((eq_of_beq (List.mem_filter.1 he).2).trans
    (eq_of_beq (List.mem_filter.1 hf).2).symm) heq

theorem IsSound.nodup_incoming (h : l.IsSound ids) (id : String) : (l.incoming id).Nodup := by
  refine List.Nodup.map_on ?_ (h.edges.filter _)
  intro e he f hf heq
  exact Prod.ext heq ((eq_of_beq (List.mem_filter.1 he).2).trans
    (eq_of_beq (List.mem_filter.1 hf).2).symm)

end

end Conduit.Layout
