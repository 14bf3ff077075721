import Conduit.Definition.Document
import Conduit.Proofs.Entries
import Conduit.Proofs.Json.Records

/-!
# Definitions in storage

A definition that is written as a document is read back as it was, whichever of a field's names the
document uses. A node with a field under two names is refused.
-/

namespace Conduit

open Json.Decoder

namespace NodeSpec

theorem independent_fields : Independent fields where
  names := by decide
  commutes := by
    simp only [fields, requiredField, field, List.pairwise_cons, List.forall_mem_cons]
    and_intros <;> first | exact commutes_field fun _ _ _ => rfl | simp

end NodeSpec

namespace Definition

theorem independent_fields : Independent fields where
  names := by decide
  commutes := by
    simp only [fields, requiredField, field, List.pairwise_cons, List.forall_mem_cons]
    and_intros <;> first | exact commutes_field fun _ _ _ => rfl | simp

end Definition

namespace NodeSpec

/-- The nodes are equal, their conditions as maps. -/
def Same (n m : NodeSpec) : Prop :=
  { n with conditions := [] } = { m with conditions := [] } ∧
    ∀ target, n.conditions.get? target = m.conditions.get? target

theorem ofJson_strings (items : List String) :
    string.list.ofJson (.array (items.map Json.string)) = .ok items :=
  ofJson_list (List.forall₂_map_left_iff.2 (List.forall₂_same.2 fun _ _ => rfl))

theorem read_members (n : NodeSpec) :
    recordOfMembers fields n.members [] (.new "") =
      .ok { n with conditions := .ofPairs n.conditions } := by
  obtain ⟨id, base, parameter, predecessors, successors, conditions⟩ := n
  simp only [members, List.append_assoc, List.cons_append, List.nil_append]
  rw [recordOfMembers_field (independent_fields.find 0 "id" rfl (by decide)) (by decide) rfl]
  -- A field that is left out has the value of the blank node.
  apply recordOfMembers_optional (v := base)
    (independent_fields.find 1 "base_component_id" rfl (by decide)) (by decide)
  · cases base with
    | none => exact .inr ⟨rfl, rfl⟩
    | some c => exact .inl ⟨_, rfl, rfl⟩
  apply recordOfMembers_optional (v := parameter)
    (independent_fields.find 2 "parameter" rfl (by decide)) (by decide)
  · split
    · exact .inr ⟨rfl, rfl⟩
    · exact .inl ⟨_, rfl, rfl⟩
  rw [recordOfMembers_field (independent_fields.find 3 "upstream" rfl (by decide)) (by decide)
      (ofJson_strings predecessors),
    recordOfMembers_field (independent_fields.find 4 "downstream" rfl (by decide)) (by decide)
      (ofJson_strings successors), ← List.append_nil (ite _ _ _)]
  apply recordOfMembers_optional (v := .ofPairs conditions)
    (independent_fields.find 5 "downstream_conditions" rfl (by decide)) (by decide)
  · split
    · next h =>
      rw [List.isEmpty_iff.1 h]
      exact .inr ⟨rfl, rfl⟩
    · exact .inl ⟨_, rfl, ofJson_entries (fun _ => rfl) conditions⟩
  rfl

theorem keys_members (n : NodeSpec) : (n.members.map Prod.fst).Sublist (fields.map Field.name) := by
  unfold members
  split <;> split <;> split
  all_goals
    simp only [List.map_cons, List.map_nil, List.nil_append, List.cons_append, List.append_nil]
    decide

/-- The document is one of the node: its members are in any order, and every field is under any of its
names. -/
def IsDocument (n : NodeSpec) (doc : Json) : Prop :=
  ∃ rename : String → String, (∀ f ∈ fields, rename f.name ∈ f.names) ∧
    ∃ members, members.Perm (n.members.map fun m => (rename m.1, m.2)) ∧ doc = .object members

theorem name_mem : ∀ f ∈ fields, f.name ∈ f.names := by decide

theorem isDocument_toJson (n : NodeSpec) : n.IsDocument n.toJson := by
  have hnodup : (n.members.map Prod.fst).Nodup := (keys_members n).nodup (by decide)
  refine ⟨fun key => key, name_mem, _, ?_, rfl⟩
  rw [List.map_id']
  exact Entries.ofPairs_perm hnodup

theorem findField?_rename {rename : String → String} (h : ∀ f ∈ fields, rename f.name ∈ f.names)
    {n : NodeSpec} {m : String × Json} (hm : m ∈ n.members) :
    findField? fields (rename m.1) = findField? fields m.1 := by
  obtain ⟨f, hf, hname⟩ := List.mem_map.1 ((keys_members n).subset (List.mem_map_of_mem hm))
  obtain ⟨i, hi⟩ := List.getElem?_of_mem hf
  have hown : m.1 ∈ f.names := by
    rw [← hname]
    exact name_mem f hf
  rw [independent_fields.find i _ hi hown, independent_fields.find i _ hi (hname ▸ h f hf)]

theorem ofJson_document {n : NodeSpec} {doc : Json} (h : n.IsDocument doc) :
    decoder.ofJson doc = .ok { n with conditions := .ofPairs n.conditions } := by
  obtain ⟨rename, hrename, members, perm, rfl⟩ := h
  apply recordOfMembers_perm independent_fields perm.symm
  rw [recordOfMembers_rename fun m hm => findField?_rename hrename hm]
  exact read_members n

theorem ofJson_of_givenTwice {members : List (String × Json)} {f : Json.Decoder.Field NodeSpec}
    (h : GivenTwice fields members f) : ∃ cause, decoder.ofJson (.object members) = .error cause :=
  recordOfMembers_of_givenTwice independent_fields h

theorem same_ofPairs {n : NodeSpec} (h : n.conditions.keys.Nodup) :
    Same { n with conditions := .ofPairs n.conditions } n := by
  refine ⟨rfl, fun target => ?_⟩
  have hget := Entries.get?_insertAll h [] target
  rwa [Entries.get?_nil, Option.or_none] at hget

end NodeSpec

namespace Definition

/-- The definitions are equal, the conditions of their nodes as maps. -/
def Same (d e : Definition) : Prop :=
  { d with nodes := [] } = { e with nodes := [] } ∧ List.Forall₂ NodeSpec.Same d.nodes e.nodes

/-- The document is one of the definition: its members are in any order, and every node has one of the
node's documents. -/
def IsDocument (d : Definition) (doc : Json) : Prop :=
  ∃ docs, List.Forall₂ NodeSpec.IsDocument d.nodes docs ∧
    ∃ members, members.Perm (d.members ++ [("nodes", .array docs)]) ∧ doc = .object members

theorem keys_document (d : Definition) (nodes : Json) :
    ((d.members ++ [("nodes", nodes)]).map Prod.fst).Sublist (fields.map Field.name) := by
  unfold members
  split <;> split
  all_goals
    simp only [List.map_cons, List.map_nil, List.nil_append, List.cons_append, List.append_nil]
    decide

theorem isDocument_toJson (d : Definition) : d.IsDocument d.toJson := by
  refine ⟨d.nodes.map NodeSpec.toJson, ?_, _, Entries.ofPairs_perm ?_, rfl⟩
  · exact List.forall₂_map_right_iff.2 (List.forall₂_same.2 fun n _ => n.isDocument_toJson)
  · exact (keys_document d _).nodup (by decide)

theorem read_members (d : Definition) {docs : List Json} {nodes : List NodeSpec}
    (h : List.Forall₂ (fun doc n => NodeSpec.decoder.ofJson doc = .ok n) docs nodes) :
    recordOfMembers fields (d.members ++ [("nodes", .array docs)]) [] (.new "") =
      .ok { d with nodes := nodes } := by
  obtain ⟨id, name, description, enabled, root, _⟩ := d
  simp only [members, List.append_assoc, List.cons_append, List.nil_append]
  rw [recordOfMembers_field (independent_fields.find 0 "id" rfl (by decide)) (by decide) rfl,
    recordOfMembers_field (independent_fields.find 1 "name" rfl (by decide)) (by decide) rfl]
  apply recordOfMembers_optional (v := description)
    (independent_fields.find 2 "description" rfl (by decide)) (by decide)
  · cases description with
    | none => exact .inr ⟨rfl, rfl⟩
    | some text => exact .inl ⟨_, rfl, rfl⟩
  rw [recordOfMembers_field (independent_fields.find 3 "enabled" rfl (by decide)) (by decide) rfl]
  apply recordOfMembers_optional (v := root)
    (independent_fields.find 4 "root" rfl (by decide)) (by decide)
  · cases root with
    | none => exact .inr ⟨rfl, rfl⟩
    | some entry => exact .inl ⟨_, rfl, rfl⟩
  rw [recordOfMembers_field (independent_fields.find 5 "nodes" rfl (by decide)) (by decide)
    (ofJson_list h)]
  rfl

/-- The definition as it is read back: conditions are put in order. -/
def stored (d : Definition) : Definition :=
  { d with nodes := d.nodes.map fun n => { n with conditions := .ofPairs n.conditions } }

theorem ofJson_document {d : Definition} {doc : Json} (h : d.IsDocument doc) :
    decoder.ofJson doc = .ok d.stored := by
  obtain ⟨docs, hdocs, members, perm, rfl⟩ := h
  apply recordOfMembers_perm independent_fields perm.symm
  apply read_members
  rw [List.forall₂_map_right_iff]
  exact hdocs.flip.imp fun doc n hdoc => NodeSpec.ofJson_document hdoc

theorem same_stored {d : Definition} (h : ∀ n ∈ d.nodes, n.conditions.keys.Nodup) :
    d.stored.Same d := by
  refine ⟨rfl, ?_⟩
  rw [stored, List.forall₂_map_left_iff, List.forall₂_same]
  exact fun n hn => NodeSpec.same_ofPairs (h n hn)

theorem ofJson_of_node {members : List (String × Json)} {docs : List Json} {doc : Json}
    (hnodes : ("nodes", .array docs) ∈ members) (hdoc : doc ∈ docs) {cause : Json.Cause}
    (h : NodeSpec.decoder.ofJson doc = .error cause) :
    ∃ c, decoder.ofJson (.object members) = .error c := by
  obtain ⟨c, hc⟩ := ofJson_list_error hdoc h
  have hnames : findField? fields "nodes" = some (fields[5], 5) :=
    independent_fields.find 5 "nodes" rfl (by decide)
  exact recordOfMembers_of_refused independent_fields hnodes hnames (congrArg (Except.map _) hc)

/-- A definition comes back from storage as it was, its conditions as maps. Every document of it that
uses other names for fields of nodes is read alike. A node with a field under two names is refused, and
so is every definition with such a node. -/
theorem survives_storage (d : Definition) (conditions : ∀ n ∈ d.nodes, n.conditions.keys.Nodup) :
    (∃ e, decoder.ofJson d.toJson = .ok e ∧ e.Same d ∧
      ∀ doc, d.IsDocument doc → decoder.ofJson doc = .ok e) ∧
    ∀ node f, GivenTwice NodeSpec.fields node f →
      (∃ cause, NodeSpec.decoder.ofJson (.object node) = .error cause) ∧
      ∀ members docs, ("nodes", .array docs) ∈ members → .object node ∈ docs →
        ∃ cause, decoder.ofJson (.object members) = .error cause := by
  refine ⟨⟨d.stored, ofJson_document d.isDocument_toJson, same_stored conditions,
    fun doc => ofJson_document⟩, fun node f twice => ?_⟩
  obtain ⟨cause, hnode⟩ := NodeSpec.ofJson_of_givenTwice twice
  exact ⟨⟨cause, hnode⟩, fun members docs hnodes hdoc => ofJson_of_node hnodes hdoc hnode⟩

/-- A node whose document has its members in another order, and another name for its edges. -/
theorem survives_storage_alias : ∃ e, decoder.ofJson (.object [("id", .string "p"),
      ("name", .string ""), ("enabled", .bool false), ("nodes", .array [.object
        [("upstream", .array []), ("id", .string "a"), ("downstreamIds", .array [.string "b"]),
          ("downstream_conditions", .object [("b", .string "x")])]])]) = .ok e ∧
    e.Same ⟨"p", "", none, false, none, [⟨"a", none, .null, [], ["b"], [("b", "x")]⟩]⟩ := by
  obtain ⟨e, -, same, read⟩ := (survives_storage
    ⟨"p", "", none, false, none, [⟨"a", none, .null, [], ["b"], [("b", "x")]⟩]⟩ (by decide)).1
  let rename (key : String) : String := if key = "downstream" then "downstreamIds" else key
  exact ⟨e, read _ ⟨_, .cons ⟨rename, by decide, _, .swap _ _ _, rfl⟩ .nil, _, .refl _, rfl⟩, same⟩

end Definition

end Conduit
