import Conduit.Parameters
import Conduit.Proofs.Json.Paths

/-!
# Merging documents

What a base with an overlay merged onto it has at every path. An overlay that is merged onto a base
once more changes nothing.
-/

namespace Conduit.Json

variable {base overlay j v : Json} {path : List String}

/-! ## One level -/

theorem merge_of_not_object (base : Json) (h : ∀ members, overlay ≠ .object members) :
    base.merge overlay = overlay := by
  cases overlay with
  | object members => exact absurd rfl (h members)
  | _ => rfl

theorem merge_object_onto_other (h : ∀ members, base ≠ .object members)
    (overlay : List (String × Json)) : base.merge (.object overlay) = .object overlay := by
  cases base with
  | object members => exact absurd rfl (h members)
  | _ => rfl

theorem merge_object (base overlay : List (String × Json)) :
    (object base).merge (.object overlay) = .object (mergeMembers base overlay) := rfl

theorem exists_merge_object (base : Json) (overlay : List (String × Json)) :
    ∃ members, base.merge (.object overlay) = .object members := by
  cases base with
  | object members => exact ⟨_, rfl⟩
  | _ => exact ⟨_, rfl⟩

/-- What is left of a base's value and an overlay's value, of which both can be missing. -/
def overlaid : Option Json → Option Json → Option Json
  | base, none => base
  | none, overlay => overlay
  | some base, some overlay => some (base.merge overlay)

theorem get?_mergeMembers (base : List (String × Json)) {overlay : List (String × Json)}
    (nodup : (Entries.keys overlay).Nodup) (key : String) :
    Entries.get? (mergeMembers base overlay) key =
      overlaid (Entries.get? base key) (Entries.get? overlay key) := by
  induction overlay generalizing base with
  | nil => rfl
  | cons e overlay ih =>
    obtain ⟨k, v⟩ := e
    obtain ⟨new, nodup⟩ := List.nodup_cons.1 nodup
    rw [mergeMembers, ih _ nodup, Entries.get?_insert, Entries.get?_cons]
    split
    · next h =>
      subst h
      rw [Entries.get?_eq_none new]
      cases Entries.get? base k <;> rfl
    · rfl

theorem member?_merge (base : Json) {overlay : List (String × Json)}
    (nodup : (Entries.keys overlay).Nodup) (key : String) :
    (base.merge (.object overlay)).member? key =
      overlaid (base.member? key) (Entries.get? overlay key) := by
  cases base with
  | object members => exact get?_mergeMembers members nodup key
  | _ =>
    change Entries.get? overlay key = overlaid none (Entries.get? overlay key)
    cases Entries.get? overlay key <;> rfl

/-! ## Every path -/

/-- Where the overlay has a value the merged document has it too, merged onto the base's. -/
theorem at?_merge (base : Json) (ordered : overlay.IsOrdered) (h : overlay.at? path = some v) :
    (base.merge overlay).at? path = overlaid (base.at? path) (some v) := by
  induction path generalizing base overlay with
  | nil =>
    cases h
    rfl
  | cons key path ih =>
    obtain ⟨u, hu, hv⟩ := Option.bind_eq_some_iff.1 h
    obtain ⟨members, hm⟩ := hasObject_of_member? hu
    cases hm
    rw [at?_cons, at?_cons, member?_merge base ordered.sorted.nodup_keys,
      show Entries.get? members key = some u from hu]
    cases hb : base.member? key with
    | none => exact hv
    | some b => exact ih b (ordered.of_member? hu) hv

/-- The longest front of a path at which the document has a value. -/
structure IsLongest (j : Json) (front path : List String) : Prop where
  isFront : front <+: path
  value : (j.at? front).isSome
  longest : ∀ r, r <+: path → (j.at? r).isSome → r.length ≤ front.length

/-- What a merged document has at a path of keys, in terms of the base and the overlay. -/
structure MergesAt (base overlay merged : Json) (path : List String) : Prop where
  /-- A value of the overlay that is no object is there unchanged. -/
  value : ∀ v, overlay.at? path = some v → (∀ members, v ≠ .object members) →
    merged.at? path = some v
  object : overlay.HasObject path → merged.HasObject path
  /-- Where the overlay has nothing, what the base has is kept as far as both have objects. -/
  kept : ∀ front, overlay.at? path = none → overlay.IsLongest front path →
    (∀ r, r <+: front → overlay.HasObject r ∧ base.HasObject r) →
      merged.at? path = base.at? path
  gone : ∀ front, overlay.at? path = none → overlay.IsLongest front path →
    ¬ (∀ r, r <+: front → overlay.HasObject r ∧ base.HasObject r) → merged.at? path = none

theorem IsLongest.exists_key {front : List String} (h : overlay.IsLongest front path)
    (none : overlay.at? path = none) :
    ∃ key back v, path = front ++ key :: back ∧ overlay.at? front = some v ∧
      v.member? key = .none := by
  obtain ⟨v, hv⟩ := Option.isSome_iff_exists.1 h.value
  obtain ⟨back, rfl⟩ := h.isFront
  cases back with
  | nil =>
    rw [List.append_nil, hv] at none
    cases none
  | cons key back =>
    refine ⟨key, back, v, rfl, hv, ?_⟩
    cases hk : v.member? key with
    | none => rfl
    | some u =>
      -- Otherwise the front with this key would be a longer one.
      have := h.longest (front ++ [key]) ⟨back, by simp⟩
        (by rw [at?_append_of_eq hv, at?_cons, hk]; rfl)
      rw [List.length_append, List.length_singleton] at this
      omega

theorem mergesAt (base : Json) (ordered : overlay.IsOrdered) (path : List String) :
    MergesAt base overlay (base.merge overlay) path where
  value v hv hn := by
    rw [at?_merge base ordered hv]
    cases base.at? path with
    | none => rfl
    | some b => exact congrArg some (merge_of_not_object b hn)
  object h := by
    obtain ⟨members, hm⟩ := h
    unfold HasObject
    rw [at?_merge base ordered hm]
    cases base.at? path with
    | none => exact ⟨members, rfl⟩
    | some b =>
      obtain ⟨merged, h⟩ := exists_merge_object b members
      exact ⟨merged, congrArg some h⟩
  kept front none longest both := by
    obtain ⟨key, back, v, rfl, hv, hk⟩ := longest.exists_key none
    obtain ⟨⟨members, hm⟩, ⟨bases, hb⟩⟩ := both front (List.prefix_refl _)
    cases hv.symm.trans hm
    have hmerged : (base.merge overlay).at? front =
        some ((object bases).merge (.object members)) := by
      rw [at?_merge base ordered hm, hb]
      rfl
    have nodup : (Entries.keys members).Nodup := (ordered front members hm).nodup_keys
    rw [at?_append_of_eq hmerged, at?_append_of_eq hb, at?_cons, at?_cons, member?_merge _ nodup,
      show Entries.get? members key = .none from hk]
    rfl
  gone front none longest notBoth := by
    obtain ⟨key, back, v, rfl, hv, hk⟩ := longest.exists_key none
    -- The base has no object where the overlay's value stands, or that value is none.
    have hmerged : (base.merge overlay).at? front = some v := by
      rw [at?_merge base ordered hv]
      cases hb : base.at? front with
      | none => rfl
      | some b =>
        refine congrArg some ?_
        by_cases hobject : ∃ members, v = .object members
        · obtain ⟨members, rfl⟩ := hobject
          refine merge_object_onto_other (fun bases hbase => notBoth fun r hr => ?_) members
          exact ⟨HasObject.of_prefix ⟨members, hv⟩ hr,
            HasObject.of_prefix ⟨bases, hb.trans (congrArg some hbase)⟩ hr⟩
        · exact merge_of_not_object b fun members h => hobject ⟨members, h⟩
    rw [at?_append_of_eq hmerged, at?_cons, hk]
    rfl

/-! ## Merging twice -/

theorem induction {motive : Json → Prop}
    (other : ∀ j, (∀ members, j ≠ .object members) → motive j)
    (object : ∀ members, (∀ e ∈ members, motive e.2) → motive (.object members)) :
    ∀ j, motive j
  | .object members => object members fun e he =>
    have : sizeOf e.2 < sizeOf (Json.object members) := by
      have := List.sizeOf_lt_of_mem he
      obtain ⟨k, v⟩ := e
      simp only [Json.object.sizeOf_spec, Prod.mk.sizeOf_spec] at this ⊢
      omega
    induction other object e.2
  | .null => other _ nofun
  | .bool _ => other _ nofun
  | .integer _ => other _ nofun
  | .real _ => other _ nofun
  | .string _ => other _ nofun
  | .array _ => other _ nofun
termination_by j => sizeOf j
decreasing_by assumption

theorem mergeMembers_eq_self {base overlay : List (String × Json)}
    (h : ∀ e ∈ overlay, Entries.Placed e.1 base ∧
      ∃ b, Entries.get? base e.1 = some b ∧ b.merge e.2 = b) :
    mergeMembers base overlay = base := by
  induction overlay with
  | nil => rfl
  | cons e overlay ih =>
    obtain ⟨placed, b, hb, hsame⟩ := h e List.mem_cons_self
    obtain ⟨k, v⟩ := e
    rw [mergeMembers, hb]
    dsimp only
    rw [hsame, Entries.insert_of_placed placed hb]
    exact ih fun e he => h e (List.mem_cons_of_mem _ he)

theorem placed_mergeMembers_of_placed {key : String} {base overlay : List (String × Json)}
    (h : Entries.Placed key base) : Entries.Placed key (mergeMembers base overlay) := by
  induction overlay generalizing base with
  | nil => exact h
  | cons e overlay ih =>
    obtain ⟨k, v⟩ := e
    rw [mergeMembers]
    refine ih ?_
    by_cases hk : k = key
    · subst hk
      exact Entries.placed_insert_self _ _ _
    · exact h.insert hk _

theorem placed_mergeMembers (base : List (String × Json)) {overlay : List (String × Json)}
    {e : String × Json} (he : e ∈ overlay) : Entries.Placed e.1 (mergeMembers base overlay) := by
  induction overlay generalizing base with
  | nil => cases he
  | cons d overlay ih =>
    rcases List.mem_cons.1 he with rfl | he
    · rw [mergeMembers]
      exact placed_mergeMembers_of_placed (Entries.placed_insert_self _ _ _)
    · rw [mergeMembers]
      exact ih _ he

theorem merge_self (ordered : j.IsOrdered) : j.merge j = j := by
  induction j using induction with
  | other j h => exact merge_of_not_object j h
  | object members ih =>
    refine congrArg object (mergeMembers_eq_self fun e he => ⟨ordered.sorted.placed he, ?_⟩)
    exact ⟨e.2, Entries.get?_of_mem ordered.sorted.nodup_keys he, ih e he (ordered.of_mem he)⟩

theorem merge_merge (base : Json) (ordered : overlay.IsOrdered) :
    (base.merge overlay).merge overlay = base.merge overlay := by
  induction overlay using induction generalizing base with
  | other overlay h => rw [merge_of_not_object _ h, merge_of_not_object _ h]
  | object members ih =>
    by_cases hb : ∃ bases, base = .object bases
    · obtain ⟨bases, rfl⟩ := hb
      refine congrArg object (mergeMembers_eq_self fun e he => ⟨placed_mergeMembers bases he, ?_⟩)
      rw [get?_mergeMembers bases ordered.sorted.nodup_keys,
        Entries.get?_of_mem ordered.sorted.nodup_keys he]
      -- A new member was taken over as it is, and now meets itself.
      cases Entries.get? bases e.1 with
      | none => exact ⟨e.2, rfl, merge_self (ordered.of_mem he)⟩
      | some b => exact ⟨_, rfl, ih e he b (ordered.of_mem he)⟩
    · rw [merge_object_onto_other (fun bases h => hb ⟨bases, h⟩)]
      exact merge_self ordered

end Conduit.Json
