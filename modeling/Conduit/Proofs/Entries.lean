import Conduit.Entries

/-!
# Entries in order

What an insertion leaves of the order of entries, of membership and of lookups, and where it changes
nothing.
-/

namespace Conduit.Entries

variable {α : Type} {entries : Entries α} {key : String} {value : α}

theorem sorted_nil : Sorted ([] : Entries α) := .nil

theorem mem_insert {e : String × α} (h : e ∈ insert key value entries) :
    e = (key, value) ∨ e ∈ entries := by
  induction entries with
  | nil => exact .inl (List.mem_singleton.1 h)
  | cons d rest ih =>
    obtain ⟨k, v⟩ := d
    unfold insert at h
    split at h
    · exact (List.mem_cons.1 h).imp_right (List.mem_cons_of_mem _)
    · split at h
      · exact List.mem_cons.1 h
      · rcases List.mem_cons.1 h with rfl | h
        · exact .inr List.mem_cons_self
        · exact (ih h).imp_right (List.mem_cons_of_mem _)

theorem Sorted.insert (h : Sorted entries) : Sorted (insert key value entries) := by
  induction entries with
  | nil => exact List.pairwise_singleton _ _
  | cons d rest ih =>
    obtain ⟨k, v⟩ := d
    obtain ⟨hk, hrest⟩ := List.pairwise_cons.1 h
    unfold Entries.insert
    split
    · next he => exact List.pairwise_cons.2 ⟨fun e he' => he ▸ hk e he', hrest⟩
    · next hne =>
      split
      · next hlt =>
        refine List.pairwise_cons.2 ⟨fun e he => ?_, h⟩
        rcases List.mem_cons.1 he with rfl | he
        · exact hlt
        · exact String.lt_trans hlt (hk e he)
      · next hnlt =>
        refine List.pairwise_cons.2 ⟨fun e he => ?_, ih hrest⟩
        rcases mem_insert he with rfl | he
        · exact Std.lt_of_le_of_ne (String.not_lt.1 hnlt) hne
        · exact hk e he

theorem insert_of_lt (h : ∀ e ∈ entries, e.1 < key) :
    Entries.insert key value entries = entries ++ [(key, value)] := by
  induction entries with
  | nil => rfl
  | cons e rest ih =>
    obtain ⟨k, v⟩ := e
    obtain ⟨hk, hrest⟩ := List.forall_mem_cons.1 h
    rw [Entries.insert, if_neg (String.ne_of_lt hk), if_neg (String.lt_asymm hk), ih hrest]
    rfl

theorem ofPairs_of_sorted (h : Sorted entries) : ofPairs entries = entries := by
  suffices ∀ front back : Entries α, Sorted (front ++ back) →
      back.foldl (fun acc p => acc.insert p.1 p.2) front = front ++ back from this [] entries h
  intro front back
  induction back generalizing front with
  | nil => simp
  | cons e back ih =>
    intro sorted
    have before := (List.pairwise_append.1 sorted).2.2
    rw [List.foldl_cons, insert_of_lt fun d hd => before d hd e List.mem_cons_self, ih]
    · simp
    · simpa using sorted

theorem sorted_ofPairs (pairs : List (String × α)) : Sorted (ofPairs pairs) := by
  suffices ∀ front : Entries α, Sorted front →
      Sorted (pairs.foldl (fun acc p => acc.insert p.1 p.2) front) from this [] sorted_nil
  induction pairs with
  | nil => exact fun _ h => h
  | cons p pairs ih => exact fun front h => ih _ h.insert

theorem Sorted.nodup_keys (h : Sorted entries) : (keys entries).Nodup :=
  List.pairwise_map.2 (List.Pairwise.imp (fun hlt => String.ne_of_lt hlt) h)

theorem keys_mapValues {β : Type} (f : α → β) (entries : Entries α) :
    keys (entries.mapValues f) = keys entries := List.map_map

theorem mem_keys : key ∈ keys entries ↔ (get? entries key).isSome := by
  induction entries with
  | nil => simp [keys]
  | cons e rest ih =>
    obtain ⟨k, v⟩ := e
    unfold keys at ih
    by_cases hk : k = key
    · subst hk
      simp [keys, get?_cons]
    · simp [keys, get?_cons, hk, Ne.symm hk, ih]

theorem get?_append (front back : Entries α) (key : String) :
    get? (front ++ back) key = (get? front key).or (get? back key) := by
  induction front with
  | nil => rfl
  | cons e rest ih =>
    obtain ⟨k, v⟩ := e
    simp only [List.cons_append, get?_cons]
    split
    · rfl
    · exact ih

theorem get?_eq_none (h : key ∉ keys entries) : get? entries key = none := by
  induction entries with
  | nil => rfl
  | cons e rest ih =>
    obtain ⟨k, v⟩ := e
    rw [get?_cons, if_neg fun he => h (List.mem_map.2 ⟨_, List.mem_cons_self, he⟩)]
    exact ih fun hm => h (List.mem_cons_of_mem _ hm)

theorem mem_of_get? (h : get? entries key = some value) : (key, value) ∈ entries := by
  induction entries with
  | nil => cases h
  | cons e rest ih =>
    obtain ⟨k, v⟩ := e
    rw [get?_cons] at h
    split at h
    · next hk =>
      cases h
      exact hk ▸ List.mem_cons_self
    · exact List.mem_cons_of_mem _ (ih h)

theorem get?_of_mem (nodup : (keys entries).Nodup) (h : (key, value) ∈ entries) :
    get? entries key = some value := by
  induction entries with
  | nil => cases h
  | cons e rest ih =>
    obtain ⟨k, v⟩ := e
    obtain ⟨new, nodup⟩ := List.nodup_cons.1 nodup
    rw [get?_cons]
    rcases List.mem_cons.1 h with he | h
    · cases he
      exact if_pos rfl
    · rw [if_neg fun hk => new (List.mem_map.2 ⟨_, h, hk.symm⟩)]
      exact ih nodup h

theorem get?_insertAll {pairs : List (String × α)} (nodup : (keys pairs).Nodup)
    (entries : Entries α) (key : String) :
    get? (insertAll entries pairs) key = (get? pairs key).or (get? entries key) := by
  induction pairs generalizing entries with
  | nil => rfl
  | cons p pairs ih =>
    obtain ⟨k, v⟩ := p
    obtain ⟨new, nodup⟩ := List.nodup_cons.1 nodup
    change get? (insertAll (entries.insert k v) pairs) key = _
    rw [ih nodup, get?_cons]
    split
    · next hk =>
      subst hk
      rw [get?_eq_none new, get?_insert_self]
      rfl
    · next hk => rw [get?_insert_of_ne _ _ hk]

theorem insert_perm (new : key ∉ keys entries) :
    (insert key value entries).Perm ((key, value) :: entries) := by
  induction entries with
  | nil => exact .refl _
  | cons e rest ih =>
    obtain ⟨k, v⟩ := e
    obtain ⟨hne, new⟩ := not_or.1 fun h => new (List.mem_cons.2 h)
    unfold insert
    rw [if_neg (Ne.symm hne)]
    split
    · exact .refl _
    · exact ((ih new).cons _).trans (.swap _ _ _)

theorem ofPairs_perm {pairs : List (String × α)} (nodup : (keys pairs).Nodup) :
    (ofPairs pairs).Perm pairs := by
  suffices ∀ front : Entries α, (keys (front ++ pairs)).Nodup →
      (insertAll front pairs).Perm (front ++ pairs) from this [] nodup
  induction pairs with
  | nil => exact fun front _ => .of_eq (List.append_nil front).symm
  | cons p pairs ih =>
    intro front hnodup
    have hmiddle : (p :: front ++ pairs).Perm (front ++ p :: pairs) := List.perm_middle.symm
    have hkeys := (hmiddle.map Prod.fst).nodup_iff.2 hnodup
    have new : p.1 ∉ keys front := fun h =>
      (List.nodup_cons.1 hkeys).1 (List.map_append ▸ List.mem_append_left _ h)
    have hinsert : (front.insert p.1 p.2).Perm (p :: front) := insert_perm new
    have happend := hinsert.append_right pairs
    refine ((ih (List.nodup_cons.1 nodup).2 _ ?_).trans happend).trans hmiddle
    exact (happend.map Prod.fst).nodup_iff.2 hkeys

/-! ## Putting what is there already -/

/-- The key is there, and no greater key is before it. -/
def Placed (key : String) : Entries α → Prop
  | [] => False
  | (k, _) :: rest => k = key ∨ ¬ key < k ∧ Placed key rest

theorem insert_of_placed (placed : Placed key entries) (h : get? entries key = some value) :
    insert key value entries = entries := by
  induction entries with
  | nil => cases h
  | cons e rest ih =>
    obtain ⟨k, v⟩ := e
    unfold insert
    rw [get?_cons] at h
    split at h
    · next hk =>
      cases h
      rw [if_pos hk, hk]
    · next hk =>
      obtain ⟨hlt, placed⟩ := placed.resolve_left hk
      rw [if_neg hk, if_neg hlt, ih placed h]

theorem placed_insert_self (entries : Entries α) (key : String) (value : α) :
    Placed key (insert key value entries) := by
  induction entries with
  | nil => exact .inl rfl
  | cons e rest ih =>
    obtain ⟨k, v⟩ := e
    unfold insert
    split
    · exact .inl rfl
    split
    · exact .inl rfl
    · next h => exact .inr ⟨h, ih⟩

theorem Placed.insert {other : String} (h : Placed key entries) (ne : other ≠ key) (value : α) :
    Placed key (insert other value entries) := by
  induction entries with
  | nil => exact h.elim
  | cons e rest ih =>
    obtain ⟨k, v⟩ := e
    unfold Entries.insert
    split
    · next hk =>
      subst hk
      exact .inr (h.resolve_left ne)
    split
    · next hlt =>
      refine .inr ⟨fun hgt => ?_, h⟩
      rcases h with rfl | ⟨hk, -⟩
      · exact String.lt_asymm hlt hgt
      · exact hk (String.lt_trans hgt hlt)
    · exact h.imp_right fun h => ⟨h.1, ih h.2⟩

theorem Sorted.placed (h : Sorted entries) {e : String × α} (he : e ∈ entries) :
    Placed e.1 entries := by
  induction entries with
  | nil => cases he
  | cons d rest ih =>
    obtain ⟨hd, hrest⟩ := List.pairwise_cons.1 h
    rcases List.mem_cons.1 he with rfl | he
    · exact .inl rfl
    · exact .inr ⟨String.lt_asymm (hd e he), ih hrest he⟩

end Conduit.Entries
