import Conduit.Json.Decoder
import Conduit.Proofs.Except
import Mathlib.Data.List.Nodup
import Mathlib.Data.List.Perm.Subperm

/-!
# Members of a record

What is read from the members of an object depends neither on their order nor on which of a field's
names is used. An object that gives a field twice, or a value that is refused, is not read at all.
-/

namespace Conduit.Json.Decoder

variable {σ : Type} {fields : List (Field σ)} {f g : Field σ} {i j : Nat}

/-- Setting one of the fields does not disturb the other. -/
def Field.Commutes (f g : Field σ) : Prop :=
  ∀ x y setx sety, f.store.ofJson x = .ok setx → g.store.ofJson y = .ok sety →
    ∀ s, setx (sety s) = sety (setx s)

/-- Every name is one of a single field, and no field disturbs another. -/
structure Independent (fields : List (Field σ)) : Prop where
  names : (fields.flatMap Field.names).Nodup
  commutes : fields.Pairwise Field.Commutes

/-! ## Fields by their names -/

theorem getElem?_of_findField? {key : String} (h : findField? fields key = some (f, i)) :
    fields[i]? = some f := by
  have mem := List.mem_of_find?_eq_some h
  exact List.mk_mem_zipIdx_iff_getElem?.1 mem

theorem Independent.find (h : Independent fields) (i : Nat) (key : String)
    (hf : fields[i]? = some f) (hk : key ∈ f.names) : findField? fields key = some (f, i) := by
  obtain ⟨hi, rfl⟩ := List.getElem?_eq_some_iff.1 hf
  unfold findField?
  rw [List.find?_eq_some_iff_getElem]
  refine ⟨by simpa using hk, i, by simpa using hi, by simp, fun j hj => ?_⟩
  -- A name of an earlier field would be one of two fields.
  have hpair := List.pairwise_iff_getElem.1 (List.nodup_flatMap.1 h.names).2 j i (by omega) hi hj
  have hnot : key ∉ fields[j].names := fun hj => hpair hj hk
  simpa using hnot

theorem Field.Commutes.symm (h : f.Commutes g) : g.Commutes f := by
  intro x y setx sety hx hy s
  exact (h y x sety setx hy hx s).symm

theorem Independent.commutes_of_ne (h : Independent fields) (hf : fields[i]? = some f)
    (hg : fields[j]? = some g) (hne : i ≠ j) : f.Commutes g := by
  obtain ⟨hi, rfl⟩ := List.getElem?_eq_some_iff.1 hf
  obtain ⟨hj, rfl⟩ := List.getElem?_eq_some_iff.1 hg
  have hpair := List.pairwise_iff_getElem.1 h.commutes
  rcases Nat.lt_or_gt_of_ne hne with hlt | hgt
  · exact hpair i j hi hj hlt
  · exact (hpair j i hj hi hgt).symm

theorem commutes_field {α β : Type} {fnames gnames : List String} {frequired grequired : Bool}
    {d : Decoder α} {e : Decoder β} {setf : α → σ → σ} {setg : β → σ → σ}
    (h : ∀ v w s, setf v (setg w s) = setg w (setf v s)) :
    Field.Commutes ⟨fnames, d.map setf, frequired⟩ ⟨gnames, e.map setg, grequired⟩ := by
  intro x y setx sety hx hy s
  obtain ⟨v, -, rfl⟩ := Except.exists_of_map hx
  obtain ⟨w, -, rfl⟩ := Except.exists_of_map hy
  exact h v w s

/-! ## Lists and maps -/

section

variable {α : Type} {d : Decoder α}

theorem ofJson_list {docs : List Json} {values : List α}
    (h : List.Forall₂ (fun doc v => d.ofJson doc = .ok v) docs values) :
    d.list.ofJson (.array docs) = .ok values :=
  Except.mapM_eq_ok_iff.2 h

theorem ofJson_list_error {docs : List Json} {doc : Json} (hmem : doc ∈ docs) {cause : Cause}
    (h : d.ofJson doc = .error cause) : ∃ c, d.list.ofJson (.array docs) = .error c := by
  cases hlist : d.list.ofJson (.array docs) with
  | error c => exact ⟨c, rfl⟩
  | ok values =>
    obtain ⟨v, hv⟩ := Except.exists_mapM_iff.1 ⟨values, hlist⟩ doc hmem
    rw [h] at hv
    cases hv

theorem ofJson_entries {write : α → Json} (h : ∀ v, d.ofJson (write v) = .ok v)
    (values : Entries α) :
    d.entries.ofJson (.object (values.mapValues write)) = .ok (.ofPairs values) := by
  have hall : (values.mapValues write).mapM (fun m => do .ok (m.1, ← d.ofJson m.2)) =
      (.ok values : Except Cause (List (String × α))) := by
    rw [Except.mapM_eq_ok_iff, Entries.mapValues, List.forall₂_map_left_iff]
    refine List.forall₂_same.2 fun e he => ?_
    simp only [h]
    rfl
  unfold entries
  dsimp only
  rw [hall]
  rfl

end

/-! ## Members in another order -/

theorem checkRequired_congr {seen seen' : List Nat} (h : ∀ i, i ∈ seen ↔ i ∈ seen') :
    checkRequired fields seen = checkRequired fields seen' := by
  have hc : ∀ i, seen.contains i = seen'.contains i := fun i => by
    rw [Bool.eq_iff_iff, List.contains_iff_mem, List.contains_iff_mem, h i]
  simp only [checkRequired, hc]

theorem recordOfMembers_congr {seen seen' : List Nat} (h : ∀ i, i ∈ seen ↔ i ∈ seen')
    (members : List (String × Json)) (s : σ) :
    recordOfMembers fields members seen s = recordOfMembers fields members seen' s := by
  induction members generalizing seen seen' s with
  | nil => rw [recordOfMembers, recordOfMembers, checkRequired_congr h]
  | cons m members ih =>
    obtain ⟨key, doc⟩ := m
    unfold recordOfMembers
    split
    · exact ih h s
    · next f i found =>
      have hc : seen.contains i = seen'.contains i := by
        rw [Bool.eq_iff_iff, List.contains_iff_mem, List.contains_iff_mem, h i]
      have hcons : ∀ j, j ∈ i :: seen ↔ j ∈ i :: seen' := fun j => by
        rw [List.mem_cons, List.mem_cons, h j]
      simp only [hc, ih hcons]

section

variable {members members' : List (String × Json)} {key : String} {doc : Json} {seen : List Nat}
  {s r : σ}

theorem recordOfMembers_unknown (h : findField? fields key = none) :
    recordOfMembers fields ((key, doc) :: members) seen s = recordOfMembers fields members seen s := by
  rw [recordOfMembers, h]

theorem recordOfMembers_eq_ok_iff (h : findField? fields key = some (f, i)) :
    recordOfMembers fields ((key, doc) :: members) seen s = .ok r ↔
      i ∉ seen ∧ ∃ set, f.store.ofJson doc = .ok set ∧
        recordOfMembers fields members (i :: seen) (set s) = .ok r := by
  rw [recordOfMembers, h]
  dsimp only
  constructor
  · intro hr
    split at hr
    · cases hr
    · next hnew =>
      obtain ⟨set, hset, hr⟩ := Except.exists_of_bind hr
      exact ⟨fun hi => hnew (List.contains_iff_mem.2 hi), set, hset, hr⟩
  · rintro ⟨hnew, set, hset, hr⟩
    rw [if_neg fun hi => hnew (List.contains_iff_mem.1 hi), hset]
    exact hr

theorem recordOfMembers_field {α : Type} {d : Decoder α} {names : List String} {required : Bool}
    {set : α → σ → σ} {v : α} (h : findField? fields key = some (⟨names, d.map set, required⟩, i))
    (hnew : i ∉ seen) (hv : d.ofJson doc = .ok v) :
    recordOfMembers fields ((key, doc) :: members) seen s =
      recordOfMembers fields members (i :: seen) (set v s) := by
  have hset : (d.map set).ofJson doc = .ok (set v) := congrArg (Except.map set) hv
  rw [recordOfMembers, h]
  dsimp only
  rw [if_neg fun hi => hnew (List.contains_iff_mem.1 hi), hset]
  rfl

/-- What is read when a field counts as seen is read when it does not, if the field may be absent. -/
theorem recordOfMembers_of_seen (h : findField? fields key = some (f, i)) (absent : f.required = false)
    (read : recordOfMembers fields members (i :: seen) s = .ok r) :
    recordOfMembers fields members seen s = .ok r := by
  induction members generalizing seen s with
  | nil =>
    unfold recordOfMembers at read ⊢
    obtain ⟨_, hcheck, hr⟩ := Except.exists_of_bind read
    have hnone : fields.zipIdx.find? (fun f => f.1.required && !seen.contains f.2) = none := by
      rw [List.find?_eq_none]
      intro ⟨g, j⟩ hg hmissing
      unfold checkRequired at hcheck
      split at hcheck
      · cases hcheck
      · next hfound =>
        have hseen := List.find?_eq_none.1 hfound _ hg
        simp only [Bool.and_eq_true, Bool.not_eq_true', List.contains_cons, Bool.or_eq_false_iff,
          beq_eq_false_iff_ne, not_and] at hmissing hseen
        -- Only the field itself was seen, and it is not required.
        by_cases hj : j = i
        · subst hj
          rw [List.mk_mem_zipIdx_iff_getElem?, getElem?_of_findField? h] at hg
          cases hg
          rw [absent] at hmissing
          cases hmissing.1
        · exact hseen hmissing.1 hj hmissing.2
    rw [checkRequired, hnone]
    exact hr
  | cons m members ih =>
    obtain ⟨name, doc⟩ := m
    cases hf : findField? fields name with
    | none =>
      rw [recordOfMembers_unknown hf] at read ⊢
      exact ih read
    | some found =>
      obtain ⟨g, j⟩ := found
      obtain ⟨hnew, set, hset, read⟩ := (recordOfMembers_eq_ok_iff hf).1 read
      refine (recordOfMembers_eq_ok_iff hf).2 ⟨fun hj => hnew (List.mem_cons_of_mem _ hj), set, hset, ?_⟩
      apply ih
      rw [← read]
      apply recordOfMembers_congr
      intro k
      simp only [List.mem_cons, or_left_comm]

theorem recordOfMembers_optional {α : Type} {d : Decoder α} {names : List String} {set : α → σ → σ}
    {v : α} (h : findField? fields key = some (⟨names, d.map set, false⟩, i)) (hnew : i ∉ seen)
    {part : List (String × Json)}
    (hpart : (∃ doc, part = [(key, doc)] ∧ d.ofJson doc = .ok v) ∨ part = [] ∧ set v s = s)
    (read : recordOfMembers fields members (i :: seen) (set v s) = .ok r) :
    recordOfMembers fields (part ++ members) seen s = .ok r := by
  rcases hpart with ⟨doc, rfl, hv⟩ | ⟨rfl, hs⟩
  · exact (recordOfMembers_field h hnew hv).trans read
  · rw [hs] at read
    exact recordOfMembers_of_seen h rfl read

theorem recordOfMembers_perm (independent : Independent fields) (perm : members.Perm members')
    (h : recordOfMembers fields members seen s = .ok r) :
    recordOfMembers fields members' seen s = .ok r := by
  induction perm generalizing seen s with
  | nil => exact h
  | cons m perm ih =>
    obtain ⟨key, doc⟩ := m
    cases hf : findField? fields key with
    | none =>
      rw [recordOfMembers_unknown hf] at h ⊢
      exact ih h
    | some found =>
      obtain ⟨hnew, set, hset, h⟩ := (recordOfMembers_eq_ok_iff hf).1 h
      exact (recordOfMembers_eq_ok_iff hf).2 ⟨hnew, set, hset, ih h⟩
  | swap m m' members =>
    obtain ⟨key, doc⟩ := m
    obtain ⟨key', doc'⟩ := m'
    cases hf : findField? fields key with
    | none =>
      cases hf' : findField? fields key' with
      | none =>
        rw [recordOfMembers_unknown hf', recordOfMembers_unknown hf] at h
        rwa [recordOfMembers_unknown hf, recordOfMembers_unknown hf']
      | some found' =>
        obtain ⟨hnew, set, hset, h⟩ := (recordOfMembers_eq_ok_iff hf').1 h
        rw [recordOfMembers_unknown hf] at h ⊢
        exact (recordOfMembers_eq_ok_iff hf').2 ⟨hnew, set, hset, h⟩
    | some found =>
      cases hf' : findField? fields key' with
      | none =>
        rw [recordOfMembers_unknown hf'] at h
        obtain ⟨hnew, set, hset, h⟩ := (recordOfMembers_eq_ok_iff hf).1 h
        refine (recordOfMembers_eq_ok_iff hf).2 ⟨hnew, set, hset, ?_⟩
        rwa [recordOfMembers_unknown hf']
      | some found' =>
        -- Both members give a field, so these differ and can be set either way round.
        obtain ⟨hnew', set', hset', h⟩ := (recordOfMembers_eq_ok_iff hf').1 h
        obtain ⟨hnew, set, hset, h⟩ := (recordOfMembers_eq_ok_iff hf).1 h
        rw [List.mem_cons, not_or] at hnew
        have hcomm := independent.commutes_of_ne (getElem?_of_findField? hf)
          (getElem?_of_findField? hf') hnew.1
        refine (recordOfMembers_eq_ok_iff hf).2 ⟨hnew.2, set, hset, ?_⟩
        refine (recordOfMembers_eq_ok_iff hf').2 ⟨?_, set', hset', ?_⟩
        · rw [List.mem_cons, not_or]
          exact ⟨fun he => hnew.1 he.symm, hnew'⟩
        · rw [← hcomm _ _ _ _ hset hset' s, ← h]
          apply recordOfMembers_congr
          intro i
          simp only [List.mem_cons, or_left_comm]
  | trans _ _ ih ih' => exact ih' (ih h)

/-! ## Members under other names -/

theorem recordOfMembers_rename {rename : String → String}
    (h : ∀ m ∈ members, findField? fields (rename m.1) = findField? fields m.1) :
    recordOfMembers fields (members.map fun m => (rename m.1, m.2)) seen s =
      recordOfMembers fields members seen s := by
  induction members generalizing seen s with
  | nil => rfl
  | cons m members ih =>
    obtain ⟨hm, hrest⟩ := List.forall_mem_cons.1 h
    obtain ⟨key, doc⟩ := m
    rw [List.map_cons, recordOfMembers, recordOfMembers, hm]
    simp only [ih hrest]

/-! ## Members that are refused -/

/-- Two of the members give the field. -/
def GivenTwice (fields : List (Field σ)) (members : List (String × Json)) (f : Field σ) : Prop :=
  ∃ m m' i, [m, m'].Sublist members ∧ findField? fields m.1 = some (f, i) ∧
    findField? fields m'.1 = some (f, i)

theorem recordOfMembers_of_givenTwice (independent : Independent fields)
    (h : GivenTwice fields members f) :
    ∃ cause, recordOfMembers fields members seen s = .error cause := by
  obtain ⟨m, m', i, sub, hm, hm'⟩ := h
  obtain ⟨rest, perm⟩ := sub.exists_perm_append
  cases read : recordOfMembers fields members seen s with
  | error cause => exact ⟨cause, rfl⟩
  | ok r =>
    -- With the two members first, the second one is refused.
    have read := recordOfMembers_perm independent perm read
    obtain ⟨-, set, -, read⟩ := (recordOfMembers_eq_ok_iff hm).1 read
    obtain ⟨hnew, -⟩ := (recordOfMembers_eq_ok_iff hm').1 read
    exact absurd List.mem_cons_self hnew

theorem recordOfMembers_of_refused (independent : Independent fields) (hmem : (key, doc) ∈ members)
    (hf : findField? fields key = some (f, i)) {cause : Cause} (h : f.store.ofJson doc = .error cause) :
    ∃ c, recordOfMembers fields members seen s = .error c := by
  cases read : recordOfMembers fields members seen s with
  | error c => exact ⟨c, rfl⟩
  | ok r =>
    obtain ⟨front, back, rfl⟩ := List.append_of_mem hmem
    obtain ⟨-, set, hset, -⟩ := (recordOfMembers_eq_ok_iff hf).1
      (recordOfMembers_perm independent List.perm_middle read)
    rw [h] at hset
    cases hset

end

end Conduit.Json.Decoder
