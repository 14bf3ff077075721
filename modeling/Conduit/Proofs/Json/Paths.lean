import Conduit.Json.Reader
import Conduit.Proofs.Entries
import Conduit.Proofs.Except

/-!
# Paths in documents

What a document has at a path of object keys. The objects of a document that is read from a text are
in order.
-/

namespace Conduit.Json

variable {j v : Json} {path front back : List String} {key : String}

/-! ## Values at paths -/

/-- The value at the end of a path of keys, from object to object. -/
def at? : Json → List String → Option Json
  | j, [] => some j
  | j, key :: path => (j.member? key).bind fun v => v.at? path

theorem at?_cons (j : Json) (key : String) (path : List String) :
    j.at? (key :: path) = (j.member? key).bind fun v => v.at? path := rfl

theorem at?_append (j : Json) (front back : List String) :
    j.at? (front ++ back) = (j.at? front).bind fun v => v.at? back := by
  induction front generalizing j with
  | nil => rfl
  | cons key front ih =>
    rw [List.cons_append, at?_cons, at?_cons, Option.bind_assoc]
    exact Option.bind_congr fun v _ => ih v

theorem at?_append_of_eq (h : j.at? front = some v) (back : List String) :
    j.at? (front ++ back) = v.at? back := by
  rw [at?_append, h]
  rfl

/-- The document has an object at the path. -/
def HasObject (j : Json) (path : List String) : Prop :=
  ∃ members, j.at? path = some (.object members)

theorem hasObject_of_member? (h : j.member? key = some v) : j.HasObject [] := by
  cases j with
  | object members => exact ⟨members, rfl⟩
  | _ => cases h

theorem hasObject_of_longer (h : j.at? (front ++ key :: back) = some v) : j.HasObject front := by
  rw [at?_append, Option.bind_eq_some_iff] at h
  obtain ⟨w, hw, hv⟩ := h
  obtain ⟨u, hu, -⟩ := Option.bind_eq_some_iff.1 hv
  obtain ⟨members, hm⟩ := hasObject_of_member? hu
  cases hm
  exact ⟨members, hw⟩

theorem HasObject.of_prefix (h : j.HasObject path) (hp : front <+: path) : j.HasObject front := by
  obtain ⟨back, rfl⟩ := hp
  cases back with
  | nil => rwa [List.append_nil] at h
  | cons key back =>
    obtain ⟨members, hm⟩ := h
    exact hasObject_of_longer hm

/-! ## Documents in order -/

/-- The members of every object at a path are in the order of their keys, which differ. -/
def IsOrdered (j : Json) : Prop :=
  ∀ path members, j.at? path = some (.object members) → Entries.Sorted members

theorem isOrdered_of_not_object (h : ∀ members, j ≠ .object members) : j.IsOrdered := by
  intro path members hm
  cases path with
  | nil =>
    cases hm
    exact absurd rfl (h members)
  | cons key path =>
    obtain ⟨v, hv, -⟩ := Option.bind_eq_some_iff.1 hm
    obtain ⟨members, hm⟩ := hasObject_of_member? hv
    cases hm
    exact absurd rfl (h members)

theorem isOrdered_object {members : List (String × Json)} (sorted : Entries.Sorted members)
    (h : ∀ e ∈ members, e.2.IsOrdered) : (object members).IsOrdered := by
  intro path ms hm
  cases path with
  | nil =>
    cases hm
    exact sorted
  | cons key path =>
    obtain ⟨v, hv, hm⟩ := Option.bind_eq_some_iff.1 hm
    exact h _ (Entries.mem_of_get? hv) path ms hm

theorem IsOrdered.sorted {members : List (String × Json)} (h : (object members).IsOrdered) :
    Entries.Sorted members := h [] members rfl

theorem IsOrdered.of_member? (h : j.IsOrdered) (hv : j.member? key = some v) : v.IsOrdered :=
  fun path members hm => h (key :: path) members (by rw [at?_cons, hv]; exact hm)

theorem IsOrdered.of_mem {members : List (String × Json)} (h : (object members).IsOrdered)
    {e : String × Json} (he : e ∈ members) : e.2.IsOrdered :=
  h.of_member? (Entries.get?_of_mem h.sorted.nodup_keys he)

/-! ## What is read is in order -/

theorem isOrdered_ofMembers {members : List (String × Json)} (h : ∀ e ∈ members, e.2.IsOrdered) :
    (ofMembers members).IsOrdered := by
  suffices ∀ pre : Entries Json, Entries.Sorted pre → (∀ e ∈ pre, e.2.IsOrdered) →
      (object (members.foldl (fun entries p => Entries.insert p.1 p.2 entries) pre)).IsOrdered from
    this [] Entries.sorted_nil nofun
  induction members with
  | nil => exact fun pre sorted all => isOrdered_object sorted all
  | cons p rest ih =>
    intro pre sorted all
    refine ih (fun e he => h e (List.mem_cons_of_mem _ he)) _ sorted.insert fun e he => ?_
    rcases Entries.mem_insert he with rfl | he
    · exact h p List.mem_cons_self
    · exact all e he

theorem all_of_readMembersFrom {α : Type} {read : Reader α} {good : α → Prop}
    (hread : ∀ c a c', read c = .ok (a, c') → good a) {fuel : List Char} {first : Bool}
    {c c' : Cursor} {members : List (String × α)}
    (h : readMembersFrom read fuel first c = .ok (members, c')) : ∀ e ∈ members, good e.2 := by
  induction fuel generalizing first c members with
  | nil => cases h
  | cons _ fuel ih =>
    obtain ⟨⟨more, c₁⟩, -, hmore⟩ := Except.exists_of_bind h
    dsimp only at hmore
    split at hmore
    · obtain ⟨⟨key, c₂⟩, -, hkey⟩ := Except.exists_of_bind hmore
      obtain ⟨c₃, -, hcolon⟩ := Except.exists_of_bind hkey
      obtain ⟨⟨value, c₄⟩, hvalue, hrest⟩ := Except.exists_of_bind hcolon
      obtain ⟨⟨rest, c₅⟩, hmembers, hall⟩ := Except.exists_of_bind hrest
      cases hall
      intro e he
      rcases List.mem_cons.1 he with rfl | he
      · exact hread _ _ _ hvalue
      · exact ih hmembers e he
    · cases hmore
      exact nofun

/-- A reader of documents that are no objects. -/
def ReadsNoObject (outcome : Except Fault (Json × Cursor)) : Prop :=
  ∀ members c, outcome ≠ .ok (.object members, c)

theorem ReadsNoObject.error (e : Fault) : ReadsNoObject (.error e) := by
  rintro members c ⟨⟩

theorem ReadsNoObject.ok (h : ∀ members, j ≠ .object members) (c : Cursor) :
    ReadsNoObject (.ok (j, c)) := by
  rintro members _ ⟨⟩
  exact h members rfl

theorem real_ne_object (x : Number.Binary64) (members : List (String × Json)) :
    real x ≠ .object members := by
  rintro ⟨⟩

theorem readsNoObject_scaledReal (negative : Bool) (significand : Nat) (exponent : Int)
    (c : Cursor) : ReadsNoObject (scaledReal negative significand exponent c) := by
  unfold scaledReal
  split
  · exact .ok (real_ne_object _) c
  · exact .error _

theorem readsNoObject_readExponent (negative : Bool) (significand : Nat) (exponent : Int)
    (c : Cursor) : ReadsNoObject (readExponent negative significand exponent c) := by
  unfold readExponent
  dsimp only
  -- What follows a sign does not depend on it.
  split
  all_goals
    split
    · split <;> exact .error _
    · split
      · split
        · exact .error _
        · exact .ok (real_ne_object _) _
      · exact readsNoObject_scaledReal _ _ _ _

theorem readsNoObject_readFraction (negative : Bool) (significand : Nat) (exponent : Int)
    (c : Cursor) : ReadsNoObject (readFraction negative significand exponent c) := by
  unfold readFraction
  dsimp only
  split
  · split <;> exact .error _
  · split
    · exact readsNoObject_readExponent _ _ _ _
    · exact readsNoObject_readExponent _ _ _ _
    · exact readsNoObject_scaledReal _ _ _ _

theorem readsNoObject_readNumeral (negative : Bool) (c : Cursor) :
    ReadsNoObject (readNumeral negative c) := by
  unfold readNumeral
  dsimp only
  split
  · split <;> exact .error _
  · exact .error _
  · split
    · exact readsNoObject_readFraction _ _ _ _
    · exact readsNoObject_readExponent _ _ _ _
    · exact readsNoObject_readExponent _ _ _ _
    · split
      · exact readsNoObject_scaledReal _ _ _ _
      · refine .ok (fun members h => ?_) _
        unfold signedInteger at h
        split at h
        · cases h
        · split at h <;> cases h

theorem readsNoObject_readLeaf (c : Cursor) : ReadsNoObject (readLeaf c) := by
  have word {j : Json} {outcome : Except Fault Cursor} (h : ∀ members, j ≠ .object members) :
      ReadsNoObject (outcome >>= fun c => .ok (j, c)) := by
    intro members c' he
    obtain ⟨c, -, hc⟩ := Except.exists_of_bind he
    cases hc
    exact h members rfl
  unfold readLeaf
  split
  · exact .error _
  · split
    · exact word fun _ h => by cases h
    split
    · exact word fun _ h => by cases h
    split
    · exact word fun _ h => by cases h
    split
    · exact readsNoObject_readNumeral _ _
    split
    · exact readsNoObject_readNumeral _ _
    split
    · intro members c' he
      obtain ⟨⟨text, c⟩, -, hc⟩ := Except.exists_of_bind he
      cases hc
    · exact .error _

theorem not_object_of_readLeaf {c c' : Cursor} (h : readLeaf c = .ok (j, c'))
    (members : List (String × Json)) : j ≠ .object members := by
  rintro rfl
  exact readsNoObject_readLeaf c members c' h

theorem isOrdered_of_readJson (levels : Nat) (c : Cursor) (j : Json) (c' : Cursor)
    (h : readJson levels c = .ok (j, c')) : j.IsOrdered := by
  induction levels generalizing c j c' with
  | zero =>
    unfold readJson at h
    dsimp only at h
    split at h
    · cases h
    · cases h
    · exact isOrdered_of_not_object (not_object_of_readLeaf h)
  | succ levels ih =>
    unfold readJson at h
    dsimp only at h
    split at h
    · obtain ⟨⟨items, c₁⟩, -, hitems⟩ := Except.exists_of_bind h
      cases hitems
      exact isOrdered_of_not_object nofun
    · obtain ⟨⟨members, c₁⟩, hmembers, hobject⟩ := Except.exists_of_bind h
      cases hobject
      exact isOrdered_ofMembers (all_of_readMembersFrom ih hmembers)
    · exact isOrdered_of_not_object (not_object_of_readLeaf h)

theorem isOrdered_of_parse {text : String} (h : parse text = .ok j) : j.IsOrdered := by
  obtain ⟨⟨v, c⟩, hread, hend⟩ := Except.exists_of_bind h
  obtain ⟨_, -, hv⟩ := Except.exists_of_bind hend
  cases hv
  exact isOrdered_of_readJson _ _ _ _ hread

end Conduit.Json
