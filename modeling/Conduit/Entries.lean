/-!
# Entries

A list of keys with values, in the order of the keys. Looking up takes the first entry of a key, so
the laws of `get?` hold of every list, sorted or not.
-/

namespace Conduit

abbrev Entries (α : Type) := List (String × α)

namespace Entries

variable {α β : Type}

def get? : Entries α → String → Option α
  | [], _ => none
  | (k, v) :: rest, key => if k = key then some v else get? rest key

def contains (entries : Entries α) (key : String) : Bool := (entries.get? key).isSome

/-- The entries with the value put at the key, before the first greater key. -/
def insert (key : String) (value : α) : Entries α → Entries α
  | [] => [(key, value)]
  | (k, v) :: rest =>
    if k = key then (key, value) :: rest
    else if key < k then (key, value) :: (k, v) :: rest
    else (k, v) :: insert key value rest

def erase (entries : Entries α) (key : String) : Entries α :=
  entries.filter fun e => decide (e.1 ≠ key)

/-- The entries of a list of pairs, of which a later one replaces an earlier one of its key. -/
def ofPairs (pairs : List (String × α)) : Entries α :=
  pairs.foldl (fun entries p => entries.insert p.1 p.2) []

def insertAll (entries : Entries α) (pairs : List (String × α)) : Entries α :=
  pairs.foldl (fun acc p => acc.insert p.1 p.2) entries

def keys (entries : Entries α) : List String := entries.map Prod.fst

def mapValues (f : α → β) (entries : Entries α) : Entries β := entries.map fun e => (e.1, f e.2)

def Sorted (entries : Entries α) : Prop := entries.Pairwise fun a b => a.1 < b.1

@[simp] theorem get?_nil (key : String) : get? ([] : Entries α) key = none := rfl

theorem get?_cons (k key : String) (v : α) (rest : Entries α) :
    get? ((k, v) :: rest) key = if k = key then some v else get? rest key := rfl

@[simp] theorem get?_insert_self (entries : Entries α) (key : String) (value : α) :
    (insert key value entries).get? key = some value := by
  induction entries with
  | nil => simp [insert, get?_cons]
  | cons e rest ih =>
    obtain ⟨k, v⟩ := e
    simp only [insert]
    split
    · simp [get?_cons]
    · next h => split <;> simp [get?_cons, h, ih]

theorem get?_insert_of_ne (entries : Entries α) {key other : String} (value : α)
    (h : key ≠ other) : (insert key value entries).get? other = entries.get? other := by
  induction entries with
  | nil => simp [insert, get?_cons, h]
  | cons e rest ih =>
    obtain ⟨k, v⟩ := e
    simp only [insert]
    split
    · next hk => subst hk; simp [get?_cons, h]
    · split
      · simp [get?_cons, h]
      · simp [get?_cons, ih]

theorem get?_insert (entries : Entries α) (key other : String) (value : α) :
    (insert key value entries).get? other =
      if key = other then some value else entries.get? other := by
  split
  · next h => subst h; simp
  · next h => exact get?_insert_of_ne entries value h

theorem get?_erase (entries : Entries α) (key other : String) :
    (entries.erase key).get? other = if key = other then none else entries.get? other := by
  induction entries with
  | nil => simp [erase]
  | cons e rest ih =>
    obtain ⟨k, v⟩ := e
    simp only [erase, List.filter_cons] at ih ⊢
    by_cases hk : k = key
    · subst hk
      simp only [ne_eq, not_true_eq_false, decide_false, Bool.false_eq_true, if_false, get?_cons]
      rw [ih]
      split <;> rfl
    · simp only [ne_eq, hk, not_false_eq_true, decide_true, if_true, get?_cons, ih]
      by_cases ho : k = other
      · subst ho
        simp [Ne.symm hk]
      · simp [ho]

end Entries

end Conduit
