/-!
# Numbered tables

A table gives every number a thing. Only numbers that were set are listed, and all others have the
default thing, so reading after setting has laws without conditions.
-/

namespace Conduit

/-- Things by number. -/
structure Table (α : Type) where
  entries : List (Nat × α)

namespace Table

variable {α : Type} [Inhabited α]

instance : Inhabited (Table α) := ⟨⟨[]⟩⟩

def get (t : Table α) (n : Nat) : α :=
  match t.entries.find? fun e => e.1 == n with
  | some e => e.2
  | none => default

def clear (t : Table α) (n : Nat) : Table α := ⟨t.entries.filter fun e => e.1 != n⟩

def set (t : Table α) (n : Nat) (a : α) : Table α := ⟨(n, a) :: (t.clear n).entries⟩

def change (t : Table α) (n : Nat) (f : α → α) : Table α := t.set n (f (t.get n))

theorem get_clear (t : Table α) (n m : Nat) :
    (t.clear n).get m = if n = m then default else t.get m := by
  obtain ⟨entries⟩ := t
  induction entries with
  | nil => simp [clear, get]
  | cons e rest ih =>
    simp only [clear, get, List.filter_cons] at ih ⊢
    by_cases h : e.1 = n
    · subst h
      simp only [bne_self_eq_false, Bool.false_eq_true, if_false, List.find?_cons]
      by_cases hm : e.1 = m
      · subst hm
        simp only [if_true, beq_self_eq_true]
        simpa using ih
      · have : (e.1 == m) = false := by simpa using hm
        rw [this]
        simpa [hm] using ih
    · have hb : (e.1 != n) = true := by simpa using h
      rw [hb]
      simp only [if_true, List.find?_cons]
      by_cases hm : e.1 = m
      · subst hm
        simp [Ne.symm h]
      · have : (e.1 == m) = false := by simpa using hm
        rw [this]
        exact ih

@[simp] theorem get_set_self (t : Table α) (n : Nat) (a : α) : (t.set n a).get n = a := by
  simp [set, get]

theorem get_set (t : Table α) (n m : Nat) (a : α) :
    (t.set n a).get m = if n = m then a else t.get m := by
  by_cases h : n = m
  · subst h; simp
  · have hb : (n == m) = false := by simpa using h
    have := get_clear t n m
    simp only [h, if_false] at this ⊢
    rw [← this]
    simp [set, get, hb]

theorem get_change (t : Table α) (n m : Nat) (f : α → α) :
    (t.change n f).get m = if n = m then f (t.get n) else t.get m := by
  simp [change, get_set]

end Table

end Conduit
