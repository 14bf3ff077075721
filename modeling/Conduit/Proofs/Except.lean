import Mathlib.Data.List.Forall2

/-!
# Outcomes that can fail

An outcome of steps one after the other is one of every step.
-/

namespace Conduit

variable {ε α β : Type} {x : Except ε α} {f : α → Except ε β}

theorem Except.exists_of_bind {b : β} (h : x >>= f = .ok b) : ∃ a, x = .ok a ∧ f a = .ok b := by
  cases x with
  | error e => cases h
  | ok a => exact ⟨a, rfl, h⟩

theorem Except.of_mapError {δ : Type} {g : ε → δ} {a : α} (h : x.mapError g = .ok a) :
    x = .ok a := by
  cases x with
  | error e => cases h
  | ok b => exact congrArg Except.ok (Except.ok.inj h)

theorem Except.exists_of_map {g : α → β} {b : β} (h : x.map g = .ok b) :
    ∃ a, x = .ok a ∧ g a = b := by
  cases x with
  | error e => cases h
  | ok a => exact ⟨a, rfl, Except.ok.inj h⟩

theorem Except.ok_of_toOption {a : α} (h : x.toOption = some a) : x = .ok a := by
  cases x with
  | error e => cases h
  | ok b => exact congrArg Except.ok (Option.some.inj h)

theorem Except.mapM_eq_ok_iff {xs : List α} {ys : List β} :
    xs.mapM f = .ok ys ↔ List.Forall₂ (fun x y => f x = .ok y) xs ys := by
  induction xs generalizing ys with
  | nil =>
    rw [List.forall₂_nil_left_iff]
    exact ⟨fun h => (Except.ok.inj h).symm, fun h => congrArg Except.ok h.symm⟩
  | cons x xs ih =>
    rw [List.mapM_cons, List.forall₂_cons_left_iff]
    constructor
    · intro h
      obtain ⟨y, hy, h⟩ := Except.exists_of_bind h
      obtain ⟨rest, hrest, h⟩ := Except.exists_of_bind h
      exact ⟨y, rest, hy, ih.1 hrest, (Except.ok.inj h).symm⟩
    · rintro ⟨y, rest, hy, hrest, rfl⟩
      rw [hy, ih.2 hrest]
      rfl

theorem Except.exists_mapM_iff {xs : List α} :
    (∃ ys, xs.mapM f = .ok ys) ↔ ∀ x ∈ xs, ∃ y, f x = .ok y := by
  induction xs with
  | nil => exact ⟨fun _ _ h => absurd h List.not_mem_nil, fun _ => ⟨[], rfl⟩⟩
  | cons x xs ih =>
    rw [List.forall_mem_cons, ← ih, List.mapM_cons]
    cases hx : f x with
    | error e => exact ⟨fun h => (nomatch h), fun h => (nomatch h)⟩
    | ok y =>
      cases hr : xs.mapM f with
      | error e => exact ⟨fun h => (nomatch h), fun h => (nomatch h)⟩
      | ok ys => exact ⟨fun _ => ⟨⟨y, rfl⟩, ⟨ys, rfl⟩⟩, fun _ => ⟨y :: ys, rfl⟩⟩

end Conduit
