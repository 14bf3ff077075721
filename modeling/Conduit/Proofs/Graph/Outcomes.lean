import Conduit.Proofs.Graph.Sound

/-!
# Outcomes of compiling

What a compilation comes to when all pipelines are looked up in one place. Two compilations agree when
they cannot succeed with different outcomes, and a compilation avoids an error that it never ends with.
Both are shown step by step.
-/

namespace Conduit

abbrev Lookup := String → Except PipelineError (Option Definition)

namespace Compiling

variable {α β : Type} (find : Lookup)

/-- What a step comes to, and how many components are created then. -/
def outcome (x : Compiling α) (n : Nat) : Except PipelineError α × Nat := (x.run.run n).run find

theorem outcome_bind (x : Compiling α) (f : α → Compiling β) (n : Nat) :
    (x >>= f).outcome find n = match x.outcome find n with
      | (.ok a, k) => (f a).outcome find k
      | (.error e, k) => (.error e, k) := by
  change ((x.run.run n).bind fun r => _).run find = _
  change ((x.run.run n >>= fun r => (ExceptT.bindCont f r.1).run r.2 : Suspended _)).run find = _
  rw [Suspended.run_bind]
  unfold outcome
  cases (x.run.run n).run find with
  | mk r k => cases r <;> rfl

@[simp] theorem outcome_lookup (id : String) (n : Nat) :
    (lookup id).outcome find n = (find id, n) := rfl

@[simp] theorem outcome_make {ε : Type} (making : Making ε α) (n : Nat) :
    (make making).outcome find n = (.ok (making.run n).1, (making.run n).2) := rfl

theorem check_ok_bind (a : α) (f : α → Compiling β) : (check (.ok a) >>= f) = f a := rfl

theorem Suspended.yields_run (x : Suspended α) : x.Yields (x.run find) := by
  induction x with
  | done a => exact .done a
  | pause next ih => exact .pause ih
  | lookup id next ih => exact .lookup (find id) (ih (find id))

theorem gives_of_outcome {x : Compiling α} {n m : Nat} {a : α}
    (h : x.outcome find n = (.ok a, m)) : x.Gives n a m := by
  unfold Gives
  rw [← h]
  exact Suspended.yields_run find _

/-! ## Agreement -/

/-- If both steps succeed, it is with the same outcome. -/
def Agree (x y : Compiling α) : Prop :=
  ∀ (n m i j : Nat) (a b : α), x.outcome find n = (.ok a, i) → y.outcome find m = (.ok b, j) → a = b

variable {find}

theorem Agree.pure (a : α) : Agree find (Pure.pure a) (Pure.pure a) := by
  intro n m i j b c hx hy
  cases hx
  cases hy
  rfl

theorem Agree.bind {x y : Compiling α} {f g : α → Compiling β} (h : Agree find x y)
    (hf : ∀ a, Agree find (f a) (g a)) : Agree find (x >>= f) (y >>= g) := by
  intro n m i j b c hx hy
  rw [outcome_bind] at hx hy
  split at hx
  · next a k ha =>
    split at hy
    · next a' k' ha' =>
      cases h _ _ _ _ _ _ ha ha'
      exact hf a _ _ _ _ _ _ hx hy
    · cases hy
  · cases hx

theorem Agree.of_fst {x y : Compiling α}
    (h : ∀ n m, (x.outcome find n).1 = (y.outcome find m).1) : Agree find x y := by
  intro n m i j a b hx hy
  have he := h n m
  rw [hx, hy] at he
  cases he
  rfl

theorem Agree.check (o : Except GraphError α) : Agree find (check o) (check o) :=
  .of_fst fun _ _ => rfl

theorem Agree.lookup (id : String) : Agree find (lookup id) (lookup id) := .of_fst fun _ _ => rfl

theorem Agree.make {ε : Type} {making : Making ε α}
    (h : ∀ n m, (making.run n).1 = (making.run m).1) :
    Agree find (Compiling.make making) (Compiling.make making) :=
  .of_fst fun n m => congrArg Except.ok (h n m)

theorem Agree.mapM {f g : α → Compiling β} (h : ∀ a, Agree find (f a) (g a)) (xs : List α) :
    Agree find (xs.mapM f) (xs.mapM g) := by
  induction xs with
  | nil =>
    rw [List.mapM_nil, List.mapM_nil]
    exact .pure []
  | cons x xs ih =>
    rw [List.mapM_cons, List.mapM_cons]
    exact (h x).bind fun y => ih.bind fun ys => .pure (y :: ys)

theorem Agree.symm {x y : Compiling α} (h : Agree find x y) : Agree find y x :=
  fun n m i j a b hy hx => (h m n j i b a hx hy).symm

/-! ## Errors that do not come up -/

variable (find) in
/-- The step never ends with the error. -/
def Avoids (e : PipelineError) (x : Compiling α) : Prop := ∀ n, (x.outcome find n).1 ≠ .error e

variable {e : PipelineError}

theorem Avoids.pure (a : α) : Avoids find e (Pure.pure a) := fun _ h => nomatch h

theorem Avoids.bind {x : Compiling α} {f : α → Compiling β} (h : Avoids find e x)
    (hf : ∀ a, Avoids find e (f a)) : Avoids find e (x >>= f) := by
  intro n
  rw [outcome_bind]
  split
  · next a k ha => exact hf a k
  · next e' k ha =>
    intro he
    cases he
    exact h n (congrArg Prod.fst ha)

theorem Avoids.mapM {f : α → Compiling β} (xs : List α) (h : ∀ a ∈ xs, Avoids find e (f a)) :
    Avoids find e (xs.mapM f) := by
  induction xs with
  | nil =>
    rw [List.mapM_nil]
    exact .pure []
  | cons x xs ih =>
    rw [List.forall_mem_cons] at h
    rw [List.mapM_cons]
    exact h.1.bind fun y => (ih h.2).bind fun ys => .pure (y :: ys)

theorem Avoids.make {ε : Type} (making : Making ε α) : Avoids find e (Compiling.make making) :=
  fun _ h => nomatch h

theorem Avoids.lookup {id : String} {f : Option Definition → Compiling β} (h : find id ≠ .error e)
    (hf : ∀ found, find id = .ok found → Avoids find e (f found)) :
    Avoids find e (Compiling.lookup id >>= f) := by
  intro n
  rw [outcome_bind, outcome_lookup]
  cases hr : find id with
  | error e' =>
    rw [hr] at h
    exact fun he => h (congrArg Except.error (Except.error.inj he))
  | ok found => exact hf found hr n

theorem Avoids.check {o : Except GraphError α} (h : ∀ g, o = .error g → .graph g ≠ e) :
    Avoids find e (Compiling.check o) := by
  intro n he
  cases o with
  | ok a => cases he
  | error g => exact h g rfl (Except.error.inj he)

end Compiling

/-! ## Compilations -/

namespace Making

variable {ε α β : Type}

/-- What is made does not depend on how many components were created before. -/
def Steady (x : Making ε α) : Prop := ∀ n m, (x.run n).1 = (x.run m).1

theorem Steady.bind {x : Making ε α} {f : α → Making ε β} (h : Steady x)
    (hf : ∀ a, Steady (f a)) : Steady (x >>= f) := by
  intro n m
  have he := h n m
  cases hn : x.run n with
  | mk o i =>
    cases hm : x.run m with
    | mk o' j =>
      rw [hn, hm] at he
      cases he
      cases o with
      | error e => rw [run_bind_of_error hn, run_bind_of_error hm]
      | ok a =>
        rw [run_bind_of_ok hn, run_bind_of_ok hm]
        exact hf a i j

end Making

theorem Factory.steady_make (f : Factory) (parameters : Json) : (f.make parameters).Steady := by
  unfold make
  refine Making.Steady.bind (fun _ _ => rfl) fun draft => ?_
  cases f.tallied <;> exact fun _ _ => rfl

theorem Prototype.steady_instantiate (p : Prototype) (node : String) (overrides : Json) :
    (p.instantiate node overrides).Steady :=
  (p.factory.steady_make _).bind fun _ _ _ => rfl

namespace Compiler

open Compiling

variable (c : Compiler) {find : Lookup}

theorem avoids_fromPrototype {e : PipelineError} (spec : NodeSpec) (p : Prototype) :
    Avoids find e (fromPrototype spec p) := by
  unfold fromPrototype
  split
  · exact .pure _
  · split
    · exact .pure _
    · refine (Avoids.make _).bind fun outcome => ?_
      cases outcome <;> exact .pure _

/-- A node of no prototype ends with an error only if looking its id up does, the id is unknown,
stands above already or is a level too deep, or the pipeline of that id ends with it. -/
theorem avoids_fromPipeline {c : Compiler} {e : PipelineError} {stack : List String}
    {inner : Option (Definition → List String → Compiling (Graph Component))} {id : String}
    (hfind : find id ≠ .error e) (unknown : .graph (.unknownComponentType id) ≠ e)
    (deep : .graph (c.tooDeep id) ≠ e)
    (here : id ∈ stack →
      .graph (.recursivePipeline (String.intercalate " -> " (stack ++ [id]))) ≠ e)
    (below : ∀ f ∈ inner, ∀ d, find id = .ok (some d) → Avoids find e (f d (stack ++ [id]))) :
    Avoids find e (c.fromPipeline stack inner id) := by
  unfold fromPipeline
  split
  · exact .check fun g hg => by cases hg; exact unknown
  split
  · next hm => exact .check fun g hg => by cases hg; exact here (List.contains_iff_mem.1 hm)
  cases inner with
  | none => exact .check fun g hg => by cases hg; exact deep
  | some f =>
    refine Avoids.lookup hfind fun found hfound => ?_
    cases found with
    | none => exact .check fun g hg => by cases hg; exact unknown
    | some d => exact (below f rfl d hfound).bind fun g => .pure _

end Compiler

end Conduit
