import Conduit.Proofs.Graph.Acceptance

/-!
# References

A node whose component is no prototype refers to a pipeline, which is looked up and compiled in the
node's place, and can refer to pipelines itself. The main statement says that compiling comes to an
end whatever is found, also if pipelines refer to each other in a circle. It succeeds exactly if all
definitions that it comes to are well-formed, all references are found, and no chain of references
repeats an id or is longer than pipelines may nest deep.
-/

namespace Conduit

/-! ## Chains of references -/

namespace Compiler

/-- A node of the definition refers to the pipeline of the id. -/
def Refers (c : Compiler) (d : Definition) (id : String) : Prop :=
  ∃ spec ∈ d.nodes, spec.componentId = id ∧ c.prototypes.get? id = none

/-- References lead from a definition below the pipelines of a stack to another one. Every reference
that was followed puts its id on the stack. -/
inductive Reaches (c : Compiler) (find : Lookup) :
    List String → Definition → List String → Definition → Prop where
  | here (stack : List String) (d : Definition) : Reaches c find stack d stack d
  | there {stack chain : List String} {d found e : Definition} {id : String}
      (refers : c.Refers d id) (looked : find id = .ok (some found))
      (rest : Reaches c find (stack ++ [id]) found chain e) :
      Reaches c find stack d chain e

/-- All that the definition's references lead to is well-formed and found, and no chain of
references repeats an id or has more pipelines than the limit. -/
structure Nests (c : Compiler) (find : Lookup) (limit : Nat) (stack : List String)
    (d : Definition) : Prop where
  wellFormed : ∀ chain e, c.Reaches find stack d chain e → e.IsWellFormed
  found : ∀ chain e id, c.Reaches find stack d chain e → c.Refers e id → ∃ f, find id = .ok (some f)
  distinct : ∀ chain e, c.Reaches find stack d chain e → chain.Nodup
  depth : ∀ chain e, c.Reaches find stack d chain e → chain.length ≤ limit

variable {c : Compiler} {find : Lookup} {limit : Nat} {stack : List String} {d : Definition}

theorem forall_refers_iff {p : String → Prop} : (∀ id, c.Refers d id → p id) ↔
    ∀ spec ∈ d.nodes, c.prototypes.get? spec.componentId = none → p spec.componentId := by
  refine ⟨fun h spec hs hp => h _ ⟨spec, hs, rfl, hp⟩, fun h id hr => ?_⟩
  obtain ⟨spec, hs, rfl, hp⟩ := hr
  exact h spec hs hp

/-- A definition nests well if it is well-formed and what its own nodes refer to nests well. -/
theorem nests_iff : c.Nests find limit stack d ↔
    stack.Nodup ∧ stack.length ≤ limit ∧ d.IsWellFormed ∧ ∀ id, c.Refers d id →
      ∃ f, find id = .ok (some f) ∧ c.Nests find limit (stack ++ [id]) f := by
  constructor
  · intro h
    refine ⟨h.distinct _ _ (.here stack d), h.depth _ _ (.here stack d),
      h.wellFormed _ _ (.here stack d), fun id hr => ?_⟩
    obtain ⟨f, hf⟩ := h.found _ _ id (.here stack d) hr
    exact ⟨f, hf, fun _ _ k => h.wellFormed _ _ (.there hr hf k),
      fun _ _ _ k => h.found _ _ _ (.there hr hf k), fun _ _ k => h.distinct _ _ (.there hr hf k),
      fun _ _ k => h.depth _ _ (.there hr hf k)⟩
  · rintro ⟨hnodup, hlength, hwf, hrefs⟩
    -- A chain ends here, or goes on below one of the references.
    have below : ∀ {id found}, c.Refers d id → find id = .ok (some found) →
        c.Nests find limit (stack ++ [id]) found := by
      intro id found hr hf
      obtain ⟨f, hf', hn⟩ := hrefs id hr
      rw [hf] at hf'
      cases hf'
      exact hn
    refine ⟨fun chain e k => ?_, fun chain e id k hr => ?_, fun chain e k => ?_,
      fun chain e k => ?_⟩
    · cases k with
      | here => exact hwf
      | there hr hf k => exact (below hr hf).wellFormed _ _ k
    · cases k with
      | here => exact (hrefs id hr).imp fun f hf => hf.1
      | there hr' hf k => exact (below hr' hf).found _ _ _ k hr
    · cases k with
      | here => exact hnodup
      | there hr hf k => exact (below hr hf).distinct _ _ k
    · cases k with
      | here => exact hlength
      | there hr hf k => exact (below hr hf).depth _ _ k

end Compiler

/-! ## When a step succeeds -/

namespace Compiling

variable {α β : Type} {find : Lookup} {p q : Prop}

/-- The step succeeds exactly if the condition holds, however many components were created
before. -/
def Decides (find : Lookup) (x : Compiling α) (p : Prop) : Prop :=
  ∀ n, (∃ a m, x.outcome find n = (.ok a, m)) ↔ p

theorem Decides.pure (a : α) : Decides find (Pure.pure a) True :=
  fun n => ⟨fun _ => trivial, fun _ => ⟨a, n, rfl⟩⟩

theorem Decides.congr {x : Compiling α} (h : Decides find x p) (he : p ↔ q) : Decides find x q :=
  fun n => (h n).trans he

theorem Decides.never {x : Compiling α} (h : ∀ n a m, x.outcome find n ≠ (.ok a, m)) (hp : ¬p) :
    Decides find x p := by
  refine fun n => ⟨fun hx => ?_, fun hp' => absurd hp' hp⟩
  obtain ⟨a, m, hx⟩ := hx
  exact absurd hx (h n a m)

theorem Decides.check_error (e : GraphError) (hp : ¬p) :
    Decides find (check (.error e) : Compiling α) p :=
  .never (fun _ _ _ h => nomatch h) hp

theorem Decides.bind {x : Compiling α} {f : α → Compiling β} (h : Decides find x p)
    (hf : ∀ a, Decides find (f a) q) : Decides find (x >>= f) (p ∧ q) := by
  intro n
  rw [outcome_bind]
  cases hx : x.outcome find n with
  | mk r k =>
    cases r with
    | error e =>
      have hp : ¬p := by
        intro hp
        obtain ⟨a, m, ha⟩ := (h n).2 hp
        rw [hx] at ha
        cases ha
      refine ⟨fun hr => ?_, fun hpq => absurd hpq.1 hp⟩
      obtain ⟨b, m, hb⟩ := hr
      cases hb
    | ok a =>
      have hp : p := (h n).1 ⟨a, k, hx⟩
      exact (hf a k).trans ⟨fun hq => ⟨hp, hq⟩, fun hpq => hpq.2⟩

theorem Decides.mapM {f : α → Compiling β} {p : α → Prop} (xs : List α)
    (h : ∀ a ∈ xs, Decides find (f a) (p a)) : Decides find (xs.mapM f) (∀ a ∈ xs, p a) := by
  induction xs with
  | nil =>
    rw [List.mapM_nil]
    exact (Decides.pure []).congr ⟨fun _ _ ha => absurd ha List.not_mem_nil, fun _ => trivial⟩
  | cons x xs ih =>
    rw [List.mapM_cons, List.forall_mem_cons]
    rw [List.forall_mem_cons] at h
    exact h.1.bind fun y =>
      ((ih h.2).bind fun ys => Decides.pure (y :: ys)).congr (Iff.of_eq (and_true _))

theorem Decides.make {ε : Type} (making : Making ε α) : Decides find (Compiling.make making) True :=
  fun n => ⟨fun _ => trivial, fun _ => ⟨_, _, outcome_make find making n⟩⟩

theorem Decides.lookup {id : String} {f : Option Definition → Compiling β}
    {p : Definition → Prop} (none : Decides find (f .none) False)
    (some : ∀ d, find id = .ok (.some d) → Decides find (f (.some d)) (p d)) :
    Decides find (Compiling.lookup id >>= f) (∃ d, find id = .ok (.some d) ∧ p d) := by
  intro n
  rw [outcome_bind, outcome_lookup]
  cases hf : find id with
  | error e =>
    refine ⟨fun h => ?_, fun h => ?_⟩
    · obtain ⟨a, m, h⟩ := h
      cases h
    · obtain ⟨d, h, -⟩ := h
      cases h
  | ok found =>
    cases found with
    | none =>
      refine (none n).trans ⟨fun h => h.elim, fun h => ?_⟩
      obtain ⟨d, h, -⟩ := h
      cases h
    | some d =>
      refine (some d hf n).trans ⟨fun h => ⟨d, rfl, h⟩, fun h => ?_⟩
      obtain ⟨d', h, hp⟩ := h
      cases h
      exact hp

end Compiling

namespace Compiler

open Compiling

variable {c : Compiler} {find : Lookup} {limit levels : Nat} {stack : List String} {d : Definition}

theorem decides_fromPrototype (spec : NodeSpec) (p : Prototype) :
    Decides find (fromPrototype spec p) True := by
  unfold fromPrototype
  split
  · exact .pure _
  · split
    · exact .pure _
    · refine ((Decides.make _).bind (q := True) fun outcome => ?_).congr (Iff.of_eq (and_true _))
      cases outcome <;> exact .pure _

theorem decides_resolve (stored : c.hasStore = true)
    (nested : ∀ k, levels = k + 1 → ∀ d stack, stack.Nodup → stack.length + k = limit →
      Decides find (c.compileWith k d stack) (c.Nests find limit stack d))
    (nodup : stack.Nodup) (left : stack.length + levels = limit) (spec : NodeSpec) :
    Decides find (c.resolve stack (c.nested levels) spec)
      (c.prototypes.get? spec.componentId = none → ∃ f, find spec.componentId = .ok (some f) ∧
        c.Nests find limit (stack ++ [spec.componentId]) f) := by
  unfold resolve
  cases hp : c.prototypes.get? spec.componentId with
  | some p =>
    exact (decides_fromPrototype spec p).congr ⟨fun _ h => (nomatch h), fun _ => trivial⟩
  | none =>
    refine Decides.congr ?_ ⟨fun h _ => h, fun h => h rfl⟩
    have hlength : (stack ++ [spec.componentId]).length = stack.length + 1 := List.length_append
    dsimp only
    unfold fromPipeline
    rw [stored, Bool.not_true, if_neg Bool.false_ne_true]
    split
    -- The id stands on the stack, so the chain would repeat it.
    · next h =>
      refine .check_error _ fun ⟨f, _, hn⟩ => ?_
      exact (List.nodup_append.1 (nests_iff.1 hn).1).2.2 _ (List.contains_iff_mem.1 h) _
        (List.mem_singleton_self _) rfl
    · next h =>
      have hnodup : (stack ++ [spec.componentId]).Nodup := by
        rw [← List.concat_eq_append]
        exact nodup.concat fun hm => h (List.contains_iff_mem.2 hm)
      cases levels with
      -- The stack is as high as the limit.
      | zero =>
        refine .check_error _ fun ⟨f, _, hn⟩ => ?_
        have hdepth := (nests_iff.1 hn).2.1
        rw [hlength] at hdepth
        omega
      | succ levels =>
        refine Decides.lookup (.check_error _ not_false) fun f _ => ?_
        refine ((nested _ rfl f _ hnodup ?_).bind fun g => Decides.pure _).congr
          (Iff.of_eq (and_true _))
        rw [hlength]
        omega

theorem decides_assemble {inner : Option (Definition → List String → Compiling (Graph Component))}
    {p : NodeSpec → Prop} (h : ∀ spec, Decides find (c.resolve stack inner spec) (p spec)) :
    Decides find (c.assemble stack inner d) (d.IsWellFormed ∧ ∀ spec ∈ d.nodes, p spec) := by
  by_cases hd : d.IsWellFormed
  · obtain ⟨l, edges, hl, he⟩ := Layout.accepted_iff.2 hd
    have hzip : (d.nodes.zip edges).map Prod.fst = d.nodes :=
      List.map_fst_zip (Except.mapM_eq_ok_iff.1 he).length_eq.le
    have hall : (∀ pair ∈ d.nodes.zip edges, p pair.1) ↔ ∀ spec ∈ d.nodes, p spec := by
      rw [← List.forall_mem_map, hzip]
    unfold assemble
    rw [hl, check_ok_bind, he, check_ok_bind, and_iff_right hd, ← hall, ← and_true (∀ _, _)]
    refine (Decides.mapM _ fun (spec, leaving) _ => ?_).bind fun nodes => Decides.pure _
    exact ((h spec).bind fun slot => Decides.pure _).congr (Iff.of_eq (and_true _))
  · exact .never (fun n g m hg => hd (isWellFormed_of_assemble (gives_of_outcome find hg)))
      fun hp => hd hp.1

/-- With as many levels left as the limit leaves, a definition is compiled exactly if it nests
well. -/
theorem decides_compileWith (stored : c.hasStore = true) (levels : Nat) :
    ∀ (d : Definition) (stack : List String), stack.Nodup → stack.length + levels = limit →
      Decides find (c.compileWith levels d stack) (c.Nests find limit stack d) := by
  -- Both cases of the induction are the same but for the nested pipelines.
  have step : ∀ levels, (∀ k, levels = k + 1 → ∀ d stack, stack.Nodup → stack.length + k = limit →
        Decides find (c.compileWith k d stack) (c.Nests find limit stack d)) →
      ∀ d stack, stack.Nodup → stack.length + levels = limit →
        Decides find (c.compileWith levels d stack) (c.Nests find limit stack d) := by
    intro levels nested d stack nodup left
    rw [compileWith_eq]
    refine (decides_assemble (decides_resolve stored nested nodup left)).congr ?_
    have hlength : stack.length ≤ limit := by omega
    rw [nests_iff, and_iff_right nodup, and_iff_right hlength, forall_refers_iff]
  induction levels with
  | zero => exact step 0 fun k hk => nomatch hk
  | succ levels ih =>
    refine step (levels + 1) fun k hk => ?_
    cases hk
    exact ih

end Compiler

/-! ## How long compiling takes -/

/-- Work that waits goes on as the other, whatever is found if it waits for a pipeline. -/
inductive Suspended.Resumes {α : Type} : Suspended α → Suspended α → Prop where
  | pause (next : Suspended α) : Resumes (.pause next) next
  | lookup {id : String} {next : Except PipelineError (Option Definition) → Suspended α}
      (found : Except PipelineError (Option Definition)) : Resumes (.lookup id next) (next found)

/-- The work is over after at most so many suspensions, whatever is found each time that a pipeline
is looked up, if no definition that is found has more nodes than the size. -/
inductive Suspended.EndsIn {α : Type} (size : Nat) : Nat → Suspended α → Prop where
  | done (k : Nat) (a : α) : EndsIn size k (.done a)
  | pause {k : Nat} {next : Suspended α} (h : EndsIn size k next) :
      EndsIn size (k + 1) (.pause next)
  | lookup {k : Nat} {id : String} {next : Except PipelineError (Option Definition) → Suspended α}
      (h : ∀ found, (∀ d, found = .ok (some d) → d.nodes.length ≤ size) →
        EndsIn size k (next found)) :
      EndsIn size (k + 1) (.lookup id next)

namespace Suspended

variable {α β : Type} {size k l : Nat}

theorem not_resumes_forever (works : Nat → Suspended α) :
    ¬∀ i, (works i).Resumes (works (i + 1)) := by
  intro h
  -- The induction is on the first work, and the sequence without it starts with a part of it.
  generalize hx : works 0 = x
  have first := h 0
  rw [hx] at first
  induction x generalizing works with
  | done a => cases first
  | pause next ih =>
    generalize hy : works 1 = y at first
    cases first
    exact ih (fun i => works (i + 1)) (fun i => h (i + 1)) hy (hy ▸ h 1)
  | lookup id next ih =>
    generalize hy : works 1 = y at first
    cases first with
    | lookup found => exact ih found (fun i => works (i + 1)) (fun i => h (i + 1)) hy (hy ▸ h 1)

theorem EndsIn.mono {x : Suspended α} (h : x.EndsIn size k) (hk : k ≤ l) : x.EndsIn size l := by
  induction h generalizing l with
  | done k a => exact .done l a
  | pause h ih =>
    obtain ⟨l, rfl⟩ := Nat.exists_eq_add_of_le' (Nat.one_le_of_lt hk)
    exact .pause (ih (Nat.le_of_succ_le_succ hk))
  | lookup h ih =>
    obtain ⟨l, rfl⟩ := Nat.exists_eq_add_of_le' (Nat.one_le_of_lt hk)
    exact .lookup fun found hf => ih found hf (Nat.le_of_succ_le_succ hk)

theorem EndsIn.bind {x : Suspended α} {f : α → Suspended β} (h : x.EndsIn size k)
    (hf : ∀ a, (f a).EndsIn size l) : (x.bind f).EndsIn size (k + l) := by
  induction h with
  | done k a => exact (hf a).mono (Nat.le_add_left l k)
  | pause h ih => exact (Nat.succ_add _ l) ▸ .pause ih
  | lookup h ih => exact (Nat.succ_add _ l) ▸ .lookup ih

end Suspended

namespace Compiling

variable {α β : Type} {size k l : Nat}

def EndsIn (size k : Nat) (x : Compiling α) : Prop := ∀ n, (x.run.run n).EndsIn size k

theorem EndsIn.pure (a : α) : EndsIn size k (Pure.pure a : Compiling α) := fun _ => .done k _

theorem EndsIn.check (o : Except GraphError α) : EndsIn size k (Compiling.check o) :=
  fun _ => .done k _

theorem EndsIn.make {ε : Type} (making : Making ε α) : EndsIn size 1 (Compiling.make making) :=
  fun _ => .pause (.done 0 _)

theorem EndsIn.mono {x : Compiling α} (h : EndsIn size k x) (hk : k ≤ l) : EndsIn size l x :=
  fun n => (h n).mono hk

theorem EndsIn.bind {x : Compiling α} {f : α → Compiling β} (h : EndsIn size k x)
    (hf : ∀ a, EndsIn size l (f a)) : EndsIn size (k + l) (x >>= f) := by
  intro n
  refine (h n).bind fun r => ?_
  obtain ⟨outcome, m⟩ := r
  cases outcome with
  | error e => exact .done l _
  | ok a => exact hf a m

theorem EndsIn.lookup {id : String} {f : Option Definition → Compiling β}
    (h : ∀ found, (∀ d, found = some d → d.nodes.length ≤ size) → EndsIn size k (f found)) :
    EndsIn size (k + 1) (Compiling.lookup id >>= f) := by
  refine fun n => .lookup fun found hf => ?_
  cases found with
  | error e => exact .done k _
  | ok found => exact h found (fun d hd => hf d (congrArg Except.ok hd)) n

theorem EndsIn.mapM {f : α → Compiling β} (h : ∀ a, EndsIn size k (f a)) (xs : List α) :
    EndsIn size (xs.length * k) (xs.mapM f) := by
  induction xs with
  | nil =>
    rw [List.mapM_nil]
    exact .pure []
  | cons x xs ih =>
    rw [List.mapM_cons]
    refine ((h x).bind fun y => ih.bind fun ys => EndsIn.pure (k := 0) _).mono ?_
    rw [List.length_cons, Nat.succ_mul]
    omega

end Compiling

namespace Compiler

open Compiling

variable {c : Compiler} {find : Lookup} {size k : Nat} {stack : List String} {d : Definition}
  {inner : Option (Definition → List String → Compiling (Graph Component))}

/-- A node costs one suspension and those of the pipeline that it refers to. -/
theorem endsIn_resolve (h : ∀ f ∈ inner, ∀ d s, d.nodes.length ≤ size → EndsIn size k (f d s))
    (spec : NodeSpec) : EndsIn size (k + 1) (c.resolve stack inner spec) := by
  unfold resolve
  cases c.prototypes.get? spec.componentId with
  | some p =>
    dsimp only
    unfold fromPrototype
    split
    · exact .pure _
    · split
      · exact .pure _
      · refine ((EndsIn.make _).bind (l := k) fun outcome => ?_).mono (Nat.add_comm 1 k).le
        cases outcome <;> exact .pure _
  | none =>
    dsimp only
    unfold fromPipeline
    split
    · exact .check _
    split
    · exact .check _
    cases inner with
    | none => exact .check _
    | some f =>
      refine EndsIn.lookup fun found hsize => ?_
      cases found with
      | none => exact .check _
      | some d => exact (h f rfl d _ (hsize d rfl)).bind fun g => EndsIn.pure (k := 0) _

theorem endsIn_assemble (h : ∀ f ∈ inner, ∀ d s, d.nodes.length ≤ size → EndsIn size k (f d s))
    (hd : d.nodes.length ≤ size) : EndsIn size (size * (k + 1)) (c.assemble stack inner d) := by
  have hlength : ∀ edges : List (List Edge),
      (d.nodes.zip edges).length * (k + 1) ≤ size * (k + 1) :=
    fun edges => Nat.mul_le_mul_right _ (by rw [List.length_zip]; omega)
  refine (((EndsIn.check (k := 0) _).bind fun l => (EndsIn.check (k := 0) _).bind fun edges =>
    ((EndsIn.mapM (fun (spec, leaving) => ?_) _).mono (hlength edges)).bind
      fun nodes => EndsIn.pure (k := 0) _)).mono (by omega)
  exact (endsIn_resolve h spec).bind fun slot => EndsIn.pure (k := 0) _

/-- Every level of pipelines multiplies the suspensions by the number of nodes. -/
theorem endsIn_compileWith (levels : Nat) (hd : d.nodes.length ≤ size) :
    EndsIn size (∑ i ∈ Finset.range (levels + 1), size ^ (i + 1))
      (c.compileWith levels d stack) := by
  induction levels generalizing d stack with
  | zero =>
    rw [compileWith_eq]
    exact (endsIn_assemble (k := 0) (fun f hf => by cases hf) hd).mono (by simp)
  | succ levels ih =>
    have hinner : ∀ f ∈ c.nested (levels + 1), ∀ d s, d.nodes.length ≤ size →
        EndsIn size (∑ i ∈ Finset.range (levels + 1), size ^ (i + 1)) (f d s) := by
      intro f hf d s hd
      cases hf
      exact ih hd
    rw [compileWith_eq]
    refine (endsIn_assemble hinner hd).mono (Nat.le_of_eq ?_)
    -- The sum of one level more is the size times one more than the sum.
    rw [Finset.sum_range_succ' _ (levels + 1), Nat.mul_add, Finset.mul_sum]
    simp only [pow_succ', zero_add, pow_zero, mul_one]

/-! ## Chains that repeat an id -/

/-- What is reported when a chain of references comes to an id that stands on it. -/
def recursion (chain : List String) (id : String) : PipelineError :=
  .graph (.recursivePipeline (String.intercalate " -> " (chain ++ [id])))

variable {text : String}

theorem avoids_recursion_resolve (hfind : ∀ id, find id ≠ .error (.graph (.recursivePipeline text)))
    {spec : NodeSpec} (hs : spec ∈ d.nodes)
    (here : ∀ id, c.Refers d id → id ∈ stack →
      recursion stack id ≠ .graph (.recursivePipeline text))
    (below : ∀ f ∈ inner, ∀ id found, c.Refers d id → find id = .ok (some found) →
      Avoids find (.graph (.recursivePipeline text)) (f found (stack ++ [id]))) :
    Avoids find (.graph (.recursivePipeline text)) (c.resolve stack inner spec) := by
  unfold resolve
  cases hp : c.prototypes.get? spec.componentId with
  | some p => exact avoids_fromPrototype spec p
  | none =>
    have refers : c.Refers d spec.componentId := ⟨spec, hs, rfl, hp⟩
    exact avoids_fromPipeline (hfind _) (fun h => nomatch h) (fun h => nomatch h)
      (here _ refers) fun f hf found hfound => below f hf _ found refers hfound

/-- A recursion that is reported is that of a chain of references. -/
theorem avoids_recursion (hfind : ∀ id, find id ≠ .error (.graph (.recursivePipeline text)))
    (levels : Nat) (h : ∀ chain e id, c.Reaches find stack d chain e → c.Refers e id → id ∈ chain →
      recursion chain id ≠ .graph (.recursivePipeline text)) :
    Avoids find (.graph (.recursivePipeline text)) (c.compileWith levels d stack) := by
  induction levels generalizing d stack with
  | zero =>
    rw [compileWith_eq]
    refine avoids_assemble (fun g hg he => ?_) (fun _ _ _ he => nomatch he) fun spec hs =>
      avoids_recursion_resolve hfind hs (fun id => h _ _ id (.here stack d)) fun f hf => by cases hf
    cases he
    exact Layout.ofDefinition_ne_recursive d text hg
  | succ levels ih =>
    rw [compileWith_eq]
    refine avoids_assemble (fun g hg he => ?_) (fun _ _ _ he => nomatch he) fun spec hs =>
      avoids_recursion_resolve hfind hs (fun id => h _ _ id (.here stack d))
        fun f hf id found hr hl => ?_
    · cases he
      exact Layout.ofDefinition_ne_recursive d text hg
    · cases hf
      exact ih fun chain e id' k => h chain e id' (.there hr hl k)

/-! ## Exactness -/

/-- Compiling comes to an end whatever is found. It succeeds exactly if the definition nests well,
and a recursion is reported only for a chain of references that repeats an id. -/
theorem compiles_exactly (stored : c.hasStore = true) (deep : 1 ≤ c.maxDepth) (find : Lookup)
    (d : Definition) :
    (∀ n (works : Nat → Suspended (Except PipelineError (Graph Component) × Nat)),
      works 0 = (c.compile d).run.run n → ¬∀ i, (works i).Resumes (works (i + 1))) ∧
    (∀ size, d.nodes.length ≤ size →
      (c.compile d).EndsIn size (∑ i ∈ Finset.range c.maxDepth, size ^ (i + 1))) ∧
    (∀ n, (∃ g m, (c.compile d).outcome find n = (.ok g, m)) ↔ c.Nests find c.maxDepth [d.id] d) ∧
    ∀ n text, (∀ id, find id ≠ .error (.graph (.recursivePipeline text))) →
      ((c.compile d).outcome find n).1 = .error (.graph (.recursivePipeline text)) →
        ∃ chain e id, c.Reaches find [d.id] d chain e ∧ c.Refers e id ∧ id ∈ chain ∧
          text = String.intercalate " -> " (chain ++ [id]) := by
  have levels : c.maxDepth - 1 + 1 = c.maxDepth := Nat.sub_add_cancel deep
  refine ⟨fun n works _ => Suspended.not_resumes_forever works, fun size hd => ?_, ?_,
    fun n text hfind he => ?_⟩
  · rw [← levels]
    exact endsIn_compileWith _ hd
  · exact decides_compileWith stored _ d [d.id] (List.nodup_singleton _)
      ((Nat.add_comm _ _).trans levels)
  · by_contra hnone
    refine avoids_recursion hfind _ (fun chain e id k hr hm ht => hnone ?_) n he
    exact ⟨chain, e, id, k, hr, hm,
      (GraphError.recursivePipeline.inj (PipelineError.graph.inj ht)).symm⟩

end Compiler

/-! ## Pipelines that share one and pipelines in a circle -/

namespace Shared

def definition (id : String) (nodes : List (String × String)) : Definition :=
  { Definition.new id with
    root := nodes.head?.map Prod.fst
    nodes := nodes.map fun n => Workshop.spec n.1 n.2 [] }

def leaf : Definition := definition "leaf" [("x", "idle")]

/-- The leaf is referred to on four branches, on two of them below another pipeline. -/
def top : Definition :=
  definition "top" [("a", "left"), ("b", "right"), ("c", "leaf"), ("d", "leaf")]

def left : Definition := definition "left" [("x", "leaf")]

def right : Definition := definition "right" [("x", "idle"), ("y", "leaf")]

/-- Two pipelines that refer to each other. -/
def ring (id other : String) : Definition := definition id [("x", other)]

def find : Lookup := fun id =>
  .ok ([leaf, left, right, ring "ping" "pong", ring "pong" "ping"].find? fun d => d.id == id)

def compiler : Compiler :=
  { Workshop.compiler [("idle", .done)] with hasStore := true, maxDepth := 3 }

theorem nests_leaf {stack : List String} (nodup : stack.Nodup) (short : stack.length ≤ 3) :
    compiler.Nests find 3 stack leaf := by
  have hwf : leaf.IsWellFormed := Layout.accepted_iff.1 ⟨⟨"x", []⟩, [[]], rfl, rfl⟩
  refine Compiler.nests_iff.2 ⟨nodup, short, hwf, Compiler.forall_refers_iff.2 ?_⟩
  exact List.forall_mem_cons.2 ⟨fun h => (nomatch h), nofun⟩

theorem nests_left : compiler.Nests find 3 ["top", "left"] left := by
  have hwf : left.IsWellFormed := Layout.accepted_iff.1 ⟨⟨"x", []⟩, [[]], rfl, rfl⟩
  refine Compiler.nests_iff.2 ⟨by decide, by decide, hwf, Compiler.forall_refers_iff.2 ?_⟩
  exact List.forall_mem_cons.2 ⟨fun _ => ⟨leaf, rfl, nests_leaf (by decide) (by decide)⟩, nofun⟩

theorem nests_right : compiler.Nests find 3 ["top", "right"] right := by
  have hwf : right.IsWellFormed := Layout.accepted_iff.1 ⟨⟨"x", []⟩, [[], []], rfl, rfl⟩
  refine Compiler.nests_iff.2 ⟨by decide, by decide, hwf, Compiler.forall_refers_iff.2 ?_⟩
  refine List.forall_mem_cons.2 ⟨fun h => (nomatch h), List.forall_mem_cons.2 ⟨fun _ => ?_, nofun⟩⟩
  exact ⟨leaf, rfl, nests_leaf (by decide) (by decide)⟩

theorem nests_top : compiler.Nests find 3 ["top"] top := by
  have hwf : top.IsWellFormed := Layout.accepted_iff.1 ⟨⟨"a", []⟩, [[], [], [], []], rfl, rfl⟩
  have hleaf : compiler.Nests find 3 ["top", "leaf"] leaf := nests_leaf (by decide) (by decide)
  refine Compiler.nests_iff.2 ⟨by decide, by decide, hwf, Compiler.forall_refers_iff.2 ?_⟩
  refine List.forall_mem_cons.2 ⟨fun _ => ⟨left, rfl, nests_left⟩, ?_⟩
  refine List.forall_mem_cons.2 ⟨fun _ => ⟨right, rfl, nests_right⟩, ?_⟩
  refine List.forall_mem_cons.2 ⟨fun _ => ⟨leaf, rfl, hleaf⟩, ?_⟩
  exact List.forall_mem_cons.2 ⟨fun _ => ⟨leaf, rfl, hleaf⟩, nofun⟩

theorem not_nests_ring : ¬compiler.Nests find 3 ["ping"] (ring "ping" "pong") := by
  intro h
  have hring : ∀ id other, compiler.prototypes.get? other = none →
      compiler.Refers (ring id other) other :=
    fun id other hp => ⟨_, List.mem_singleton_self _, rfl, hp⟩
  have round := h.distinct _ _ (.there (hring _ _ rfl) rfl (.there (hring _ _ rfl) rfl (.here _ _)))
  exact absurd round (by decide)

end Shared

/-- A pipeline can be referred to on several branches, but pipelines cannot refer to each other. -/
theorem compiles_exactly_shared :
    (∃ g m, (Shared.compiler.compile Shared.top).outcome Shared.find 0 = (.ok g, m)) ∧
      ¬∃ g m, (Shared.compiler.compile (Shared.ring "ping" "pong")).outcome Shared.find 0 =
        (.ok g, m) :=
  have exactly := fun d => (Compiler.compiles_exactly (c := Shared.compiler) rfl (by decide)
    Shared.find d).2.2.1 0
  ⟨(exactly _).2 Shared.nests_top, fun h => Shared.not_nests_ring ((exactly _).1 h)⟩

end Conduit
