import Conduit.Proofs.Entries
import Conduit.Proofs.Graph.Outcomes
import Conduit.Registry.Service

/-!
# Building prototypes

A prototype that is built does not depend on how many components were created before. Of the specs
of a name the last one counts, and a name without a spec has the default prototype of the factory of
that kind.
-/

namespace Conduit

/-! ## Prototypes -/

/-- The prototype of a name with some parameters, if its component can be created and prepared. -/
def Prototype.built (name : String) (factory : Factory) (parameters : Json) :
    Except ComponentError Prototype := do
  let draft ← factory.create parameters
  let component ← prepare draft ⟨name, none, parameters⟩
  return ⟨name, factory, parameters, component⟩

theorem StateM.bind_apply {σ α β : Type} (x : StateM σ α) (f : α → StateM σ β) (s : σ) :
    (x >>= f) s = f (x s).1 (x s).2 := rfl

theorem Factory.run_make (f : Factory) (parameters : Json) (n : Nat) :
    ((f.make parameters).run n).1 = f.create parameters := by
  unfold make
  cases f.create parameters with
  | error e => rfl
  | ok draft => cases f.tallied <;> rfl

theorem Prototype.run_make (name : String) (factory : Factory) (parameters : Json) (n : Nat) :
    ((make name factory parameters).run n).1 = built name factory parameters := by
  unfold make built
  rw [← factory.run_make parameters n]
  cases hm : (factory.make parameters).run n with
  | mk outcome k =>
    cases outcome with
    | error e => exact congrArg Prod.fst (Making.run_bind_of_error hm)
    | ok draft =>
      refine (congrArg Prod.fst (Making.run_bind_of_ok hm)).trans ?_
      change _ = (prepare draft ⟨name, none, parameters⟩).bind _
      cases prepare draft ⟨name, none, parameters⟩ <;> rfl

namespace Registry

def built (factories : Entries Factory) (spec : PrototypeSpec) : Except PipelineError Prototype :=
  match factories.get? spec.kind with
  | none => .error (.graph (.unknownComponentType spec.kind))
  | some factory =>
    (Prototype.built spec.name factory (specParameters factory spec)).mapError fun e =>
      .graph (.invalidParameter spec.name e.message)

theorem run_build (r : Registry) (spec : PrototypeSpec) (n : Nat) :
    ((r.build spec).run n).1 = built r.factories spec := by
  unfold build built
  cases r.factories.get? spec.kind with
  | none => rfl
  | some factory =>
    dsimp only
    rw [← Prototype.run_make spec.name factory (specParameters factory spec) n]
    refine (congrArg Prod.fst (StateM.bind_apply _ _ n)).trans ?_
    cases (Prototype.make spec.name factory (specParameters factory spec)).run n with
    | mk outcome m => cases outcome <;> rfl

/-- The prototype that a factory has by itself, if its default parameters do. -/
def default? (kind : String) (factory : Factory) : Option Prototype :=
  (Prototype.built kind factory factory.defaults).toOption

theorem run_withDefault (m : Prototypes) (kind : String) (factory : Factory) (n : Nat) :
    (withDefault m kind factory n).1 =
      match default? kind factory with
      | some p => m.insert kind p
      | none => m := by
  unfold withDefault default?
  rw [← Prototype.run_make kind factory factory.defaults n]
  refine (congrArg Prod.fst (StateM.bind_apply _ _ n)).trans ?_
  cases (Prototype.make kind factory factory.defaults).run n with
  | mk outcome k => cases outcome <;> rfl

/-! ## Many prototypes -/

/-- The prototypes are those of the specs and, under names without a spec, those that some factories
have by themselves. -/
structure IsFilled (factories defaults : Entries Factory) (specs : List PrototypeSpec)
    (m : Prototypes) : Prop where
  sorted : m.Sorted
  builds : ∀ spec ∈ specs, ∃ p, built factories spec = .ok p
  /-- The last spec of a name counts. -/
  specified : ∀ before spec after, specs = before ++ spec :: after →
    (∀ s ∈ after, s.name ≠ spec.name) → ∃ p, built factories spec = .ok p ∧
      m.get? spec.name = some p
  unspecified : ∀ name, (∀ spec ∈ specs, spec.name ≠ name) →
    m.get? name = (defaults.get? name).bind (default? name)

namespace IsFilled

variable {factories defaults : Entries Factory} {specs : List PrototypeSpec} {m : Prototypes}

theorem nil : IsFilled factories [] [] [] where
  sorted := Entries.sorted_nil
  builds := nofun
  specified _ _ _ h := absurd h.symm (List.append_ne_nil_of_right_ne_nil _ (List.cons_ne_nil _ _))
  unspecified _ _ := rfl

theorem withDefault (h : IsFilled factories defaults [] m) {kind : String} {factory : Factory}
    (new : kind ∉ Entries.keys defaults) (n : Nat) :
    IsFilled factories (defaults ++ [(kind, factory)]) []
      (Registry.withDefault m kind factory n).1 := by
  have hnone : m.get? kind = none := by
    rw [h.unspecified kind nofun, Entries.get?_eq_none new]
    rfl
  rw [run_withDefault]
  refine ⟨?_, nofun, fun before spec after he => ?_, fun name _ => ?_⟩
  · split
    · exact h.sorted.insert
    · exact h.sorted
  · exact absurd he.symm (List.append_ne_nil_of_right_ne_nil _ (List.cons_ne_nil _ _))
  · have hm := h.unspecified name nofun
    rw [Entries.get?_append, Entries.get?_cons, Entries.get?_nil]
    by_cases hk : kind = name
    · subst hk
      rw [Entries.get?_eq_none new, if_pos rfl, Option.none_or, Option.bind_some]
      cases default? kind factory with
      | some p => exact Entries.get?_insert_self _ _ _
      | none => exact hnone
    · rw [if_neg hk, Option.or_none, ← hm]
      cases default? kind factory with
      | some p => exact Entries.get?_insert_of_ne _ _ hk
      | none => rfl

theorem withSpec (h : IsFilled factories defaults specs m) {spec : PrototypeSpec} {p : Prototype}
    (hp : built factories spec = .ok p) :
    IsFilled factories defaults (specs ++ [spec]) (m.insert spec.name p) := by
  refine ⟨h.sorted.insert, fun s hs => ?_, fun before s after he hlast => ?_, fun name hn => ?_⟩
  · rcases List.mem_append.1 hs with hs | hs
    · exact h.builds s hs
    · exact ⟨p, List.mem_singleton.1 hs ▸ hp⟩
  · rcases List.eq_nil_or_concat after with rfl | ⟨front, last, rfl⟩
    · obtain ⟨-, he⟩ := List.append_inj' he rfl
      obtain rfl := List.head_eq_of_cons_eq he
      exact ⟨p, hp, Entries.get?_insert_self _ _ _⟩
    · rw [List.concat_eq_append, ← List.cons_append, ← List.append_assoc] at he
      obtain ⟨hfront, hlast'⟩ := List.append_inj' he rfl
      obtain rfl := List.head_eq_of_cons_eq hlast'
      obtain ⟨q, hq, hg⟩ := h.specified before s front hfront fun t ht => hlast t (by simp [ht])
      rw [Entries.get?_insert_of_ne _ _ (hlast spec (by simp))]
      exact ⟨q, hq, hg⟩
  · rw [Entries.get?_insert_of_ne _ _ (hn spec (by simp))]
    exact h.unspecified name fun s hs => hn s (List.mem_append_left _ hs)

end IsFilled

/-! ## Registries of factories -/

/-- The factories and the prototypes are in order. -/
structure IsSorted (r : Registry) : Prop where
  factories : r.factories.Sorted
  prototypes : r.prototypes.Sorted

theorem IsSorted.register {r : Registry} (h : r.IsSorted) (factory : Factory) (n : Nat) :
    (r.register factory n).1.IsSorted := by
  refine ⟨h.factories.insert, ?_⟩
  change Entries.Sorted (withDefault r.prototypes factory.kind factory n).1
  rw [run_withDefault]
  split
  · exact h.prototypes.insert
  · exact h.prototypes

theorem isSorted_ofFactories (factories : List Factory) (n : Nat) :
    (ofFactories factories n).1.IsSorted := by
  suffices h : ∀ (r : Registry) (n : Nat), r.IsSorted → (factories.foldlM register r n).1.IsSorted
    from h empty n ⟨Entries.sorted_nil, Entries.sorted_nil⟩
  induction factories with
  | nil => exact fun r n h => h
  | cons f rest ih =>
    intro r n h
    rw [List.foldlM_cons]
    exact ih _ _ (h.register f n)

end Registry

end Conduit
