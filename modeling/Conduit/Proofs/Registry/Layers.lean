import Conduit.Proofs.Except
import Conduit.Proofs.Registry.Calls

/-!
# The parameters of published prototypes

Every published prototype was registered as it is or was made of a factory. Then its parameters are
the factory's defaults with those of a spec, if there is one, merged onto them.
-/

namespace Conduit

/-- The base with an overlay merged onto it, unless the overlay has nothing to apply. -/
def Json.layered (base overlay : Json) : Json :=
  if overlay.isEmptyParameter then base else base.merge overlay

/-- The component that a factory creates from parameters and that is then prepared with them. -/
def Factory.component (f : Factory) (name : String) (node : Option String) (parameters : Json) :
    Except ComponentError Component := do
  let draft ← f.create parameters
  Prototype.prepare draft ⟨name, node, parameters⟩

/-- The shared component is the one that the factory creates from the prototype's parameters. -/
def Prototype.IsBuilt (p : Prototype) : Prop :=
  p.factory.component p.name none p.parameters = .ok p.shared

theorem Prototype.eq_of_built {p : Prototype} {name : String} {f : Factory} {parameters : Json}
    (h : built name f parameters = .ok p) :
    p.IsBuilt ∧ p.factory = f ∧ p.parameters = parameters := by
  obtain ⟨draft, hd, hprepare⟩ := Except.exists_of_bind h
  obtain ⟨component, hc, hp⟩ := Except.exists_of_bind hprepare
  cases hp
  refine ⟨?_, rfl, rfl⟩
  unfold IsBuilt Factory.component
  rw [hd]
  exact hc

namespace Registry

/-! ## Prototypes of factories -/

/-- The prototype is one of the factory: by a spec that gives some parameters, or by the factory
itself, and then nothing is given. -/
inductive IsMade (factories : Entries Factory) : Prototype → Factory → Json → Prop where
  | ofSpec {spec : PrototypeSpec} {p : Prototype} {f : Factory}
      (hf : factories.get? spec.kind = some f) (h : built factories spec = .ok p) :
      IsMade factories p f spec.parameters
  | ofFactory {kind : String} {p : Prototype} {f : Factory} (h : default? kind f = some p) :
      IsMade factories p f .null

variable {factories : Entries Factory} {p : Prototype} {name : String}

theorem exists_of_built {spec : PrototypeSpec} (h : built factories spec = .ok p) :
    ∃ f, factories.get? spec.kind = some f ∧
      Prototype.built spec.name f (specParameters f spec) = .ok p := by
  unfold built at h
  split at h
  · cases h
  · next f hf =>
    refine ⟨f, hf, ?_⟩
    cases hb : Prototype.built spec.name f (specParameters f spec) with
    | error e =>
      rw [hb] at h
      cases h
    | ok q =>
      rw [hb] at h
      cases h
      rfl

theorem isMade_of_built {spec : PrototypeSpec} (h : built factories spec = .ok p) :
    ∃ f given, IsMade factories p f given := by
  obtain ⟨f, hf, -⟩ := exists_of_built h
  exact ⟨f, _, .ofSpec hf h⟩

theorem IsMade.eq_layered {f : Factory} {given : Json} (h : IsMade factories p f given) :
    p.IsBuilt ∧ p.factory = f ∧ p.parameters = f.defaults.layered given := by
  cases h with
  | ofSpec hf h =>
    obtain ⟨g, hg, hb⟩ := exists_of_built h
    cases hg.symm.trans hf
    exact Prototype.eq_of_built hb
  | @ofFactory kind _ _ h =>
    unfold default? at h
    cases hb : Prototype.built kind f f.defaults with
    | error e =>
      rw [hb] at h
      cases h
    | ok q =>
      rw [hb] at h
      cases h
      exact Prototype.eq_of_built hb

/-! ## Published prototypes -/

theorem exists_last_spec {specs : List PrototypeSpec} (h : ∃ s ∈ specs, s.name = name) :
    ∃ before spec after, specs = before ++ spec :: after ∧ spec.name = name ∧
      ∀ s ∈ after, s.name ≠ name := by
  induction specs with
  | nil => simp at h
  | cons s rest ih =>
    by_cases hrest : ∃ t ∈ rest, t.name = name
    · -- The rest has one, and the last of the rest is the last of all.
      obtain ⟨before, spec, after, rfl, hname, hlast⟩ := ih hrest
      exact ⟨s :: before, spec, after, rfl, hname, hlast⟩
    · obtain ⟨t, ht, hname⟩ := h
      rcases List.mem_cons.1 ht with rfl | ht
      · exact ⟨[], t, rest, rfl, hname, fun u hu hn => hrest ⟨u, hu, hn⟩⟩
      · exact absurd ⟨t, ht, hname⟩ hrest

theorem IsFilled.isMade {specs : List PrototypeSpec} {m : Prototypes}
    (h : IsFilled factories factories specs m) (hp : m.get? name = some p) :
    ∃ f given, IsMade factories p f given := by
  by_cases hs : ∃ s ∈ specs, s.name = name
  · obtain ⟨before, spec, after, hsplit, rfl, hlast⟩ := exists_last_spec hs
    obtain ⟨q, hq, hm⟩ := h.specified before spec after hsplit hlast
    cases hm.symm.trans hp
    exact isMade_of_built hq
  · rw [h.unspecified name fun s hm hn => hs ⟨s, hm, hn⟩] at hp
    obtain ⟨f, -, hd⟩ := Option.bind_eq_some_iff.1 hp
    exact ⟨f, _, .ofFactory hd⟩

/-- The change gives the name the prototype. -/
def Change.Puts (change : Change) (name : String) (p : Prototype) : Prop :=
  (change.apply []).get? name = some p

theorem Change.get?_apply_cases {change : Change} {m : Prototypes}
    (h : (change.apply m).get? name = some p) : m.get? name = some p ∨ change.Puts name p := by
  cases change with
  | put other q =>
    rw [Change.apply, Entries.get?_insert] at h
    split at h
    · next hn => exact .inr ((Entries.get?_insert _ _ _ _).trans ((if_pos hn).trans h))
    · exact .inl h
  | replace prototypes => exact .inr h

theorem Operation.Asks.isMade {op : Operation} {change : Change} (h : op.Asks factories change)
    (hp : change.Puts name p) :
    op = .register name p ∨ ∃ f given, IsMade factories p f given := by
  unfold Change.Puts at hp
  cases h with
  | register other q =>
    rw [Change.apply, Entries.get?_insert] at hp
    split at hp
    · next hn =>
      cases hp
      exact .inl (hn ▸ rfl)
    · cases hp
  | registerSpec h =>
    rw [Change.apply, Entries.get?_insert] at hp
    split at hp
    · cases hp
      exact .inr (isMade_of_built h)
    · cases hp
  | reload h => exact .inr (h.isMade hp)
  | teardown => cases hp

theorem isMade_withDefault {m : Prototypes} {kind : String} {f : Factory} {n : Nat}
    (hm : ∀ q, m.get? name = some q → ∃ f given, IsMade factories q f given)
    (h : (withDefault m kind f n).1.get? name = some p) :
    ∃ f given, IsMade factories p f given := by
  rw [run_withDefault] at h
  split at h
  · next q hq =>
    rw [Entries.get?_insert] at h
    split at h
    · cases h
      exact ⟨f, _, .ofFactory hq⟩
    · exact hm p h
  · exact hm p h

theorem isMade_ofFactories (fs : List Factory)
    (h : (ofFactories fs 0).1.prototypes.get? name = some p) :
    ∃ f given, IsMade factories p f given := by
  suffices ∀ (r : Registry) (n : Nat),
      (∀ q, r.prototypes.get? name = some q → ∃ f given, IsMade factories q f given) →
      ∀ q, (fs.foldlM register r n).1.prototypes.get? name = some q →
        ∃ f given, IsMade factories q f given from
    this empty 0 (fun q hq => nomatch hq) p h
  clear h
  induction fs with
  | nil => exact fun r n hr => hr
  | cons f rest ih =>
    intro r n hr
    rw [List.foldlM_cons]
    exact ih _ _ fun q hq => isMade_withDefault hr hq

namespace Service

theorem asks_of_serves {call : Call} {op : Operation} {changes : List Change} {change : Change}
    (h : call.Serves factories op changes) (hc : change ∈ changes) : op.Asks factories change := by
  have absent {q : Prop} (h : changes = []) : q := absurd hc (h ▸ List.not_mem_nil)
  cases call with
  | loading source => exact absent h.2
  | building spec => exact absent h.2
  | filling rest specs m => exact absent h.1
  | publishing change => exact absent h.2
  | «over» outcome =>
    cases outcome with
    | error e => exact absent h.2
    | ok count =>
      obtain ⟨published, ha, rfl, -⟩ := h
      cases List.mem_singleton.1 hc
      exact ha

theorem get?_foldl_apply_cases {published : List (Nat × Change)} {m : Prototypes}
    (h : (published.foldl (fun m p => p.2.apply m) m).get? name = some p) :
    m.get? name = some p ∨ ∃ c ∈ published, c.2.Puts name p := by
  induction published generalizing m with
  | nil => exact .inl h
  | cons c rest ih =>
    rcases ih h with h | ⟨d, hd, hp⟩
    · rcases Change.get?_apply_cases h with h | hp
      · exact .inl h
      · exact .inr ⟨c, List.mem_cons_self, hp⟩
    · exact .inr ⟨d, List.mem_cons_of_mem _ hd, hp⟩

/-- A published prototype was registered under its name or is one of a factory. -/
theorem isMade_of_published (fs : List Factory) (acts : List Act)
    (h : ((ofFactories fs).after acts).registry.prototypes.get? name = some p) :
    .register name p ∈ operations acts ∨
      ∃ f given, IsMade (ofFactories fs).registry.factories p f given := by
  have sorted := isSorted_ofFactories fs 0
  have first : Follows (ofFactories fs) (ofFactories fs) [] [] := .refl sorted rfl fun k => rfl
  have follows := follows first sorted.factories.nodup_keys acts
  -- What is published now are the first prototypes with all changes of calls applied to them.
  rw [follows.prototypes] at h
  rcases get?_foldl_apply_cases h with h | ⟨⟨k, change⟩, hc, hp⟩
  · exact .inr (isMade_ofFactories fs h)
  · have hk := List.getElem?_eq_getElem (follows.known _ hc)
    obtain ⟨call, -, serves⟩ := follows.calls k _ hk
    have hmem : change ∈ changesOf ((ofFactories fs).publications acts) k :=
      List.mem_map.2 ⟨_, List.mem_filter.2 ⟨hc, beq_self_eq_true k⟩, rfl⟩
    refine ((asks_of_serves serves hmem).isMade hp).imp_left fun ho => ?_
    exact ho ▸ List.mem_of_getElem? hk

end Service

end Registry

end Conduit
