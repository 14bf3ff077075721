import Conduit.Component.Library
import Conduit.Proofs.Graph.Sound

/-!
# Activities that keep a key

An activity keeps a key if nothing that it can come to erases it. A compiled graph holds no activities
but those of the prototypes and those that their factories make, so it keeps what they keep. The standard
components keep every key.
-/

namespace Conduit

/-! ## Activities -/

/-- The activity never erases the key, whatever it reads and is replied. -/
def Activity.Keeps (key : String) : Activity → Prop
  | .finish _ => True
  | .look next => ∀ values, (next values).Keeps key
  | .write _ _ next => next.Keeps key
  | .erase other next => other ≠ key ∧ next.Keeps key
  | .cancel next => next.Keeps key
  | .emit _ next => next.Keeps key
  | .note _ next => next.Keeps key
  | .pause _ next stopped => next.Keeps key ∧ stopped.Keeps key
  | .send _ next stopped => (∀ reply, (next reply).Keeps key) ∧ stopped.Keeps key

namespace Activity

variable {key : String}

@[simp] theorem keeps_finish (result : Result) : (finish result).Keeps key := trivial

@[simp] theorem keeps_done : done.Keeps key := trivial

@[simp] theorem keeps_fail (e : ComponentError) : (fail e).Keeps key := trivial

@[simp] theorem keeps_write (other : String) (value : Value) (next : Activity) :
    (write other value next).Keeps key ↔ next.Keeps key := Iff.rfl

@[simp] theorem keeps_cancel (next : Activity) : (cancel next).Keeps key ↔ next.Keeps key := Iff.rfl

@[simp] theorem keeps_emit (value : Value) (next : Activity) :
    (emit value next).Keeps key ↔ next.Keeps key := Iff.rfl

@[simp] theorem keeps_note (n : Note) (next : Activity) :
    (note n next).Keeps key ↔ next.Keeps key := Iff.rfl

@[simp] theorem keeps_pause (ms : Nat) (next stopped : Activity) :
    (pause ms next stopped).Keeps key ↔ next.Keeps key ∧ stopped.Keeps key := Iff.rfl

@[simp] theorem keeps_writeAll (pairs : List (String × Value)) (next : Activity) :
    (writeAll pairs next).Keeps key ↔ next.Keeps key := by
  induction pairs with
  | nil => rfl
  | cons p pairs ih => exact ih

@[simp] theorem keeps_noteAll (notes : List Note) (next : Activity) :
    (noteAll notes next).Keeps key ↔ next.Keeps key := by
  induction notes with
  | nil => rfl
  | cons n notes ih => exact ih

end Activity

/-! ## The activities of a graph -/

/-- The activity is that of the component, or of a node of its pipeline. -/
inductive Component.Holds : Component → Activity → Prop where
  | basic (kind : String) (activity : Activity) : Holds (.basic kind activity) activity
  | node {graph : Graph Component} {n : GraphNode Component} {component : Component} {origin : Origin}
      {activity : Activity} (mem : n ∈ graph.nodes) (slot : n.slot = .ready component origin)
      (holds : Holds component activity) : Holds (.pipeline graph) activity

/-- The activity is that of a node of the graph, or of a pipeline in it. -/
def Graph.Holds (g : Graph Component) (activity : Activity) : Prop :=
  (Component.pipeline g).Holds activity

/-- The activity is that of a component that the factory makes. -/
def Factory.Makes (f : Factory) (activity : Activity) : Prop :=
  ∃ parameters draft config, f.create parameters = .ok draft ∧ draft.prepare config = .ok activity

/-- The activity is that of the shared instance, or of one that the factory makes. -/
def Prototype.Holds (p : Prototype) (activity : Activity) : Prop :=
  p.shared.Holds activity ∨ p.factory.Makes activity

theorem Prototype.prepare_of_holds {draft : Draft} {config : Config} {component : Component}
    {activity : Activity} (h : prepare draft config = .ok component)
    (holds : component.Holds activity) : draft.prepare config = .ok activity := by
  unfold prepare at h
  cases hp : draft.prepare config with
  | error e =>
    rw [hp] at h
    cases h
  | ok prepared =>
    rw [hp] at h
    cases h
    cases holds
    rfl

theorem Factory.create_of_make {f : Factory} {parameters : Json} {draft : Draft} {i j : Nat}
    (h : (f.make parameters).run i = (.ok draft, j)) : f.create parameters = .ok draft := by
  unfold make at h
  obtain ⟨made, k, hc, h⟩ := Making.run_bind h
  have hd : made = draft := by
    split at h <;> cases h <;> rfl
  exact hd ▸ congrArg Prod.fst hc

theorem Prototype.makes_of_instantiate {p : Prototype} {node : String} {overrides : Json}
    {component : Component} {activity : Activity} {i j : Nat}
    (h : (p.instantiate node overrides).run i = (.ok component, j))
    (holds : component.Holds activity) : p.factory.Makes activity := by
  unfold instantiate at h
  obtain ⟨draft, k, hd, h⟩ := Making.run_bind h
  exact ⟨_, draft, _, Factory.create_of_make hd, prepare_of_holds (congrArg Prod.fst h) holds⟩

theorem Prototype.makes_of_make {name : String} {factory : Factory} {parameters : Json}
    {p : Prototype} {activity : Activity} {i j : Nat}
    (h : (make name factory parameters).run i = (.ok p, j)) (holds : p.Holds activity) :
    factory.Makes activity := by
  unfold make at h
  obtain ⟨draft, k, hd, h⟩ := Making.run_bind h
  obtain ⟨component, k, hc, h⟩ := Making.run_bind h
  cases h
  rcases holds with holds | makes
  · exact ⟨_, draft, _, Factory.create_of_make hd,
      prepare_of_holds (congrArg Prod.fst hc) holds⟩
  · exact makes

/-! ## The activities of a compiled graph -/

namespace Compiler

variable {c : Compiler} {n m : Nat} {activity : Activity}

theorem holds_of_fromPrototype {spec : NodeSpec} {p : Prototype} {component : Component}
    {origin : Origin} (h : (fromPrototype spec p).Gives n (.ready component origin) m)
    (holds : component.Holds activity) : p.Holds activity := by
  unfold fromPrototype at h
  split at h
  · cases Compiling.gives_pure h
    exact .inl holds
  · split at h
    · cases Compiling.gives_pure h
    · obtain ⟨outcome, k, hm, h⟩ := Compiling.gives_bind h
      cases outcome with
      | error e => cases Compiling.gives_pure h
      | ok made =>
        cases Compiling.gives_pure h
        exact .inr (Prototype.makes_of_instantiate (Compiling.gives_make hm) holds)

theorem holds_of_resolve {stack : List String}
    {nested : Option (Definition → List String → Compiling (Graph Component))}
    (known : ∀ compile ∈ nested, ∀ d stack i g j, (compile d stack).Gives i g j → g.Holds activity →
      ∃ q ∈ c.prototypes, q.2.Holds activity)
    {spec : NodeSpec} {component : Component} {origin : Origin}
    (h : (c.resolve stack nested spec).Gives n (.ready component origin) m)
    (holds : component.Holds activity) : ∃ q ∈ c.prototypes, q.2.Holds activity := by
  rcases ready_of_resolve h with ⟨q, hq, h⟩ | ⟨compile, hc, d, stack, i, g, j, hg, rfl⟩
  · exact ⟨q, hq, holds_of_fromPrototype h holds⟩
  · exact known compile hc _ _ _ _ _ hg holds

theorem holds_of_assemble {stack : List String}
    {inner : Option (Definition → List String → Compiling (Graph Component))}
    (known : ∀ compile ∈ inner, ∀ d stack i g j, (compile d stack).Gives i g j → g.Holds activity →
      ∃ q ∈ c.prototypes, q.2.Holds activity)
    {d : Definition} {g : Graph Component} (h : (c.assemble stack inner d).Gives n g m)
    (holds : g.Holds activity) : ∃ q ∈ c.prototypes, q.2.Holds activity := by
  obtain ⟨l, -, -, -, hall⟩ := exists_layout h
  cases holds with
  | node mem slot holds =>
    obtain ⟨spec, -, -, -, -, -, i, j, hr⟩ := exists_spec hall _ mem
    exact holds_of_resolve known (slot ▸ hr) holds

theorem holds_of_compileWith (levels : Nat) :
    ∀ {d : Definition} {stack : List String} {n m : Nat} {g : Graph Component},
      (c.compileWith levels d stack).Gives n g m → g.Holds activity →
        ∃ q ∈ c.prototypes, q.2.Holds activity := by
  induction levels with
  | zero =>
    intro d stack n m g h holds
    exact holds_of_assemble (fun _ hc => by cases hc) (compileWith_eq .. ▸ h) holds
  | succ levels ih =>
    intro d stack n m g h holds
    refine holds_of_assemble (fun _ hc _ _ _ _ _ hg he => ?_) (compileWith_eq .. ▸ h) holds
    cases hc
    exact ih hg he

end Compiler

def Graph.Keeps (g : Graph Component) (key : String) : Prop :=
  ∀ activity, g.Holds activity → activity.Keeps key

def Compiler.Keeps (c : Compiler) (key : String) : Prop :=
  ∀ q ∈ c.prototypes, ∀ activity, q.2.Holds activity → activity.Keeps key

theorem Compiler.Keeps.compiled {c : Compiler} {key : String} (h : c.Keeps key) {d : Definition}
    {g : Graph Component} {n m : Nat} (compiled : (c.compile d).Gives n g m) : g.Keeps key := by
  intro activity holds
  obtain ⟨q, hq, hx⟩ := holds_of_compileWith _ compiled holds
  exact h q hq activity hx

theorem Graph.Keeps.node {g : Graph Component} {key : String} (h : g.Keeps key)
    {n : GraphNode Component} {component : Component} {origin : Origin} {activity : Activity}
    (mem : n ∈ g.nodes) (slot : n.slot = .ready component origin)
    (holds : component.Holds activity) : activity.Keeps key :=
  h activity (.node mem slot holds)

/-! ## The standard components -/

/-- Nothing that the prepared component does erases the key. -/
def Draft.Keeps (draft : Draft) (key : String) : Prop :=
  ∀ config activity, draft.prepare config = .ok activity → activity.Keeps key

def Factory.Keeps (f : Factory) (key : String) : Prop :=
  ∀ activity, f.Makes activity → activity.Keeps key

theorem Draft.keeps_plain {activity : Activity} {key : String} (kind : String)
    (h : activity.Keeps key) : (plain kind activity).Keeps key := by
  intro config made hp
  cases hp
  exact h

theorem Factory.keeps_of_create {f : Factory} {key : String} {α : Type}
    {read : Json → Except ComponentError α} {draft : α → Draft}
    (create : ∀ parameters, f.create parameters = (read parameters).bind fun x => .ok (draft x))
    (keeps : ∀ x, (draft x).Keeps key) : f.Keeps key := by
  rintro activity ⟨parameters, made, config, hc, hp⟩
  rw [create] at hc
  cases hr : read parameters with
  | error e =>
    rw [hr] at hc
    cases hc
  | ok x =>
    rw [hr] at hc
    cases hc
    exact keeps x config activity hp

namespace Library

variable (key : String)

theorem keeps_setValues (values : Entries Json) : (setValues values).Keeps key := by
  simp [setValues]

theorem keeps_requestEnd : requestEnd.Keeps key := by
  simp [requestEnd]

theorem keeps_route (p : RouteParameters) : (route p).Keeps key := by
  intro values
  dsimp only
  split <;> simp

theorem keeps_log (p : LogParameters) : (log p).Keeps key := by
  intro values
  simp

theorem keeps_emitKey (p : EmitParameters) : (emitKey p).Keeps key := by
  intro values
  dsimp only
  split
  · simp
  · split <;> simp

theorem keeps_delay (ms : Nat) : (delay ms).Keeps key := by
  simp [delay]

theorem keeps_jsonParse (keys : KeyMapping) : (jsonParse keys).Keeps key := by
  intro values
  dsimp only
  split
  · simp
  · split <;> simp
  · simp

theorem keeps_jsonStringify (keys : KeyMapping) : (jsonStringify keys).Keeps key := by
  intro values
  dsimp only
  split <;> simp

theorem keeps_storeReply (p : BackendParameters) (request : Http.Request) (normal : String)
    (reply : Http.Reply) : (storeReply p request normal reply).Keeps key := by
  unfold storeReply
  split
  · simp
  · simp
  · split <;> simp

theorem keeps_callBackend (p : BackendParameters) : (callBackend p).Keeps key := by
  intro values
  dsimp only
  split
  · simp
  · exact ⟨keeps_storeReply key p _ _, Activity.keeps_fail _⟩

/-- A backend is called by a component only if its parameters have passed the check. -/
theorem keeps_backendFactory : backendFactory.Keeps key := by
  refine Factory.keeps_of_create (fun _ => rfl) fun p config activity hp => ?_
  dsimp only at hp
  cases hc : checkBackend p config with
  | error e =>
    rw [hc] at hp
    cases hp
  | ok _ =>
    rw [hc] at hp
    cases hp
    exact keeps_callBackend key p

theorem keeps_standard : ∀ f ∈ standard, f.Keeps key := by
  have plain : ∀ {f : Factory} {α : Type} {read : Json → Except ComponentError α}
      {activity : α → Activity} (kind : String), (∀ parameters, f.create parameters =
        (read parameters).bind fun x => .ok (.plain kind (activity x))) →
      (∀ x, (activity x).Keeps key) → f.Keeps key :=
    fun kind create keeps => Factory.keeps_of_create create fun x => Draft.keeps_plain kind (keeps x)
  unfold standard
  simp only [List.forall_mem_cons, List.not_mem_nil, IsEmpty.forall_iff, implies_true, and_true]
  refine ⟨plain _ (fun _ => rfl) (keeps_log key), keeps_backendFactory key,
    plain _ (fun _ => rfl) (keeps_jsonParse key), plain _ (fun _ => rfl) (keeps_jsonStringify key),
    plain _ (fun _ => rfl) (keeps_delay key), plain _ (fun _ => rfl) (keeps_setValues key), ?_,
    plain _ (fun _ => rfl) (keeps_route key), ?_, plain _ (fun _ => rfl) (keeps_emitKey key)⟩
  · exact @plain endFactory Unit (fun _ => .ok ()) (fun _ => requestEnd) _ (fun _ => rfl)
      fun _ => keeps_requestEnd key
  · exact plain _ (fun _ => rfl) fun _ => Activity.keeps_fail _

theorem keeps_stepEnd (p : StepParameters) : (stepEnd p).Keeps key := by
  unfold stepEnd
  split
  · simp
  · split <;> simp

theorem keeps_stepWork (p : StepParameters) : (stepWork p).Keeps key := by
  unfold stepWork
  split <;> simp [keeps_stepEnd]

theorem keeps_step (p : StepParameters) (prepared : Bool) : (step p prepared).Keeps key := by
  unfold step
  split
  · simp
  · split <;> simp [keeps_stepWork]

theorem keeps_stepFactory : stepFactory.Keeps key := by
  refine Factory.keeps_of_create (fun _ => rfl) fun p config activity hp => ?_
  dsimp only at hp
  split at hp
  · cases hp
  · cases hp
    exact keeps_step key p true

end Library

theorem Compiler.keeps_of_factories {c : Compiler} {key : String}
    (made : ∀ q ∈ c.prototypes, ∃ i j,
      (Prototype.make q.2.name q.2.factory q.2.parameters).run i = (.ok q.2, j))
    (factories : ∀ q ∈ c.prototypes, q.2.factory.Keeps key) : c.Keeps key := by
  intro q hq activity holds
  obtain ⟨i, j, hm⟩ := made q hq
  exact factories q hq activity (Prototype.makes_of_make hm holds)

/-- A compiler that knows only standard components keeps every key. -/
theorem Compiler.keeps_of_standard {c : Compiler} (key : String)
    (made : ∀ q ∈ c.prototypes, ∃ i j,
      (Prototype.make q.2.name q.2.factory q.2.parameters).run i = (.ok q.2, j))
    (standard : ∀ q ∈ c.prototypes, q.2.factory ∈ Library.standard) : c.Keeps key :=
  keeps_of_factories made fun q hq => Library.keeps_standard key _ (standard q hq)

end Conduit
