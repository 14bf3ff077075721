import Conduit.Proofs.Engine.History
import Conduit.Proofs.Graph.Snapshot

/-!
# One set of prototypes for each order

When an order begins to compile its definition, it takes the prototypes that are published then. The
main statement says that changes of the registry make no difference to it from then on, and none to
runs that have begun: without the changes everything else goes the same way.
-/

namespace Conduit

/-- How many steps an order takes until the outcome of the work is there. -/
def Suspended.steps {α : Type} (find : Lookup) : Suspended α → Nat
  | .done _ => 1
  | .pause next => next.steps find + 1
  | .lookup id next => (next (find id)).steps find + 1

/-- The definition is being compiled, or was. -/
def Progress.IsUnderWay : Progress → Prop
  | .fetching _ => False
  | .fetched _ => False
  | _ => True

/-- What an order has come to whose definition is compiled by the work. -/
def Progress.ComesOf (work : Suspended (Except PipelineError (Graph Component) × Nat)) :
    Progress → Prop
  | .fetching _ => False
  | .fetched _ => False
  | .compiling _ rest => ∀ r, rest.Yields r → work.Yields r
  | .compiled g => ∃ created, work.Yields (.ok g, created)
  | .failed _ => True
  | .over => True

theorem Progress.isUnderWay_ofOutcome (outcome : Except PipelineError (Graph Component)) :
    (ofOutcome outcome).IsUnderWay := by
  cases outcome <;> trivial

namespace Engine

variable {e f : Engine} {n : Nat} {o : Order}
  {work : Suspended (Except PipelineError (Graph Component) × Nat)}

/-! ## One step -/

theorem isUnderWay_next (e : Engine) (h : o.progress.IsUnderWay) :
    (e.nextProgress o).IsUnderWay := by
  obtain ⟨target, purpose, task, progress⟩ := o
  unfold nextProgress
  cases progress with
  | fetching fetch => exact h.elim
  | fetched d => exact h.elim
  | compiling created rest =>
    cases rest with
    | done result => exact Progress.isUnderWay_ofOutcome _
    | _ => trivial
  | _ => cases purpose <;> trivial

theorem next_of_compiling {created : Nat} (h : o.progress = .compiling created work) :
    e.nextProgress o = match work with
      | .done (outcome, _) => .ofOutcome outcome
      | .pause next => .compiling created next
      | .lookup id next => .compiling created (next (e.find id)) := by
  obtain ⟨target, purpose, task, progress⟩ := o
  obtain rfl : progress = .compiling created work := h
  cases work <;> rfl

/-- To an order that is under way only the store matters. -/
theorem nextProgress_congr (h : o.progress.IsUnderWay) (hfind : e.find = f.find) :
    e.nextProgress o = f.nextProgress o := by
  obtain ⟨target, purpose, task, progress⟩ := o
  unfold nextProgress
  cases progress with
  | fetching fetch => exact h.elim
  | fetched d => exact h.elim
  | compiling created rest =>
    cases rest with
    | lookup id next =>
      exact congrArg (fun find : Lookup => Progress.compiling created (next (find id))) hfind
    | _ => rfl
  | _ => cases purpose <;> rfl

theorem comesOf_next (e : Engine) (h : o.progress.ComesOf work) :
    (e.nextProgress o).ComesOf work := by
  obtain ⟨target, purpose, task, progress⟩ := o
  unfold nextProgress
  cases progress with
  | fetching fetch => exact h.elim
  | fetched d => exact h.elim
  | compiling created rest =>
    cases rest with
    | done result =>
      obtain ⟨outcome, now⟩ := result
      cases outcome with
      | error error => trivial
      | ok g => exact ⟨now, h _ (.done _)⟩
    | pause next => exact fun r hr => h r (.pause hr)
    | lookup id next => exact fun r hr => h r (.lookup _ hr)
  | compiled g =>
    cases purpose with
    | run context => trivial
    | _ => exact h
  | _ => cases purpose <;> trivial

/-! ## Many steps -/

theorem orders_after_of_strides_eq_zero (h : e.orders.get n = some o) (known : n < e.nextOrder)
    {acts : List Act} (hs : strides acts n = 0) : (e.after acts).orders.get n = some o := by
  induction acts generalizing e with
  | nil => exact h
  | cons a acts ih =>
    rw [strides_cons] at hs
    have ha : ¬a.order? = some n := fun ha => by
      rw [if_pos ha] at hs
      cases hs
    have hnext := orders_act h known a
    rw [if_neg ha] at hnext
    exact ih hnext (known_act known a) (Nat.eq_zero_of_add_eq_zero_right hs)

theorem comesOf_after (h : e.orders.get n = some o) (known : n < e.nextOrder)
    (hp : o.progress.ComesOf work) (acts : List Act) :
    ∃ p, (e.after acts).orders.get n = some { o with progress := p } ∧ p.ComesOf work := by
  induction acts generalizing e o with
  | nil => exact ⟨o.progress, h, hp⟩
  | cons a acts ih =>
    have hnext : (if a.order? = some n then e.nextProgress o else o.progress).ComesOf work := by
      split
      · exact e.comesOf_next hp
      · exact hp
    obtain ⟨p, hlater, hp⟩ := ih (orders_act h known a) (known_act known a) hnext
    exact ⟨p, hlater, hp⟩

/-- After so many steps of its own the outcome of an order is that of its work, if the store stays
as it is. -/
theorem outcome_after {find : Lookup} (hfind : e.find = find) (h : e.orders.get n = some o)
    (known : n < e.nextOrder) {created : Nat} (hp : o.progress = .compiling created work)
    {acts : List Act} (kept : ∀ a ∈ acts, a.stock? = none)
    (hs : strides acts n = work.steps find) :
    (e.after acts).orders.get n = some { o with progress := .ofOutcome (work.run find).1 } := by
  induction acts generalizing e o work with
  | nil => cases work <;> cases hs
  | cons a acts ih =>
    rw [List.forall_mem_cons] at kept
    have hnext := orders_act h known a
    have hknown := known_act known a
    have hfind' : (e.act a).find = find := (find_act kept.1).trans hfind
    rw [strides_cons] at hs
    by_cases ha : a.order? = some n
    · rw [if_pos ha] at hs hnext
      rw [next_of_compiling hp] at hnext
      -- The step takes one layer off the work, and one step less is left for the other acts.
      cases work with
      | done result => exact orders_after_of_strides_eq_zero hnext hknown (Nat.succ.inj hs)
      | pause next =>
        have hlater := ih hfind' hnext hknown rfl kept.2 (Nat.succ.inj hs)
        exact hlater
      | lookup id next =>
        subst hfind
        have hlater := ih hfind' hnext hknown rfl kept.2 (Nat.succ.inj hs)
        exact hlater
    · rw [if_neg ha] at hs hnext
      exact ih hfind' hnext hknown hp kept.2 hs

/-! ## With and without changes of the registry -/

def Act.isRegistry : Act → Bool
  | .registry _ => true
  | _ => false

/-- What is left of some acts without calls of the registry. -/
def undisturbed (acts : List Act) : List Act := acts.filter fun a => !a.isRegistry

/-- The order's definition is being compiled, or was. -/
def IsUnderWay (e : Engine) (n : Nat) : Prop :=
  n < e.nextOrder ∧ ∃ o, e.orders.get n = some o ∧ o.progress.IsUnderWay

/-- The stores are alike, and so are some orders that are under way. -/
structure Alike (watched : Nat → Prop) (e f : Engine) : Prop where
  store : e.store = f.store
  files : e.files = f.files
  nextOrder : e.nextOrder = f.nextOrder
  underWay : ∀ n, watched n → e.IsUnderWay n
  orders : ∀ n, watched n → e.orders.get n = f.orders.get n

namespace Alike

variable {watched : Nat → Prop}

theorem refl (h : ∀ n, watched n → e.IsUnderWay n) : Alike watched e e :=
  ⟨rfl, rfl, rfl, h, fun _ _ => rfl⟩

theorem find (h : Alike watched e f) : e.find = f.find := by
  unfold Engine.find
  rw [h.store, h.files]

theorem registry (h : Alike watched e f) (a : Registry.Service.Act) :
    Alike watched (e.act (.registry a)) f :=
  ⟨h.store, h.files, h.nextOrder, h.underWay, h.orders⟩

theorem act (h : Alike watched e f) (a : Act) : Alike watched (e.act a) (f.act a) := by
  have hstock : ((e.act a).store, (e.act a).files) = ((f.act a).store, (f.act a).files) := by
    rw [stock_act, stock_act, h.store, h.files]
  have hnext : (e.act a).nextOrder = (f.act a).nextOrder := by
    cases a with
    | place target purpose => exact congrArg (· + 1) h.nextOrder
    | proceed n =>
      exact (e.proceed_frame n).2.2.2.trans (h.nextOrder.trans (f.proceed_frame n).2.2.2.symm)
    | _ => exact h.nextOrder
  have horders : ∀ n, watched n → (e.act a).IsUnderWay n ∧
      (e.act a).orders.get n = (f.act a).orders.get n := by
    intro n hn
    obtain ⟨known, o, ho, hp⟩ := h.underWay n hn
    have ho' := h.orders n hn ▸ ho
    -- How far they come depends on the store alone, which is the same in both.
    rw [orders_act ho known a, orders_act ho' (h.nextOrder ▸ known) a, nextProgress_congr hp h.find]
    refine ⟨⟨known_act known a, _, orders_act ho known a, ?_⟩, rfl⟩
    dsimp only
    split
    · exact isUnderWay_next _ hp
    · exact hp
  exact ⟨congrArg Prod.fst hstock, congrArg Prod.snd hstock, hnext, fun n hn => (horders n hn).1,
    fun n hn => (horders n hn).2⟩

theorem after (h : Alike watched e f) (acts : List Act) :
    Alike watched (e.after acts) (f.after (undisturbed acts)) := by
  induction acts generalizing e f with
  | nil => exact h
  | cons a acts ih =>
    cases a with
    | registry a => exact ih (h.registry a)
    | _ => exact ih (h.act _)

/-- In alike worlds the same happens, if only watched orders go on. -/
theorem world_act (h : Alike watched e f) (settings : e.settings = f.settings)
    (world : e.world = f.world) {a : Act} (ha : ∀ n, a.order? = some n → watched n) :
    (e.act a).world = (f.act a).world := by
  cases a with
  | world g => exact congrArg g world
  | place target purpose => exact congrArg (World.spawn · .launching) world
  | proceed n =>
    obtain ⟨-, o, ho, -⟩ := h.underWay n (ha n rfl)
    have ho' : f.orders.get n = some o := h.orders n (ha n rfl) ▸ ho
    refine (world_proceed ho).trans (Eq.trans ?_ (world_proceed ho').symm)
    unfold nextWorld
    rw [settings, world]
  | _ => exact world

theorem world_after (h : Alike watched e f) (settings : e.settings = f.settings)
    (world : e.world = f.world) {acts : List Act}
    (ha : ∀ a ∈ acts, ∀ n, a.order? = some n → watched n) :
    (e.after acts).world = (f.after (undisturbed acts)).world := by
  induction acts generalizing e f with
  | nil => exact world
  | cons a acts ih =>
    rw [List.forall_mem_cons] at ha
    have hsettings : ∀ a, (e.act a).settings = (f.act a).settings := fun a => by
      rw [settings_act, settings_act, settings]
    cases a with
    | registry a => exact ih (h.registry a) settings world ha.2
    | _ => exact ih (h.act _) (hsettings _) (h.world_act settings world ha.1) ha.2

end Alike

/-! ## All together -/

theorem orders_begin {d : Definition} (placed : e.orders.get n = some o) (known : n < e.nextOrder)
    (fetched : o.progress = .fetched d) (purpose : o.purpose ≠ .definition) :
    (e.proceed n).orders.get n = some { o with
      progress :=
        .compiling e.service.created ((e.compiler.compile d).run.run e.service.created) } := by
  have hnext : e.nextProgress o =
      .compiling e.service.created ((e.compiler.compile d).run.run e.service.created) := by
    unfold nextProgress
    rw [fetched]
    cases hp : o.purpose with
    | definition => exact absurd hp purpose
    | _ => rfl
  have hbegun := orders_act placed known (.proceed n)
  rw [if_pos (show Act.order? (.proceed n) = some n from rfl), hnext] at hbegun
  exact hbegun

theorem resolved_after {d : Definition} (placed : e.orders.get n = some o) (known : n < e.nextOrder)
    (fetched : o.progress = .fetched d) (purpose : o.purpose ≠ .definition) (acts : List Act)
    {g : Graph Component} (h : ((e.proceed n).after acts).progress? n = some (.compiled g)) :
    Resolved e.prototypes d g := by
  obtain ⟨p, hp, hc⟩ := comesOf_after (orders_begin placed known fetched purpose)
    (known_act known (.proceed n)) (fun _ hr => hr) acts
  obtain rfl : p = .compiled g :=
    Option.some.inj ((congrArg (Option.map Order.progress) hp).symm.trans h)
  obtain ⟨created, hy⟩ := hc
  exact Compiler.resolved_of_compileWith _ hy

theorem step_place (e : Engine) (target : Target) (purpose : Purpose) :
    (e.place target purpose).step e.world.nextTask =
      carryOn e.nextOrder e.world.nextTask patience { e.place target purpose with
        world := (e.place target purpose).world.step e.world.nextTask } := by
  have htask : (e.place target purpose).world.tasks.get e.world.nextTask = .launching :=
    Table.get_set_self _ _ _
  have hlaunched : (e.place target purpose).launched.get e.world.nextTask = some e.nextOrder :=
    Table.get_set_self _ _ _
  unfold step
  rw [htask]
  dsimp only
  rw [hlaunched]

/-- A definition is compiled with the prototypes that are published when that is asked for. -/
theorem resolved_compile {d : Definition} {g : Graph Component}
    (h : (e.compile d).2 = some (.ok g)) : Resolved e.prototypes d g := by
  let first : Engine := { e.place (.definition d) .graph with
    world := (e.place (.definition d) .graph).world.step e.world.nextTask }
  have hplaced : first.orders.get e.nextOrder =
      some ⟨.definition d, .graph, e.world.nextTask, .fetched d⟩ := get_place e _ _
  have hrests : first.rests e.nextOrder = false := by
    unfold rests
    rw [hplaced]
    rfl
  have hheld : first.isHeldUp e.nextOrder = false := by
    unfold isHeldUp progress?
    rw [hplaced]
    exact Bool.and_false _
  obtain ⟨fuel, hfuel⟩ := Nat.exists_eq_succ_of_ne_zero (show patience ≠ 0 by decide)
  have hleads : (first.proceed e.nextOrder).LeadsTo (e.fulfil (.definition d) .graph).1 := by
    unfold fulfil
    dsimp only
    rw [step_place, hfuel, carryOn, if_neg (Bool.eq_false_iff.1 hrests),
      if_neg (Bool.eq_false_iff.1 hheld)]
    exact (leadsTo_carryOn _ _ _ _).trans (leadsTo_driveUntil _ _ _ _)
  obtain ⟨acts, -, hacts⟩ := hleads
  refine resolved_after (e := first) hplaced (Nat.lt_succ_self _) rfl nofun acts ?_
  rw [← hacts]
  have h : ((e.fulfil (.definition d) .graph).1.progress? e.nextOrder).bind Progress.graph? =
      some (.ok g) := h
  cases hp : (e.fulfil (.definition d) .graph).1.progress? e.nextOrder with
  | none =>
    rw [hp] at h
    cases h
  | some p =>
    rw [hp] at h
    cases p with
    | compiled g' =>
      cases h
      rfl
    | _ => cases h

/-- A compilation sees the prototypes that were published when it began. Take any order that is
about to compile its definition, and anything that happens from then on. All components of its
graph, those of nested pipelines included, come from these prototypes. Without the calls of the
registry the order has come equally far, and has come to the same. If the store stays as it is, the
order comes after some steps of its own to what compiling at once would have come to. Runs go the
same way without the calls, if their definitions were being compiled or run before. -/
theorem compiles_one_snapshot {e : Engine} {n : Nat} {o : Order} {d : Definition}
    (placed : e.orders.get n = some o) (known : n < e.nextOrder) (fetched : o.progress = .fetched d)
    (purpose : o.purpose ≠ .definition) :
    let begun := e.proceed n
    (∀ acts g, (begun.after acts).progress? n = some (.compiled g) →
      Resolved e.prototypes d g) ∧
    (∀ acts, (begun.after acts).progress? n = (begun.after (undisturbed acts)).progress? n) ∧
    (∃ steps, ∀ acts, (∀ a ∈ acts, a.stock? = none) → strides acts n = steps →
      (begun.after acts).progress? n = some (.ofOutcome (e.compileWith e.compiler d).2)) ∧
    ∀ acts, (∀ a ∈ acts, ∀ m, a.order? = some m → begun.IsUnderWay m) →
      (begun.after acts).world = (begun.after (undisturbed acts)).world := by
  have hbegun := orders_begin placed known fetched purpose
  have hknown : n < (e.proceed n).nextOrder := known_act known (.proceed n)
  refine ⟨fun acts g => resolved_after placed known fetched purpose acts, fun acts => ?_,
    ⟨((e.compiler.compile d).run.run e.service.created).steps e.find, fun acts kept hs => ?_⟩,
    fun acts ha => ?_⟩
  · have hunder : ∀ m, m = n → (e.proceed n).IsUnderWay m := by
      rintro m rfl
      exact ⟨hknown, _, hbegun, trivial⟩
    exact congrArg (Option.map Order.progress) (((Alike.refl hunder).after acts).orders n rfl)
  · -- As long as the stock stays what it is, all look-ups answer alike.
    have hfind : (e.proceed n).find = e.find := find_act (a := .proceed n) rfl
    exact congrArg (Option.map Order.progress)
      (outcome_after hfind hbegun hknown rfl kept hs)
  · exact (Alike.refl fun _ h => h).world_after rfl rfl ha

end Engine

/-! ## An example -/

namespace Overtaken

def inner : Definition :=
  { Definition.new "inner" with nodes := [Workshop.spec "a" "idle" []] }

def outer : Definition :=
  { Definition.new "outer" with nodes := [Workshop.spec "x" "inner" []] }

/-- The outer pipeline is about to be compiled. -/
def engine : Engine :=
  (Engine.new Settings.usual [Workshop.factory "idle" (.finish .succeeded)]
    (.memory [("inner", inner)]) ⟨[], []⟩ Http.unreachable).place (.definition outer) .graph

/-- All prototypes are taken away before the inner pipeline is looked up. -/
def acts : List Engine.Act :=
  [.registry (.ask .teardown), .registry (.proceed 0), .proceed 0, .proceed 0]

end Overtaken

/-- A teardown that overtakes a compilation does not take the components from it. -/
theorem compiles_one_snapshot_overtaken :
    let now := (Overtaken.engine.proceed 0).after Overtaken.acts
    now.prototypes = [] ∧
      ∃ g, now.progress? 0 = some (.compiled g) ∧
        Resolved Overtaken.engine.prototypes Overtaken.outer g := by
  have snapshot := (Engine.compiles_one_snapshot (e := Overtaken.engine) (n := 0) rfl (by decide)
    rfl nofun).1 Overtaken.acts
  exact ⟨rfl, _, rfl, snapshot _ rfl⟩

end Conduit
