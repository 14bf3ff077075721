import Conduit.Engine.Clock
import Conduit.Proofs.Registry.Calls

/-!
# Histories of an engine

Orders, calls of the registry, invalidations, changes of the store and whatever happens in the world
come in between each other in any order. Whatever the clock does is such a history.
-/

namespace Conduit

namespace Engine

/-- Something that happens to an engine. -/
inductive Act where
  /-- A call of the registry is asked or goes on. -/
  | registry (a : Registry.Service.Act)
  /-- Tasks go on, time passes, or whatever else happens in the world. -/
  | world (f : World → World)
  | place (target : Target) (purpose : Purpose)
  /-- The order of the number goes one step on. -/
  | proceed (order : Nat)
  | invalidate (id : String)
  | invalidateAll
  /-- The store and the files are changed. -/
  | restock (store : Store) (files : Files)

def act (e : Engine) : Act → Engine
  | .registry a => { e with service := e.service.act a }
  | .world f => { e with world := f e.world }
  | .place target purpose => e.place target purpose
  | .proceed n => e.proceed n
  | .invalidate id => e.invalidate id
  | .invalidateAll => e.invalidateAll
  | .restock store files => { e with store := store, files := files }

def after (e : Engine) (acts : List Act) : Engine := acts.foldl act e

theorem after_append (e : Engine) (front back : List Act) :
    e.after (front ++ back) = (e.after front).after back := List.foldl_append

/-- The store and the files that are there from now on. -/
def Act.stock? : Act → Option (Store × Files)
  | .restock store files => some (store, files)
  | _ => none

/-- The engine was made and used. -/
def IsReached (e : Engine) : Prop :=
  ∃ settings factories store files network acts,
    e = (new settings factories store files network).after acts

/-! ## What the clock does -/

/-- A history leads from one engine to the other in which the store stays as it is. -/
def LeadsTo (e f : Engine) : Prop := ∃ acts, (∀ a ∈ acts, a.stock? = none) ∧ f = e.after acts

theorem LeadsTo.refl (e : Engine) : e.LeadsTo e := ⟨[], nofun, rfl⟩

theorem LeadsTo.trans {e f g : Engine} (h : e.LeadsTo f) (h' : f.LeadsTo g) : e.LeadsTo g := by
  obtain ⟨front, hfront, rfl⟩ := h
  obtain ⟨back, hback, rfl⟩ := h'
  exact ⟨front ++ back, List.forall_mem_append.2 ⟨hfront, hback⟩, (e.after_append front back).symm⟩

theorem leadsTo_world (e : Engine) (f : World → World) : e.LeadsTo { e with world := f e.world } :=
  ⟨[.world f], List.forall_mem_singleton.2 rfl, rfl⟩

theorem leadsTo_proceed (e : Engine) (n : Nat) : e.LeadsTo (e.proceed n) :=
  ⟨[.proceed n], List.forall_mem_singleton.2 rfl, rfl⟩

theorem leadsTo_registry (e : Engine) (a : Registry.Service.Act) :
    e.LeadsTo { e with service := e.service.act a } :=
  ⟨[.registry a], List.forall_mem_singleton.2 rfl, rfl⟩

theorem leadsTo_carryOn (n t fuel : Nat) (e : Engine) : e.LeadsTo (carryOn n t fuel e) := by
  induction fuel generalizing e with
  | zero => exact .refl e
  | succ fuel ih =>
    unfold carryOn
    split
    · exact .refl e
    · split
      · exact (e.leadsTo_proceed n).trans (leadsTo_world _ fun w => w.wake t)
      · exact (e.leadsTo_proceed n).trans (ih _)

theorem leadsTo_step (e : Engine) (t : Nat) : e.LeadsTo (e.step t) := by
  have h := e.leadsTo_world fun w => w.step t
  unfold step
  dsimp only
  split
  · exact h.trans (leadsTo_carryOn _ _ _ _)
  · exact h

theorem leadsTo_advance {e next : Engine} {horizon : Option Nat}
    (h : e.advance? horizon = some next) : e.LeadsTo next := by
  unfold advance? at h
  split at h
  · cases h
    exact e.leadsTo_step _
  · split at h
    · cases h
    · split at h
      · cases h
      · cases h
        exact e.leadsTo_world fun w => w.pass _

theorem leadsTo_driveUntil (stop : Engine → Bool) (horizon : Option Nat) (fuel : Nat) (e : Engine) :
    e.LeadsTo (driveUntil stop horizon fuel e) := by
  induction fuel generalizing e with
  | zero => exact .refl e
  | succ fuel ih =>
    unfold driveUntil
    split
    · exact .refl e
    · split
      · exact .refl e
      · next next h => exact (leadsTo_advance h).trans (ih next)

theorem leadsTo_fulfil (e : Engine) (target : Target) (purpose : Purpose) :
    (e.place target purpose).LeadsTo (e.fulfil target purpose).1 :=
  (leadsTo_step _ _).trans (leadsTo_driveUntil _ _ _ _)

theorem leadsTo_call (e : Engine) (op : Registry.Operation) : e.LeadsTo (e.call op).1 := by
  -- A call is acts of the registry one after the other.
  suffices h : ∀ (e : Engine) (acts : List Registry.Service.Act),
      e.LeadsTo { e with service := e.service.after acts } by
    have hs := h { e with service := e.service.ask op }
      (.replicate ((Registry.Call.ofOperation op).left e.service.registry)
        (.proceed e.service.nextCall))
    rw [← Registry.Service.proceedBy_eq] at hs
    exact (e.leadsTo_registry (.ask op)).trans hs
  intro e acts
  induction acts generalizing e with
  | nil => exact .refl e
  | cons a acts ih => exact (e.leadsTo_registry a).trans (ih _)

/-! ## One step of an order -/

def nextProgress (e : Engine) (o : Order) : Progress :=
  match o.progress, o.purpose with
  | .fetching fetch, _ => .ofFetch (fetch.step e.find e.kept).2
  | .fetched d, .definition => .fetched d
  | .fetched d, _ =>
    .compiling e.service.created ((e.compiler.compile d).run.run e.service.created)
  | .compiling _ (.done (outcome, _)), _ => .ofOutcome outcome
  | .compiling created (.pause next), _ => .compiling created next
  | .compiling created (.lookup id next), _ => .compiling created (next (e.find id))
  | .compiled _, .run _ => .over
  | .failed _, .run _ => .over
  | p, _ => p

theorem proceed_of_none {e : Engine} {n : Nat} (h : e.orders.get n = none) : e.proceed n = e := by
  unfold proceed
  rw [h]

theorem get_setProgress (e : Engine) (n m : Nat) (p : Progress) :
    (e.setProgress n p).orders.get m =
      if n = m then (e.orders.get n).map fun o => { o with progress := p } else e.orders.get m :=
  Table.get_change _ _ _ _

/-- The definitions that are kept after the order's next step. -/
def nextKept (e : Engine) (o : Order) : Kept :=
  match o.progress with
  | .fetching fetch => (fetch.step e.find e.kept).1
  | _ => e.kept

def nextCreated (e : Engine) (o : Order) : Nat :=
  match o.progress with
  | .compiling created (.done (_, now)) => e.service.created + (now - created)
  | _ => e.service.created

def nextWorld (e : Engine) (o : Order) : World :=
  match o.progress, o.purpose with
  | .compiled graph, .run context =>
    e.world.conduct o.task graph context e.settings.limits e.settings.timeoutMs
  | .failed error, .run _ => e.world.finish o.task (.over (.error error))
  | _, _ => e.world

theorem orders_proceed {e : Engine} {n : Nat} {o : Order} (h : e.orders.get n = some o) (m : Nat) :
    (e.proceed n).orders.get m =
      if n = m then some { o with progress := e.nextProgress o } else e.orders.get m := by
  -- An order either moves to its next progress or stays as it is.
  have moves : ∀ (f : Engine) (p : Progress), f.orders = e.orders →
      (f.setProgress n p).orders.get m =
        if n = m then some { o with progress := p } else e.orders.get m := by
    intro f p hf
    rw [get_setProgress, hf, h]
    rfl
  have stays : e.orders.get m = if n = m then some o else e.orders.get m := by
    split
    · next hnm => rw [← hnm, h]
    · rfl
  obtain ⟨target, purpose, task, progress⟩ := o
  unfold proceed nextProgress
  rw [h]
  cases progress with
  | fetching fetch => exact moves _ _ rfl
  | fetched d =>
    cases purpose with
    | definition => exact stays
    | graph => exact moves _ _ rfl
    | run c => exact moves _ _ rfl
  | compiling created work =>
    cases work with
    | done result => exact moves _ _ rfl
    | pause next => exact moves _ _ rfl
    | lookup id next => exact moves _ _ rfl
  | compiled g =>
    cases purpose with
    | run c => exact moves _ _ rfl
    | _ => exact stays
  | failed error =>
    cases purpose with
    | run c => exact moves _ _ rfl
    | _ => exact stays
  | «over» => exact stays

theorem proceed_eq {e : Engine} {n : Nat} {o : Order} (h : e.orders.get n = some o) :
    e.proceed n = { e with
      service := { e.service with created := e.nextCreated o }
      kept := e.nextKept o
      world := e.nextWorld o
      orders := (e.proceed n).orders } := by
  obtain ⟨target, purpose, task, progress⟩ := o
  unfold proceed nextCreated nextKept nextWorld
  rw [h]
  cases progress with
  | compiling created work => cases work <;> rfl
  | _ => cases purpose <;> rfl

theorem world_proceed {e : Engine} {n : Nat} {o : Order} (h : e.orders.get n = some o) :
    (e.proceed n).world = e.nextWorld o := congrArg Engine.world (proceed_eq h)

theorem proceed_frame (e : Engine) (n : Nat) :
    (e.proceed n).settings = e.settings ∧ (e.proceed n).store = e.store ∧
      (e.proceed n).files = e.files ∧ (e.proceed n).nextOrder = e.nextOrder := by
  cases h : e.orders.get n with
  | none =>
    rw [proceed_of_none h]
    exact ⟨rfl, rfl, rfl, rfl⟩
  | some o =>
    rw [proceed_eq h]
    exact ⟨rfl, rfl, rfl, rfl⟩

/-! ## One act -/

def Act.order? : Act → Option Nat
  | .proceed n => some n
  | _ => none

def strides (acts : List Act) (n : Nat) : Nat := (acts.filterMap Act.order?).count n

theorem strides_cons (a : Act) (acts : List Act) (n : Nat) :
    strides (a :: acts) n = strides acts n + if a.order? = some n then 1 else 0 := by
  unfold strides
  cases h : a.order? with
  | none => simp [h]
  | some m =>
    rw [List.filterMap_cons_some h, List.count_cons]
    simp

theorem stock_act (e : Engine) (a : Act) :
    ((e.act a).store, (e.act a).files) = a.stock?.getD (e.store, e.files) := by
  cases a with
  | proceed n =>
    obtain ⟨-, hstore, hfiles, -⟩ := e.proceed_frame n
    exact congrArg₂ Prod.mk hstore hfiles
  | _ => rfl

theorem find_act {e : Engine} {a : Act} (h : a.stock? = none) : (e.act a).find = e.find := by
  have hs := e.stock_act a
  rw [h] at hs
  obtain ⟨hstore, hfiles⟩ := Prod.mk.inj hs
  unfold find
  rw [hstore, hfiles]

theorem find_after {e : Engine} {acts : List Act} (h : ∀ a ∈ acts, a.stock? = none) :
    (e.after acts).find = e.find := by
  induction acts generalizing e with
  | nil => rfl
  | cons a acts ih =>
    rw [List.forall_mem_cons] at h
    exact (ih h.2).trans (find_act h.1)

theorem settings_act (e : Engine) (a : Act) : (e.act a).settings = e.settings := by
  cases a with
  | proceed n => exact (e.proceed_frame n).1
  | _ => rfl

theorem le_nextOrder_act (e : Engine) (a : Act) : e.nextOrder ≤ (e.act a).nextOrder := by
  cases a with
  | place target purpose => exact Nat.le_succ _
  | proceed n => exact Nat.le_of_eq (e.proceed_frame n).2.2.2.symm
  | _ => exact Nat.le_refl _

theorem le_nextOrder_after (e : Engine) (acts : List Act) :
    e.nextOrder ≤ (e.after acts).nextOrder := by
  induction acts generalizing e with
  | nil => exact Nat.le_refl _
  | cons a acts ih => exact Nat.le_trans (e.le_nextOrder_act a) (ih _)

theorem known_act {e : Engine} {n : Nat} (known : n < e.nextOrder) (a : Act) :
    n < (e.act a).nextOrder := Nat.lt_of_lt_of_le known (e.le_nextOrder_act a)

/-- An order that was placed is changed by its own steps only. -/
theorem orders_act {e : Engine} {n : Nat} {o : Order} (h : e.orders.get n = some o)
    (known : n < e.nextOrder) (a : Act) :
    (e.act a).orders.get n =
      some { o with progress := if a.order? = some n then e.nextProgress o else o.progress } := by
  cases a with
  | place target purpose =>
    exact (Table.get_set _ _ _ _).trans ((if_neg (Nat.ne_of_gt known)).trans h)
  | proceed m =>
    by_cases hm : m = n
    · subst hm
      refine (orders_proceed h m).trans ?_
      rw [if_pos rfl, if_pos (show Act.order? (.proceed m) = some m from rfl)]
    · have hne : ¬Act.order? (.proceed m) = some n := fun he => hm (Option.some.inj he)
      rw [if_neg hne]
      refine Eq.trans ?_ h
      change (e.proceed m).orders.get n = _
      cases hg : e.orders.get m with
      | none => rw [proceed_of_none hg]
      | some p => rw [orders_proceed hg, if_neg hm]
  | _ => exact h

theorem orders_after {e : Engine} {n : Nat} {o : Order} (h : e.orders.get n = some o)
    (known : n < e.nextOrder) (acts : List Act) :
    ∃ p, (e.after acts).orders.get n = some { o with progress := p } := by
  induction acts generalizing e o with
  | nil => exact ⟨o.progress, h⟩
  | cons a acts ih =>
    obtain ⟨p, hp⟩ := ih (orders_act h known a) (known_act known a)
    exact ⟨p, hp⟩

theorem get_place (e : Engine) (target : Target) (purpose : Purpose) :
    (e.place target purpose).orders.get e.nextOrder =
      some ⟨target, purpose, e.world.nextTask, .ofTarget target⟩ := Table.get_set_self _ _ _

end Engine

end Conduit
