import Conduit.Component.Library
import Conduit.Engine.Order
import Conduit.Engine.Settings
import Conduit.Registry.Service
import Conduit.Run.Step
import Conduit.Store.Basic

/-!
# The engine

An engine compiles pipelines against its registry and its store, and runs them in its world. Every
order is carried out by a task of the world, which waits when a directory has to be read.
-/

namespace Conduit

structure Engine where
  settings : Settings
  service : Registry.Service
  store : Store
  files : Files
  kept : Kept
  orders : Table (Option Order)
  nextOrder : Nat
  /-- The orders that launching tasks carry out. -/
  launched : Table (Option Nat)
  world : World

namespace Engine

/-- An engine with the factories registered in turn. -/
def new (settings : Settings) (factories : List Factory) (store : Store) (files : Files)
    (network : Http.Network) : Engine :=
  ⟨settings, .ofFactories factories, store, files, [], default, 0, default, .new network⟩

/-! ## Components -/

def prototypes (e : Engine) : Prototypes := e.service.registry.prototypes

/-- A call of the registry that no other comes in between. -/
def call (e : Engine) (op : Registry.Operation) : Engine × Option (Except PipelineError Nat) :=
  let (service, outcome) := e.service.perform op
  ({ e with service := service }, outcome)

def readSpecs (e : Engine) (start : List String) (path : String) :
    Except PipelineError (List PrototypeSpec) :=
  match e.files.read start path with
  | .error t => .error (.io t.message)
  | .ok text =>
    ((Json.Decoder.list PrototypeSpec.decoder).parse text).mapError fun fault =>
      .serialization fault.message

/-! ## Definitions -/

def find (e : Engine) (id : String) : Except PipelineError (Option Definition) :=
  e.store.find e.files id

/-- The definition of an id is fetched from the store the next time. -/
def invalidate (e : Engine) (id : String) : Engine := { e with kept := Entries.erase e.kept id }

def invalidateAll (e : Engine) : Engine := { e with kept := [] }

def compiler (e : Engine) : Compiler := ⟨e.prototypes, true, max e.settings.depth 1⟩

def count (e : Engine) (created : Nat) : Engine :=
  { e with service := { e.service with created := created } }

def compileWith (e : Engine) (c : Compiler) (d : Definition) :
    Engine × Except PipelineError (Graph Component) :=
  let (outcome, created) := ((c.compile d).run.run e.service.created).run e.find
  (e.count created, outcome)

/-! ## Orders -/

/-- A new order, and the task that is to carry it out. -/
def place (e : Engine) (target : Target) (purpose : Purpose) : Engine :=
  let t := e.world.nextTask
  { e with
    orders := e.orders.set e.nextOrder (some ⟨target, purpose, t, .ofTarget target⟩)
    nextOrder := e.nextOrder + 1
    launched := e.launched.set t (some e.nextOrder)
    world := e.world.spawn .launching }

def launch (e : Engine) (target : Target) (context : Nat) : Engine × Nat :=
  (e.place target (.run context), e.world.nextTask)

def progress? (e : Engine) (n : Nat) : Option Progress := (e.orders.get n).map Order.progress

def setProgress (e : Engine) (n : Nat) (p : Progress) : Engine :=
  { e with orders := e.orders.change n fun o => o.map fun o => { o with progress := p } }

def resume (e : Engine) (n created : Nat) :
    Suspended (Except PipelineError (Graph Component) × Nat) → Engine
  | .done (outcome, now) =>
    (e.count (e.service.created + (now - created))).setProgress n (.ofOutcome outcome)
  | .pause next => e.setProgress n (.compiling created next)
  | .lookup id next => e.setProgress n (.compiling created (next (e.find id)))

/-- An order goes one step on. To compile a definition the prototypes are taken that are published
when compiling begins. -/
def proceed (e : Engine) (n : Nat) : Engine :=
  match e.orders.get n with
  | none => e
  | some order =>
    match order.progress, order.purpose with
    | .fetching fetch, _ =>
      let (kept, fetch) := fetch.step e.find e.kept
      { e with kept := kept }.setProgress n (.ofFetch fetch)
    | .fetched _, .definition => e
    | .fetched d, _ =>
      let created := e.service.created
      e.setProgress n (.compiling created ((e.compiler.compile d).run.run created))
    | .compiling created work, _ => e.resume n created work
    -- The task of the order conducts the run from here on, and the order is over.
    | .compiled graph, .run context =>
      let e := e.setProgress n .over
      { e with
        world := e.world.conduct order.task graph context e.settings.limits e.settings.timeoutMs }
    | .failed error, .run _ =>
      let e := e.setProgress n .over
      { e with world := e.world.finish order.task (.over (.error error)) }
    | _, _ => e

def rests (e : Engine) (n : Nat) : Bool := (e.orders.get n).all Order.rests

/-- The order is about to wait for a directory to be read. -/
def isHeldUp (e : Engine) (n : Nat) : Bool :=
  e.store.isDirectory && (e.progress? n).any Progress.asksStore

/-- The order goes on until it is carried out or its task has to wait. -/
def carryOn (n t : Nat) : Nat → Engine → Engine
  | 0, e => e
  | fuel + 1, e =>
    if e.rests n then e
    else if e.isHeldUp n then
      let e := e.proceed n
      { e with world := e.world.wake t }
    else carryOn n t fuel (e.proceed n)

def patience : Nat := Nat.pow 2 62

/-! ## Running -/

def step (e : Engine) (t : Nat) : Engine :=
  let isLaunching := match e.world.tasks.get t with
    | .launching => true
    | _ => false
  let e := { e with world := e.world.step t }
  match isLaunching, e.launched.get t with
  | true, some n => carryOn n t patience e
  | _, _ => e

/-- How a launched task ended, and when, once it is over. -/
def ending? (e : Engine) (t : Nat) : Option (Ending × Nat) := e.world.endings.get t

end Engine

end Conduit
