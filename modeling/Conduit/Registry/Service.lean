import Conduit.Registry.Basic
import Conduit.Table

/-!
# A registry in service

The prototypes are changed by calls. A call is carried out step by step, and other calls can come in
between: what a source lists is loaded, the prototypes are built one after the other, and at last
the change is published as a whole. A call that fails publishes nothing.
-/

namespace Conduit.Registry

/-- What is asked of a registry. -/
inductive Operation where
  /-- A prototype is published under a name. -/
  | register (name : String) (prototype : Prototype)
  /-- The prototype of a spec is built and published. -/
  | registerSpec (spec : PrototypeSpec)
  /-- All prototypes are replaced by those of the factories and, over them, those of the specs that
  a source lists, if it can be read. -/
  | reload (source : Except PipelineError (List PrototypeSpec))
  /-- All prototypes are taken away. -/
  | teardown

/-- How far a call has come. -/
inductive Call where
  | loading (source : Except PipelineError (List PrototypeSpec))
  | building (spec : PrototypeSpec)
  /-- The prototypes of some factories and of some specs are still to be built. -/
  | filling (factories : Entries Factory) (specs : List PrototypeSpec) (built : Prototypes)
  | publishing (change : Change)
  /-- So many prototypes were published, or the call failed. -/
  | over (outcome : Except PipelineError Nat)

namespace Call

def ofOperation : Operation → Call
  | .register name prototype => .publishing (.put name prototype)
  | .registerSpec spec => .building spec
  | .reload source => .loading source
  | .teardown => .publishing (.replace [])

def outcome? : Call → Option (Except PipelineError Nat)
  | .over outcome => some outcome
  | _ => none

/-- The prototype of a spec is built, or the call is over. -/
def withBuilt (r : Registry) (spec : PrototypeSpec) (next : Prototype → Call) :
    StateM Nat (Registry × Call) := do
  match ← (r.build spec).run with
  | .ok p => return (r, next p)
  | .error e => return (r, .over (.error e))

def step (r : Registry) : Call → StateM Nat (Registry × Call)
  | .loading (.error e) => return (r, .over (.error e))
  | .loading (.ok specs) => return (r, .filling r.factories specs [])
  | .building spec => withBuilt r spec fun p => .publishing (.put spec.name p)
  | .filling ((kind, f) :: rest) specs built => do
    return (r, .filling rest specs (← withDefault built kind f))
  | .filling [] (spec :: rest) built =>
    withBuilt r spec fun p => .filling [] rest (built.insert spec.name p)
  | .filling [] [] built => return (r, .publishing (.replace built))
  | .publishing change => return (r.publish change, .over (.ok change.size))
  | .over outcome => return (r, .over outcome)

/-- How many steps are left at most. -/
def left (r : Registry) : Call → Nat
  | .loading (.error _) => 1
  | .loading (.ok specs) => r.factories.length + specs.length + 3
  | .building _ => 2
  | .filling factories specs _ => factories.length + specs.length + 2
  | .publishing _ => 1
  | .over _ => 0

end Call

/-- A registry, how many components tallied factories have created, and the calls. -/
structure Service where
  registry : Registry
  created : Nat
  calls : Table (Option Call)
  nextCall : Nat

namespace Service

def ofFactories (factories : List Factory) : Service :=
  let (registry, created) := (Registry.ofFactories factories).run 0
  ⟨registry, created, default, 0⟩

def ask (s : Service) (op : Operation) : Service :=
  { s with
    calls := s.calls.set s.nextCall (some (.ofOperation op))
    nextCall := s.nextCall + 1 }

def proceed (s : Service) (k : Nat) : Service :=
  match s.calls.get k with
  | none => s
  | some call =>
    let ((registry, call), created) := (call.step s.registry).run s.created
    { s with
      registry := registry
      created := created
      calls := s.calls.set k (some call) }

def proceedBy (k : Nat) : Nat → Service → Service
  | 0, s => s
  | n + 1, s => proceedBy k n (s.proceed k)

/-- A call that no other comes in between, and its outcome. -/
def perform (s : Service) (op : Operation) : Service × Option (Except PipelineError Nat) :=
  let k := s.nextCall
  let s := proceedBy k ((Call.ofOperation op).left s.registry) (s.ask op)
  (s, (s.calls.get k).bind Call.outcome?)

end Service

end Conduit.Registry
