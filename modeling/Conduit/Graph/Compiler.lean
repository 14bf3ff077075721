import Conduit.Graph.Layout
import Conduit.Json.Reader
import Conduit.Registry.Basic

/-!
# Compiling

A definition is compiled against the prototypes that were published when compiling began. A node
whose component is no prototype refers to another pipeline, which is looked up and compiled in its
place. A compilation waits while a pipeline is looked up and while a component is prepared, and
other work can come in between.
-/

namespace Conduit

/-- Work that waits now and then. -/
inductive Suspended (α : Type) where
  | done (a : α)
  /-- Lets other work come in between. -/
  | pause (next : Suspended α)
  /-- Waits for an enabled pipeline to be looked up. -/
  | lookup (id : String) (next : Except PipelineError (Option Definition) → Suspended α)

namespace Suspended

def bind {α β : Type} : Suspended α → (α → Suspended β) → Suspended β
  | .done a, f => f a
  | .pause next, f => .pause (next.bind f)
  | .lookup id next, f => .lookup id fun found => (next found).bind f

instance : Monad Suspended where
  pure := .done
  bind := Suspended.bind

def run {α : Type} (find : String → Except PipelineError (Option Definition)) : Suspended α → α
  | .done a => a
  | .pause next => next.run find
  | .lookup id next => (next (find id)).run find

@[simp] theorem run_pure {α : Type} (find : String → Except PipelineError (Option Definition))
    (a : α) : (pure a : Suspended α).run find = a := rfl

@[simp] theorem run_bind {α β : Type} (find : String → Except PipelineError (Option Definition))
    (x : Suspended α) (f : α → Suspended β) : (x >>= f).run find = (f (x.run find)).run find := by
  induction x with
  | done a => rfl
  | pause next ih => exact ih
  | lookup id next ih => exact ih (find id)

end Suspended

/-- A step of compiling, which can fail and counts created components. -/
abbrev Compiling (α : Type) := ExceptT PipelineError (StateT Nat Suspended) α

namespace Compiling

def check {α : Type} (outcome : Except GraphError α) : Compiling α :=
  ExceptT.mk (pure (outcome.mapError .graph))

def lookup (id : String) : Compiling (Option Definition) :=
  ExceptT.mk fun n => .lookup id fun found => .done (found, n)

/-- Makes a component, and waits until it is prepared. -/
def make {ε α : Type} (making : Making ε α) : Compiling (Except ε α) :=
  ExceptT.mk fun n =>
    let (outcome, n) := making.run n
    .pause (.done (.ok outcome, n))

end Compiling

def readParameter (parameter : Json) : Except String Json :=
  match parameter with
  | .string text =>
    (Json.parse text).mapError fun f => "parameter is not valid JSON: " ++ f.message
  | j => .ok j

/-- What a compiler works with: the published prototypes, whether there are pipelines to look up,
and how deep pipelines may nest. -/
structure Compiler where
  prototypes : Prototypes
  hasStore : Bool
  maxDepth : Nat

namespace Compiler

def fromPrototype (spec : NodeSpec) (p : Prototype) : Compiling (Slot Component) :=
  if spec.parameter.isEmptyParameter then
    return .ready p.shared (.shared spec.componentId)
  else
    match readParameter spec.parameter with
    | .error reason => return .unusable reason
    | .ok overrides => do
      match ← Compiling.make (p.instantiate spec.id overrides) with
      | .ok component => return .ready component .own
      | .error e => return .unusable e.message

def tooDeep (c : Compiler) (id : String) : GraphError :=
  .invalid ("sub-pipeline nesting deeper than " ++ toString c.maxDepth ++ " at '" ++ id ++ "'")

/-- The slot of a node that refers to a pipeline. `nested` compiles it, if there is a level left. -/
def fromPipeline (c : Compiler) (stack : List String)
    (nested : Option (Definition → List String → Compiling (Graph Component))) (id : String) :
    Compiling (Slot Component) :=
  if !c.hasStore then Compiling.check (.error (.unknownComponentType id))
  else if stack.contains id then
    Compiling.check (.error (.recursivePipeline (String.intercalate " -> " (stack ++ [id]))))
  else
    match nested with
    | none => Compiling.check (.error (c.tooDeep id))
    | some compile => do
      match ← Compiling.lookup id with
      | none => Compiling.check (.error (.unknownComponentType id))
      | some definition => return .ready (.pipeline (← compile definition (stack ++ [id]))) .own

def resolve (c : Compiler) (stack : List String)
    (nested : Option (Definition → List String → Compiling (Graph Component))) (spec : NodeSpec) :
    Compiling (Slot Component) :=
  match c.prototypes.get? spec.componentId with
  | some p => fromPrototype spec p
  | none => c.fromPipeline stack nested spec.componentId

/-- The graph of a definition, below the pipelines of a stack and with some levels left. All
conditions are read before any component is made. -/
def compileWith (c : Compiler) (levels : Nat) (definition : Definition) (stack : List String) :
    Compiling (Graph Component) := do
  let layout ← Compiling.check (Layout.ofDefinition definition)
  let edges ← Compiling.check (definition.nodes.mapM layout.edgesOf)
  let nested := match levels with
    | 0 => none
    | n + 1 => some (compileWith c n)
  let nodes ← (definition.nodes.zip edges).mapM fun (spec, leaving) => do
    let slot ← c.resolve stack nested spec
    return ⟨spec.id, spec.componentId, slot, layout.incoming spec.id, leaving⟩
  return ⟨definition.id, layout.root, nodes⟩

def compile (c : Compiler) (definition : Definition) : Compiling (Graph Component) :=
  c.compileWith (c.maxDepth - 1) definition [definition.id]

end Compiler

end Conduit
