import Conduit.Definition.Basic
import Conduit.Error
import Conduit.Graph.Basic
import Conduit.Text.Blank

/-!
# Layouts

The layout of a definition is its entry node and its edges. There is an edge from one node to
another when either of them lists the other, or when the first one has a condition for it. A
definition has a layout when it has nodes, their ids differ, every id that it mentions is one of
them, no edges go round in a circle, and it is clear where to enter.
-/

namespace Conduit

/-- An entry node and edges, each once. -/
structure Layout where
  root : String
  edges : List (String × String)

namespace Layout

def declaredBy (n : NodeSpec) : List (String × String) :=
  n.successors.map (fun target => (n.id, target)) ++
  n.predecessors.map (fun source => (source, n.id)) ++
  (Entries.keys n.conditions).map (fun target => (n.id, target))

/-- All declared edges, some of them more than once. -/
def declared (d : Definition) : List (String × String) := d.nodes.flatMap declaredBy

/-- The first item that stands in the list twice, at its second place. -/
def firstRepeated? : List String → List String → Option String
  | _, [] => none
  | seen, id :: rest => if seen.contains id then some id else firstRepeated? (id :: seen) rest

def firstUnknown? (ids : List String) : List (String × String) → Option String
  | [] => none
  | (source, target) :: rest =>
    if !ids.contains source then some source
    else if !ids.contains target then some target
    else firstUnknown? ids rest

def distinct : List (String × String) → List (String × String)
  | [] => []
  | e :: rest => e :: (distinct rest).filter fun f => f != e

theorem mem_distinct {e : String × String} (edges : List (String × String)) :
    e ∈ distinct edges ↔ e ∈ edges := by
  induction edges with
  | nil => simp [distinct]
  | cons d rest ih =>
    by_cases h : e = d
    · subst h
      simp [distinct]
    · simp [distinct, h, ih]

theorem nodup_distinct (edges : List (String × String)) : (distinct edges).Nodup := by
  induction edges with
  | nil => simp [distinct]
  | cons d rest ih =>
    refine List.nodup_cons.2 ⟨?_, ih.filter _⟩
    simp

/-- The ids are used up when those that no edge enters are taken away with the edges that leave
them, again and again. -/
def peels : Nat → List String → List (String × String) → Bool
  | 0, ids, _ => ids.isEmpty
  | rounds + 1, ids, edges =>
    let bound := ids.filter fun id => edges.any fun e => e.2 == id
    -- A round that takes nothing away is the last.
    if bound.length = ids.length then ids.isEmpty
    else peels rounds bound (edges.filter fun e => bound.contains e.1)

def isAcyclic (ids : List String) (edges : List (String × String)) : Bool :=
  peels ids.length ids edges

def entries (ids : List String) (edges : List (String × String)) : List String :=
  ids.filter fun id => !edges.any fun e => e.2 == id

/-- The node to enter at: the one that is named, or the only one that no edge enters. -/
def findRoot (named : Option String) (ids : List String) (edges : List (String × String)) :
    Except GraphError String :=
  match named with
  | some root => if ids.contains root then .ok root else .error (.nodeNotFound root)
  | none =>
    match entries ids edges with
    | [single] => .ok single
    | [] => .error (.invalid "no entry node")
    | many =>
      .error (.invalid ("ambiguous entry node, set `root` (candidates: " ++
        String.intercalate ", " many ++ ")"))

def ofDefinition (d : Definition) : Except GraphError Layout :=
  let ids := d.nodes.map NodeSpec.id
  if ids.isEmpty then .error (.invalid ("pipeline '" ++ d.id ++ "' has no nodes"))
  else
    match firstRepeated? [] ids with
    | some id => .error (.invalid ("duplicate node id '" ++ id ++ "'"))
    | none =>
      match firstUnknown? ids (declared d) with
      | some id => .error (.nodeNotFound id)
      | none =>
        let edges := distinct (declared d)
        -- A circle is reported before an entry that is missing.
        if isAcyclic ids edges then (findRoot d.root ids edges).map fun root => ⟨root, edges⟩
        else .error .cyclicDependency

def outgoing (l : Layout) (id : String) : List String :=
  (l.edges.filter fun e => e.1 == id).map Prod.snd

def incoming (l : Layout) (id : String) : List String :=
  (l.edges.filter fun e => e.2 == id).map Prod.fst

/-- The condition that a node has for an edge, if it is not blank. -/
def readCondition (spec : NodeSpec) (target : String) : Except GraphError (Option Condition) :=
  match Entries.get? spec.conditions target with
  | none => .ok none
  | some source =>
    if Text.isAllBlank source.toList then .ok none
    else
      match Condition.parse source with
      | .ok c => .ok (some c)
      | .error e => .error (.invalidCondition spec.id target e.message)

def edgesOf (l : Layout) (spec : NodeSpec) : Except GraphError (List Edge) :=
  (l.outgoing spec.id).mapM fun target => (readCondition spec target).map fun c => ⟨target, c⟩

end Layout

end Conduit
