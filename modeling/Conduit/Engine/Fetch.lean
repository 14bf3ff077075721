import Conduit.Definition.Basic
import Conduit.Error

/-!
# Fetching definitions

Definitions that were found in the store are kept, by the ids under which they were asked for. To
fetch one takes three steps, and other work can come in between: what is kept is looked through, the
store is asked, and the store's answer is kept.
-/

namespace Conduit

/-- Definitions that were found, by the ids under which they were asked for. -/
abbrev Kept := Entries Definition

/-- How far the fetching of a definition has come. -/
inductive Fetch where
  /-- What is kept is to be looked through. -/
  | asked (id : String)
  /-- The store is to be asked. -/
  | missed (id : String)
  /-- The store's answer is to be kept. -/
  | found (id : String) (definition : Definition)
  | over (outcome : Except PipelineError Definition)

namespace Fetch

def step (find : String → Except PipelineError (Option Definition)) (kept : Kept) :
    Fetch → Kept × Fetch
  | .asked id =>
    match kept.get? id with
    | some d => (kept, .over (.ok d))
    | none => (kept, .missed id)
  | .missed id =>
    match find id with
    | .ok (some d) => (kept, .found id d)
    | .ok none => (kept, .over (.error (.graph (.notFound id))))
    | .error e => (kept, .over (.error e))
  | .found id d => (kept.insert id d, .over (.ok d))
  | .over outcome => (kept, .over outcome)

end Fetch

end Conduit
