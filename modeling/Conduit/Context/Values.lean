import Conduit.Condition.Evaluation

/-!
# Context values

The keys of a context with their values. Three keys steer a run: `error` holds the first error, a
truthy `end` stops the run with success, and `nextOverride` names the node to go on with.
-/

namespace Conduit

abbrev Values := Entries Value

namespace Values

def errorKey : String := "error"

def endKey : String := "end"

def overrideKey : String := "nextOverride"

def set (values : Values) (key : String) (value : Value) : Values := Entries.insert key value values

def setIfAbsent (values : Values) (key : String) (value : Value) : Values :=
  if Entries.contains values key then values else values.set key value

/-- The run is to stop with success. -/
def endRequested (values : Values) : Bool := (Entries.get? values endKey).any Value.isTruthy

def override? (values : Values) : Option String :=
  match Entries.get? values overrideKey with
  | some (.string id) => if id.isEmpty then none else some id
  | _ => none

/-- The values of a document's members, of which nothing is left if it is no object. -/
def ofJson (j : Json) : Values := Value.ofMembers j.members

def toJson (values : Values) : Json := .object (Value.toMembers values)

end Values

end Conduit
