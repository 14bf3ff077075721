import Conduit.Error
import Conduit.Text.Blank

/-!
# Parameters

The parameters of a component are a document. An overlay is merged onto a base key by key: where
both are objects the merge goes on below, and everywhere else the overlay's value takes the place of
the base's.
-/

namespace Conduit

namespace Json

mutual

def merge (base : Json) : Json → Json
  | .object overlay =>
    match base with
    | .object members => .object (mergeMembers members overlay)
    | _ => .object overlay
  | overlay => overlay

def mergeMembers (base : List (String × Json)) : List (String × Json) → List (String × Json)
  | [] => base
  | (key, value) :: overlay =>
    let value := match Entries.get? base key with
      | some existing => merge existing value
      | none => value
    mergeMembers (Entries.insert key value base) overlay

end

/-- The parameter has nothing to apply: null, an empty object or a blank string. -/
def isEmptyParameter : Json → Bool
  | .null => true
  | .object members => members.isEmpty
  | .string s => Text.isAllBlank s.toList
  | _ => false

end Json

/-- What a component is prepared with. -/
structure Config where
  /-- The name under which the component was looked up. -/
  component : String
  /-- The node that the component is made for, if it is not shared. -/
  node : Option String
  parameters : Json

namespace Config

def requireString (config : Config) (name : String) : Except ComponentError String :=
  match (config.parameters.member? name).bind Json.string? with
  | some s => .ok s
  | none => .error (.configuration ("Missing parameter: " ++ name))

def stringOr (config : Config) (name default : String) : String :=
  ((config.parameters.member? name).bind Json.string?).getD default

end Config

example : (Json.merge (.object [("a", .object [("x", .integer 1)]), ("b", .null)])
    (.object [("a", .object [("y", .integer 2)])])).members.keys = ["a", "b"] := by decide +kernel

end Conduit
