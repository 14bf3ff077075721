import Conduit.Entries
import Conduit.Number.Binary64

/-!
# JSON documents

A number in a document is an integer or a binary64 number, and the two stay apart: `1` is not
`1.0`. The members of an object are in the order of their keys.
-/

namespace Conduit

open Number

/-- A JSON document. -/
inductive Json where
  | null
  | bool (value : Bool)
  | integer (value : Int)
  | real (value : Binary64)
  | string (value : String)
  | array (items : List Json)
  | object (members : List (String × Json))
  deriving Inhabited, BEq

namespace Json

/-- The object of a list of members, of which a later one replaces an earlier one of its key. -/
def ofMembers (members : List (String × Json)) : Json := .object (Entries.ofPairs members)

def member? : Json → String → Option Json
  | .object members, key => Entries.get? members key
  | _, _ => none

def string? : Json → Option String
  | .string s => some s
  | _ => none

/-- The members of an object, none for every other document. -/
def members : Json → Entries Json
  | .object members => members
  | _ => []

def items : Json → List Json
  | .array items => items
  | _ => []

end Json

end Conduit
