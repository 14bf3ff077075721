import Conduit.Json.Basic
import Conduit.Number.Layout
import Conduit.Text.Alphanumeric
import Conduit.Text.Quoted

/-!
# Values

What the keys of a run's context hold. Every number is a binary64 number, also one that came from an
integer of a document.
-/

namespace Conduit

open Number Text

/-- The value of a context key. -/
inductive Value where
  | null
  | bool (value : Bool)
  | number (value : Binary64)
  | string (value : String)
  | array (items : List Value)
  | object (members : List (String × Value))
  deriving Inhabited

/-- The natural number that a text of digits writes, with an optional plus sign, if it fits into 64
bits. -/
def readIndex? (text : String) : Option Nat :=
  let digits := match text.toList with
    | '+' :: rest => rest
    | chars => chars
  let n := digitsValue digits
  if digits.isEmpty || !digits.all isDigit || decide (Nat.pow 2 64 ≤ n) then none else some n

namespace Value

def kind : Value → String
  | .null => "null"
  | .bool _ => "bool"
  | .number _ => "number"
  | .string _ => "string"
  | .array _ => "array"
  | .object _ => "object"

/-- Null, false, zero, NaN and everything empty are not truthy. -/
def isTruthy : Value → Bool
  | .null => false
  | .bool b => b
  | .number x => !x.isZero && !x.isNaN
  | .string s => !s.isEmpty
  | .array items => !items.isEmpty
  | .object members => !members.isEmpty

def isNull : Value → Bool
  | .null => true
  | _ => false

/-- One step of a path: a key of an object or an index of an array. -/
def child? (segment : String) : Value → Option Value
  | .object members => Entries.get? members segment
  | .array items => (readIndex? segment).bind fun i => items[i]?
  | _ => none

def pointer : List String → Value → Option Value
  | [], v => some v
  | segment :: path, v => (v.child? segment).bind (pointer path)

/-! ## Equality

Numbers are equal as numbers: the two zeros are equal and a NaN differs from itself. -/

mutual

def same : Value → Value → Bool
  | .null, .null => true
  | .bool a, .bool b => a == b
  | .number x, .number y => x.eqv y
  | .string a, .string b => a == b
  | .array as, .array bs => sameItems as bs
  | .object as, .object bs => sameMembers as bs
  | _, _ => false

def sameItems : List Value → List Value → Bool
  | [], [] => true
  | a :: as, b :: bs => same a b && sameItems as bs
  | _, _ => false

def sameMembers : List (String × Value) → List (String × Value) → Bool
  | [], [] => true
  | (k, a) :: as, (l, b) :: bs => k == l && same a b && sameMembers as bs
  | _, _ => false

end

/-! ## Documents -/

mutual

def ofJson : Json → Value
  | .null => .null
  | .bool b => .bool b
  | .integer n => .number (.ofInt n)
  | .real x => .number x
  | .string s => .string s
  | .array items => .array (ofItems items)
  | .object members => .object (ofMembers members)

def ofItems : List Json → List Value
  | [] => []
  | j :: items => ofJson j :: ofItems items

def ofMembers : List (String × Json) → List (String × Value)
  | [] => []
  | (k, j) :: members => (k, ofJson j) :: ofMembers members

end

mutual

/-- The document of a value. A number that no document can hold becomes null. -/
def toJson : Value → Json
  | .null => .null
  | .bool b => .bool b
  | .number x => if x.isFinite then .real x else .null
  | .string s => .string s
  | .array items => .array (toItems items)
  | .object members => .object (toMembers members)

def toItems : List Value → List Json
  | [] => []
  | v :: items => toJson v :: toItems items

def toMembers : List (String × Value) → List (String × Json)
  | [] => []
  | (k, v) :: members => (k, toJson v) :: toMembers members

end

/-! ## Text for messages -/

mutual

/-- The value with its kind, as messages show it. -/
def shown : Value → String
  | .null => "Null"
  | .bool b => "Bool(" ++ toString b ++ ")"
  | .number x => "Number(" ++ Layout.literal.render x ++ ")"
  | .string s => "String(" ++ quote s ++ ")"
  | .array items => "Array([" ++ shownItems items ++ "])"
  | .object members => "Object(\x7b" ++ shownMembers members ++ "\x7d)"

def shownItems : List Value → String
  | [] => ""
  | [v] => shown v
  | v :: w :: items => shown v ++ ", " ++ shownItems (w :: items)

def shownMembers : List (String × Value) → String
  | [] => ""
  | [(k, v)] => quote k ++ ": " ++ shown v
  | (k, v) :: m :: members => quote k ++ ": " ++ shown v ++ ", " ++ shownMembers (m :: members)

end

def shownEntries (entries : Entries Value) : String := "\x7b" ++ shownMembers entries ++ "\x7d"

theorem pointer_nil (v : Value) : pointer [] v = some v := rfl

theorem pointer_append (path more : List String) (v : Value) :
    pointer (path ++ more) v = (pointer path v).bind (pointer more) := by
  induction path generalizing v with
  | nil => rfl
  | cons segment path ih =>
    simp only [List.cons_append, pointer]
    cases v.child? segment with
    | none => rfl
    | some w => exact ih w

example : readIndex? "+1" = some 1 ∧ readIndex? "-1" = none ∧ readIndex? "" = none := by
  decide +kernel

end Value

end Conduit
