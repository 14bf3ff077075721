import Conduit.Condition.Parser

/-!
# Evaluating conditions

A condition is evaluated from left to right and stops as soon as its outcome is known. An absent
path equals nothing and contains nothing. Ordering needs two numbers, and a string counts as the
number that it writes.
-/

namespace Conduit.Condition

open Number

/-- Why a condition has no outcome. -/
inductive EvalError where
  | notContainer (operand : String) (kind : String) (sought : String)
  | notNumeric (operand : String) (text : String)
  | notNumber (operand : String) (kind : String)
  | absent (operand : String)

def EvalError.message : EvalError → String
  | notContainer operand kind sought =>
    "cannot test whether " ++ operand ++ " (" ++ kind ++ ") contains " ++ sought
  | notNumeric operand text => operand ++ " is not numeric: " ++ Text.quote text
  | notNumber operand kind => operand ++ " is " ++ kind ++ ", expected number"
  | absent operand => operand ++ " is not present in the context"

/-- The value at the end of a path whose first segment is a context key. -/
def lookup (values : Entries Value) : List String → Option Value
  | [] => none
  | key :: path => (values.get? key).bind (Value.pointer path)

def Operand.resolve (values : Entries Value) : Operand → Option Value
  | .literal v => some v
  | .path segments => lookup values segments

def Operand.shown : Operand → String
  | .literal v => v.shown
  | .path segments => String.intercalate "." segments

/-- The number that a string writes, blanks around it aside. -/
def numberOfText? (s : String) : Option Binary64 := readDecimal? (Text.trim s.toList)

/-- Equality of values, where a number also equals a string that writes it. -/
def looselyEqual : Value → Value → Bool
  | .number x, .string s => (numberOfText? s).any fun y => y.eqv x
  | .string s, .number x => (numberOfText? s).any fun y => y.eqv x
  | v, w => v.same w

def numeric (operand : Operand) : Option Value → Except EvalError Binary64
  | some (.number x) => .ok x
  | some (.string s) =>
    match numberOfText? s with
    | some x => .ok x
    | none => .error (.notNumeric operand.shown s)
  | some v => .error (.notNumber operand.shown v.kind)
  | none => .error (.absent operand.shown)

def occursIn (needle : List Char) : List Char → Bool
  | [] => needle.isEmpty
  | c :: rest => needle.isPrefixOf (c :: rest) || occursIn needle rest

def holds (operand : Operand) : Option Value → Option Value → Except EvalError Bool
  | some (.string s), some (.string needle) => .ok (occursIn needle.toList s.toList)
  | some (.array items), some v => .ok (items.any fun item => looselyEqual item v)
  | some (.object members), some (.string key) => .ok (Entries.contains members key)
  | some v, some w => .error (.notContainer operand.shown v.kind w.kind)
  | _, _ => .ok false

def bothEqual : Option Value → Option Value → Bool
  | some v, some w => looselyEqual v w
  | _, _ => false

def ordered (order : Binary64 → Binary64 → Bool) (left right : Operand) (l r : Option Value) :
    Except EvalError Bool := do
  let x ← numeric left l
  let y ← numeric right r
  .ok (order x y)

def compareOperands (values : Entries Value) (left : Operand) (c : Comparison) (right : Operand) :
    Except EvalError Bool :=
  let l := left.resolve values
  let r := right.resolve values
  match c with
  | .equal => .ok (bothEqual l r)
  | .unequal => .ok (!bothEqual l r)
  | .contains => holds left l r
  | .less => ordered Binary64.lt left right l r
  | .lessEqual => ordered Binary64.le left right l r
  | .greater => ordered (fun x y => Binary64.lt y x) left right l r
  | .greaterEqual => ordered (fun x y => Binary64.le y x) left right l r

def Expr.eval (values : Entries Value) : Expr → Except EvalError Bool
  | .or p q =>
    match p.eval values with
    | .ok false => q.eval values
    | outcome => outcome
  | .and p q =>
    match p.eval values with
    | .ok true => q.eval values
    | outcome => outcome
  | .not p => (p.eval values).map (! ·)
  | .present path => .ok ((lookup values path).any fun v => !v.isNull)
  | .compare left c right => compareOperands values left c right
  | .truthy operand => .ok ((operand.resolve values).any Value.isTruthy)

end Conduit.Condition

namespace Conduit

def Condition.evaluate (c : Condition) (values : Entries Value) :
    Except Condition.EvalError Bool :=
  c.expr.eval values

end Conduit
