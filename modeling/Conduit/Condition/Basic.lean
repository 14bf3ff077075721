import Conduit.Condition.Token
import Conduit.Value

/-!
# Conditions

A condition is a predicate over a context. An operand is a literal or a path of segments, the first
of which is a context key.
-/

namespace Conduit.Condition

inductive Operand where
  | literal (value : Value)
  | path (segments : List String)

inductive Expr where
  | or (left right : Expr)
  | and (left right : Expr)
  | not (inner : Expr)
  | present (path : List String)
  | compare (left : Operand) (comparison : Comparison) (right : Operand)
  | truthy (operand : Operand)

end Conduit.Condition

namespace Conduit

/-- A condition and the source that it was read from. -/
structure Condition where
  source : String
  expr : Condition.Expr

end Conduit
