import Conduit.Condition.Evaluation

/-!
# What a condition reaches

Evaluation goes from left to right and leaves out what cannot change the outcome any more. What it
reaches makes a difference, and what it does not reach makes none: errors arise in comparisons that
are reached, and only the paths that are looked up there matter.
-/

namespace Conduit.Condition

/-! ## Parts and what stands around them -/

/-- What stands around one side of a connective, or around what is negated. -/
inductive Frame where
  | orLeft (right : Expr)
  | orRight (left : Expr)
  | andLeft (right : Expr)
  | andRight (left : Expr)
  | not

def Frame.put : Frame → Expr → Expr
  | orLeft q, part => .or part q
  | orRight p, part => .or p part
  | andLeft q, part => .and part q
  | andRight p, part => .and p part
  | not, part => .not part

/-- Evaluation goes on from the whole to the part: to the right side of a disjunction if the left
side is false, and to that of a conjunction if the left side is true. -/
def Frame.Passes (values : Entries Value) : Frame → Prop
  | orRight p => p.eval values = .ok false
  | andRight p => p.eval values = .ok true
  | orLeft _ | andLeft _ | not => True

/-- The part with all that stands around it, from the outside to the inside. -/
def framed (frames : List Frame) (part : Expr) : Expr := frames.foldr Frame.put part

/-- Evaluation comes to what stands inside the frames. -/
def Reached (values : Entries Value) (frames : List Frame) : Prop := ∀ f ∈ frames, f.Passes values

/-- Evaluation of the expression comes to the part. -/
def Expr.Reaches (values : Entries Value) (p part : Expr) : Prop :=
  ∃ frames, p = framed frames part ∧ Reached values frames

def Operand.paths : Operand → List (List String)
  | .literal _ => []
  | .path segments => [segments]

/-- The paths that the expression looks up itself, and not in its parts. Both operands of a
comparison are looked up before they are compared. -/
def Expr.paths : Expr → List (List String)
  | .present path => [path]
  | .compare left _ right => left.paths ++ right.paths
  | .truthy operand => operand.paths
  | .or .. | .and .. | .not _ => []

section

variable {values : Entries Value} {f : Frame} {frames : List Frame} {p part other inner : Expr}
  {e : EvalError}

theorem Expr.Reaches.self (values : Entries Value) (p : Expr) : p.Reaches values p :=
  ⟨[], rfl, nofun⟩

theorem Expr.Reaches.put (h : part.Reaches values inner) (passes : f.Passes values) :
    (f.put part).Reaches values inner := by
  obtain ⟨frames, rfl, reached⟩ := h
  exact ⟨f :: frames, rfl, List.forall_mem_cons.2 ⟨passes, reached⟩⟩

theorem Expr.Reaches.cases (h : p.Reaches values part) :
    p = part ∨ ∃ f inner, p = Frame.put f inner ∧ f.Passes values ∧ inner.Reaches values part := by
  obtain ⟨frames, rfl, reached⟩ := h
  cases frames with
  | nil => exact .inl rfl
  | cons f frames =>
    obtain ⟨passes, reached⟩ := List.forall_mem_cons.1 reached
    exact .inr ⟨f, framed frames part, rfl, passes, frames, rfl, reached⟩

/-! ## One frame -/

theorem Frame.eval_congr (f : Frame) (h : part.eval values = other.eval values) :
    (f.put part).eval values = (f.put other).eval values := by
  cases f <;> simp only [Frame.put, Expr.eval, h]

theorem Frame.eval_closed (h : ¬ f.Passes values) (part other : Expr) :
    (f.put part).eval values = (f.put other).eval values := by
  cases f with
  | orRight p =>
    simp only [Frame.put, Expr.eval]
    split
    · next hp => exact absurd hp h
    · rfl
  | andRight p =>
    simp only [Frame.put, Expr.eval]
    split
    · next hp => exact absurd hp h
    · rfl
  | _ => exact absurd trivial h

theorem Frame.eval_error (passes : f.Passes values) (h : part.eval values = .error e) :
    (f.put part).eval values = .error e := by
  cases f with
  | orRight p =>
    have hp : p.eval values = .ok false := passes
    simp only [Frame.put, Expr.eval, hp, h]
  | andRight p =>
    have hp : p.eval values = .ok true := passes
    simp only [Frame.put, Expr.eval, hp, h]
  | _ => simp only [Frame.put, Expr.eval, h, Except.map]

/-! ## What is reached and what is not -/

theorem eval_framed_of_not_reached (h : ¬ Reached values frames) (part other : Expr) :
    (framed frames part).eval values = (framed frames other).eval values := by
  induction frames with
  | nil => exact absurd nofun h
  | cons f frames ih =>
    by_cases passes : f.Passes values
    · exact f.eval_congr (ih fun reached => h (List.forall_mem_cons.2 ⟨passes, reached⟩))
    · exact Frame.eval_closed passes _ _

theorem eval_framed_error (reached : Reached values frames) (h : part.eval values = .error e) :
    (framed frames part).eval values = .error e := by
  induction frames with
  | nil => exact h
  | cons f frames ih =>
    obtain ⟨passes, reached⟩ := List.forall_mem_cons.1 reached
    exact Frame.eval_error passes (ih reached)

/-- What stands there makes no difference exactly if evaluation does not come there. -/
theorem not_reached_iff : ¬ Reached values frames ↔ ∀ part other : Expr,
    (framed frames part).eval values = (framed frames other).eval values := by
  refine ⟨eval_framed_of_not_reached, fun same reached => ?_⟩
  -- Two comparisons that have no outcome in any context, each with an error of its own.
  have none : (Expr.compare (.literal .null) .less (.literal .null)).eval values =
      .error (.notNumber "Null" "null") := rfl
  have bool : (Expr.compare (.literal (.bool true)) .less (.literal .null)).eval values =
      .error (.notNumber "Bool(true)" "bool") := rfl
  have equal := (eval_framed_error reached none).symm.trans
    ((same _ _).trans (eval_framed_error reached bool))
  exact absurd (EvalError.notNumber.inj (Except.error.inj equal)).2 (by decide)

/-! ## Errors -/

/-- The error is that of a comparison which evaluation comes to. -/
def Expr.Raises (values : Entries Value) (p : Expr) (e : EvalError) : Prop :=
  ∃ left c right, p.Reaches values (.compare left c right) ∧
    (Expr.compare left c right).eval values = .error e

theorem Expr.Raises.put (h : part.Raises values e) (passes : f.Passes values) :
    (f.put part).Raises values e := by
  obtain ⟨left, c, right, reaches, he⟩ := h
  exact ⟨left, c, right, reaches.put passes, he⟩

theorem Expr.Raises.eval_eq (h : p.Raises values e) : p.eval values = .error e := by
  obtain ⟨left, c, right, ⟨frames, rfl, reached⟩, he⟩ := h
  exact eval_framed_error reached he

theorem raises_of_eval_error (h : p.eval values = .error e) : p.Raises values e := by
  induction p with
  | or p q ihp ihq =>
    rw [Expr.eval] at h
    split at h
    · next hp => exact (ihq h).put (f := .orRight p) hp
    · exact (ihp h).put (f := .orLeft q) trivial
  | and p q ihp ihq =>
    rw [Expr.eval] at h
    split at h
    · next hp => exact (ihq h).put (f := .andRight p) hp
    · exact (ihp h).put (f := .andLeft q) trivial
  | not p ih =>
    rw [Expr.eval] at h
    cases hp : p.eval values with
    | error =>
      rw [hp] at h
      cases h
      exact (ih hp).put (f := .not) trivial
    | ok =>
      rw [hp] at h
      cases h
  | compare left c right => exact ⟨left, c, right, .self values _, h⟩
  | present => cases h
  | truthy => cases h

end

/-! ## Two contexts -/

section

variable {values others : Entries Value}

theorem Operand.resolve_congr {o : Operand}
    (h : ∀ path ∈ o.paths, lookup others path = lookup values path) :
    o.resolve others = o.resolve values := by
  cases o with
  | literal => rfl
  | path segments => exact h segments List.mem_cons_self

theorem eval_eq_of_reached {p : Expr}
    (h : ∀ part, p.Reaches values part → ∀ path ∈ part.paths,
      lookup others path = lookup values path) : p.eval others = p.eval values := by
  -- The left side is always reached, the right one only if the left side leaves the outcome open.
  induction p with
  | or p q ihp ihq =>
    have hp := ihp fun part reaches => h part (reaches.put (f := .orLeft q) trivial)
    rw [Expr.eval, Expr.eval, hp]
    split
    · next hv => exact ihq fun part reaches => h part (reaches.put (f := .orRight p) hv)
    · rfl
  | and p q ihp ihq =>
    have hp := ihp fun part reaches => h part (reaches.put (f := .andLeft q) trivial)
    rw [Expr.eval, Expr.eval, hp]
    split
    · next hv => exact ihq fun part reaches => h part (reaches.put (f := .andRight p) hv)
    · rfl
  | not p ih =>
    have hp := ih fun part reaches => h part (reaches.put (f := .not) trivial)
    rw [Expr.eval, Expr.eval, hp]
  | present path =>
    have hpath := h _ (.self values _) path List.mem_cons_self
    rw [Expr.eval, Expr.eval, hpath]
  | compare left c right =>
    have own := List.forall_mem_append.1 (h _ (.self values (.compare left c right)))
    rw [Expr.eval, Expr.eval]
    unfold compareOperands
    rw [Operand.resolve_congr own.1, Operand.resolve_congr own.2]
  | truthy o =>
    have ho := Operand.resolve_congr (o := o) (h _ (.self values (.truthy o)))
    rw [Expr.eval, Expr.eval, ho]

end

end Conduit.Condition
