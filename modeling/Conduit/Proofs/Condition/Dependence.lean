import Conduit.Proofs.Condition.Enclosing
import Conduit.Proofs.Condition.Reach

/-!
# What a condition depends on

A condition depends on what its evaluation reaches and on nothing else. A negated conjunction and
the disjunction of the negations go through their parts in one order and stop at one place, so they
have one outcome.
-/

namespace Conduit.Condition

/-! ## Negated connectives -/

section

variable {values : Entries Value}

theorem eval_not_and (p q : Expr) :
    (Expr.not (.and p q)).eval values = (Expr.or (.not p) (.not q)).eval values := by
  simp only [Expr.eval]
  rcases p.eval values with _ | _ | _ <;> rfl

theorem eval_not_or (p q : Expr) :
    (Expr.not (.or p q)).eval values = (Expr.and (.not p) (.not q)).eval values := by
  simp only [Expr.eval]
  rcases p.eval values with _ | _ | _ <;> rfl

end

/-- Both sources are conditions, and these have one outcome. -/
def OneOutcome (values : Entries Value) (s t : String) : Prop :=
  ∃ c d, Condition.parse s = .ok c ∧ Condition.parse t = .ok d ∧
    c.evaluate values = d.evaluate values

theorem oneOutcome_of_eval {s t : String} {p q : Expr} (hs : IsCondition s.toList p)
    (ht : IsCondition t.toList q) (h : p.eval values = q.eval values) : OneOutcome values s t :=
  ⟨_, _, hs.parse, ht.parse, h⟩

/-- The outcome depends on what evaluation reaches and on nothing else. Two contexts that have the
same at every path looked up there give the condition one outcome, and what stands where evaluation
does not come can be exchanged for anything. An error is always that of a comparison which is
reached. So a negated conjunction and the disjunction of the negations have one outcome, and so have
a negated disjunction and the conjunction of the negations. -/
theorem outcome_depends_on_reach (values : Entries Value) :
    (∀ (c : Condition) (others : Entries Value),
      (∀ part, c.expr.Reaches values part → ∀ path ∈ part.paths,
        lookup others path = lookup values path) →
      c.evaluate others = c.evaluate values) ∧
    (∀ frames, ¬ Reached values frames ↔ ∀ part other : Expr,
      (framed frames part).eval values = (framed frames other).eval values) ∧
    (∀ (p : Expr) (e : EvalError), p.eval values = .error e ↔ p.Raises values e) ∧
    (∀ p q : Expr,
      (Expr.not (.and p q)).eval values = (Expr.or (.not p) (.not q)).eval values ∧
      (Expr.not (.or p q)).eval values = (Expr.and (.not p) (.not q)).eval values) ∧
    ∀ (s t : String) (p q : Condition), Condition.parse s = .ok p → Condition.parse t = .ok q →
      OneOutcome values ("!((" ++ s ++ ") && (" ++ t ++ "))")
        ("!(" ++ s ++ ") || !(" ++ t ++ ")") ∧
      OneOutcome values ("!((" ++ s ++ ") || (" ++ t ++ "))")
        ("!(" ++ s ++ ") && !(" ++ t ++ ")") := by
  refine ⟨fun c others => eval_eq_of_reached, fun frames => not_reached_iff,
    fun p e => ⟨raises_of_eval_error, Expr.Raises.eval_eq⟩,
    fun p q => ⟨eval_not_and p q, eval_not_or p q⟩, fun s t p q hs ht => ?_⟩
  have left := isTerm_of_parse hs
  have right := isTerm_of_parse ht
  constructor
  · refine oneOutcome_of_eval ?_ ?_ (eval_not_and p.expr q.expr)
    · simpa using (left.and right).enclosed.not.isCondition
    · simpa using left.not.or right.not
  · refine oneOutcome_of_eval ?_ ?_ (eval_not_or p.expr q.expr)
    · simpa using (left.or right).enclosed.not.isCondition
    · simpa using left.not.and right.not

/-- A comparison behind a test that fails is not looked at, and has an error of its own in each of
two contexts. -/
theorem outcome_depends_on_reach_guarded :
    let values : Entries Value := [("score", .string "high")]
    let others : Entries Value := [("score", .number (.ofNat 3)), ("user", .null)]
    let guard : Condition := ⟨"exists limit", .present ["limit"]⟩
    let test : Condition :=
      ⟨"score >= limit", .compare (.path ["score"]) .greaterEqual (.path ["limit"])⟩
    let c : Condition := ⟨"exists limit && score >= limit", .and guard.expr test.expr⟩
    Condition.parse c.source = .ok c ∧ Condition.parse guard.source = .ok guard ∧
      Condition.parse test.source = .ok test ∧
      test.evaluate values = .error (.notNumeric "score" "high") ∧
      test.evaluate others = .error (.absent "limit") ∧
      c.evaluate others = c.evaluate values ∧ c.evaluate values = .ok false ∧
      (∀ other, (Expr.and guard.expr other).eval values = c.evaluate values) ∧
      OneOutcome others ("!((" ++ guard.source ++ ") && (" ++ test.source ++ "))")
        ("!(" ++ guard.source ++ ") || !(" ++ test.source ++ ")") := by
  intro values others guard test c
  have hguard : Condition.parse guard.source = .ok guard := by cbv
  have htest : Condition.parse test.source = .ok test := by cbv
  have hc : Condition.parse c.source = .ok c := by cbv
  have agree : ∀ part, c.expr.Reaches values part → ∀ path ∈ part.paths,
      lookup others path = lookup values path := by
    intro part reaches path hpath
    rcases reaches.cases with rfl | ⟨f, inner, hc, passes, reaches⟩
    · cases hpath
    cases f with
    | andLeft =>
      cases hc
      -- The test for a path has no parts.
      rcases reaches.cases with rfl | ⟨f, _, hguard, -⟩
      · cases hpath with
        | head => rfl
        | tail _ h => cases h
      · cases f <;> cases hguard
    | andRight =>
      cases hc
      cases passes
    | _ => cases hc
  have closed : ¬ Reached values [.andRight guard.expr] := by
    intro reached
    have passes : guard.expr.eval values = .ok true := reached _ List.mem_cons_self
    cases passes
  obtain ⟨congr, unreached, -, -, -⟩ := outcome_depends_on_reach values
  have sources := (outcome_depends_on_reach others).2.2.2.2 _ _ _ _ hguard htest
  exact ⟨hc, hguard, htest, rfl, rfl, congr c others agree, rfl,
    fun other => (unreached _).1 closed other test.expr, sources.1⟩

end Conduit.Condition
