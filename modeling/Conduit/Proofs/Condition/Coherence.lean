import Conduit.Condition.Evaluation

/-!
# Ordering and equality

An ordering takes both operands as numbers. Equality takes two strings as texts, so two spellings of
one number are equal in order and not equal, and a text that writes a NaN is equal to itself and
outside the order. Everywhere else ordering and equality agree.
-/

namespace Conduit.Condition

open Number

/-- The number that a value counts as in an ordering. -/
def number? : Value → Option Binary64
  | .number x => some x
  | .string s => numberOfText? s
  | _ => none

/-- The values are different strings that write equal numbers. -/
def SpelledApart (v w : Value) : Prop :=
  ∃ s t x y, v = .string s ∧ w = .string t ∧ s ≠ t ∧
    numberOfText? s = some x ∧ numberOfText? t = some y ∧ x.eqv y = true

/-- The values are one string that writes a NaN. -/
def SameNaN (v w : Value) : Prop :=
  ∃ s x, v = .string s ∧ w = .string s ∧ numberOfText? s = some x ∧ x.isNaN = true

/-- One of the values counts as a NaN. -/
def SomeNaN (v w : Value) : Prop :=
  ∃ x, (number? v = some x ∨ number? w = some x) ∧ x.isNaN = true

theorem numeric_eq_ok_iff {operand : Operand} {value : Option Value} {x : Binary64} :
    numeric operand value = .ok x ↔ ∃ v, value = some v ∧ number? v = some x := by
  constructor
  · intro h
    cases value with
    | none => cases h
    | some v =>
      refine ⟨v, rfl, ?_⟩
      cases v with
      | number y =>
        cases h
        rfl
      | string s =>
        simp only [numeric] at h
        split at h
        · next hread =>
          cases h
          exact hread
        · cases h
      | _ => cases h
  · rintro ⟨v, rfl, h⟩
    cases v with
    | number y =>
      cases h
      rfl
    | string s =>
      have h : numberOfText? s = some x := h
      simp only [numeric, h]
    | _ => cases h

theorem ordered_eq_ok {order : Binary64 → Binary64 → Bool} {left right : Operand}
    {l r : Option Value} {b : Bool} (h : ordered order left right l r = .ok b) :
    ∃ x y, numeric left l = .ok x ∧ numeric right r = .ok y ∧ b = order x y := by
  unfold ordered at h
  cases hx : numeric left l with
  | error e =>
    rw [hx] at h
    cases h
  | ok x =>
    cases hy : numeric right r with
    | error e =>
      rw [hx, hy] at h
      cases h
    | ok y =>
      rw [hx, hy] at h
      cases h
      exact ⟨x, y, rfl, rfl, rfl⟩

theorem ordered_of_numeric {left right : Operand} {l r : Option Value} {x y : Binary64}
    (hx : numeric left l = .ok x) (hy : numeric right r = .ok y)
    (order : Binary64 → Binary64 → Bool) :
    ordered order left right l r = .ok (order x y) := by
  rw [ordered, hx, hy]
  rfl

/-! ## What equality adds to the order -/

section

variable {v w : Value} {x y : Binary64}

theorem someNaN_iff (hx : number? v = some x) (hy : number? w = some y) :
    SomeNaN v w ↔ x.isNaN = true ∨ y.isNaN = true := by
  constructor
  · rintro ⟨z, hz | hz, nan⟩
    · cases hx.symm.trans hz
      exact .inl nan
    · cases hy.symm.trans hz
      exact .inr nan
  · rintro (nan | nan)
    · exact ⟨x, .inl hx, nan⟩
    · exact ⟨y, .inr hy, nan⟩

/-- Of two strings equality compares the texts, whatever numbers they spell. -/
theorem string_equality_cases {s t : String} (hx : numberOfText? s = some x)
    (hy : numberOfText? t = some y) :
    (x = y ∧ looselyEqual (.string s) (.string t) = true ∧ ¬ SpelledApart (.string s) (.string t) ∧
        (SameNaN (.string s) (.string t) ↔ x.isNaN = true)) ∨
      (looselyEqual (.string s) (.string t) = false ∧ ¬ SameNaN (.string s) (.string t) ∧
        (SpelledApart (.string s) (.string t) ↔ x.eqv y = true)) := by
  by_cases same : s = t
  -- Equal texts are equal even where the number that they spell is not equal to itself.
  · subst same
    cases hx.symm.trans hy
    refine .inl ⟨rfl, beq_self_eq_true s, ?_, ?_, fun nan => ⟨s, x, rfl, rfl, hx, nan⟩⟩
    · rintro ⟨_, _, _, _, hs, ht, apart, -⟩
      cases hs
      cases ht
      exact apart rfl
    · rintro ⟨_, z, hs, -, hz, nan⟩
      cases hs
      cases hx.symm.trans hz
      exact nan
  · refine .inr ⟨beq_false_of_ne same, ?_, ?_, ?_⟩
    · rintro ⟨_, _, hs, ht, -⟩
      cases hs
      cases ht
      exact same rfl
    · rintro ⟨_, _, _, _, hs, ht, -, ha, hb, equal⟩
      cases hs
      cases ht
      cases hx.symm.trans ha
      cases hy.symm.trans hb
      exact equal
    · exact fun equal => ⟨s, t, x, y, rfl, rfl, same, hx, hy, equal⟩

/-- Equality compares the numbers, unless both values are strings. -/
theorem equality_cases (hx : number? v = some x) (hy : number? w = some y) :
    (looselyEqual v w = x.eqv y ∧ ¬ SpelledApart v w ∧ ¬ SameNaN v w) ∨
      (x = y ∧ looselyEqual v w = true ∧ ¬ SpelledApart v w ∧
        (SameNaN v w ↔ x.isNaN = true)) ∨
      (looselyEqual v w = false ∧ ¬ SameNaN v w ∧ (SpelledApart v w ↔ x.eqv y = true)) := by
  cases v with
  | number a =>
    cases hx
    refine .inl ⟨?_, nofun, nofun⟩
    cases w with
    | number b =>
      cases hy
      rfl
    | string t =>
      have hy : numberOfText? t = some y := hy
      rw [Binary64.eqv_comm, looselyEqual, hy]
      rfl
    | _ => cases hy
  | string s =>
    have hx : numberOfText? s = some x := hx
    cases w with
    | number b =>
      cases hy
      refine .inl ⟨?_, nofun, nofun⟩
      rw [looselyEqual, hx]
      rfl
    | string t => exact .inr (string_equality_cases hx hy)
    | _ => cases hy
  | _ => cases hx

theorem count_relations (x y : Binary64) :
    [x.lt y, x.eqv y, y.lt x].count true =
      if x.isNaN = true ∨ y.isNaN = true then 0 else 1 := by
  rcases hx : x.isNaN with _ | _ <;> rcases hy : y.isNaN with _ | _ <;>
    simp [Binary64.lt, Binary64.eqv, hx, hy]
  -- Without a NaN the three relations are those of the keys.
  rcases Int.lt_trichotomy x.key y.key with h | h | h
  · simp [h, Int.ne_of_lt h, Int.not_lt.2 (Int.le_of_lt h)]
  · simp [h]
  · simp [h, (Int.ne_of_lt h).symm, Int.not_lt.2 (Int.le_of_lt h)]

theorem eqv_exclusive (h : x.eqv y = true) : x.lt y = false ∧ y.lt x = false := by
  simp only [Binary64.eqv, Bool.and_eq_true, decide_eq_true_eq] at h
  simp [Binary64.lt, h.2]

theorem orders_agree_iff (hx : number? v = some x) (hy : number? w = some y) :
    ((x.le y = true ↔ x.lt y = true ∨ looselyEqual v w = true) ∧
        (y.le x = true ↔ y.lt x = true ∨ looselyEqual v w = true)) ↔
      ¬ SpelledApart v w ∧ ¬ SameNaN v w := by
  have forward := Binary64.le_iff_lt_or_eqv x y
  have backward := Binary64.le_iff_lt_or_eqv y x
  rw [Binary64.eqv_comm y x] at backward
  rcases equality_cases hx hy with ⟨he, apart, nan⟩ | ⟨rfl, he, apart, nan⟩ | ⟨he, nan, apart⟩
  · rw [he]
    exact iff_of_true ⟨forward, backward⟩ ⟨apart, nan⟩
  · have self : x.le x = true ↔ x.isNaN = false := by simp [Binary64.le]
    simp [he, apart, nan, self]
  · cases equal : x.eqv y with
    | false => simp [he, nan, apart, forward, backward, equal]
    | true => simp [he, nan, apart, forward, equal, eqv_exclusive equal]

theorem one_relation_iff (hx : number? v = some x) (hy : number? w = some y) :
    [x.lt y, looselyEqual v w, y.lt x].count true = 1 ↔
      ¬ SpelledApart v w ∧ (SomeNaN v w → SameNaN v w) := by
  have count := count_relations x y
  rw [someNaN_iff hx hy]
  rcases equality_cases hx hy with ⟨he, apart, nan⟩ | ⟨rfl, he, apart, nan⟩ | ⟨he, nan, apart⟩
  · rw [he, count]
    split <;> simp_all
  · have irreflexive : x.lt x = false := by simp [Binary64.lt]
    simp [he, irreflexive, apart, nan]
  · rw [he]
    cases equal : x.eqv y with
    | false =>
      rw [equal] at count
      rw [count, apart, equal]
      split <;> simp_all
    | true => simp [apart, equal, eqv_exclusive equal]

end

/-! ## Conditions -/

/-- Where `x < y` has an outcome, so have the other orderings, and they agree with equality unless
the values are strings that are spelled apart or one string that writes a NaN. Exactly one of
`x < y`, `x == y` and `x > y` holds unless the values are strings that are spelled apart or a NaN is
among the numbers, which a string that is compared with itself may write. -/
theorem ordering_meets_equality {values : Entries Value} {left right : Operand} {less : Bool}
    (h : (Expr.compare left .less right).eval values = .ok less) :
    ∃ v w lessEqual equal greaterEqual greater,
      left.resolve values = some v ∧ right.resolve values = some w ∧
      (Expr.compare left .lessEqual right).eval values = .ok lessEqual ∧
      (Expr.compare left .equal right).eval values = .ok equal ∧
      (Expr.compare left .greaterEqual right).eval values = .ok greaterEqual ∧
      (Expr.compare left .greater right).eval values = .ok greater ∧
      (((lessEqual = true ↔ less = true ∨ equal = true) ∧
          (greaterEqual = true ↔ greater = true ∨ equal = true)) ↔
        ¬ SpelledApart v w ∧ ¬ SameNaN v w) ∧
      ([less, equal, greater].count true = 1 ↔
        ¬ SpelledApart v w ∧ (SomeNaN v w → SameNaN v w)) := by
  obtain ⟨x, y, hleft, hright, rfl⟩ := ordered_eq_ok h
  obtain ⟨v, hv, hx⟩ := numeric_eq_ok_iff.1 hleft
  obtain ⟨w, hw, hy⟩ := numeric_eq_ok_iff.1 hright
  have equal : (Expr.compare left .equal right).eval values = .ok (looselyEqual v w) := by
    rw [Expr.eval, compareOperands, hv, hw]
    rfl
  exact ⟨v, w, x.le y, looselyEqual v w, y.le x, y.lt x, hv, hw,
    ordered_of_numeric hleft hright _, equal, ordered_of_numeric hleft hright _,
    ordered_of_numeric hleft hright _, orders_agree_iff hx hy, one_relation_iff hx hy⟩

theorem ordering_meets_equality_padded :
    let values : Entries Value := [("x", .string " 1"), ("y", .number (.ofNat 1))]
    (Expr.compare (.path ["x"]) .less (.path ["y"])).eval values = .ok false ∧
      ∃ lessEqual equal,
        (Expr.compare (.path ["x"]) .lessEqual (.path ["y"])).eval values = .ok lessEqual ∧
        (Expr.compare (.path ["x"]) .equal (.path ["y"])).eval values = .ok equal ∧
        (lessEqual = true ↔ equal = true) := by
  intro values
  have less : (Expr.compare (.path ["x"]) .less (.path ["y"])).eval values = .ok false := by
    rfl
  obtain ⟨v, w, lessEqual, equal, _, _, hv, hw, hle, heq, _, _, agree, _⟩ :=
    ordering_meets_equality less
  cases hv
  cases hw
  have agree := (agree.2 ⟨nofun, nofun⟩).1
  exact ⟨less, lessEqual, equal, hle, heq, by simpa using agree⟩

/-- The outcome of a comparison of two strings. -/
def compareTexts (s : String) (c : Comparison) (t : String) : Except EvalError Bool :=
  (Expr.compare (.literal (.string s)) c (.literal (.string t))).eval []

/-- Two spellings of one number are neither less nor equal nor greater, and yet less or equal. A
string that writes a NaN is equal to itself and not less or equal, and next to another number it is
in no relation at all. -/
theorem spelling_splits_order_from_equality :
    (compareTexts "1" .less "1.0" = .ok false ∧ compareTexts "1" .equal "1.0" = .ok false ∧
      compareTexts "1" .greater "1.0" = .ok false ∧
      compareTexts "1" .lessEqual "1.0" = .ok true) ∧
    (compareTexts "nan" .less "nan" = .ok false ∧ compareTexts "nan" .equal "nan" = .ok true ∧
      compareTexts "nan" .lessEqual "nan" = .ok false) ∧
    compareTexts "nan" .less "1" = .ok false ∧ compareTexts "nan" .equal "1" = .ok false ∧
      compareTexts "nan" .greater "1" = .ok false := by
  refine ⟨⟨?_, ?_, ?_, ?_⟩, ⟨?_, ?_, ?_⟩, ?_, ?_, ?_⟩ <;> rfl

end Conduit.Condition
