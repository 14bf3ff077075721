import Conduit.Proofs.Condition.Grammar
import Conduit.Proofs.Condition.Offsets

/-!
# Parsing by positions

The parser can also go through the tokens by an index that moves on, and back where a token turns
out to be none that stands for a value. Such a reading goes wrong where the index falls below zero.
It never does, and it reads what the parser reads.
-/

namespace Conduit.Condition

open Text

/-! ## Parsing by an index -/

/-- A parser with all the tokens at hand and an index of the next one. -/
abbrev Cursor (α : Type) := Nat → Except Mishap (α × Nat)

section

variable (all : Tokens)

def tokenAt (pos : Nat) : Option Token := all[pos]?.map Located.token

/-- The offset of the token at an index, or that of the last token behind all of them. -/
def offsetFor (pos : Nat) : Nat := ((all[pos]?.or all.getLast?).map Located.offset).getD 0

/-- The offset before an index, which takes a step back. -/
def refuseBefore {α : Type} (pos : Nat) (reason : Reason) : Except Mishap α :=
  match pos with
  | 0 => .error .misplaced
  | back + 1 => .error (.refused ⟨offsetFor all back, reason⟩)

def operandAt : Cursor Operand := fun pos =>
  match tokenAt all pos with
  | some (.string s) => .ok (.literal (.string s), pos + 1)
  | some (.number x) => .ok (.literal (.number x), pos + 1)
  | some (.word w) => .ok (wordOperand w, pos + 1)
  | some other => refuseBefore all (pos + 1) (.wantedValue other)
  | none => .error (.refused ⟨offsetFor all (pos + 1), .unexpectedEnd⟩)

def comparisonAt : Cursor Expr := fun pos => do
  let (left, pos) ← operandAt all pos
  match tokenAt all pos with
  | some (.comparison c) =>
    let (right, pos) ← operandAt all (pos + 1)
    .ok (.compare left c right, pos)
  | _ => .ok (.truthy left, pos)

def joinAt (separator : Token) (join : Expr → Expr → Expr) (term : Cursor Expr) :
    Nat → Expr → Cursor Expr
  | 0, left, pos => .ok (left, pos)
  | fuel + 1, left, pos =>
    if tokenAt all pos = some separator then do
      let (right, pos) ← term (pos + 1)
      joinAt separator join term fuel (join left right) pos
    else .ok (left, pos)

def joinedAt (separator : Token) (join : Expr → Expr → Expr) (term : Cursor Expr) :
    Cursor Expr := fun pos => do
  let (left, pos) ← term pos
  joinAt all separator join term (all.length - pos) left pos

def disjunctionAt (term : Cursor Expr) : Cursor Expr :=
  joinedAt all .or .or (joinedAt all .and .and term)

def termAt : Nat → Cursor Expr
  | 0, pos => comparisonAt all pos
  | depth + 1, pos =>
    match tokenAt all pos with
    | some .not => do
      let (inner, pos) ← termAt depth (pos + 1)
      .ok (.not inner, pos)
    | some .openParen => do
      let (inner, pos) ← disjunctionAt all (termAt depth) (pos + 1)
      if tokenAt all pos = some .closeParen then .ok (inner, pos + 1)
      else .error (.refused ⟨offsetFor all (pos + 1), .wantedClosing⟩)
    | some (.word w) =>
      if w = "exists" then
        match tokenAt all (pos + 1) with
        | some (.word path) => .ok (.present (splitPath path), pos + 2)
        | _ => .error (.refused ⟨offsetFor all (pos + 2), .wantedPath⟩)
      else comparisonAt all pos
    | _ => comparisonAt all pos

/-- The condition that all the tokens make up, read by an index. -/
def parseByIndex : Except Mishap Expr := do
  let (expr, pos) ← disjunctionAt all (termAt all all.length) 0
  match tokenAt all pos with
  | some t => .error (.refused ⟨offsetFor all pos, .unexpectedToken t⟩)
  | none => .ok expr

end

/-! ## Both parsers read the same -/

section

variable {all : Tokens} {α β : Type}

/-- Both parsers took the same front of the tokens, or refuse them for the same reason. -/
inductive Same (all : Tokens) :
    Except Mishap (α × Nat) → Except ParseError (α × Tokens) → Prop where
  | ok (a : α) (pos : Nat) : Same all (.ok (a, pos)) (.ok (a, all.drop pos))
  | refused (e : ParseError) : Same all (.error (.refused e)) (.error e)

theorem Same.bind {x : Except Mishap (α × Nat)} {y : Except ParseError (α × Tokens)}
    {f : α × Nat → Except Mishap (β × Nat)} {g : α × Tokens → Except ParseError (β × Tokens)}
    (h : Same all x y) (hf : ∀ a pos, Same all (f (a, pos)) (g (a, all.drop pos))) :
    Same all (x >>= f) (y >>= g) := by
  cases h with
  | ok a pos => exact hf a pos
  | refused e => exact .refused e

theorem drop_of_tokenAt_none {pos : Nat} (h : tokenAt all pos = none) : all.drop pos = [] := by
  rw [tokenAt, Option.map_eq_none_iff, List.getElem?_eq_none_iff] at h
  exact List.drop_eq_nil_of_le h

theorem drop_of_tokenAt_some {pos : Nat} {t : Token} (h : tokenAt all pos = some t) :
    all.drop pos = ⟨offsetFor all pos, t⟩ :: all.drop (pos + 1) := by
  obtain ⟨l, hl, rfl⟩ := Option.map_eq_some_iff.1 h
  obtain ⟨hpos, rfl⟩ := List.getElem?_eq_some_iff.1 hl
  rw [List.drop_eq_getElem_cons hpos, offsetFor, hl]
  rfl

theorem offsetAt_drop (all : Tokens) (pos : Nat) :
    offsetAt all.lastOffset (all.drop pos) = offsetFor all pos := by
  cases h : tokenAt all pos with
  | none =>
    have behind := Option.map_eq_none_iff.1 h
    rw [drop_of_tokenAt_none h, offsetFor, behind]
    rfl
  | some t => rw [drop_of_tokenAt_some h, offsetAt]

theorem lastOffset_eq {pos : Nat} (h : all.drop pos = []) :
    all.lastOffset = offsetFor all pos := by
  rw [← offsetAt_drop, h, offsetAt]

theorem drop_succ_eq_nil {pos : Nat} (h : all.drop pos = []) : all.drop (pos + 1) = [] := by
  rw [← List.tail_drop, h, List.tail_nil]

theorem operandAt_same (all : Tokens) (pos : Nat) :
    Same all (operandAt all pos) (parseOperand all.lastOffset (all.drop pos)) := by
  unfold operandAt
  cases h : tokenAt all pos with
  | none =>
    have drop := drop_of_tokenAt_none h
    rw [drop, lastOffset_eq (drop_succ_eq_nil drop)]
    exact .refused _
  | some t =>
    rw [drop_of_tokenAt_some h]
    cases t with
    | string | number | word => exact .ok _ (pos + 1)
    | _ => exact .refused _

theorem comparisonAt_same (all : Tokens) (pos : Nat) :
    Same all (comparisonAt all pos) (parseComparison all.lastOffset (all.drop pos)) := by
  refine (operandAt_same all pos).bind fun left pos => ?_
  have alone : Same all (.ok (Expr.truthy left, pos)) _ := .ok _ pos
  dsimp only
  cases h : tokenAt all pos with
  | none =>
    rw [drop_of_tokenAt_none h] at alone ⊢
    exact alone
  | some t =>
    have drop := drop_of_tokenAt_some h
    cases t with
    | comparison c =>
      rw [drop]
      exact (operandAt_same all (pos + 1)).bind fun right pos => .ok _ pos
    | _ =>
      rw [drop] at alone ⊢
      exact alone

section

variable {termA : Cursor Expr} {termB : Parser Expr}

theorem joinAt_same (separator : Token) (join : Expr → Expr → Expr)
    (h : ∀ pos, Same all (termA pos) (termB (all.drop pos))) (fuel : Nat) (left : Expr)
    (pos : Nat) :
    Same all (joinAt all separator join termA fuel left pos)
      (joinFrom separator join termB fuel left (all.drop pos)) := by
  induction fuel generalizing left pos with
  | zero => exact .ok left pos
  | succ fuel ih =>
    have alone : Same all _ _ := .ok left pos
    rw [joinAt, joinFrom.eq_def]
    cases ht : tokenAt all pos with
    | none =>
      rw [drop_of_tokenAt_none ht] at alone ⊢
      exact alone
    | some t =>
      rw [drop_of_tokenAt_some ht] at alone ⊢
      by_cases hs : t = separator
      · subst hs
        simp only [if_true]
        exact (h (pos + 1)).bind fun right pos => ih (join left right) pos
      · simp only [Option.some.injEq, hs, if_false]
        exact alone

theorem joinedAt_same (separator : Token) (join : Expr → Expr → Expr)
    (h : ∀ pos, Same all (termA pos) (termB (all.drop pos))) (pos : Nat) :
    Same all (joinedAt all separator join termA pos)
      (joined separator join termB (all.drop pos)) := by
  refine (h pos).bind fun left pos => ?_
  dsimp only
  rw [List.length_drop]
  exact joinAt_same separator join h _ left pos

theorem disjunctionAt_same (h : ∀ pos, Same all (termA pos) (termB (all.drop pos))) (pos : Nat) :
    Same all (disjunctionAt all termA pos) (disjunction termB (all.drop pos)) :=
  joinedAt_same .or .or (joinedAt_same .and .and h) pos

end

theorem termAt_same (all : Tokens) (depth pos : Nat) :
    Same all (termAt all depth pos) (parseTerm all.lastOffset depth (all.drop pos)) := by
  induction depth generalizing pos with
  | zero => exact comparisonAt_same all pos
  | succ depth ih =>
    -- All tokens but the negation, the parenthesis and the test for a path start a comparison.
    have other := comparisonAt_same all pos
    cases h : tokenAt all pos with
    | none =>
      rw [drop_of_tokenAt_none h] at other ⊢
      simp only [termAt, h]
      exact other
    | some t =>
      have drop := drop_of_tokenAt_some h
      cases t with
      | not =>
        simp only [termAt, h]
        rw [drop]
        exact (ih (pos + 1)).bind fun inner pos => .ok _ pos
      | openParen =>
        simp only [termAt, h]
        rw [drop]
        refine (disjunctionAt_same ih (pos + 1)).bind fun inner pos => ?_
        dsimp only
        cases hc : tokenAt all pos with
        | none =>
          have drop := drop_of_tokenAt_none hc
          rw [drop, if_neg nofun, ← lastOffset_eq (drop_succ_eq_nil drop)]
          exact .refused _
        | some t =>
          rw [drop_of_tokenAt_some hc]
          by_cases ht : t = .closeParen
          · simp only [ht, if_true]
            exact .ok inner (pos + 1)
          · simp only [ht, Option.some.injEq, if_false, offsetAt_drop]
            exact .refused _
      | word w =>
        rw [drop] at other ⊢
        simp only [termAt, h, parseTerm]
        by_cases hw : w = "exists"
        · simp only [hw, if_true]
          cases hp : tokenAt all (pos + 1) with
          | none =>
            have drop := drop_of_tokenAt_none hp
            rw [drop, lastOffset_eq (drop_succ_eq_nil drop)]
            exact .refused _
          | some u =>
            rw [drop_of_tokenAt_some hp]
            cases u with
            | word path => exact .ok _ (pos + 2)
            | _ =>
              simp only [offsetAt_drop]
              exact .refused _
        · simp only [hw, if_false]
          exact other
      | _ =>
        rw [drop] at other ⊢
        simp only [termAt, h]
        exact other

end

theorem parseByIndex_eq (all : Tokens) :
    parseByIndex all = (parseTokens all).mapError .refused := by
  have same := disjunctionAt_same (termAt_same all all.length) 0
  rw [List.drop_zero] at same
  unfold parseByIndex parseTokens
  dsimp only [Tokens.lastOffset] at same ⊢
  generalize disjunctionAt all (termAt all all.length) 0 = read at same ⊢
  generalize disjunction (parseTerm ((all.getLast?.map Located.offset).getD 0) all.length) all =
    parsed at same ⊢
  cases same with
  | refused e => rfl
  | ok expr pos =>
    simp only [bind, Except.bind]
    cases h : tokenAt all pos with
    | none =>
      rw [drop_of_tokenAt_none h]
      rfl
    | some t =>
      rw [drop_of_tokenAt_some h]
      rfl

/-- No slice of a source is off the places between its characters, and no index falls below zero. A
source that is scanned is cut into blanks and the segments of its tokens, at strictly increasing
offsets. A source that is refused is blank, or the error is at the character where nothing can be
read any more. -/
theorem scan_drops_nothing (source : String) :
    scanByIndex source = (scan source).mapError .refused ∧
    (∀ tokens, parseByIndex tokens = (parseTokens tokens).mapError .refused) ∧
    match scan source with
    | .ok tokens =>
      tokens ≠ [] ∧ Cuts 0 source.toList tokens [] ∧
      (tokens.Pairwise fun t u => t.offset < u.offset) ∧
      ∀ t ∈ tokens, ∃ before segment after, source.toList = before ++ segment ++ after ∧
        t.offset = byteSize before ∧ t.token.ReadFrom segment
    | .error e =>
      (∀ c ∈ source.toList, isBlank c = true) ∧ e = ⟨0, .emptyCondition⟩ ∨
      ∃ before c rest tokens, source.toList = before ++ c :: rest ∧
        Cuts 0 source.toList tokens (c :: rest) ∧ e.offset = byteSize before ∧
        Unreadable (c :: rest) e.reason := by
  refine ⟨scanByIndex_eq source, parseByIndex_eq, ?_⟩
  have cut := cutsAll_scanFrom 0 source.toList
  rw [scan]
  cases hscan : scanFrom 0 source.toList with
  | error e =>
    rw [hscan] at cut
    obtain ⟨before, left, tokens, split, cuts, ho, why⟩ := cut
    obtain ⟨c, rest, rfl⟩ := why.exists_cons
    exact .inr ⟨before, c, rest, tokens, split, cuts, ho.trans (Nat.zero_add _), why⟩
  | ok tokens =>
    rw [hscan] at cut
    cases tokens with
    | nil => exact .inl ⟨Cuts.blanks cut, rfl⟩
    | cons t tokens =>
      refine ⟨List.cons_ne_nil _ _, cut, Cuts.offset_lt cut, fun u hu => ?_⟩
      obtain ⟨before, segment, after, split, ho, reads⟩ := Cuts.segment_of_mem cut hu
      exact ⟨before, segment, after, split, ho.trans (Nat.zero_add _), reads⟩

end Conduit.Condition
