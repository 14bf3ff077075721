import Conduit.Condition.Parser
import Conduit.Proofs.Except
import Mathlib

/-!
# The grammar of conditions

Which rows of tokens are conditions, and of which expressions. The main statement says that the
parser accepts these rows and no others, and that it returns the one expression of a row.
-/

namespace Conduit.Condition

/-! ## The grammar -/

/-- The token is an operand by itself. -/
inductive Token.Stands : Token → Operand → Prop where
  | string (s : String) : Stands (.string s) (.literal (.string s))
  | number (x : Number.Binary64) : Stands (.number x) (.literal (.number x))
  | true : Stands (.word "true") (.literal (.bool true))
  | false : Stands (.word "false") (.literal (.bool false))
  | null : Stands (.word "null") (.literal .null)
  | path {w : String} (hw : w ∉ ["true", "false", "null"]) : Stands (.word w) (.path (splitPath w))

/-- What a row of tokens can be, from what holds together the least to what does the most. -/
inductive Level where
  | disjunction
  | conjunction
  | unary

/-- The row of tokens is an expression of the level. A disjunction is made of conjunctions and a
conjunction of unary expressions, each joined to what stands left of it. -/
inductive Derives : Level → List Token → Expr → Prop where
  | conjunction {ts : List Token} {p : Expr} (h : Derives .conjunction ts p) :
      Derives .disjunction ts p
  | or {ts us : List Token} {p q : Expr} (left : Derives .disjunction ts p)
      (right : Derives .conjunction us q) : Derives .disjunction (ts ++ .or :: us) (.or p q)
  | unary {ts : List Token} {p : Expr} (h : Derives .unary ts p) : Derives .conjunction ts p
  | and {ts us : List Token} {p q : Expr} (left : Derives .conjunction ts p)
      (right : Derives .unary us q) : Derives .conjunction (ts ++ .and :: us) (.and p q)
  | not {ts : List Token} {p : Expr} (h : Derives .unary ts p) :
      Derives .unary (.not :: ts) (.not p)
  | parentheses {ts : List Token} {p : Expr} (h : Derives .disjunction ts p) :
      Derives .unary (.openParen :: (ts ++ [.closeParen])) p
  | present (w : String) : Derives .unary [.word "exists", .word w] (.present (splitPath w))
  | truthy {t : Token} {o : Operand} (free : t ≠ .word "exists") (h : t.Stands o) :
      Derives .unary [t] (.truthy o)
  | compare {t u : Token} {l r : Operand} (free : t ≠ .word "exists") (left : t.Stands l)
      (c : Comparison) (right : u.Stands r) :
      Derives .unary [t, .comparison c, u] (.compare l c r)

/-- The tokens without the places they were read from. -/
def Tokens.kinds (tokens : Tokens) : List Token := tokens.map Located.token

def Tokens.lastOffset (tokens : Tokens) : Nat := (tokens.getLast?.map Located.offset).getD 0

/-! ## Operands -/

theorem Token.stands_word_iff {w : String} {o : Operand} :
    (Token.word w).Stands o ↔ o = wordOperand w := by
  unfold wordOperand
  constructor
  · intro h
    cases h with
    | path hw =>
      simp only [List.mem_cons, List.not_mem_nil, or_false, not_or] at hw
      rw [if_neg hw.1, if_neg hw.2.1, if_neg hw.2.2]
    | _ => rfl
  · rintro rfl
    split
    · next h => exact h ▸ .true
    split
    · next h => exact h ▸ .false
    split
    · next h => exact h ▸ .null
    · next ht hf hn => exact .path (by simp [ht, hf, hn])

theorem parseOperand_eq_ok_iff {last : Nat} {tokens rest : Tokens} {o : Operand} :
    parseOperand last tokens = .ok (o, rest) ↔ ∃ t, tokens = t :: rest ∧ t.token.Stands o := by
  constructor
  · intro h
    match tokens, h with
    | ⟨_, .string s⟩ :: _, h => cases h; exact ⟨_, rfl, .string s⟩
    | ⟨_, .number x⟩ :: _, h => cases h; exact ⟨_, rfl, .number x⟩
    | ⟨_, .word w⟩ :: _, h => cases h; exact ⟨_, rfl, Token.stands_word_iff.2 rfl⟩
  · rintro ⟨⟨offset, t⟩, rfl, h⟩
    cases t with
    | word w => rw [Token.stands_word_iff.1 h]; rfl
    | _ => cases h <;> rfl

/-! ## What is accepted is in the grammar -/

/-- Of rows of tokens that are not too long, the parser takes a front that is in the language. -/
def Takes (n : Nat) (language : List Token → Expr → Prop) (parse : Parser Expr) : Prop :=
  ∀ (tokens : Tokens) (p : Expr) (rest : Tokens), tokens.length ≤ n →
    parse tokens = .ok (p, rest) → ∃ front, tokens = front ++ rest ∧ language front.kinds p

theorem kinds_cons (t : Located) (tokens : Tokens) :
    Tokens.kinds (t :: tokens) = t.token :: tokens.kinds := rfl

theorem kinds_append (front back : Tokens) : (front ++ back).kinds = front.kinds ++ back.kinds :=
  List.map_append

section

variable {n : Nat} {separator : Token} {join : Expr → Expr → Expr} {term : Parser Expr}
  {terms joins : List Token → Expr → Prop} (hterm : Takes n terms term)
  (more : ∀ {ts us p q}, joins ts p → terms us q → joins (ts ++ separator :: us) (join p q))
include hterm more

theorem takes_joinFrom (fuel : Nat) {before tokens rest : Tokens} {left p : Expr}
    (hleft : joins before.kinds left) (short : tokens.length ≤ n)
    (h : joinFrom separator join term fuel left tokens = .ok (p, rest)) :
    ∃ front, tokens = front ++ rest ∧ joins (before ++ front).kinds p := by
  have stop (hs : (.ok (left, tokens) : Except ParseError (Expr × Tokens)) = .ok (p, rest)) :
      ∃ front, tokens = front ++ rest ∧ joins (before ++ front).kinds p := by
    cases hs
    exact ⟨[], rfl, (List.append_nil before).symm ▸ hleft⟩
  induction fuel generalizing before tokens left with
  | zero => exact stop h
  | succ fuel ih =>
    match tokens with
    | [] => exact stop h
    | t :: tail =>
      unfold joinFrom at h
      dsimp only at h
      split at h
      -- A separator and one more term follow.
      · next ht =>
        obtain ⟨⟨right, tail'⟩, hr, hmore⟩ := Except.exists_of_bind h
        obtain ⟨next, rfl, hnext⟩ := hterm tail right tail' (Nat.le_of_succ_le short) hr
        have hjoined : joins (before ++ t :: next).kinds (join left right) := by
          rw [kinds_append, kinds_cons, ht]
          exact more hleft hnext
        have hshort : tail'.length ≤ n := by
          simp only [List.length_cons, List.length_append] at short
          omega
        obtain ⟨front, rfl, hfront⟩ := ih hjoined hshort hmore fun hs => by
          cases hs
          exact ⟨[], rfl, (List.append_nil (before ++ t :: next)).symm ▸ hjoined⟩
        exact ⟨t :: next ++ front, by simp, by simpa using hfront⟩
      · exact stop h

theorem takes_joined (one : ∀ {ts p}, terms ts p → joins ts p) :
    Takes n joins (joined separator join term) := by
  intro tokens p rest short h
  obtain ⟨⟨left, tail⟩, hl, hmore⟩ := Except.exists_of_bind h
  obtain ⟨first, rfl, hfirst⟩ := hterm tokens left tail short hl
  have hshort : tail.length ≤ n := by
    rw [List.length_append] at short
    omega
  obtain ⟨front, rfl, hfront⟩ := takes_joinFrom hterm more _ (one hfirst) hshort hmore
  exact ⟨first ++ front, (List.append_assoc _ _ _).symm, hfront⟩

end

theorem takes_disjunction {n : Nat} {term : Parser Expr} (h : Takes n (Derives .unary) term) :
    Takes n (Derives .disjunction) (disjunction term) :=
  takes_joined (takes_joined h .and .unary) .or .conjunction

theorem derives_of_parseComparison {last : Nat} {tokens rest : Tokens} {p : Expr}
    (free : ∀ t ∈ tokens.head?, t.token ≠ .word "exists")
    (h : parseComparison last tokens = .ok (p, rest)) :
    ∃ front, tokens = front ++ rest ∧ Derives .unary front.kinds p := by
  obtain ⟨⟨left, tail⟩, hl, hmore⟩ := Except.exists_of_bind h
  obtain ⟨t, rfl, ht⟩ := parseOperand_eq_ok_iff.1 hl
  have hfree := free t rfl
  dsimp only at hmore
  split at hmore
  · next c more =>
    obtain ⟨⟨right, tail⟩, hr, hright⟩ := Except.exists_of_bind hmore
    obtain ⟨u, rfl, hu⟩ := parseOperand_eq_ok_iff.1 hr
    cases hright
    exact ⟨[t, ⟨_, .comparison c⟩, u], rfl, .compare hfree ht c hu⟩
  · cases hmore
    exact ⟨[t], rfl, .truthy hfree ht⟩

theorem takes_parseTerm (last depth : Nat) :
    Takes depth (Derives .unary) (parseTerm last depth) := by
  induction depth with
  | zero =>
    intro tokens p rest short h
    obtain rfl := List.eq_nil_of_length_eq_zero (Nat.le_zero.1 short)
    cases h
  | succ depth ih =>
    intro tokens p rest short h
    unfold parseTerm at h
    split at h
    -- A negation.
    · next tail =>
      obtain ⟨⟨inner, tail'⟩, hi, hinner⟩ := Except.exists_of_bind h
      obtain ⟨front, rfl, hfront⟩ := ih tail inner tail' (Nat.le_of_succ_le_succ short) hi
      cases hinner
      exact ⟨_ :: front, rfl, .not hfront⟩
    -- Parentheses, which have to be closed.
    · next tail =>
      obtain ⟨⟨inner, tail'⟩, hi, hinner⟩ := Except.exists_of_bind h
      obtain ⟨front, rfl, hfront⟩ :=
        takes_disjunction ih tail inner tail' (Nat.le_of_succ_le_succ short) hi
      dsimp only at hinner
      split at hinner
      · cases hinner
      · next t more =>
        split at hinner
        · next ht =>
          cases hinner
          refine ⟨_ :: (front ++ [t]), by rw [List.cons_append, List.append_assoc]; rfl, ?_⟩
          rw [kinds_cons, kinds_append, kinds_cons, ht]
          exact .parentheses hfront
        · cases hinner
    -- A word: the test for a path, or the start of a comparison.
    · next offset w tail =>
      split at h
      · next hw =>
        subst hw
        split at h
        · cases h
        · next path tail =>
          cases h
          exact ⟨[_, _], rfl, .present path⟩
        · cases h
      · next hw =>
        refine derives_of_parseComparison (fun t ht => ?_) h
        cases ht
        exact fun he => hw (Token.word.inj he)
    · next hword =>
      refine derives_of_parseComparison (fun t ht he => ?_) h
      obtain ⟨offset, token⟩ := t
      obtain ⟨tail, rfl⟩ := List.head?_eq_some_iff.1 ht
      cases he
      exact hword _ _ _ rfl

/-! ## What is in the grammar is accepted -/

def NoComparisonAhead (tokens : Tokens) : Prop :=
  ∀ t ∈ tokens.head?, ∀ c, t.token ≠ .comparison c

def NotAhead (separator : Token) (tokens : Tokens) : Prop :=
  ∀ t ∈ tokens.head?, t.token ≠ separator

theorem noComparisonAhead_nil : NoComparisonAhead [] := fun _ h => nomatch h

theorem notAhead_nil (separator : Token) : NotAhead separator [] := fun _ h => nomatch h

theorem noComparisonAhead_cons {offset : Nat} {t : Token} (h : ∀ c, t ≠ .comparison c)
    (tail : Tokens) : NoComparisonAhead (⟨offset, t⟩ :: tail) := fun u hu => by
  cases hu
  exact h

theorem notAhead_cons {separator : Token} {offset : Nat} {t : Token} (h : t ≠ separator)
    (tail : Tokens) : NotAhead separator (⟨offset, t⟩ :: tail) := fun u hu => by
  cases hu
  exact h

theorem joinFrom_of_notAhead {separator : Token} {join : Expr → Expr → Expr} {term : Parser Expr}
    (fuel : Nat) (p : Expr) {rest : Tokens} (h : NotAhead separator rest) :
    joinFrom separator join term fuel p rest = .ok (p, rest) := by
  match fuel, rest with
  | 0, _ => rfl
  | _ + 1, [] => rfl
  | _ + 1, t :: _ => exact if_neg (h t rfl)

theorem exists_joinFrom_of_separator {separator : Token} {join : Expr → Expr → Expr}
    {term : Parser Expr} {offset fuel : Nat} {back rest : Tokens} {q : Expr} (p : Expr)
    (hterm : term (back ++ rest) = .ok (q, rest))
    (enough : (⟨offset, separator⟩ :: (back ++ rest) : Tokens).length ≤ fuel) :
    ∃ more, rest.length ≤ more ∧
      joinFrom separator join term fuel p (⟨offset, separator⟩ :: (back ++ rest)) =
        joinFrom separator join term more (join p q) rest := by
  match fuel, enough with
  | fuel + 1, enough =>
    rw [List.length_cons, List.length_append] at enough
    refine ⟨fuel, by omega, ?_⟩
    rw [joinFrom]
    dsimp only
    rw [if_pos rfl, hterm]
    rfl

/-- How the parser of a level goes on behind a row of tokens that is an expression of the level. -/
def Continues (last n : Nat) (front rest : Tokens) (p : Expr) : Level → Prop
  | .unary => parseTerm last n (front ++ rest) = .ok (p, rest)
  | .conjunction => ∃ fuel, rest.length ≤ fuel ∧
      joined .and .and (parseTerm last n) (front ++ rest) =
        joinFrom .and .and (parseTerm last n) fuel p rest
  | .disjunction => NotAhead .and rest → ∃ fuel, rest.length ≤ fuel ∧
      disjunction (parseTerm last n) (front ++ rest) =
        joinFrom .or .or (joined .and .and (parseTerm last n)) fuel p rest

theorem kinds_eq_append {tokens : Tokens} {ts us : List Token} (h : tokens.kinds = ts ++ us) :
    ∃ front back, tokens = front ++ back ∧ front.kinds = ts ∧ back.kinds = us := by
  obtain ⟨front, back, rfl, hf, hb⟩ := List.map_eq_append_iff.1 h
  exact ⟨front, back, rfl, hf, hb⟩

theorem kinds_eq_cons {tokens : Tokens} {t : Token} {ts : List Token}
    (h : tokens.kinds = t :: ts) :
    ∃ (offset : Nat) (tail : Tokens), tokens = ⟨offset, t⟩ :: tail ∧ tail.kinds = ts := by
  obtain ⟨⟨offset, _⟩, tail, rfl, rfl, ht⟩ := List.map_eq_cons_iff.1 h
  exact ⟨offset, tail, rfl, ht⟩

theorem kinds_eq_nil {tokens : Tokens} (h : tokens.kinds = []) : tokens = [] :=
  List.map_eq_nil_iff.1 h

theorem parseTerm_of_stands {last n offset : Nat} {t : Token} {o : Operand}
    (free : t ≠ .word "exists") (h : t.Stands o) (tail : Tokens) :
    parseTerm last n (⟨offset, t⟩ :: tail) = parseComparison last (⟨offset, t⟩ :: tail) := by
  cases n with
  | zero => rfl
  | succ n =>
    unfold parseTerm
    cases h with
    | string s => rfl
    | number x => rfl
    | _ => exact if_neg fun he => free (congrArg Token.word he)

theorem parseComparison_of_stands {last offset : Nat} {t : Token} {o : Operand} (h : t.Stands o)
    {tail : Tokens} (ahead : NoComparisonAhead tail) :
    parseComparison last (⟨offset, t⟩ :: tail) = .ok (.truthy o, tail) := by
  unfold parseComparison
  rw [parseOperand_eq_ok_iff.2 ⟨⟨offset, t⟩, rfl, h⟩]
  match tail, ahead with
  | [], _ => rfl
  | ⟨_, .comparison c⟩ :: _, ahead => exact absurd rfl (ahead _ rfl c)
  | ⟨_, .word _⟩ :: _, _ => rfl
  | ⟨_, .string _⟩ :: _, _ => rfl
  | ⟨_, .number _⟩ :: _, _ => rfl
  | ⟨_, .openParen⟩ :: _, _ => rfl
  | ⟨_, .closeParen⟩ :: _, _ => rfl
  | ⟨_, .not⟩ :: _, _ => rfl
  | ⟨_, .and⟩ :: _, _ => rfl
  | ⟨_, .or⟩ :: _, _ => rfl

/-- What follows a row of tokens is taken up where the row ends. The induction is on how the row is
derived, for every depth that the row does not go beyond. -/
theorem Derives.continues {level : Level} {ts : List Token} {p : Expr} (h : Derives level ts p)
    (last : Nat) : ∀ (n : Nat) (front rest : Tokens), front.kinds = ts → ts.length ≤ n →
      NoComparisonAhead rest → Continues last n front rest p level := by
  induction h with
  | conjunction h ih =>
    intro n front rest hf short ahead other
    obtain ⟨fuel, -, hjoined⟩ := ih n front rest hf short ahead
    rw [joinFrom_of_notAhead fuel _ other] at hjoined
    refine ⟨rest.length, Nat.le_refl _, ?_⟩
    unfold disjunction
    rw [joined, hjoined]
    rfl
  | @or ts us p q left right ihl ihr =>
    intro n tokens rest hf short ahead other
    obtain ⟨front, tail, rfl, hl, ht⟩ := kinds_eq_append hf
    obtain ⟨offset, back, rfl, hr⟩ := kinds_eq_cons ht
    rw [List.length_append, List.length_cons] at short
    -- No conjunction goes on behind the right side, so it ends there, and the left side does too.
    obtain ⟨more, -, hright⟩ := ihr n back rest hr (by omega) ahead
    rw [joinFrom_of_notAhead more _ other] at hright
    obtain ⟨fuel, enough, hgo⟩ := ihl n front (⟨offset, .or⟩ :: (back ++ rest)) hl (by omega)
      (noComparisonAhead_cons (by nofun) _) (notAhead_cons (by nofun) _)
    rw [List.append_assoc, List.cons_append, hgo]
    exact exists_joinFrom_of_separator p hright enough
  | unary h ih =>
    intro n front rest hf short ahead
    refine ⟨rest.length, Nat.le_refl _, ?_⟩
    have hterm : parseTerm last n (front ++ rest) = _ := ih n front rest hf short ahead
    rw [joined, hterm]
    rfl
  | @and ts us p q left right ihl ihr =>
    intro n tokens rest hf short ahead
    obtain ⟨front, tail, rfl, hl, ht⟩ := kinds_eq_append hf
    obtain ⟨offset, back, rfl, hr⟩ := kinds_eq_cons ht
    rw [List.length_append, List.length_cons] at short
    have hright : parseTerm last n (back ++ rest) = _ := ihr n back rest hr (by omega) ahead
    obtain ⟨fuel, enough, hgo⟩ := ihl n front (⟨offset, .and⟩ :: (back ++ rest)) hl (by omega)
      (noComparisonAhead_cons (by nofun) _)
    unfold Continues
    rw [List.append_assoc, List.cons_append, hgo]
    exact exists_joinFrom_of_separator p hright enough
  | not h ih =>
    intro n tokens rest hf short ahead
    obtain ⟨offset, front, rfl, hfront⟩ := kinds_eq_cons hf
    match n, short with
    | n + 1, short =>
      have hinner : parseTerm last n (front ++ rest) = _ :=
        ih n front rest hfront (Nat.le_of_succ_le_succ short) ahead
      unfold Continues
      rw [List.cons_append, parseTerm, hinner]
      rfl
  | parentheses h ih =>
    intro n tokens rest hf short ahead
    obtain ⟨offset, inside, rfl, hin⟩ := kinds_eq_cons hf
    obtain ⟨front, tail, rfl, hfront, ht⟩ := kinds_eq_append hin
    obtain ⟨offset', none, rfl, hnone⟩ := kinds_eq_cons ht
    obtain rfl := kinds_eq_nil hnone
    match n, short with
    | n + 1, short =>
      rw [List.length_cons, List.length_append] at short
      -- The closing parenthesis is no operator, so what is inside ends before it.
      obtain ⟨fuel, -, hinner⟩ := ih n front (⟨offset', .closeParen⟩ :: rest) hfront (by omega)
        (noComparisonAhead_cons (by nofun) _) (notAhead_cons (by nofun) _)
      rw [joinFrom_of_notAhead fuel _ (notAhead_cons (by nofun) _)] at hinner
      unfold Continues
      rw [List.cons_append, List.append_assoc, List.singleton_append, parseTerm, hinner]
      rfl
  | present w =>
    intro n tokens rest hf short ahead
    obtain ⟨offset, tail, rfl, ht⟩ := kinds_eq_cons hf
    obtain ⟨offset', none, rfl, hnone⟩ := kinds_eq_cons ht
    obtain rfl := kinds_eq_nil hnone
    match n, short with
    | n + 1, _ => rfl
  | truthy free ho =>
    intro n tokens rest hf short ahead
    obtain ⟨offset, none, rfl, hnone⟩ := kinds_eq_cons hf
    obtain rfl := kinds_eq_nil hnone
    exact (parseTerm_of_stands free ho rest).trans (parseComparison_of_stands ho ahead)
  | compare free left c right =>
    intro n tokens rest hf short ahead
    obtain ⟨offset, tail, rfl, ht⟩ := kinds_eq_cons hf
    obtain ⟨offset', tail, rfl, ht'⟩ := kinds_eq_cons ht
    obtain ⟨offset'', none, rfl, hnone⟩ := kinds_eq_cons ht'
    obtain rfl := kinds_eq_nil hnone
    refine (parseTerm_of_stands free left _).trans ?_
    unfold parseComparison
    rw [parseOperand_eq_ok_iff.2 ⟨⟨offset, _⟩, rfl, left⟩]
    change (parseOperand last (⟨offset'', _⟩ :: rest) >>= _) = _
    rw [parseOperand_eq_ok_iff.2 ⟨⟨offset'', _⟩, rfl, right⟩]
    rfl

/-! ## The parser and the grammar -/

theorem parseTokens_eq_ok_iff {tokens : Tokens} {p : Expr} :
    parseTokens tokens = .ok p ↔ Derives .disjunction tokens.kinds p := by
  unfold parseTokens
  dsimp only
  generalize (tokens.getLast?.map Located.offset).getD 0 = last
  constructor
  · intro h
    obtain ⟨⟨q, rest⟩, hq, hrest⟩ := Except.exists_of_bind h
    obtain ⟨front, rfl, hfront⟩ :=
      takes_disjunction (takes_parseTerm last _) tokens q rest (Nat.le_refl _) hq
    match rest, hrest with
    | [], hrest =>
      cases hrest
      rwa [List.append_nil]
  · intro h
    obtain ⟨fuel, -, hgo⟩ := h.continues last tokens.length tokens [] rfl
      (Nat.le_of_eq (List.length_map _)) noComparisonAhead_nil (notAhead_nil _)
    rw [List.append_nil, joinFrom_of_notAhead fuel _ (notAhead_nil _)] at hgo
    rw [hgo]
    rfl

theorem parse_of_scan {source : String} {tokens : Tokens} {p : Expr}
    (scanned : scan source = .ok tokens) (row : Derives .disjunction tokens.kinds p) :
    Condition.parse source = .ok ⟨source, p⟩ := by
  unfold Condition.parse
  rw [scanned]
  change (parseTokens tokens >>= _) = _
  rw [parseTokens_eq_ok_iff.2 row]
  rfl

/-- The tokens of a source make up a condition exactly if they are in the grammar, all of them, and
then the condition is the only one that they derive. -/
theorem parses_exactly {source : String} {tokens : Tokens} (scanned : scan source = .ok tokens) :
    (∀ c, Condition.parse source = .ok c ↔
      c.source = source ∧ Derives .disjunction tokens.kinds c.expr) ∧
    ∀ p q, Derives .disjunction tokens.kinds p → Derives .disjunction tokens.kinds q → p = q := by
  refine ⟨fun c => ?_, fun p q hp hq => ?_⟩
  · unfold Condition.parse
    rw [scanned, ← parseTokens_eq_ok_iff]
    change (parseTokens tokens >>= _) = _ ↔ _
    obtain ⟨text, p⟩ := c
    constructor
    · intro h
      obtain ⟨q, hq, hc⟩ := Except.exists_of_bind h
      cases hc
      exact ⟨rfl, hq⟩
    · rintro ⟨rfl, h⟩
      rw [h]
      rfl
  · rw [← parseTokens_eq_ok_iff] at hp hq
    exact Except.ok.inj (hp.symm.trans hq)

/-- In a condition without parentheses the negation takes the comparison, the conjunction takes the
negation and the disjunction takes the conjunction. -/
theorem parses_exactly_mixed :
    Condition.parse "a || !b == 'x' && exists c" = .ok ⟨"a || !b == 'x' && exists c",
      .or (.truthy (.path ["a"]))
        (.and (.not (.compare (.path ["b"]) .equal (.literal (.string "x")))) (.present ["c"]))⟩ ∧
    ∃ tokens : Tokens, scan "a || !b == 'x' && exists c" = .ok tokens ∧
      ∀ q, Derives .disjunction tokens.kinds q → q = .or (.truthy (.path ["a"]))
        (.and (.not (.compare (.path ["b"]) .equal (.literal (.string "x"))))
          (.present ["c"])) := by
  have scanned : scan "a || !b == 'x' && exists c" = .ok [⟨0, .word "a"⟩, ⟨2, .or⟩, ⟨5, .not⟩,
      ⟨6, .word "b"⟩, ⟨8, .comparison .equal⟩, ⟨11, .string "x"⟩, ⟨15, .and⟩, ⟨18, .word "exists"⟩,
      ⟨25, .word "c"⟩] := by cbv
  have parsed : Condition.parse "a || !b == 'x' && exists c" = .ok ⟨"a || !b == 'x' && exists c",
      .or (.truthy (.path ["a"]))
        (.and (.not (.compare (.path ["b"]) .equal (.literal (.string "x"))))
          (.present ["c"]))⟩ := by cbv
  have h := parses_exactly scanned
  exact ⟨parsed, _, scanned, fun q hq => h.2 _ _ hq ((h.1 _).1 parsed).2⟩

end Conduit.Condition
