import Conduit.Proofs.Condition.Cutting
import Conduit.Proofs.Condition.Grammar

/-!
# Conditions in parentheses

How conditions are put together as texts. A condition in parentheses is read as it is read alone,
whatever stands around it, so it can be negated and joined to others.
-/

namespace Conduit.Condition

open Number Text

/-! ## Reading in front of a closing parenthesis -/

theorem takeWhile_closing {p : Char → Bool} (hp : p ')' = false) (rest more : List Char) :
    (rest ++ ')' :: more).takeWhile p = rest.takeWhile p := by
  induction rest with
  | nil => simp [hp]
  | cons c rest ih => simp [List.takeWhile_cons, ih]

theorem head?_closing {d : Char} (hd : d ≠ ')') (rest more : List Char) :
    (rest ++ ')' :: more).head? = some d ↔ rest.head? = some d := by
  cases rest with
  | nil => simpa using hd.symm
  | cons => rfl

theorem quotedText?_append {quote : Char} (hq : quote ≠ '\\') {rest text source : List Char}
    (h : quotedText? quote rest = some (text, source)) (more : List Char) :
    quotedText? quote (rest ++ more) = some (text, source) := by
  obtain ⟨written, rfl, quoted, behind, rfl⟩ := quoted_of_quotedText? rest h
  rw [List.append_assoc, List.append_assoc]
  exact quotedText?_of_quoted hq quoted _

/-- No token goes on with a closing parenthesis, but a string may hold one. -/
theorem lexeme_closing {c : Char} {rest : List Char} {l : Lexeme} (h : lexeme c rest = .ok l)
    (more : List Char) : lexeme c (rest ++ ')' :: more) = .ok l := by
  by_cases hq : c = '"' ∨ c = '\''
  · have slash : c ≠ '\\' := by rcases hq with rfl | rfl <;> decide
    cases hread : quotedText? c rest with
    | none => rcases hq with rfl | rfl <;> simp [lexeme, hread] at h
    | some read =>
      obtain ⟨text, source⟩ := read
      rw [lexeme_of_quotedText hq hread] at h
      rw [lexeme_of_quotedText hq (quotedText?_append slash hread _), h]
  · have digit : (rest ++ ')' :: more).head?.any isDigit = rest.head?.any isDigit := by
      cases rest <;> rfl
    rw [← h]
    unfold lexeme
    simp only [head?_closing (d := '&') (by decide), head?_closing (d := '|') (by decide),
      head?_closing (d := '=') (by decide), digit, hq, if_false,
      takeWhile_closing (p := isWordChar) rfl,
      takeWhile_closing (p := fun x => isDigit x || x == '.') rfl]

/-! ## Texts and rows of tokens -/

/-- Wherever the text starts, it is cut into the row of tokens. -/
def Reads (text : List Char) (ts : List Token) : Prop :=
  ∀ offset, ∃ tokens : Tokens, scanFrom offset text = .ok tokens ∧ tokens.kinds = ts

section

variable {text rest more : List Char} {ts us : List Token}

theorem reads_nil : Reads [] [] := fun offset => ⟨[], by rw [scanFrom], rfl⟩

theorem Reads.blank {c : Char} (hc : isBlank c = true) (h : Reads rest ts) :
    Reads (c :: rest) ts := fun offset => by
  rw [scanFrom, if_pos hc]
  exact h _

theorem Reads.token {c : Char} {segment : List Char} {t : Token} (hc : isBlank c = false)
    (read : lexeme c rest = .ok ⟨t, segment⟩) (h : Reads (rest.drop (segment.length - 1)) ts) :
    Reads (c :: rest) (t :: ts) := fun offset => by
  obtain ⟨tokens, hscan, hkinds⟩ := h (offset + byteSize segment)
  refine ⟨⟨offset, t⟩ :: tokens, ?_, by rw [kinds_cons, hkinds]⟩
  rw [scanFrom, if_neg (by simp [hc]), read]
  dsimp only
  rw [hscan]
  rfl

theorem reads_closing {offset : Nat} {tokens : Tokens} (h : scanFrom offset text = .ok tokens)
    (behind : Reads (')' :: more) us) : Reads (text ++ ')' :: more) (tokens.kinds ++ us) := by
  fun_induction scanFrom offset text generalizing tokens with
  | case1 =>
    cases h
    exact behind
  | case2 offset c rest hc ih => exact (ih h).blank hc
  | case3 => cases h
  | case4 offset c rest hc l hread ih =>
    obtain ⟨(later : Tokens), hscan, htokens⟩ := Except.exists_of_bind h
    cases htokens
    obtain ⟨t, segment⟩ := l
    have read := lexed c rest
    rw [hread] at read
    cases read with
    | read reads there =>
      have short : segment.length - 1 ≤ rest.length := by
        have := there.length_le
        rw [List.length_cons] at this
        omega
      have left : Reads ((rest ++ ')' :: more).drop (segment.length - 1)) (later.kinds ++ us) := by
        rw [List.drop_append_of_le_length short]
        exact ih hscan
      exact left.token (Bool.eq_false_iff.2 hc) (lexeme_closing hread more)

end

/-! ## Putting conditions together -/

/-- The text is a condition, which is the expression. -/
def IsCondition (text : List Char) (p : Expr) : Prop :=
  ∃ ts, Reads text ts ∧ Derives .disjunction ts p

/-- Whatever comes behind the text, the text is an expression that nothing there breaks up. -/
def IsTerm (text : List Char) (p : Expr) : Prop :=
  ∃ ts, Derives .unary ts p ∧
    ∀ {more : List Char} {us : List Token}, Reads more us → Reads (text ++ more) (ts ++ us)

theorem Derives.ne_nil {level : Level} {ts : List Token} {p : Expr} (h : Derives level ts p) :
    ts ≠ [] := by
  induction h <;> simp_all

theorem IsCondition.parse {source : String} {p : Expr} (h : IsCondition source.toList p) :
    Condition.parse source = .ok ⟨source, p⟩ := by
  obtain ⟨ts, reads, row⟩ := h
  obtain ⟨tokens, hscan, rfl⟩ := reads 0
  have some : tokens ≠ [] := fun none => row.ne_nil (congrArg Tokens.kinds none)
  have scanned : scan source = .ok tokens := by
    unfold scan
    rw [hscan]
    exact if_neg (by simpa using some)
  exact parse_of_scan scanned row

theorem exists_scanFrom_of_parse {source : String} {c : Condition}
    (h : Condition.parse source = .ok c) :
    ∃ tokens : Tokens, scanFrom 0 source.toList = .ok tokens ∧
      Derives .disjunction tokens.kinds c.expr := by
  obtain ⟨tokens, hscan, h⟩ := Except.exists_of_bind h
  obtain ⟨e, hparse, h⟩ := Except.exists_of_bind h
  cases h
  obtain ⟨all, hall, h⟩ := Except.exists_of_bind hscan
  split at h
  · cases h
  · cases h
    exact ⟨_, hall, parseTokens_eq_ok_iff.1 hparse⟩

section

variable {s t : List Char} {p q : Expr}

theorem isTerm_enclosed {offset : Nat} {tokens : Tokens} (h : scanFrom offset s = .ok tokens)
    (row : Derives .disjunction tokens.kinds p) : IsTerm ('(' :: (s ++ [')'])) p := by
  refine ⟨_, .parentheses row, fun {more us} behind => ?_⟩
  have closing : Reads (')' :: more) (.closeParen :: us) := .token rfl rfl behind
  have opening : Reads ('(' :: (s ++ ')' :: more)) _ := .token rfl rfl (reads_closing h closing)
  simpa using opening

theorem IsCondition.enclosed (h : IsCondition s p) : IsTerm ('(' :: (s ++ [')'])) p := by
  obtain ⟨ts, reads, row⟩ := h
  obtain ⟨tokens, hscan, rfl⟩ := reads 0
  exact isTerm_enclosed hscan row

theorem isTerm_of_parse {source : String} {c : Condition} (h : Condition.parse source = .ok c) :
    IsTerm ('(' :: (source.toList ++ [')'])) c.expr := by
  obtain ⟨tokens, hscan, row⟩ := exists_scanFrom_of_parse h
  exact isTerm_enclosed hscan row

theorem IsTerm.exists_row (h : IsTerm s p) : ∃ ts, Derives .unary ts p ∧ Reads s ts := by
  obtain ⟨ts, row, reads⟩ := h
  have alone := reads reads_nil
  rw [List.append_nil, List.append_nil] at alone
  exact ⟨ts, row, alone⟩

theorem IsTerm.isCondition (h : IsTerm s p) : IsCondition s p := by
  obtain ⟨ts, row, reads⟩ := h.exists_row
  exact ⟨ts, reads, .conjunction (.unary row)⟩

/-- Behind the exclamation mark stands a parenthesis, so no comparison begins with it. -/
theorem IsTerm.not (h : IsTerm ('(' :: s) p) : IsTerm ('!' :: '(' :: s) (.not p) := by
  obtain ⟨ts, row, reads⟩ := h
  exact ⟨_, .not row, fun behind => .token rfl rfl (reads behind)⟩

theorem IsTerm.join {symbol : List Char} {separator : Token} {join : Expr → Expr → Expr}
    (hread : ∀ {rest us}, Reads rest us → Reads (symbol ++ rest) (separator :: us))
    (hrow : ∀ {ts us}, Derives .unary ts p → Derives .unary us q →
      Derives .disjunction (ts ++ separator :: us) (join p q))
    (left : IsTerm s p) (right : IsTerm t q) : IsCondition (s ++ (symbol ++ t)) (join p q) := by
  obtain ⟨ts, hts, hs⟩ := left
  obtain ⟨us, hus, ht⟩ := right.exists_row
  exact ⟨_, hs (hread ht), hrow hts hus⟩

theorem IsTerm.or (left : IsTerm s p) (right : IsTerm t q) :
    IsCondition (s ++ ([' ', '|', '|', ' '] ++ t)) (.or p q) :=
  left.join (fun h => .blank rfl (.token rfl rfl (h.blank rfl)))
    (fun hp hq => .or (.conjunction (.unary hp)) (.unary hq)) right

theorem IsTerm.and (left : IsTerm s p) (right : IsTerm t q) :
    IsCondition (s ++ ([' ', '&', '&', ' '] ++ t)) (.and p q) :=
  left.join (fun h => .blank rfl (.token rfl rfl (h.blank rfl)))
    (fun hp hq => .conjunction (.and (.unary hp) hq)) right

end

end Conduit.Condition
