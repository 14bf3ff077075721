import Conduit.Proofs.Condition.Grammar
import Conduit.Proofs.Condition.Spelling

/-!
# Printing conditions

Which sources are renderings of an expression, and which expressions have one. The main statement
says that every rendering of an expression is read as this expression.
-/

namespace Conduit.Condition

open Number Text

/-! ## Renderings -/

/-- Where an expression stands: alone, between parentheses or as a part of another expression. -/
inductive Position where
  | whole
  | part

/-- The expression is rendered as the row of tokens. Conjunctions and disjunctions that are parts
stand in parentheses, and every other expression may. -/
inductive Expr.Row : Position → Expr → List Token → Prop where
  | or {p q : Expr} {ts us : List Token} (left : Row .part p ts) (right : Row .part q us) :
      Row .whole (.or p q) (ts ++ .or :: us)
  | and {p q : Expr} {ts us : List Token} (left : Row .part p ts) (right : Row .part q us) :
      Row .whole (.and p q) (ts ++ .and :: us)
  | not {position : Position} {p : Expr} {ts : List Token} (h : Row .part p ts) :
      Row position (.not p) (.not :: ts)
  | present {position : Position} (w : String) :
      Row position (.present (splitPath w)) [.word "exists", .word w]
  | truthy {position : Position} {t : Token} {o : Operand} (free : t ≠ .word "exists")
      (h : t.Stands o) : Row position (.truthy o) [t]
  | compare {position : Position} {t u : Token} {l r : Operand} (free : t ≠ .word "exists")
      (left : t.Stands l) (c : Comparison) (right : u.Stands r) :
      Row position (.compare l c r) [t, .comparison c, u]
  | parentheses {position : Position} {p : Expr} {ts : List Token} (h : Row .whole p ts) :
      Row position p (.openParen :: (ts ++ [.closeParen]))

/-- The source is the expression, with blanks between the tokens. -/
def Expr.Rendered (e : Expr) (source : String) : Prop :=
  ∃ ts, e.Row .whole ts ∧ Writes source ts

/-! ## Expressions that can be rendered -/

/-- The words that are no paths where an operand is due. -/
def operandWords : List String := ["true", "false", "null"] ++ keywords

/-- The words that are no paths where an operand comes first. -/
def leadingWords : List String := "exists" :: operandWords

/-- The segments are those of a name that has no other meaning. -/
def IsPath (reserved : List String) (segments : List String) : Prop :=
  ∃ w : String, IsName w.toList ∧ w ∉ reserved ∧ splitPath w = segments

def Operand.Printable (reserved : List String) : Operand → Prop
  | .literal (.string _) | .literal (.bool _) | .literal .null => True
  | .literal (.number x) => ∃ n : Numeral, n.value = x
  | .literal (.array _) | .literal (.object _) => False
  | .path segments => IsPath reserved segments

def Expr.Printable : Expr → Prop
  | .or p q | .and p q => p.Printable ∧ q.Printable
  | .not p => p.Printable
  | .present path => IsPath keywords path
  | .compare l _ r => l.Printable leadingWords ∧ r.Printable operandWords
  | .truthy o => o.Printable leadingWords

/-! ## A rendering is in the grammar -/

/-- What the grammar takes for an expression in a position. -/
def Position.level : Position → Level
  | whole => .disjunction
  | part => .unary

theorem derives_level {position : Position} {ts : List Token} {p : Expr} (h : Derives .unary ts p) :
    Derives position.level ts p := by
  cases position with
  | whole => exact .conjunction (.unary h)
  | part => exact h

theorem Expr.Row.derives {position : Position} {e : Expr} {ts : List Token}
    (h : e.Row position ts) : Derives position.level ts e := by
  induction h with
  | or _ _ left right => exact .or (.conjunction (.unary left)) (.unary right)
  | and _ _ left right => exact .conjunction (.and (.unary left) right)
  | not _ h => exact derives_level (.not h)
  | present w => exact derives_level (.present w)
  | truthy free h => exact derives_level (.truthy free h)
  | compare free left c right => exact derives_level (.compare free left c right)
  | parentheses _ h => exact derives_level (.parentheses h)

/-- A row of tokens that an expression derives is read as this expression, however it is written. -/
theorem parse_of_writes {source : String} {ts : List Token} {e : Expr}
    (h : Derives .disjunction ts e) (written : Writes source ts) :
    Condition.parse source = .ok ⟨source, e⟩ := by
  obtain ⟨tokens, hscan, rfl⟩ := written.exists_scan
  exact parse_of_scan hscan h

/-! ## Every printable expression has a rendering -/

theorem exists_quoted (quote : Char) (text : List Char) : ∃ written, Quoted quote text written := by
  induction text with
  | nil => exact ⟨[], .nil⟩
  | cons c text ih =>
    obtain ⟨written, h⟩ := ih
    -- A backslash may stand before every character.
    exact ⟨_, .escaped c h⟩

def Token.Spellable (t : Token) : Prop := ∃ text, t.Spelled text

theorem Token.spellable_word {w : String} (name : IsName w.toList) (free : w ∉ keywords) :
    (Token.word w).Spellable := ⟨_, .word name free⟩

theorem Operand.Printable.exists_token {reserved : List String} {o : Operand}
    (h : o.Printable reserved) (operand : operandWords ⊆ reserved) :
    ∃ t : Token, t.Stands o ∧ t.Spellable ∧ ("exists" ∈ reserved → t ≠ .word "exists") := by
  have constant {w : String} (name : IsName w.toList) (free : w ∉ keywords) (hw : w ≠ "exists") :
      (Token.word w).Spellable ∧ ("exists" ∈ reserved → Token.word w ≠ .word "exists") :=
    ⟨Token.spellable_word name free, fun _ he => hw (Token.word.inj he)⟩
  match o, h with
  | .literal (.string s), _ =>
    obtain ⟨written, hw⟩ := exists_quoted '"' s.toList
    have := Token.Spelled.string (.inl rfl) hw
    rw [String.ofList_toList] at this
    exact ⟨_, .string s, ⟨_, this⟩, fun _ => (by nofun)⟩
  | .literal (.number _), ⟨n, rfl⟩ => exact ⟨_, .number _, ⟨_, .number n⟩, fun _ => (by nofun)⟩
  | .literal (.bool true), _ =>
    exact ⟨_, .true, constant (by decide +kernel) (by decide) (by decide)⟩
  | .literal (.bool false), _ =>
    exact ⟨_, .false, constant (by decide +kernel) (by decide) (by decide)⟩
  | .literal .null, _ =>
    exact ⟨_, .null, constant (by decide +kernel) (by decide) (by decide)⟩
  | .path _, ⟨w, name, free, rfl⟩ =>
    have hw : w ∉ operandWords := fun h => free (operand h)
    refine ⟨_, .path fun h => hw (List.mem_append_left _ h),
      Token.spellable_word name fun h => hw (List.mem_append_right _ h), fun he h => free ?_⟩
    rwa [Token.word.inj h]

theorem spellable_exists : (Token.word "exists").Spellable :=
  Token.spellable_word (by decide +kernel) (by decide)

/-- In every position the expression has a row of tokens that can be written. -/
def Expr.Writable (e : Expr) : Prop :=
  ∀ position, ∃ ts, e.Row position ts ∧ ts ≠ [] ∧ ∀ t ∈ ts, t.Spellable

theorem Expr.writable_joined {p q e : Expr} {separator : Token} (spellable : separator.Spellable)
    (row : ∀ {ts us}, p.Row .part ts → q.Row .part us → e.Row .whole (ts ++ separator :: us))
    (left : p.Writable) (right : q.Writable) : e.Writable := by
  intro position
  obtain ⟨ts, hts, -, allts⟩ := left .part
  obtain ⟨us, hus, -, allus⟩ := right .part
  -- The parentheses make the row one for both positions.
  refine ⟨_, .parentheses (row hts hus), by nofun, ?_⟩
  simp only [List.mem_cons, List.mem_append, List.not_mem_nil, or_false]
  rintro t (rfl | (ht | rfl | ht) | rfl)
  · exact ⟨_, .openParen⟩
  · exact allts t ht
  · exact spellable
  · exact allus t ht
  · exact ⟨_, .closeParen⟩

theorem Expr.Printable.writable {e : Expr} (h : e.Printable) : e.Writable := by
  induction e with
  | or p q ihp ihq => exact writable_joined ⟨_, .or⟩ .or (ihp h.1) (ihq h.2)
  | and p q ihp ihq => exact writable_joined ⟨_, .and⟩ .and (ihp h.1) (ihq h.2)
  | not p ih =>
    intro position
    obtain ⟨ts, hts, -, all⟩ := ih h .part
    exact ⟨_, .not hts, by nofun, by simpa using ⟨⟨_, .not⟩, all⟩⟩
  | present path =>
    intro position
    obtain ⟨w, name, free, rfl⟩ := h
    exact ⟨_, .present w, by nofun,
      by simpa using ⟨spellable_exists, Token.spellable_word name free⟩⟩
  | compare l c r =>
    intro position
    obtain ⟨t, ht, hspell, free⟩ := h.1.exists_token (List.subset_cons_self _ _)
    obtain ⟨u, hu, hspell', -⟩ := h.2.exists_token (List.Subset.refl _)
    exact ⟨_, .compare (free List.mem_cons_self) ht c hu, by nofun,
      by simpa using ⟨hspell, ⟨_, .comparison c⟩, hspell'⟩⟩
  | truthy o =>
    intro position
    obtain ⟨t, ht, hspell, free⟩ := Operand.Printable.exists_token h (List.subset_cons_self _ _)
    exact ⟨_, .truthy (free List.mem_cons_self) ht, by nofun, by simpa using hspell⟩

theorem exists_spaced {ts : List Token} (some : ts ≠ []) (spellable : ∀ t ∈ ts, t.Spellable) :
    ∃ text, Spaced ts text := by
  have space : ∀ b ∈ [' '], isBlank b = true := List.forall_mem_singleton.2 rfl
  have none : ∀ b ∈ [], isBlank b = true := by simp
  induction ts with
  | nil => exact absurd rfl some
  | cons t ts ih =>
    obtain ⟨text, ht⟩ := spellable t List.mem_cons_self
    by_cases hts : ts = []
    · subst hts
      exact ⟨_, .last ht none⟩
    · obtain ⟨rest, hrest⟩ := ih hts fun u hu => spellable u (List.mem_cons_of_mem _ hu)
      exact ⟨_, .more ht space (by simp) hrest⟩

/-- Every rendering of an expression is read as this expression, and a printable expression has a
rendering. -/
theorem parse_rendered (e : Expr) :
    (∀ source, e.Rendered source → Condition.parse source = .ok ⟨source, e⟩) ∧
    (e.Printable → ∃ source, e.Rendered source) := by
  refine ⟨fun source h => ?_, fun h => ?_⟩
  · obtain ⟨ts, hrow, written⟩ := h
    exact parse_of_writes hrow.derives written
  · obtain ⟨ts, hrow, some, spellable⟩ := h.writable .whole
    obtain ⟨text, hspaced⟩ := exists_spaced some spellable
    exact ⟨String.ofList text, ts, hrow, [], text, String.toList_ofList, by simp, hspaced⟩

def minusOneAndAHalf : Numeral :=
  ⟨true, ['1'], ['5', '0'], List.all_eq_true.1 rfl, by decide⟩

theorem parse_rendered_negation :
    let e : Expr := .not (.or (.truthy (.path ["a", "b"]))
      (.compare (.literal (.string "it's")) .lessEqual
        (.literal (.number minusOneAndAHalf.value))))
    e.Printable ∧ (∃ source, e.Rendered source) ∧ e.Rendered "not\n( a.b or 'it\\'s' <= -1.50 ) " ∧
      Condition.parse "not\n( a.b or 'it\\'s' <= -1.50 ) " =
        .ok ⟨"not\n( a.b or 'it\\'s' <= -1.50 ) ", e⟩ := by
  intro e
  have printable : e.Printable :=
    ⟨⟨"a.b", by decide +kernel, by decide, by decide +kernel⟩, trivial, _, rfl⟩
  have path : (Token.word "a.b").Stands (.path ["a", "b"]) := .path (by decide)
  have row : e.Row .whole [.not, .openParen, .word "a.b", .or, .string "it's",
      .comparison .lessEqual, .number minusOneAndAHalf.value, .closeParen] :=
    .not (.parentheses (.or (.truthy (by decide) path)
      (.compare (by decide) (.string _) _ (.number _))))
  have space : ∀ b ∈ [' '], isBlank b = true := List.forall_mem_singleton.2 rfl
  have newline : ∀ b ∈ ['\n'], isBlank b = true := List.forall_mem_singleton.2 rfl
  have apart : [' '] ≠ [] := by decide
  have quoted : Quoted '\'' "it's".toList "it\\'s".toList :=
    .plain (by decide) (by decide) (.plain (by decide) (by decide)
      (.escaped _ (.plain (by decide) (by decide) .nil)))
  have spaced : Spaced _ _ :=
    .more .notWord newline (by decide) <|
    .more .openParen space apart <|
    .more (.word (w := "a.b") (by decide +kernel) (by decide)) space apart <|
    .more .orWord space apart <|
    .more (.string (.inr rfl) quoted) space apart <|
    .more (.comparison .lessEqual) space apart <|
    .more (.number minusOneAndAHalf) space apart <|
    .last .closeParen space
  have rendered : e.Rendered "not\n( a.b or 'it\\'s' <= -1.50 ) " :=
    ⟨_, row, [], _, rfl, by simp, spaced⟩
  exact ⟨printable, (parse_rendered e).2 printable, rendered, (parse_rendered e).1 _ rendered⟩

end Conduit.Condition
