import Conduit.Condition.Token
import Conduit.Proofs.Number.Numeral

/-!
# The spelling of conditions

How a row of tokens can be written: every token in one of its spellings, with blanks between them.
A row that is written so is read back.
-/

namespace Conduit.Condition

open Number Text

/-! ## Spellings -/

/-- The text is written so between quotes of a kind. Any character may stand behind a backslash, and
such a quote and a backslash must. -/
inductive Quoted (quote : Char) : List Char → List Char → Prop where
  | nil : Quoted quote [] []
  | plain {c : Char} {text written : List Char} (hq : c ≠ quote) (hb : c ≠ '\\')
      (h : Quoted quote text written) : Quoted quote (c :: text) (c :: written)
  | escaped (c : Char) {text written : List Char} (h : Quoted quote text written) :
      Quoted quote (c :: text) ('\\' :: c :: written)

/-- A letter of some script or an underscore, and then letters, digits, underscores, points and
hyphens. -/
def IsName : List Char → Prop
  | [] => False
  | c :: rest =>
    (isAlphanumeric c = true ∧ isDigit c = false ∨ c = '_') ∧ rest.all isWordChar = true

instance : DecidablePred IsName
  | [] => inferInstanceAs (Decidable False)
  | c :: rest => inferInstanceAs (Decidable
      ((isAlphanumeric c = true ∧ isDigit c = false ∨ c = '_') ∧ rest.all isWordChar = true))

/-- The words that are tokens of their own. -/
def keywords : List String := ["contains", "and", "or", "not"]

def Comparison.symbol : Comparison → List Char
  | equal => ['=', '=']
  | unequal => ['!', '=']
  | less => ['<']
  | lessEqual => ['<', '=']
  | greater => ['>']
  | greaterEqual => ['>', '=']
  | contains => "contains".toList

/-- The token can be written so, with a blank or nothing behind it. -/
inductive Token.Spelled : Token → List Char → Prop where
  | openParen : Spelled .openParen ['(']
  | closeParen : Spelled .closeParen [')']
  | not : Spelled .not ['!']
  | notWord : Spelled .not "not".toList
  | and : Spelled .and ['&', '&']
  | andWord : Spelled .and "and".toList
  | or : Spelled .or ['|', '|']
  | orWord : Spelled .or "or".toList
  | comparison (c : Comparison) : Spelled (.comparison c) c.symbol
  | string {quote : Char} (hq : quote = '"' ∨ quote = '\'') {text written : List Char}
      (h : Quoted quote text written) :
      Spelled (.string (String.ofList text)) (quote :: (written ++ [quote]))
  | number (n : Numeral) : Spelled (.number n.value) n.text
  | word {w : String} (name : IsName w.toList) (free : w ∉ keywords) : Spelled (.word w) w.toList

/-- Nothing follows, or a blank does. -/
def Parted (rest : List Char) : Prop := ∀ b ∈ rest.head?, isBlank b = true

/-! ## Reading one token -/

theorem Parted.head?_ne {rest : List Char} (h : Parted rest) {c : Char} (hc : isBlank c = false) :
    rest.head? ≠ some c := by
  intro he
  rw [h c he] at hc
  cases hc

theorem isWordChar_of_isBlank {c : Char} (h : isBlank c = true) : isWordChar c = false := by
  have ne {x : Char} (hx : isBlank x = false) : (c == x) = false := by
    rw [beq_eq_false_iff_ne]
    rintro rfl
    rw [h] at hx
    cases hx
  unfold isWordChar
  rw [isAlphanumeric_of_isBlank h, ne (x := '_') rfl, ne (x := '.') rfl, ne (x := '-') rfl]
  rfl

theorem isBlank_of_isWordChar {c : Char} (h : isWordChar c = true) : isBlank c = false :=
  Bool.eq_false_iff.2 fun hb => by
    rw [isWordChar_of_isBlank hb] at h
    cases h

theorem IsName.ne_nil {text : List Char} (h : IsName text) : text ≠ [] := by
  rintro rfl
  exact h

theorem IsName.isBlank_head {c : Char} {tail : List Char} (h : IsName (c :: tail)) :
    isBlank c = false := by
  obtain ⟨first, -⟩ := h
  refine isBlank_of_isWordChar ?_
  unfold isWordChar
  rcases first with ⟨h, -⟩ | rfl
  · rw [h]
    rfl
  · rfl

/-- The characters that begin a symbol or a string. -/
def marks : List Char := ['(', ')', '&', '|', '=', '!', '<', '>', '"', '\'']

theorem not_mem_marks {c : Char} (p : Char → Bool) (none : marks.all (fun x => !p x) = true)
    (h : p c = true) : c ∉ marks := by
  intro hm
  have := List.all_eq_true.1 none c hm
  rw [h] at this
  cases this

theorem not_mark {c : Char} (free : c ∉ marks) :
    (c ≠ '(' ∧ c ≠ ')' ∧ c ≠ '&' ∧ c ≠ '|' ∧ c ≠ '=') ∧
      c ≠ '!' ∧ c ≠ '<' ∧ c ≠ '>' ∧ c ≠ '"' ∧ c ≠ '\'' := by
  simpa [marks, and_assoc] using free

theorem lexeme_of_digit {c : Char} {rest source : List Char} {x : Binary64} (free : c ∉ marks)
    (start : isDigit c = true ∨ c = '-' ∧ (rest.head?.any isDigit) = true)
    (hs : (c :: rest.takeWhile fun x => isDigit x || x == '.') = source)
    (h : readDecimal? source = some x) : lexeme c rest = .ok ⟨.number x, source⟩ := by
  have free := not_mark free
  unfold lexeme
  simp only [free, if_false, false_and, or_self, start, if_true, hs, h]

theorem lexeme_of_letter {c : Char} {rest source : List Char} (free : c ∉ marks)
    (noNumber : ¬ (isDigit c = true ∨ c = '-' ∧ (rest.head?.any isDigit) = true))
    (start : isAlphanumeric c = true ∨ c = '_') (hs : c :: rest.takeWhile isWordChar = source) :
    lexeme c rest = .ok ⟨wordToken (String.ofList source), source⟩ := by
  have free := not_mark free
  unfold lexeme
  simp only [free, if_false, false_and, or_self, noNumber, start, if_true, hs]

theorem lexeme_of_name {c : Char} {tail rest : List Char} (name : IsName (c :: tail))
    (parted : Parted rest) :
    lexeme c (tail ++ rest) = .ok ⟨wordToken (String.ofList (c :: tail)), c :: tail⟩ := by
  obtain ⟨first, all⟩ := name
  have start : (isAlphanumeric c || c == '_') = true := by
    rcases first with ⟨h, -⟩ | rfl
    · rw [h]
      rfl
    · rfl
  have noNumber : ¬ (isDigit c = true ∨ (c = '-' ∧ ((tail ++ rest).head?.any isDigit) = true)) := by
    rintro (h | ⟨rfl, -⟩)
    · rcases first with ⟨-, hd⟩ | rfl
      · rw [hd] at h
        cases h
      · cases h
    · cases start
  have free : c ∉ marks :=
    not_mem_marks (fun x => isAlphanumeric x || x == '_') (by decide +kernel) start
  refine lexeme_of_letter free noNumber (by simpa using start) ?_
  rw [takeWhile_append_of_stop (List.all_eq_true.1 all) fun b hb =>
    isWordChar_of_isBlank (parted b hb)]

theorem lexeme_of_numeral {n : Numeral} {c : Char} {tail rest : List Char}
    (text : n.text = c :: tail) (parted : Parted rest) :
    lexeme c (tail ++ rest) = .ok ⟨.number n.value, c :: tail⟩ := by
  obtain ⟨d, more, hd, hu, hmore⟩ := n.exists_unsigned_eq
  obtain ⟨start, hall⟩ :
      (isDigit c = true ∨ c = '-' ∧ ((tail ++ rest).head?.any isDigit) = true) ∧
        ∀ x ∈ tail, isDigit x = true ∨ x = '.' := by
    unfold Numeral.text at text
    rw [hu] at text
    split at text
    · cases text
      refine ⟨.inr ⟨rfl, hd⟩, fun x hx => ?_⟩
      exact (List.mem_cons.1 hx).elim (fun h => .inl (h ▸ hd)) (hmore x)
    · cases text
      exact ⟨.inl hd, hmore⟩
  have first : (isDigit c || c == '-') = true := by
    rcases start with h | ⟨rfl, -⟩
    · rw [h]
      rfl
    · rfl
  -- What comes behind is blank, so the run of digits and points ends with the numeral.
  have stop : ∀ b ∈ rest.head?, (isDigit b || b == '.') = false := by
    intro b hb
    have hword := isWordChar_of_isBlank (parted b hb)
    unfold isWordChar at hword
    simp only [Bool.or_eq_false_iff] at hword ⊢
    exact ⟨isDigit_of_isBlank (parted b hb), hword.1.2⟩
  have free : c ∉ marks := not_mem_marks (fun x => isDigit x || x == '-') (by decide) first
  refine lexeme_of_digit free start ?_ (text ▸ n.readDecimal?_text)
  rw [takeWhile_append_of_stop (by simpa using hall) stop]

theorem quotedText?_of_quoted {quote : Char} (hq : quote ≠ '\\') {text written : List Char}
    (h : Quoted quote text written) (rest : List Char) :
    quotedText? quote (written ++ quote :: rest) = some (text, written ++ [quote]) := by
  induction h with
  | nil =>
    cases rest with
    | nil => simp [quotedText?, hq]
    | cons c rest => simp [quotedText?, hq]
  | @plain c text written hc hb h ih =>
    -- The reader looks one character ahead, and the closing quote is there at the least.
    obtain ⟨x, more, hx⟩ : ∃ x more, written ++ quote :: rest = x :: more := by
      cases written with
      | nil => exact ⟨_, _, rfl⟩
      | cons x more => exact ⟨_, _, rfl⟩
    rw [List.cons_append, hx, quotedText?, if_neg hb, if_neg hc, ← hx, ih]
    rfl
  | escaped c h ih =>
    rw [List.cons_append, List.cons_append, quotedText?, if_pos rfl, ih]
    rfl

theorem lexeme_of_quotedText {quote : Char} (hq : quote = '"' ∨ quote = '\'')
    {rest text source : List Char} (h : quotedText? quote rest = some (text, source)) :
    lexeme quote rest = .ok ⟨.string (String.ofList text), quote :: source⟩ := by
  rcases hq with rfl | rfl <;> simp [lexeme, h]

theorem Token.Spelled.exists_lexeme {t : Token} {text rest : List Char} (h : t.Spelled text)
    (parted : Parted rest) : ∃ c tail, text = c :: tail ∧ isBlank c = false ∧
      lexeme c (tail ++ rest) = .ok ⟨t, text⟩ := by
  -- A symbol of one character is not taken for the front of a longer one.
  have noEqual : rest.head? ≠ some '=' := parted.head?_ne rfl
  have ofWord {c : Char} {tail : List Char} {t : Token} (name : IsName (c :: tail))
      (word : wordToken (String.ofList (c :: tail)) = t) :
      ∃ d more, c :: tail = d :: more ∧ isBlank d = false ∧
        lexeme d (more ++ rest) = .ok ⟨t, c :: tail⟩ :=
    ⟨c, tail, rfl, name.isBlank_head, word ▸ lexeme_of_name name parted⟩
  cases h with
  | openParen => exact ⟨_, _, rfl, rfl, rfl⟩
  | closeParen => exact ⟨_, _, rfl, rfl, rfl⟩
  | not => exact ⟨_, _, rfl, rfl, if_neg noEqual⟩
  | notWord => exact ofWord (by decide +kernel) rfl
  | and => exact ⟨_, _, rfl, rfl, rfl⟩
  | andWord => exact ofWord (by decide +kernel) rfl
  | or => exact ⟨_, _, rfl, rfl, rfl⟩
  | orWord => exact ofWord (by decide +kernel) rfl
  | comparison c =>
    cases c with
    | less => exact ⟨_, _, rfl, rfl, if_neg noEqual⟩
    | greater => exact ⟨_, _, rfl, rfl, if_neg noEqual⟩
    | contains => exact ofWord (by decide +kernel) rfl
    | _ => exact ⟨_, _, rfl, rfl, rfl⟩
  | @string quote hq text written h =>
    have hread : quotedText? quote (written ++ [quote] ++ rest) =
        some (text, written ++ [quote]) := by
      rw [List.append_assoc]
      refine quotedText?_of_quoted ?_ h rest
      rcases hq with rfl | rfl <;> decide
    exact ⟨quote, _, rfl, by rcases hq with rfl | rfl <;> rfl, lexeme_of_quotedText hq hread⟩
  | number n =>
    obtain ⟨c, tail, ht, hc⟩ := n.exists_text_eq
    refine ⟨c, tail, ht, isBlank_of_isWordChar ?_, ht ▸ lexeme_of_numeral ht parted⟩
    unfold isWordChar
    rcases hc with hc | rfl
    · rw [isAlphanumeric_of_isDigit hc]
      rfl
    · rfl
  | @word w name free =>
    obtain ⟨c, tail, hw⟩ := List.exists_cons_of_ne_nil name.ne_nil
    rw [hw] at name ⊢
    refine ofWord name ?_
    rw [← hw, String.ofList_toList]
    simp only [keywords, List.mem_cons, List.not_mem_nil, or_false, not_or] at free
    unfold wordToken
    rw [if_neg free.1, if_neg free.2.1, if_neg free.2.2.1, if_neg free.2.2.2]

/-! ## Reading a row of tokens -/

/-- The row of tokens is written so: every token in one of its spellings, with blanks between them
and perhaps behind the last. -/
inductive Spaced : List Token → List Char → Prop where
  | last {t : Token} {text blanks : List Char} (h : t.Spelled text)
      (blank : ∀ b ∈ blanks, isBlank b = true) : Spaced [t] (text ++ blanks)
  | more {t : Token} {ts : List Token} {text blanks rest : List Char} (h : t.Spelled text)
      (blank : ∀ b ∈ blanks, isBlank b = true) (apart : blanks ≠ []) (hrest : Spaced ts rest) :
      Spaced (t :: ts) (text ++ (blanks ++ rest))

/-- The source is the row of tokens, perhaps with blanks before it. -/
def Writes (source : String) (ts : List Token) : Prop :=
  ∃ blanks body, source.toList = blanks ++ body ∧ (∀ b ∈ blanks, isBlank b = true) ∧ Spaced ts body

theorem scanFrom_blanks {blanks : List Char} (blank : ∀ b ∈ blanks, isBlank b = true) (offset : Nat)
    (rest : List Char) :
    scanFrom offset (blanks ++ rest) = scanFrom (offset + byteSize blanks) rest := by
  induction blanks generalizing offset with
  | nil => rfl
  | cons b blanks ih =>
    rw [List.cons_append, scanFrom, if_pos (blank b List.mem_cons_self),
      ih fun x hx => blank x (List.mem_cons_of_mem _ hx), Nat.add_assoc]
    rfl

theorem parted_of_blanks {blanks : List Char} (blank : ∀ b ∈ blanks, isBlank b = true)
    {rest : List Char} (h : blanks = [] → rest = []) : Parted (blanks ++ rest) := by
  cases blanks with
  | nil =>
    rw [h rfl]
    exact fun b hb => nomatch hb
  | cons b blanks =>
    intro x hx
    cases hx
    exact blank _ List.mem_cons_self

theorem scanFrom_spelled {t : Token} {text rest : List Char} (h : t.Spelled text)
    (parted : Parted rest) {offset : Nat} {tokens : List Located}
    (hrest : scanFrom (offset + byteSize text) rest = .ok tokens) :
    scanFrom offset (text ++ rest) = .ok (⟨offset, t⟩ :: tokens) := by
  obtain ⟨c, tail, rfl, hc, hread⟩ := h.exists_lexeme parted
  rw [List.cons_append, scanFrom, if_neg (by rw [hc]; decide), hread]
  dsimp only
  rw [List.length_cons, Nat.add_sub_cancel, List.drop_left, hrest]
  rfl

theorem Spaced.exists_scanFrom {ts : List Token} {text : List Char} (h : Spaced ts text)
    (offset : Nat) :
    ∃ tokens, scanFrom offset text = .ok tokens ∧ tokens.map Located.token = ts ∧ ts ≠ [] := by
  induction h generalizing offset with
  | @last t text blanks h blank =>
    refine ⟨[⟨offset, t⟩], scanFrom_spelled h ?_ ?_, rfl, List.cons_ne_nil _ _⟩
    · have := parted_of_blanks blank fun _ => (rfl : ([] : List Char) = [])
      rwa [List.append_nil] at this
    · have := scanFrom_blanks blank (offset + byteSize text) []
      rwa [List.append_nil, scanFrom] at this
  | @more t ts text blanks rest h blank apart hrest ih =>
    obtain ⟨tokens, htokens, hkinds, -⟩ := ih (offset + byteSize text + byteSize blanks)
    rw [← scanFrom_blanks blank] at htokens
    exact ⟨_, scanFrom_spelled h (parted_of_blanks blank fun h => absurd h apart) htokens,
      by rw [List.map_cons, hkinds], List.cons_ne_nil _ _⟩

theorem Writes.exists_scan {source : String} {ts : List Token} (h : Writes source ts) :
    ∃ tokens, scan source = .ok tokens ∧ tokens.map Located.token = ts := by
  obtain ⟨blanks, body, hsource, blank, hbody⟩ := h
  obtain ⟨tokens, htokens, hkinds, some⟩ := hbody.exists_scanFrom (0 + byteSize blanks)
  refine ⟨tokens, ?_, hkinds⟩
  unfold scan
  rw [hsource, scanFrom_blanks blank, htokens]
  refine if_neg fun h => some ?_
  rw [← hkinds, List.isEmpty_iff.1 h]
  rfl

end Conduit.Condition
