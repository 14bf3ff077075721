import Conduit.Proofs.Condition.Spelling
import Mathlib.Data.List.TakeWhile
import Mathlib.Logic.Basic

/-!
# How a source is cut

A source is cut into blanks and segments, and every token is the reading of one segment. A segment
goes as far as a reading can. Where no segment can be read the source is refused, and the error is
at the character that stands there.
-/

namespace Conduit.Condition

open Number Text

/-! ## Segments -/

def isNumberChar (c : Char) : Bool := isDigit c || c == '.'

/-- Digits and points, the first of them a digit, perhaps behind a minus sign. -/
inductive IsNumeric : List Char → Prop where
  | plain {d : Char} {rest : List Char} (hd : isDigit d = true)
      (all : ∀ c ∈ rest, isNumberChar c = true) : IsNumeric (d :: rest)
  | minus {d : Char} {rest : List Char} (hd : isDigit d = true)
      (all : ∀ c ∈ rest, isNumberChar c = true) : IsNumeric ('-' :: d :: rest)

/-- The token is the reading of a segment. -/
inductive Token.ReadFrom : Token → List Char → Prop where
  | openParen : ReadFrom .openParen ['(']
  | closeParen : ReadFrom .closeParen [')']
  | not : ReadFrom .not ['!']
  | and : ReadFrom .and ['&', '&']
  | or : ReadFrom .or ['|', '|']
  | comparison {c : Comparison} (h : c ≠ .contains) : ReadFrom (.comparison c) c.symbol
  | string {quote : Char} (hq : quote = '"' ∨ quote = '\'') {text written : List Char}
      (h : Quoted quote text written) :
      ReadFrom (.string (String.ofList text)) (quote :: (written ++ [quote]))
  | number {segment : List Char} {x : Binary64} (h : IsNumeric segment)
      (value : readDecimal? segment = some x) : ReadFrom (.number x) segment
  | word {segment : List Char} (h : IsName segment) :
      ReadFrom (wordToken (String.ofList segment)) segment

theorem Token.ReadFrom.ne_nil {t : Token} {segment : List Char} (h : t.ReadFrom segment) :
    segment ≠ [] := by
  cases h with
  | comparison =>
    rename_i c hc
    cases c <;> exact List.cons_ne_nil _ _
  | number h => cases h <;> exact List.cons_ne_nil _ _
  | word h => exact h.ne_nil
  | _ => exact List.cons_ne_nil _ _

theorem Token.ReadFrom.append_drop {t : Token} {segment : List Char} (h : t.ReadFrom segment)
    {c : Char} {rest : List Char} (there : segment <+: c :: rest) :
    segment ++ rest.drop (segment.length - 1) = c :: rest := by
  obtain ⟨d, tail, rfl⟩ := List.exists_cons_of_ne_nil h.ne_nil
  obtain ⟨rfl, more, rfl⟩ := List.cons_prefix_cons.1 there
  simp

/-- The text is cut into blanks and segments, and what is left of it comes behind them. Every token
has the offset at which its segment starts, and no longer front of the text there can be read. -/
inductive Cuts : Nat → List Char → List Located → List Char → Prop where
  | done (offset : Nat) (left : List Char) : Cuts offset left [] left
  | blank {offset : Nat} {c : Char} {rest left : List Char} {tokens : List Located}
      (hc : isBlank c = true) (h : Cuts (offset + c.utf8Size) rest tokens left) :
      Cuts offset (c :: rest) tokens left
  | segment {offset : Nat} {t : Token} {segment rest left : List Char} {tokens : List Located}
      (reads : t.ReadFrom segment)
      (longest : ∀ u front, Token.ReadFrom u front → front <+: segment ++ rest →
        front.length ≤ segment.length)
      (h : Cuts (offset + byteSize segment) rest tokens left) :
      Cuts offset (segment ++ rest) (⟨offset, t⟩ :: tokens) left

/-- Why no segment at the front of a text can be read. -/
inductive Unreadable : List Char → Reason → Prop where
  | character {c : Char} {rest : List Char} (hc : isBlank c = false)
      (none : ∀ t front, Token.ReadFrom t front → ¬ front <+: c :: rest) :
      Unreadable (c :: rest) (.unexpectedCharacter c)
  | string {quote : Char} {rest : List Char} (hq : quote = '"' ∨ quote = '\'')
      (none : ∀ t front, Token.ReadFrom t front → ¬ front <+: quote :: rest) :
      Unreadable (quote :: rest) .unterminatedString
  | number {segment rest : List Char} (h : IsNumeric segment)
      (stop : ∀ c ∈ rest.head?, isNumberChar c = false) (value : readDecimal? segment = none) :
      Unreadable (segment ++ rest) (.invalidNumber (String.ofList segment))

/-! ## Reading one segment -/

theorem quoted_of_quotedText? {quote : Char} {text source : List Char} (rest : List Char)
    (h : quotedText? quote rest = some (text, source)) :
    ∃ written, source = written ++ [quote] ∧ Quoted quote text written ∧ source <+: rest := by
  fun_induction quotedText? quote rest generalizing text source with
  | case1 => cases h
  | case2 => cases h
  | case3 hb =>
    cases h
    exact ⟨[], by simp, .nil, by simp⟩
  | case4 => cases h
  | case5 x rest ih =>
    obtain ⟨⟨t, s⟩, hread, h⟩ := Option.map_eq_some_iff.1 h
    cases h
    obtain ⟨written, rfl, hquoted, hrest⟩ := ih hread
    exact ⟨'\\' :: x :: written, rfl, .escaped x hquoted, by simpa using hrest⟩
  | case6 x rest hb =>
    cases h
    exact ⟨[], by simp, .nil, by simp⟩
  | case7 c x rest hb hq ih =>
    obtain ⟨⟨t, s⟩, hread, h⟩ := Option.map_eq_some_iff.1 h
    cases h
    obtain ⟨written, rfl, hquoted, hrest⟩ := ih hread
    exact ⟨c :: written, rfl, .plain hq hb hquoted, by simpa using hrest⟩

theorem prefix_takeWhile {p : Char → Bool} {front rest : List Char} (h : front <+: rest)
    (all : ∀ c ∈ front, p c = true) : front <+: rest.takeWhile p := by
  obtain ⟨more, rfl⟩ := h
  rw [List.takeWhile_append_of_pos all]
  exact List.prefix_append _ _

theorem isNumeric_run {c : Char} {rest : List Char}
    (start : isDigit c = true ∨ c = '-' ∧ (rest.head?.any isDigit) = true) :
    IsNumeric (c :: rest.takeWhile isNumberChar) := by
  have all : ∀ x ∈ rest.takeWhile isNumberChar, isNumberChar x = true :=
    fun x hx => List.mem_takeWhile_imp hx
  rcases start with hd | ⟨rfl, hd⟩
  · exact .plain hd all
  · cases rest with
    | nil => cases hd
    | cons d rest =>
      have hd : isDigit d = true := hd
      have hn : isNumberChar d = true := by simp [isNumberChar, hd]
      rw [List.takeWhile_cons_of_pos hn] at all ⊢
      exact .minus hd fun x hx => all x (List.mem_cons_of_mem _ hx)

theorem isName_run {c : Char} {rest : List Char} (noNumber : isDigit c = false)
    (start : isAlphanumeric c = true ∨ c = '_') : IsName (c :: rest.takeWhile isWordChar) :=
  ⟨start.imp_left fun h => ⟨h, noNumber⟩, List.all_takeWhile⟩

def numberLexeme (segment : List Char) : Except Reason Lexeme :=
  match readDecimal? segment with
  | some x => .ok ⟨.number x, segment⟩
  | none => .error (.invalidNumber (String.ofList segment))

/-- The outcome of reading a segment: the front of the text with its reading, or the reason why
there is none. -/
inductive Lexed (c : Char) (rest : List Char) : Except Reason Lexeme → Prop where
  | read {t : Token} {segment : List Char} (reads : t.ReadFrom segment)
      (there : segment <+: c :: rest) : Lexed c rest (.ok ⟨t, segment⟩)
  | unterminated (hq : c = '"' ∨ c = '\'') : Lexed c rest (.error .unterminatedString)
  | noNumber (start : isDigit c = true ∨ c = '-' ∧ (rest.head?.any isDigit) = true)
      (value : readDecimal? (c :: rest.takeWhile isNumberChar) = none) :
      Lexed c rest (.error (.invalidNumber (String.ofList (c :: rest.takeWhile isNumberChar))))
  | unexpected : Lexed c rest (.error (.unexpectedCharacter c))

theorem lexed (c : Char) (rest : List Char) : Lexed c rest (lexeme c rest) := by
  have one {t : Token} (h : t.ReadFrom [c]) : Lexed c rest (.ok ⟨t, [c]⟩) := .read h (by simp)
  have two {t : Token} {d : Char} (hd : rest.head? = some d) (h : t.ReadFrom [c, d]) :
      Lexed c rest (.ok ⟨t, [c, d]⟩) := by
    obtain ⟨more, rfl⟩ := List.head?_eq_some_iff.1 hd
    exact .read h (by simp)
  have ordering {d : Comparison} {t : Token} (hc : d ≠ .contains) (symbol : d.symbol = [c, '='])
      (alone : t.ReadFrom [c]) : Lexed c rest (if rest.head? = some '=' then
        .ok ⟨.comparison d, [c, '=']⟩ else .ok ⟨t, [c]⟩) := by
    split
    · next hd => exact two hd (symbol ▸ .comparison hc)
    · exact one alone
  unfold lexeme
  dsimp only
  refine iteInduction (fun hc => one (hc ▸ .openParen)) fun _ => ?_
  refine iteInduction (fun hc => one (hc ▸ .closeParen)) fun _ => ?_
  refine iteInduction (fun h => two h.2 (h.1 ▸ .and)) fun _ => ?_
  refine iteInduction (fun h => two h.2 (h.1 ▸ .or)) fun _ => ?_
  refine iteInduction (fun h => two h.2 ?_) fun _ => ?_
  · rw [h.1]
    exact .comparison (c := .equal) (by decide)
  refine iteInduction (fun hc => ordering (by decide) (hc ▸ rfl) (hc ▸ .not)) fun _ => ?_
  refine iteInduction (fun hc => ordering (by decide) (hc ▸ rfl) ?_) fun _ => ?_
  · rw [hc]
    exact .comparison (c := .less) (by decide)
  refine iteInduction (fun hc => ordering (by decide) (hc ▸ rfl) ?_) fun _ => ?_
  · rw [hc]
    exact .comparison (c := .greater) (by decide)
  refine iteInduction (fun hq => ?_) fun _ => ?_
  · cases hread : quotedText? c rest with
    | none => exact .unterminated hq
    | some read =>
      obtain ⟨text, source⟩ := read
      obtain ⟨written, rfl, hquoted, hrest⟩ := quoted_of_quotedText? rest hread
      exact .read (.string hq hquoted) (by simpa using hrest)
  refine iteInduction (fun start => ?_) fun noNumber => ?_
  · change Lexed c rest (numberLexeme (c :: rest.takeWhile isNumberChar))
    unfold numberLexeme
    cases hread : readDecimal? (c :: rest.takeWhile isNumberChar) with
    | none => exact .noNumber start hread
    | some x =>
      exact .read (.number (isNumeric_run start) hread) (by simpa using List.takeWhile_prefix _)
  refine iteInduction (fun hc => ?_) fun _ => .unexpected
  have name : IsName (c :: rest.takeWhile isWordChar) :=
    isName_run (Bool.eq_false_iff.2 fun h => noNumber (.inl h)) hc
  exact .read (.word name) (by simpa using List.takeWhile_prefix _)

theorem IsNumeric.exists_start {segment : List Char} (h : IsNumeric segment) :
    ∃ c tail, segment = c :: tail ∧ c ∉ marks ∧ (∀ x ∈ tail, isNumberChar x = true) ∧
      (isDigit c = true ∨ c = '-' ∧ tail.head?.any isDigit = true) := by
  cases h with
  | @plain d rest hd all =>
    have free : d ∉ marks := not_mem_marks isDigit (by decide) hd
    exact ⟨d, rest, rfl, free, all, .inl hd⟩
  | @minus d rest hd all =>
    have hn : isNumberChar d = true := by simp [isNumberChar, hd]
    exact ⟨'-', d :: rest, rfl, by decide, List.forall_mem_cons.2 ⟨hn, all⟩, .inr ⟨rfl, hd⟩⟩

theorem lexeme_of_start {c : Char} {rest : List Char} (free : c ∉ marks)
    (start : isDigit c = true ∨ c = '-' ∧ (rest.head?.any isDigit) = true) :
    lexeme c rest = numberLexeme (c :: rest.takeWhile isNumberChar) := by
  have free := not_mark free
  unfold lexeme
  simp only [free, if_false, false_and, or_self, start, if_true]
  rfl

/-- Where a front of the text can be read, at least this front is read, or the digits and points
that stand there are no number. -/
theorem lexeme_of_readFrom {c : Char} {rest front : List Char} {t : Token}
    (reads : t.ReadFrom front) (there : front <+: c :: rest) :
    (∃ l, lexeme c rest = .ok l ∧ front.length ≤ l.source.length) ∨
      ∃ segment, lexeme c rest = .error (.invalidNumber segment) := by
  -- A character that is read alone or with an equals sign behind it.
  have longer {d : Char} {u v : Token} (h : lexeme d rest =
      if rest.head? = some '=' then .ok ⟨u, [d, '=']⟩ else .ok ⟨v, [d]⟩) :
      ∃ l, lexeme d rest = .ok l ∧ [d].length ≤ l.source.length := by
    rw [h]
    split <;> exact ⟨_, rfl, by simp⟩
  cases reads with
  | openParen =>
    obtain rfl : '(' = c := (List.cons_prefix_cons.1 there).1
    exact .inl ⟨_, rfl, by simp⟩
  | closeParen =>
    obtain rfl : ')' = c := (List.cons_prefix_cons.1 there).1
    exact .inl ⟨_, rfl, by simp⟩
  | not =>
    obtain rfl : '!' = c := (List.cons_prefix_cons.1 there).1
    exact .inl (longer rfl)
  | and =>
    obtain ⟨rfl, more⟩ := List.cons_prefix_cons.1 there
    obtain ⟨more, rfl⟩ := more
    exact .inl ⟨_, rfl, by simp⟩
  | or =>
    obtain ⟨rfl, more⟩ := List.cons_prefix_cons.1 there
    obtain ⟨more, rfl⟩ := more
    exact .inl ⟨_, rfl, by simp⟩
  | @comparison d hd =>
    cases d with
    | contains => exact absurd rfl hd
    | less =>
      change ['<'] <+: c :: rest at there
      obtain rfl : '<' = c := (List.cons_prefix_cons.1 there).1
      exact .inl (longer (u := .comparison .lessEqual) (v := .comparison .less) (by simp [lexeme]))
    | greater =>
      change ['>'] <+: c :: rest at there
      obtain rfl : '>' = c := (List.cons_prefix_cons.1 there).1
      exact .inl (longer (u := .comparison .greaterEqual) (v := .comparison .greater)
        (by simp [lexeme]))
    | equal =>
      change ['=', '='] <+: c :: rest at there
      obtain ⟨rfl, more, rfl⟩ := List.cons_prefix_cons.1 there
      exact .inl ⟨⟨.comparison .equal, ['=', '=']⟩, by simp [lexeme], le_rfl⟩
    | unequal =>
      change ['!', '='] <+: c :: rest at there
      obtain ⟨rfl, more, rfl⟩ := List.cons_prefix_cons.1 there
      exact .inl ⟨⟨.comparison .unequal, ['!', '=']⟩, by simp [lexeme], le_rfl⟩
    | lessEqual =>
      change ['<', '='] <+: c :: rest at there
      obtain ⟨rfl, more, rfl⟩ := List.cons_prefix_cons.1 there
      exact .inl ⟨⟨.comparison .lessEqual, ['<', '=']⟩, by simp [lexeme], le_rfl⟩
    | greaterEqual =>
      change ['>', '='] <+: c :: rest at there
      obtain ⟨rfl, more, rfl⟩ := List.cons_prefix_cons.1 there
      exact .inl ⟨⟨.comparison .greaterEqual, ['>', '=']⟩, by simp [lexeme], le_rfl⟩
  | @string quote hq text written h =>
    obtain ⟨rfl, more, rfl⟩ := List.cons_prefix_cons.1 there
    have hread := quotedText?_of_quoted (by rcases hq with rfl | rfl <;> decide) h more
    rw [List.append_assoc, List.singleton_append]
    exact .inl ⟨_, lexeme_of_quotedText hq hread, by simp⟩
  | number h value =>
    -- The run of digits and points goes on behind the front and may then be no number.
    obtain ⟨d, tail, rfl, free, all, start⟩ := h.exists_start
    obtain ⟨rfl, hrest⟩ := List.cons_prefix_cons.1 there
    have start : isDigit d = true ∨ d = '-' ∧ rest.head?.any isDigit = true := by
      refine start.imp_right fun h => ⟨h.1, ?_⟩
      obtain ⟨more, rfl⟩ := hrest
      cases tail with
      | nil => cases h.2
      | cons => exact h.2
    have run := (prefix_takeWhile hrest all).length_le
    rw [lexeme_of_start free start, numberLexeme]
    cases readDecimal? (d :: rest.takeWhile isNumberChar) with
    | none => exact .inr ⟨_, rfl⟩
    | some x => exact .inl ⟨_, rfl, by simpa using run⟩
  | @word segment h =>
    -- No name starts like a mark or a number, so it is taken for a name.
    obtain ⟨d, tail, rfl⟩ := List.exists_cons_of_ne_nil h.ne_nil
    obtain ⟨rfl, hrest⟩ := List.cons_prefix_cons.1 there
    obtain ⟨first, all⟩ := h
    have run := (prefix_takeWhile hrest (List.all_eq_true.1 all)).length_le
    have free : d ∉ marks := by
      refine not_mem_marks (fun x => isAlphanumeric x || x == '_') (by decide +kernel) ?_
      rcases first with ⟨h, -⟩ | rfl
      · simp [h]
      · rfl
    have noNumber : ¬ (isDigit d = true ∨ d = '-' ∧ rest.head?.any isDigit = true) := by
      rintro (h | ⟨rfl, -⟩)
      · rcases first with ⟨-, hd⟩ | rfl
        · rw [hd] at h
          cases h
        · cases h
      · exact absurd first (by decide)
    rw [lexeme_of_letter free noNumber (first.imp_left And.left) rfl]
    exact .inl ⟨_, rfl, by simpa using run⟩

/-! ## Reading a source -/

theorem unreadable_of_lexeme {c : Char} {rest : List Char} {reason : Reason}
    (hc : isBlank c = false) (h : lexeme c rest = .error reason) :
    Unreadable (c :: rest) reason := by
  -- No token can be read there, unless what is refused starts like a number.
  have none (hr : ∀ segment, reason ≠ .invalidNumber segment) (t : Token) (front : List Char)
      (reads : t.ReadFrom front) : ¬ front <+: c :: rest := by
    intro there
    rcases lexeme_of_readFrom reads there with ⟨l, hl, -⟩ | ⟨segment, hl⟩
    · rw [h] at hl
      cases hl
    · rw [h] at hl
      exact hr _ (Except.error.inj hl)
  have read := lexed c rest
  rw [h] at read
  cases read with
  | unterminated hq => exact .string hq (none nofun)
  | noNumber start value =>
    have split : c :: rest = (c :: rest.takeWhile isNumberChar) ++ rest.dropWhile isNumberChar := by
      simp
    rw [split]
    refine .number (isNumeric_run start) (fun x hx => ?_) value
    have stop := List.head?_dropWhile_not isNumberChar rest
    rw [Option.mem_def.1 hx] at stop
    simpa using stop
  | unexpected => exact .character hc (none nofun)

/-- The outcome of reading a text: it is cut to its end, or up to where nothing can be read. -/
def CutsAll (offset : Nat) (text : List Char) : Except ParseError (List Located) → Prop
  | .ok tokens => Cuts offset text tokens []
  | .error e => ∃ before left tokens, text = before ++ left ∧ Cuts offset text tokens left ∧
      e.offset = offset + byteSize before ∧ Unreadable left e.reason

theorem byteSize_append (front back : List Char) :
    byteSize (front ++ back) = byteSize front + byteSize back := by
  induction front with
  | nil => simp [byteSize]
  | cons c front ih =>
    change c.utf8Size + byteSize (front ++ back) = c.utf8Size + byteSize front + byteSize back
    omega

theorem CutsAll.blank {offset : Nat} {c : Char} {rest : List Char}
    {outcome : Except ParseError (List Located)} (hc : isBlank c = true)
    (h : CutsAll (offset + c.utf8Size) rest outcome) : CutsAll offset (c :: rest) outcome := by
  cases outcome with
  | ok tokens => exact Cuts.blank hc h
  | error e =>
    obtain ⟨before, left, tokens, rfl, cuts, he, why⟩ := h
    exact ⟨c :: before, left, tokens, rfl, .blank hc cuts, by rw [he, Nat.add_assoc]; rfl, why⟩

theorem CutsAll.segment {offset : Nat} {t : Token} {segment rest : List Char}
    {outcome : Except ParseError (List Located)} (reads : t.ReadFrom segment)
    (longest : ∀ u front, Token.ReadFrom u front → front <+: segment ++ rest →
      front.length ≤ segment.length)
    (h : CutsAll (offset + byteSize segment) rest outcome) :
    CutsAll offset (segment ++ rest) (outcome.map (⟨offset, t⟩ :: ·)) := by
  cases outcome with
  | ok tokens => exact Cuts.segment reads longest h
  | error e =>
    obtain ⟨before, left, tokens, rfl, cuts, he, why⟩ := h
    exact ⟨segment ++ before, left, _, (List.append_assoc _ _ _).symm,
      .segment reads longest cuts, by rw [he, byteSize_append, Nat.add_assoc], why⟩

theorem cutsAll_scanFrom (offset : Nat) (text : List Char) :
    CutsAll offset text (scanFrom offset text) := by
  -- Along the recursion of the scanner, which takes a blank or a segment at a time.
  fun_induction scanFrom offset text with
  | case1 offset => exact .done offset []
  | case2 offset c rest hc ih => exact ih.blank hc
  | case3 offset c rest hc reason h =>
    have hc := Bool.eq_false_iff.2 hc
    exact ⟨[], c :: rest, [], rfl, .done offset _, rfl, unreadable_of_lexeme hc h⟩
  | case4 offset c rest hc l h ih =>
    obtain ⟨t, segment⟩ := l
    have read := lexed c rest
    rw [h] at read
    cases read with
    | read reads there =>
      have split := reads.append_drop there
      have longest (u : Token) (front : List Char) (hu : u.ReadFrom front)
          (hfront : front <+: segment ++ rest.drop (segment.length - 1)) :
          front.length ≤ segment.length := by
        rw [split] at hfront
        rcases lexeme_of_readFrom hu hfront with ⟨l, hl, longer⟩ | ⟨_, hl⟩
        · cases h.symm.trans hl
          exact longer
        · cases h.symm.trans hl
      have cut := ih.segment reads longest
      rw [split] at cut
      cases hscan : scanFrom (offset + byteSize segment) (rest.drop (segment.length - 1)) <;>
        rw [hscan] at cut <;> exact cut

/-! ## What a cut says of the tokens -/

theorem byteSize_pos {text : List Char} (h : text ≠ []) : 0 < byteSize text := by
  obtain ⟨c, rest, rfl⟩ := List.exists_cons_of_ne_nil h
  exact Nat.add_pos_left c.utf8Size_pos _

theorem Cuts.blanks {offset : Nat} {text : List Char} (h : Cuts offset text [] []) :
    ∀ c ∈ text, isBlank c = true := by
  generalize htokens : ([] : List Located) = tokens at h
  generalize hleft : ([] : List Char) = left at h
  induction h with
  | done offset left => simp [← hleft]
  | blank hc _ ih => exact List.forall_mem_cons.2 ⟨hc, ih htokens hleft⟩
  | segment => cases htokens

theorem Cuts.segment_of_mem {offset : Nat} {text left : List Char} {tokens : List Located}
    (h : Cuts offset text tokens left) {t : Located} (ht : t ∈ tokens) :
    ∃ before segment after, text = before ++ segment ++ after ∧
      t.offset = offset + byteSize before ∧ t.token.ReadFrom segment := by
  induction h with
  | done => cases ht
  | @blank offset c rest left tokens hc h ih =>
    obtain ⟨before, segment, after, rfl, ho, hread⟩ := ih ht
    exact ⟨c :: before, segment, after, rfl, by rw [ho, Nat.add_assoc]; rfl, hread⟩
  | @segment offset u segment rest left tokens reads longest h ih =>
    cases ht with
    | head => exact ⟨[], segment, rest, rfl, rfl, reads⟩
    | tail _ ht =>
      obtain ⟨before, later, after, rfl, ho, hread⟩ := ih ht
      exact ⟨segment ++ before, later, after, by simp,
        by rw [ho, byteSize_append, Nat.add_assoc], hread⟩

theorem Cuts.offset_lt {offset : Nat} {text left : List Char} {tokens : List Located}
    (h : Cuts offset text tokens left) : tokens.Pairwise fun t u => t.offset < u.offset := by
  induction h with
  | done => exact .nil
  | blank _ _ ih => exact ih
  | @segment offset _ _ _ _ _ reads _ h ih =>
    refine .cons (fun u hu => ?_) ih
    obtain ⟨before, -, -, -, ho, -⟩ := h.segment_of_mem hu
    have := byteSize_pos reads.ne_nil
    change offset < u.offset
    omega

theorem Unreadable.exists_cons {text : List Char} {reason : Reason} (h : Unreadable text reason) :
    ∃ c rest, text = c :: rest := by
  cases h with
  | number h =>
    obtain ⟨c, tail, rfl, -⟩ := h.exists_start
    exact ⟨c, _, rfl⟩
  | _ => exact ⟨_, _, rfl⟩

end Conduit.Condition
