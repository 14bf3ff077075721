import Conduit.Proofs.Condition.Grammar

/-!
# Where parsing stops

A row of tokens is read from the left, and all that has to be remembered of its front is how many
parentheses are open and what is due next. The row is no front of a condition as soon as a token
comes that is not due. The main statement says which token the parser blames.
-/

namespace Conduit.Condition

/-- Some condition begins with the row of tokens. -/
def Viable (ts : List Token) : Prop := ∃ us p, Derives .disjunction (ts ++ us) p

/-! ## What is due -/

/-- What comes next in a condition. Behind an operand a comparison may come, and so may all that
comes behind a term. -/
inductive Due where
  | term
  | path
  | comparison
  | operand
  | joint
  deriving DecidableEq

/-- What a front of a condition leaves to be remembered. -/
structure Standing where
  depth : Nat
  due : Due

/-- A term has been read to its end, or could have been. -/
def Standing.Settled (s : Standing) : Prop := s.due = .comparison ∨ s.due = .joint

/-- The front is a condition as it stands. -/
def Standing.Complete (s : Standing) : Prop := s.Settled ∧ s.depth = 0

/-- The closing of a parenthesis or the path of a test is due. -/
def Standing.Overshoots (s : Standing) : Prop := s.due = .path ∨ s.Settled ∧ 0 < s.depth

def Standing.behindTerm (depth : Nat) : Token → Option Standing
  | .and | .or => some ⟨depth, .term⟩
  | .closeParen => if 0 < depth then some ⟨depth - 1, .joint⟩ else none
  | _ => none

/-- What is due behind one more token, or nothing if the token was not due. -/
def Standing.next (s : Standing) (t : Token) : Option Standing :=
  match s.due with
  | .term =>
    match t with
    | .not => some ⟨s.depth, .term⟩
    | .openParen => some ⟨s.depth + 1, .term⟩
    | .word w => some ⟨s.depth, if w = "exists" then .path else .comparison⟩
    | .string _ | .number _ => some ⟨s.depth, .comparison⟩
    | _ => none
  | .path =>
    match t with
    | .word _ => some ⟨s.depth, .joint⟩
    | _ => none
  | .operand =>
    match t with
    | .word _ | .string _ | .number _ => some ⟨s.depth, .joint⟩
    | _ => none
  | .comparison =>
    match t with
    | .comparison _ => some ⟨s.depth, .operand⟩
    | t => behindTerm s.depth t
  | .joint => behindTerm s.depth t

/-- What is due behind a row of tokens, or nothing if one of them was not due. -/
def Standing.walk (s : Standing) (ts : List Token) : Option Standing := ts.foldlM Standing.next s

namespace Standing

@[simp] theorem walk_nil (s : Standing) : s.walk [] = some s := rfl

@[simp] theorem walk_cons (s : Standing) (t : Token) (ts : List Token) :
    s.walk (t :: ts) = (s.next t).bind (walk · ts) := rfl

theorem walk_append (s : Standing) (ts us : List Token) :
    s.walk (ts ++ us) = (s.walk ts).bind (walk · us) := List.foldlM_append

theorem Settled.next {s : Standing} (h : s.Settled) {t : Token} (ht : ∀ c, t ≠ .comparison c) :
    s.next t = behindTerm s.depth t := by
  obtain ⟨depth, due⟩ := s
  rcases h with rfl | rfl
  · cases t with
    | comparison c => exact absurd rfl (ht c)
    | _ => rfl
  · rfl

theorem Settled.next_eq_none {s : Standing} (h : s.Settled) {t : Token}
    (hc : ∀ c, t = .comparison c → s.due = .joint) (hand : t ≠ .and) (hor : t ≠ .or)
    (hclose : t = .closeParen → s.depth = 0) : s.next t = none := by
  obtain ⟨depth, due⟩ := s
  rcases h with rfl | rfl <;> cases t <;> simp_all [Standing.next, behindTerm]

theorem Settled.exists_next_closeParen_iff {s : Standing} (h : s.Settled) :
    (∃ s', s.next .closeParen = some s') ↔ 0 < s.depth := by
  rw [h.next (by simp)]
  simp [behindTerm]

end Standing

/-! ## A condition is walked to its end -/

theorem next_of_stands {t : Token} {o : Operand} (h : t.Stands o) (free : t ≠ .word "exists")
    (depth : Nat) : Standing.next ⟨depth, .term⟩ t = some ⟨depth, .comparison⟩ := by
  cases h <;> simp_all [Standing.next]

theorem next_operand_of_stands {t : Token} {o : Operand} (h : t.Stands o) (depth : Nat) :
    Standing.next ⟨depth, .operand⟩ t = some ⟨depth, .joint⟩ := by
  cases h <;> rfl

theorem Derives.walk {level : Level} {ts : List Token} {p : Expr} (h : Derives level ts p)
    (depth : Nat) :
    ∃ s, Standing.walk ⟨depth, .term⟩ ts = some s ∧ s.Settled ∧ s.depth = depth := by
  have joined {ts us : List Token} {separator : Token} {d : Nat}
      (comparison : ∀ c, separator ≠ .comparison c)
      (next : ∀ d, Standing.behindTerm d separator = some ⟨d, .term⟩)
      (left : ∃ s, Standing.walk ⟨d, .term⟩ ts = some s ∧ s.Settled ∧ s.depth = d)
      (right : ∃ s, Standing.walk ⟨d, .term⟩ us = some s ∧ s.Settled ∧ s.depth = d) :
      ∃ s, Standing.walk ⟨d, .term⟩ (ts ++ separator :: us) = some s ∧ s.Settled ∧
        s.depth = d := by
    obtain ⟨s, hs, settled, rfl⟩ := left
    rw [Standing.walk_append, hs, Option.bind_some, Standing.walk_cons, settled.next comparison,
      next]
    exact right
  induction h generalizing depth with
  | conjunction _ ih => exact ih depth
  | unary _ ih => exact ih depth
  | or _ _ left right => exact joined (by simp) (fun _ => rfl) (left depth) (right depth)
  | and _ _ left right => exact joined (by simp) (fun _ => rfl) (left depth) (right depth)
  | not _ ih => exact ih depth
  | parentheses _ ih =>
    obtain ⟨s, hs, settled, hdepth⟩ := ih (depth + 1)
    refine ⟨⟨depth, .joint⟩, ?_, .inr rfl, rfl⟩
    rw [Standing.walk_cons]
    change Standing.walk ⟨depth + 1, .term⟩ _ = _
    rw [Standing.walk_append, hs, Option.bind_some, Standing.walk_cons, settled.next (by simp)]
    simp [Standing.behindTerm, hdepth]
  | present w => exact ⟨⟨depth, .joint⟩, rfl, .inr rfl, rfl⟩
  | truthy free h =>
    refine ⟨⟨depth, .comparison⟩, ?_, .inl rfl, rfl⟩
    rw [Standing.walk_cons, next_of_stands h free]
    rfl
  | compare free left c right =>
    refine ⟨⟨depth, .joint⟩, ?_, .inr rfl, rfl⟩
    rw [Standing.walk_cons, next_of_stands left free, Option.bind_some, Standing.walk_cons]
    change Standing.walk ⟨depth, .operand⟩ _ = _
    rw [Standing.walk_cons, next_operand_of_stands right]
    rfl

/-! ## Where the parser stops -/

/-- The tokens are walked up to their end without being a condition, or up to a token that is not
due. The place that is blamed is the last token of all, or the token that is not due, or, where the
parser overshoots, the token behind it. -/
inductive Stops (last : Nat) (s : Standing) (tokens : Tokens) (e : ParseError) : Prop where
  | atEnd {s' : Standing} (walked : s.walk tokens.kinds = some s') (unfinished : ¬ s'.Complete)
      (offset : e.offset = last)
  | before {front rest : Tokens} {t : Located} {s' : Standing} (split : tokens = front ++ t :: rest)
      (walked : s.walk front.kinds = some s') (stuck : s'.next t.token = none)
      (offset : ¬ s'.Overshoots → e.offset = t.offset)
      (overshoot : s'.Overshoots → e.offset = offsetAt last rest)

/-- The tokens are walked up to the rest, and a term is settled there. -/
def Reaches (s : Standing) (tokens rest : Tokens) : Prop :=
  ∃ front s', tokens = front ++ rest ∧ s.walk front.kinds = some s' ∧ s'.Settled ∧
    s'.depth = s.depth ∧ (s'.due = .comparison → NoComparisonAhead rest)

/-- The outcome walks up to the rest of the tokens, where none of some tokens is ahead, or it stops
where it should. -/
def Walks (last : Nat) (s : Standing) (ahead : List Token) (tokens : Tokens) :
    Except ParseError (Expr × Tokens) → Prop
  | .ok (_, rest) => Reaches s tokens rest ∧ ∀ t ∈ ahead, NotAhead t rest
  | .error e => Stops last s tokens e

/-- The parser walks wherever a term is due, if the tokens are not too many. -/
def Walker (last n : Nat) (ahead : List Token) (parse : Parser Expr) : Prop :=
  ∀ (depth : Nat) (tokens : Tokens), tokens.length ≤ n →
    Walks last ⟨depth, .term⟩ ahead tokens (parse tokens)

section

variable {last n depth : Nat} {s s' : Standing} {ahead : List Token} {front tokens rest : Tokens}
  {e : ParseError}

theorem walked_append (walked : s.walk front.kinds = some s') :
    s.walk (front ++ tokens).kinds = s'.walk tokens.kinds := by
  rw [kinds_append, Standing.walk_append, walked, Option.bind_some]

theorem walked_one {t : Located} (next : s.next t.token = some s') :
    s.walk (Tokens.kinds [t]) = some s' := by
  rw [kinds_cons, Standing.walk_cons, next]
  rfl

theorem Stops.behind (walked : s.walk front.kinds = some s') (h : Stops last s' tokens e) :
    Stops last s (front ++ tokens) e := by
  cases h with
  | atEnd more unfinished offset =>
    exact .atEnd ((walked_append walked).trans more) unfinished offset
  | before split more stuck offset overshoot =>
    rw [split, ← List.append_assoc]
    exact .before rfl ((walked_append walked).trans more) stuck offset overshoot

theorem Reaches.behind (walked : s.walk front.kinds = some s') (depth : s'.depth = s.depth)
    (h : Reaches s' tokens rest) : Reaches s (front ++ tokens) rest := by
  obtain ⟨more, s'', rfl, hmore, settled, hdepth, hahead⟩ := h
  exact ⟨front ++ more, s'', (List.append_assoc _ _ _).symm, (walked_append walked).trans hmore,
    settled, hdepth.trans depth, hahead⟩

theorem Reaches.length_le (h : Reaches s tokens rest) : rest.length ≤ tokens.length := by
  obtain ⟨more, -, rfl, -⟩ := h
  rw [List.length_append]
  omega

/-! ### Rows of terms -/

theorem walks_joinFrom {separator : Token} {join : Expr → Expr → Expr} {term : Parser Expr}
    (hterm : Walker last n ahead term) (comparison : ∀ c, separator ≠ .comparison c)
    (next : ∀ d, Standing.behindTerm d separator = some ⟨d, .term⟩) (fuel : Nat) (left : Expr)
    (reached : Reaches ⟨depth, .term⟩ tokens rest) (clear : ∀ t ∈ ahead, NotAhead t rest)
    (short : rest.length ≤ n) (enough : rest.length ≤ fuel) :
    Walks last ⟨depth, .term⟩ (separator :: ahead) tokens
      (joinFrom separator join term fuel left rest) := by
  have stop (h : NotAhead separator rest) :
      Walks last ⟨depth, .term⟩ (separator :: ahead) tokens (.ok (left, rest)) :=
    ⟨reached, List.forall_mem_cons.2 ⟨h, clear⟩⟩
  induction fuel generalizing rest left with
  | zero =>
    obtain rfl := List.eq_nil_of_length_eq_zero (Nat.le_zero.1 enough)
    exact stop (notAhead_nil _)
  | succ fuel ih =>
    match rest with
    | [] => exact stop (notAhead_nil _)
    | t :: tail =>
      unfold joinFrom
      dsimp only
      split
      · next ht =>
        -- Behind the separator a term is due again, at the depth of the first.
        obtain ⟨front, s, rfl, hwalk, settled, hdepth, -⟩ := reached
        have again : s.next t.token = some ⟨depth, .term⟩ := by
          rw [ht, settled.next comparison, next, hdepth]
        have walked := (walked_append hwalk).trans (walked_one again)
        rw [List.length_cons] at short enough
        have split : front ++ [t] ++ tail = front ++ t :: tail := by simp
        have hright := hterm depth tail (by omega)
        cases hp : term tail with
        | error e =>
          rw [hp] at hright
          exact split ▸ Stops.behind walked hright
        | ok result =>
          obtain ⟨right, more⟩ := result
          rw [hp] at hright
          obtain ⟨hmore, hclear⟩ := hright
          have hlen : more.length ≤ tail.length := hmore.length_le
          have hreach := split ▸ hmore.behind walked rfl
          exact ih (join left right) hreach hclear (by dsimp only; omega) (by dsimp only; omega)
            fun h => ⟨hreach, List.forall_mem_cons.2 ⟨h, hclear⟩⟩
      · next ht =>
        refine stop fun u hu => ?_
        cases hu
        exact ht

theorem walker_joined {separator : Token} {join : Expr → Expr → Expr} {term : Parser Expr}
    (hterm : Walker last n ahead term) (comparison : ∀ c, separator ≠ .comparison c)
    (next : ∀ d, Standing.behindTerm d separator = some ⟨d, .term⟩) :
    Walker last n (separator :: ahead) (joined separator join term) := by
  intro depth tokens short
  have hleft := hterm depth tokens short
  unfold joined
  cases hp : term tokens with
  | error e =>
    rw [hp] at hleft
    exact hleft
  | ok result =>
    obtain ⟨left, rest⟩ := result
    rw [hp] at hleft
    obtain ⟨reached, clear⟩ := hleft
    exact walks_joinFrom hterm comparison next _ left reached clear
      (Nat.le_trans reached.length_le short) (Nat.le_refl _)

theorem walker_disjunction {term : Parser Expr} (hterm : Walker last n [] term) :
    Walker last n [.or, .and] (disjunction term) :=
  walker_joined (walker_joined hterm (by simp) fun _ => rfl) (by simp) fun _ => rfl

/-! ### Terms -/

theorem stops_at_end (h : ¬ s.Complete) (he : e.offset = last) : Stops last s [] e :=
  .atEnd rfl h he

theorem stops_at_head {t : Located} (stuck : s.next t.token = none)
    (offset : ¬ s.Overshoots → e.offset = t.offset)
    (overshoot : s.Overshoots → e.offset = offsetAt last tokens) : Stops last s (t :: tokens) e :=
  .before (List.nil_append _).symm rfl stuck offset overshoot

theorem Stops.behind_one {t : Located} (next : s.next t.token = some s')
    (h : Stops last s' tokens e) : Stops last s (t :: tokens) e := h.behind (walked_one next)

theorem Reaches.behind_one {t : Located} (next : s.next t.token = some s')
    (depth : s'.depth = s.depth) (h : Reaches s' tokens rest) : Reaches s (t :: tokens) rest :=
  h.behind (walked_one next) depth

theorem reaches_at_once (settled : s.Settled) (h : s.due = .comparison → NoComparisonAhead tokens) :
    Reaches s tokens tokens := ⟨[], s, rfl, rfl, settled, rfl, h⟩

theorem parseOperand_cases (last : Nat) (tokens : Tokens) :
    tokens = [] ∧ parseOperand last tokens = .error ⟨last, .unexpectedEnd⟩ ∨
    (∃ t rest o, tokens = t :: rest ∧ t.token.Stands o ∧
      parseOperand last tokens = .ok (o, rest)) ∨
    ∃ t rest, tokens = t :: rest ∧ (∀ o, ¬ t.token.Stands o) ∧
      parseOperand last tokens = .error ⟨t.offset, .wantedValue t.token⟩ := by
  match tokens with
  | [] => exact .inl ⟨rfl, rfl⟩
  | t :: rest =>
    by_cases h : ∃ o, t.token.Stands o
    · obtain ⟨o, h⟩ := h
      exact .inr (.inl ⟨t, rest, o, rfl, h, parseOperand_eq_ok_iff.2 ⟨t, rfl, h⟩⟩)
    · refine .inr (.inr ⟨t, rest, rfl, not_exists.1 h, ?_⟩)
      obtain ⟨offset, token⟩ := t
      cases token with
      | string s => exact absurd ⟨_, .string s⟩ h
      | number x => exact absurd ⟨_, .number x⟩ h
      | word w => exact absurd ⟨_, Token.stands_word_iff.2 rfl⟩ h
      | _ => rfl

theorem next_operand_eq_none {t : Token} (h : ∀ o, ¬ t.Stands o) :
    Standing.next ⟨depth, .operand⟩ t = none := by
  cases t with
  | string s => exact absurd (.string s) (h _)
  | number x => exact absurd (.number x) (h _)
  | word w => exact absurd (Token.stands_word_iff.2 rfl) (h _)
  | _ => rfl

theorem next_term_eq_none {t : Token} (h : ∀ o, ¬ t.Stands o) (hnot : t ≠ .not)
    (hopen : t ≠ .openParen) : Standing.next ⟨depth, .term⟩ t = none := by
  have operand : Standing.next ⟨depth, .operand⟩ t = none := next_operand_eq_none h
  cases t with
  | string | number | word => cases operand
  | not => exact absurd rfl hnot
  | openParen => exact absurd rfl hopen
  | _ => rfl

theorem walks_parseComparison (depth : Nat) {tokens : Tokens}
    (free : ∀ t ∈ tokens.head?, t.token ≠ .not ∧ t.token ≠ .openParen ∧ t.token ≠ .word "exists") :
    Walks last ⟨depth, .term⟩ [] tokens (parseComparison last tokens) := by
  unfold parseComparison
  obtain ⟨rfl, hp⟩ | ⟨t, rest, o, rfl, stands, hp⟩ | ⟨t, rest, rfl, stuck, hp⟩ :=
    parseOperand_cases last tokens
  · rw [hp]
    exact stops_at_end (by simp [Standing.Complete, Standing.Settled]) rfl
  · obtain ⟨-, -, hfree⟩ := free t rfl
    have next := next_of_stands stands hfree depth
    rw [hp]
    simp only [bind, Except.bind]
    split
    · next place c more =>
      -- The right side of a comparison is due.
      obtain ⟨rfl, hp⟩ | ⟨u, rest, r, rfl, stands, hp⟩ | ⟨u, rest, rfl, stuck, hp⟩ :=
        parseOperand_cases last more
      · rw [hp]
        exact .behind_one next (.behind_one rfl
          (stops_at_end (by simp [Standing.Complete, Standing.Settled]) rfl))
      · rw [hp]
        refine ⟨?_, by simp⟩
        refine .behind_one next rfl (.behind_one rfl rfl
          (.behind_one (next_operand_of_stands stands depth) rfl ?_))
        exact reaches_at_once (.inr rfl) nofun
      · rw [hp]
        exact .behind_one next (.behind_one rfl (stops_at_head (next_operand_eq_none stuck)
          (fun _ => rfl) (by simp [Standing.Overshoots, Standing.Settled])))
    · next none =>
      refine ⟨.behind_one next rfl (reaches_at_once (.inl rfl) fun _ u hu c hc => ?_), by simp⟩
      obtain ⟨offset, token⟩ := u
      obtain ⟨more, rfl⟩ := List.head?_eq_some_iff.1 hu
      cases hc
      exact none _ _ _ rfl
  · obtain ⟨hnot, hopen, -⟩ := free t rfl
    rw [hp]
    exact stops_at_head (next_term_eq_none stuck hnot hopen) (fun _ => rfl)
      (by simp [Standing.Overshoots, Standing.Settled])

theorem walks_parentheses (ih : Walker last n [] (parseTerm last n)) (place : Nat)
    (short : rest.length ≤ n) :
    Walks last ⟨depth, .term⟩ [] (⟨place, .openParen⟩ :: rest)
      (parseTerm last (n + 1) (⟨place, .openParen⟩ :: rest)) := by
  have hinner := walker_disjunction ih (depth + 1) rest short
  unfold parseTerm
  dsimp only
  cases hp : disjunction (parseTerm last n) rest with
  | error e =>
    rw [hp] at hinner
    exact .behind_one rfl hinner
  | ok result =>
    obtain ⟨inner, left⟩ := result
    rw [hp] at hinner
    obtain ⟨⟨front, s, rfl, walked, settled, hdepth, ahead⟩, clear⟩ := hinner
    have walked : Standing.walk ⟨depth, .term⟩ (Tokens.kinds (⟨place, .openParen⟩ :: front)) =
        some s := walked
    simp only [bind, Except.bind]
    cases left with
    | nil =>
      rw [List.append_nil]
      exact .atEnd walked (fun h => by simp [h.2] at hdepth) rfl
    | cons t more =>
      dsimp only
      split
      · next ht =>
        have next : s.next t.token = some ⟨depth, .joint⟩ := by
          rw [ht, settled.next (by simp)]
          simp [Standing.behindTerm, hdepth]
        have closed := (walked_append walked).trans (walked_one next)
        refine ⟨⟨⟨place, .openParen⟩ :: front ++ [t], _, by simp, closed, .inr rfl, rfl, ?_⟩,
          by simp⟩
        exact Due.noConfusion
      · next ht =>
        -- No connective and no comparison is ahead, and the parenthesis is not closed.
        have deep : 0 < s.depth := by simp [hdepth]
        have split : ⟨place, .openParen⟩ :: (front ++ t :: more) =
            (⟨place, .openParen⟩ :: front) ++ t :: more := rfl
        refine .before split walked ?_ (fun h => absurd (.inr ⟨settled, deep⟩) h) fun _ => rfl
        refine settled.next_eq_none (fun c hc => ?_) (clear .and (by simp) t rfl)
          (clear .or (by simp) t rfl) fun h => absurd h ht
        exact settled.resolve_left fun h => ahead h t rfl c hc

theorem walks_present (place : Nat) (rest : Tokens) :
    Walks last ⟨depth, .term⟩ [] (⟨place, .word "exists"⟩ :: rest)
      (parseTerm last (n + 1) (⟨place, .word "exists"⟩ :: rest)) := by
  unfold parseTerm
  simp only [if_true]
  cases rest with
  | nil =>
    exact .behind_one rfl (stops_at_end (by simp [Standing.Complete, Standing.Settled]) rfl)
  | cons u rest =>
    obtain ⟨offset, token⟩ := u
    cases token with
    | word path =>
      refine ⟨.behind_one rfl rfl (.behind_one rfl rfl ?_), by simp⟩
      exact reaches_at_once (.inr rfl) Due.noConfusion
    | _ =>
      exact .behind_one rfl (stops_at_head rfl (by simp [Standing.Overshoots]) fun _ => rfl)

theorem walker_parseTerm (last n : Nat) : Walker last n [] (parseTerm last n) := by
  -- On the number of tokens that are left, which bounds how deep the parser still goes.
  induction n with
  | zero =>
    intro depth tokens short
    obtain rfl := List.eq_nil_of_length_eq_zero (Nat.le_zero.1 short)
    exact walks_parseComparison depth (by simp)
  | succ n ih =>
    intro depth tokens short
    cases tokens with
    | nil => exact walks_parseComparison depth (by simp)
    | cons t rest =>
      obtain ⟨place, token⟩ := t
      have shorter : rest.length ≤ n := Nat.le_of_succ_le_succ short
      cases token with
      | not =>
        have hinner := ih depth rest shorter
        unfold parseTerm
        dsimp only
        cases hp : parseTerm last n rest with
        | error e =>
          rw [hp] at hinner
          exact .behind_one rfl hinner
        | ok result =>
          rw [hp] at hinner
          exact ⟨.behind_one rfl rfl hinner.1, by simp⟩
      | openParen => exact walks_parentheses ih place shorter
      | word w =>
        by_cases hw : w = "exists"
        · subst hw
          exact walks_present place rest
        · unfold parseTerm
          simp only [hw, if_false]
          refine walks_parseComparison depth fun t ht => ?_
          cases ht
          simp [hw]
      | _ =>
        refine walks_parseComparison depth fun t ht => ?_
        cases ht
        simp

end

/-! ## All the tokens -/

theorem stops_of_parseTokens {tokens : Tokens} {e : ParseError}
    (h : parseTokens tokens = .error e) : Stops tokens.lastOffset ⟨0, .term⟩ tokens e := by
  have walks := walker_disjunction (walker_parseTerm tokens.lastOffset tokens.length) 0 tokens
    (Nat.le_refl _)
  unfold parseTokens at h
  change (disjunction (parseTerm tokens.lastOffset tokens.length) tokens >>= _) = _ at h
  cases hp : disjunction (parseTerm tokens.lastOffset tokens.length) tokens with
  | error e' =>
    rw [hp] at h walks
    cases h
    exact walks
  | ok result =>
    obtain ⟨p, rest⟩ := result
    rw [hp] at h walks
    obtain ⟨⟨front, s, rfl, walked, settled, hdepth, ahead⟩, clear⟩ := walks
    match rest, h with
    | t :: more, h =>
      cases h
      -- The whole condition stands at no depth, so what is behind it cannot close a parenthesis.
      have shallow : ¬ s.Overshoots := by
        rintro (h | ⟨-, h⟩)
        · rcases settled with h' | h' <;> rw [h] at h' <;> cases h'
        · rw [hdepth] at h
          exact Nat.lt_irrefl 0 h
      refine .before rfl walked ?_ (fun _ => rfl) fun h => absurd h shallow
      refine settled.next_eq_none (fun c hc => ?_) (clear .and (by simp) t rfl)
        (clear .or (by simp) t rfl) fun _ => hdepth
      exact settled.resolve_left fun h => ahead h t rfl c hc

/-! ## Fronts of conditions -/

namespace Standing

theorem Settled.exists_complete {s : Standing} (h : s.Settled) :
    ∃ ts s', s.walk ts = some s' ∧ s'.Complete := by
  obtain ⟨depth, due⟩ := s
  induction depth generalizing due with
  | zero => exact ⟨[], _, rfl, h, rfl⟩
  | succ depth ih =>
    obtain ⟨ts, s', walked, complete⟩ := ih .joint (.inr rfl)
    refine ⟨.closeParen :: ts, s', ?_, complete⟩
    rw [walk_cons, h.next (by simp)]
    exact walked

theorem exists_complete (s : Standing) : ∃ ts s', s.walk ts = some s' ∧ s'.Complete := by
  have one {t : Token} {s' : Standing} (next : s.next t = some s') (settled : s'.Settled) :
      ∃ ts s', s.walk ts = some s' ∧ s'.Complete := by
    obtain ⟨ts, s'', walked, complete⟩ := settled.exists_complete
    refine ⟨t :: ts, s'', ?_, complete⟩
    rw [walk_cons, next]
    exact walked
  obtain ⟨depth, due⟩ := s
  cases due with
  | term => exact one (t := .string "") rfl (.inl rfl)
  | path => exact one (t := .word "") rfl (.inr rfl)
  | operand => exact one (t := .string "") rfl (.inr rfl)
  | comparison => exact Settled.exists_complete (.inl rfl)
  | joint => exact Settled.exists_complete (.inr rfl)

end Standing

theorem exists_derives_of_walk {ts : List Token} {s : Standing}
    (walked : Standing.walk ⟨0, .term⟩ ts = some s) (complete : s.Complete) :
    ∃ p, Derives .disjunction ts p := by
  obtain ⟨tokens, rfl⟩ : ∃ tokens : Tokens, tokens.kinds = ts :=
    ⟨ts.map (⟨0, ·⟩), by simp [Tokens.kinds, Function.comp_def]⟩
  cases h : parseTokens tokens with
  | ok p => exact ⟨p, parseTokens_eq_ok_iff.1 h⟩
  | error e =>
    exfalso
    cases stops_of_parseTokens h with
    | atEnd walked' unfinished =>
      rw [walked] at walked'
      cases walked'
      exact unfinished complete
    | before split walked' stuck =>
      rw [split, walked_append walked', kinds_cons, Standing.walk_cons, stuck] at walked
      cases walked

/-- A row of tokens is a front of a condition exactly if each of them was due. -/
theorem viable_iff {ts : List Token} :
    Viable ts ↔ ∃ s, Standing.walk ⟨0, .term⟩ ts = some s := by
  constructor
  · rintro ⟨us, p, h⟩
    obtain ⟨s, walked, -⟩ := h.walk 0
    rw [Standing.walk_append] at walked
    obtain ⟨s', walked, -⟩ := Option.bind_eq_some_iff.1 walked
    exact ⟨s', walked⟩
  · rintro ⟨s, walked⟩
    obtain ⟨us, s', more, complete⟩ := s.exists_complete
    have whole : Standing.walk ⟨0, .term⟩ (ts ++ us) = some s' := by
      rw [Standing.walk_append, walked]
      exact more
    exact ⟨us, exists_derives_of_walk whole complete⟩

theorem viable_append_singleton {ts : List Token} {s : Standing} {t : Token}
    (walked : Standing.walk ⟨0, .term⟩ ts = some s) :
    Viable (ts ++ [t]) ↔ ∃ s', s.next t = some s' := by
  rw [viable_iff, Standing.walk_append, walked]
  simp

/-- A closing parenthesis could come behind the tokens, or the last of them is the word that tests
for a path and a path must come. -/
def Overshoots (ts : List Token) : Prop :=
  Viable (ts ++ [.closeParen]) ∨
    ts.getLast? = some (.word "exists") ∧ ∃ w, Viable (ts ++ [.word w])

/-- Only the word that tests for a path makes a path due, and no other word can come behind it where
it is an operand. -/
theorem next_due_path_iff {s s' : Standing} {t : Token} (next : s.next t = some s') :
    s'.due = .path ↔ t = .word "exists" ∧ ∃ w s'', s'.next (.word w) = some s'' := by
  have noWord (d : Nat) (w : String) : Standing.behindTerm d (.word w) = none := rfl
  obtain ⟨depth, due⟩ := s
  cases t with
  | word w =>
    cases due with
    | term =>
      cases next
      by_cases hw : w = "exists" <;> simp [hw, Standing.next]
    | path => cases next; simp [Standing.next, noWord]
    | operand => cases next; simp [Standing.next, noWord]
    | comparison => cases next
    | joint => cases next
  | closeParen => cases due <;> simp_all [Standing.next, Standing.behindTerm] <;> simp [← next.2]
  | _ => cases due <;> cases next <;> simp

theorem due_path_iff {ts : List Token} {s : Standing}
    (walked : Standing.walk ⟨0, .term⟩ ts = some s) :
    s.due = .path ↔
      ts.getLast? = some (.word "exists") ∧ ∃ w s', s.next (.word w) = some s' := by
  rcases List.eq_nil_or_concat ts with rfl | ⟨front, t, rfl⟩
  · cases walked
    simp
  · rw [List.concat_eq_append, Standing.walk_append] at walked
    obtain ⟨r, -, walked⟩ := Option.bind_eq_some_iff.1 walked
    have next : r.next t = some s := by simpa using walked
    rw [List.concat_eq_append, List.getLast?_append, List.getLast?_singleton, Option.some_or,
      Option.some_inj, next_due_path_iff next]

theorem overshoots_iff {ts : List Token} {s : Standing}
    (walked : Standing.walk ⟨0, .term⟩ ts = some s) : Overshoots ts ↔ s.Overshoots := by
  have closes : (∃ s', s.next .closeParen = some s') ↔ s.Settled ∧ 0 < s.depth := by
    by_cases h : s.Settled
    · rw [h.exists_next_closeParen_iff, and_iff_right h]
    · have none : s.next .closeParen = none := by
        obtain ⟨depth, due⟩ := s
        cases due <;> simp_all [Standing.Settled, Standing.next]
      simp [h, none]
  unfold Overshoots Standing.Overshoots
  simp only [viable_append_singleton walked]
  rw [closes, ← due_path_iff walked, or_comm]

/-! ## The place of an error -/

theorem scan_ne_nil {source : String} {tokens : Tokens} (h : scan source = .ok tokens) :
    tokens ≠ [] := by
  obtain ⟨found, -, h⟩ := Except.exists_of_bind h
  split at h
  · cases h
  · next some =>
    cases h
    exact fun h => some (h ▸ rfl)

theorem Tokens.getLast?_eq_lastOffset {tokens : Tokens} (h : tokens ≠ []) :
    tokens.getLast?.map Located.offset = some tokens.lastOffset := by
  unfold lastOffset
  rw [List.getLast?_eq_some_getLast h]
  rfl

theorem offsetAt_lastOffset (front : Tokens) (t : Located) (rest : Tokens) :
    offsetAt (Tokens.lastOffset (front ++ t :: rest)) rest = offsetAt t.offset rest := by
  cases rest with
  | nil => simp [offsetAt, Tokens.lastOffset]
  | cons u rest => rfl

/-- The error is at the first token up to which no condition begins with the tokens, or at the last
token if some condition goes on behind all of them. But where a closing parenthesis is due, or the
path of a test for a path, the parser has passed over the token before it says where it stands, and
the error is at the token behind it if there is one. -/
def Blames (tokens : Tokens) (e : ParseError) : Prop :=
  Viable tokens.kinds ∧ tokens.getLast?.map Located.offset = some e.offset ∨
  ∃ front t rest, tokens = front ++ t :: rest ∧ Viable (Tokens.kinds front) ∧
    ¬ Viable (Tokens.kinds (front ++ [t])) ∧
    (¬ Overshoots (Tokens.kinds front) → e.offset = t.offset) ∧
    (Overshoots (Tokens.kinds front) → e.offset = offsetAt t.offset rest)

/-- A source whose tokens are no condition is refused, and the error is where the tokens stop being
a front of one. -/
theorem blames_first_offender {source : String} {tokens : Tokens}
    (scanned : scan source = .ok tokens) (wrong : ∀ p, ¬ Derives .disjunction tokens.kinds p) :
    ∃ e, Condition.parse source = .error e ∧ Blames tokens e := by
  cases h : parseTokens tokens with
  | ok p => exact absurd (parseTokens_eq_ok_iff.1 h) (wrong p)
  | error e =>
    refine ⟨e, ?_, ?_⟩
    · unfold Condition.parse
      rw [scanned]
      change (parseTokens tokens >>= _) = _
      rw [h]
      rfl
    -- Parsing stops at the end or before a token that nothing can follow.
    cases stops_of_parseTokens h with
    | atEnd walked unfinished offset =>
      refine .inl ⟨viable_iff.2 ⟨_, walked⟩, ?_⟩
      rw [offset, Tokens.getLast?_eq_lastOffset (scan_ne_nil scanned)]
    | before split walked stuck offset overshoot =>
      refine .inr ⟨_, _, _, split, viable_iff.2 ⟨_, walked⟩, ?_, ?_, ?_⟩
      · rw [kinds_append]
        refine fun h => ?_
        obtain ⟨s', next⟩ := (viable_append_singleton walked).1 h
        rw [stuck] at next
        cases next
      · rw [overshoots_iff walked]
        exact offset
      · rw [overshoots_iff walked]
        intro h
        rw [overshoot h, split, offsetAt_lastOffset]

/-- In the parenthesis no second path can stand, but the error is at the third. -/
theorem blames_first_offender_unclosed :
    let tokens : Tokens := [⟨0, .openParen⟩, ⟨1, .word "a"⟩, ⟨3, .word "b"⟩, ⟨5, .word "c"⟩]
    scan "(a b c" = .ok tokens ∧ (∀ p, ¬ Derives .disjunction tokens.kinds p) ∧
    Viable [.openParen, .word "a"] ∧ ¬ Viable [.openParen, .word "a", .word "b"] ∧
    Overshoots [.openParen, .word "a"] ∧
    ∃ e, Condition.parse "(a b c" = .error e ∧ Blames tokens e ∧ e.offset = 5 := by
  intro tokens
  have scanned : scan "(a b c" = .ok tokens := by cbv
  have wrong : ∀ p, ¬ Derives .disjunction tokens.kinds p := fun p h => by
    rw [← parseTokens_eq_ok_iff] at h
    cases h
  have walked : Standing.walk ⟨0, .term⟩ [.openParen, .word "a"] = some ⟨1, .comparison⟩ := rfl
  obtain ⟨e, failed, blames⟩ := blames_first_offender scanned wrong
  have place : Condition.parse "(a b c" = .error ⟨5, .wantedClosing⟩ := by cbv
  refine ⟨scanned, wrong, viable_iff.2 ⟨_, walked⟩, ?_, ?_, e, failed, blames, ?_⟩
  · intro h
    obtain ⟨_, next⟩ := (viable_append_singleton walked).1 h
    cases next
  · exact (overshoots_iff walked).2 (.inr ⟨.inl rfl, Nat.one_pos⟩)
  · cases failed.symm.trans place
    rfl

end Conduit.Condition
