import Conduit.Proofs.Condition.Cutting

/-!
# Scanning by positions

The scanner can also go through the characters of a source by their index and take segments of it
between two byte offsets. Such a reading goes wrong where an offset stands inside a character. It
never does, and it reads what the scanner reads.
-/

namespace Conduit.Condition

open Number Text

/-- Why a reading by positions gives nothing. -/
inductive Mishap where
  | refused (e : ParseError)
  | misplaced

/-! ## Segments between offsets -/

/-- The part of a source between two byte offsets, if both of them stand between characters. -/
def slice? (source : String) (start stop : Nat) : Option String :=
  if h : String.Pos.Raw.IsValid source ⟨start⟩ ∧ String.Pos.Raw.IsValid source ⟨stop⟩ ∧
      start ≤ stop then
    some (source.extract (source.pos ⟨start⟩ h.1) (source.pos ⟨stop⟩ h.2.1))
  else none

theorem utf8ByteSize_ofList (text : List Char) :
    (String.ofList text).utf8ByteSize = byteSize text := by
  induction text with
  | nil => rfl
  | cons c text ih =>
    rw [String.ofList_cons, String.utf8ByteSize_append, String.utf8ByteSize_singleton, ih]
    rfl

theorem isValid_byteSize (front back : List Char) :
    String.Pos.Raw.IsValid (String.ofList (front ++ back)) ⟨byteSize front⟩ :=
  String.Pos.Raw.isValid_iff_exists_append.2
    ⟨.ofList front, .ofList back, String.ofList_append,
      String.Pos.Raw.ext (utf8ByteSize_ofList front).symm⟩

theorem slice?_append (before middle after : List Char) :
    slice? (String.ofList (before ++ (middle ++ after))) (byteSize before)
      (byteSize (before ++ middle)) = some (String.ofList middle) := by
  have start := isValid_byteSize before (middle ++ after)
  have stop := isValid_byteSize (before ++ middle) after
  rw [List.append_assoc] at stop
  have le : byteSize before ≤ byteSize (before ++ middle) := by
    rw [byteSize_append]
    omega
  -- A slice is cut out of the bytes, of which a text has as many as its size says.
  have size (text : List Char) : byteSize text = text.utf8Encode.size := by
    rw [← utf8ByteSize_ofList, ← String.size_toByteArray, String.toByteArray_ofList]
  rw [slice?, dif_pos ⟨start, stop, le⟩]
  congr 1
  rw [← String.toByteArray_inj]
  change (String.ofList (before ++ (middle ++ after))).toByteArray.extract (byteSize before)
    (byteSize (before ++ middle)) = _
  simp only [String.toByteArray_ofList, List.utf8Encode_append, size, ByteArray.size_append]
  exact (ByteArray.extract_append_size_add (i := 0)).trans (ByteArray.extract_append_eq_left rfl)

/-! ## Scanning by an index -/

/-- The characters of a text with their byte offsets. -/
def placed (offset : Nat) : List Char → List (Nat × Char)
  | [] => []
  | c :: rest => (offset, c) :: placed (offset + c.utf8Size) rest

def runEnd (p : Char → Bool) (chars : List (Nat × Char)) (j : Nat) : Nat :=
  if h : j < chars.length then
    if p chars[j].2 then runEnd p chars (j + 1) else j
  else j
termination_by chars.length - j

/-- The text of a string up to the closing quote, and the index of that quote. -/
def quotedFrom (quote : Char) (chars : List (Nat × Char)) (j : Nat) (text : List Char) :
    Option (List Char × Nat) :=
  if h : j < chars.length then
    if h' : chars[j].2 = '\\' ∧ j + 1 < chars.length then
      quotedFrom quote chars (j + 2) (text ++ [chars[j + 1].2])
    else if chars[j].2 = quote then some (text, j)
    else quotedFrom quote chars (j + 1) (text ++ [chars[j].2])
  else none
termination_by chars.length - j

/-- The segment that starts with a character and goes on with characters of a kind, read as a
token. -/
def runFrom (source : String) (chars : List (Nat × Char)) (i offset : Nat) (p : Char → Bool)
    (read : String → Except Reason Token) : Except Mishap (Token × Nat) :=
  let j := runEnd p chars (i + 1)
  match slice? source offset ((chars[j]?.map Prod.fst).getD source.utf8ByteSize) with
  | none => .error .misplaced
  | some segment =>
    match read segment with
    | .ok t => .ok (t, j)
    | .error reason => .error (.refused ⟨offset, reason⟩)

def readNumber (text : String) : Except Reason Token :=
  match readDecimal? text.toList with
  | some x => .ok (.number x)
  | none => .error (.invalidNumber text)

/-- The token that starts at an index, and the index behind it. -/
def tokenFrom (source : String) (chars : List (Nat × Char)) (i offset : Nat) (c : Char) :
    Except Mishap (Token × Nat) :=
  let next := chars[i + 1]?.map Prod.snd
  if c = '(' then .ok (.openParen, i + 1)
  else if c = ')' then .ok (.closeParen, i + 1)
  else if c = '&' ∧ next = some '&' then .ok (.and, i + 2)
  else if c = '|' ∧ next = some '|' then .ok (.or, i + 2)
  else if c = '=' ∧ next = some '=' then .ok (.comparison .equal, i + 2)
  else if c = '!' then
    if next = some '=' then .ok (.comparison .unequal, i + 2) else .ok (.not, i + 1)
  else if c = '<' then
    if next = some '=' then .ok (.comparison .lessEqual, i + 2) else .ok (.comparison .less, i + 1)
  else if c = '>' then
    if next = some '=' then .ok (.comparison .greaterEqual, i + 2)
    else .ok (.comparison .greater, i + 1)
  else if c = '"' ∨ c = '\'' then
    match quotedFrom c chars (i + 1) [] with
    | some (text, j) => .ok (.string (String.ofList text), j + 1)
    | none => .error (.refused ⟨offset, .unterminatedString⟩)
  else if isDigit c ∨ (c = '-' ∧ next.any isDigit) then
    runFrom source chars i offset isNumberChar readNumber
  else if isAlphanumeric c ∨ c = '_' then
    runFrom source chars i offset isWordChar fun word => .ok (wordToken word)
  else .error (.refused ⟨offset, .unexpectedCharacter c⟩)

theorem le_runEnd (p : Char → Bool) (chars : List (Nat × Char)) (j : Nat) :
    j ≤ runEnd p chars j := by
  fun_induction runEnd p chars j <;> omega

theorem le_of_quotedFrom {quote : Char} {chars : List (Nat × Char)} {j stop : Nat}
    {text read : List Char} (h : quotedFrom quote chars j text = some (read, stop)) :
    j ≤ stop := by
  fun_induction quotedFrom quote chars j text with
  | case1 j text h' h'' ih =>
    have := ih h
    omega
  | case2 => cases h; rfl
  | case3 j text h' h'' hq ih =>
    have := ih h
    omega
  | case4 => cases h

/-- What is read takes characters. -/
def Advances (i : Nat) : Except Mishap (Token × Nat) → Prop
  | .ok (_, j) => i < j
  | .error _ => True

theorem runFrom_advances (source : String) (chars : List (Nat × Char)) (i offset : Nat)
    (p : Char → Bool) (read : String → Except Reason Token) :
    Advances i (runFrom source chars i offset p read) := by
  unfold runFrom
  dsimp only
  split
  · trivial
  · split
    · exact le_runEnd p chars (i + 1)
    · trivial

theorem tokenFrom_advances (source : String) (chars : List (Nat × Char)) (i offset : Nat)
    (c : Char) : Advances i (tokenFrom source chars i offset c) := by
  have one (t : Token) : Advances i (.ok (t, i + 1)) := Nat.lt_add_one i
  have two (t : Token) : Advances i (.ok (t, i + 2)) := Nat.lt_add_of_pos_right (by decide)
  unfold tokenFrom
  dsimp only
  refine iteInduction (fun _ => one _) fun _ => ?_
  refine iteInduction (fun _ => one _) fun _ => ?_
  refine iteInduction (fun _ => two _) fun _ => ?_
  refine iteInduction (fun _ => two _) fun _ => ?_
  refine iteInduction (fun _ => two _) fun _ => ?_
  refine iteInduction (fun _ => iteInduction (fun _ => two _) fun _ => one _) fun _ => ?_
  refine iteInduction (fun _ => iteInduction (fun _ => two _) fun _ => one _) fun _ => ?_
  refine iteInduction (fun _ => iteInduction (fun _ => two _) fun _ => one _) fun _ => ?_
  refine iteInduction (fun _ => ?_) fun _ => ?_
  · cases hread : quotedFrom c chars (i + 1) [] with
    | none => trivial
    | some read => exact Nat.lt_succ_of_lt (le_of_quotedFrom hread)
  refine iteInduction (fun _ => runFrom_advances _ _ _ _ _ _) fun _ => ?_
  exact iteInduction (fun _ => runFrom_advances _ _ _ _ _ _) fun _ => trivial

/-- The tokens that start at an index or behind it. -/
def tokensFrom (source : String) (chars : List (Nat × Char)) (i : Nat) :
    Except Mishap (List Located) :=
  if h : i < chars.length then
    if isBlank chars[i].2 then tokensFrom source chars (i + 1)
    else
      match read : tokenFrom source chars i chars[i].1 chars[i].2 with
      | .error m => .error m
      | .ok (t, j) => do
        let more ← tokensFrom source chars j
        .ok (⟨chars[i].1, t⟩ :: more)
  else .ok []
termination_by chars.length - i
decreasing_by
  · omega
  · have advances := tokenFrom_advances source chars i chars[i].1 chars[i].2
    rw [read] at advances
    exact Nat.sub_lt_sub_left h advances

/-- The tokens of a source, read by positions. -/
def scanByIndex (source : String) : Except Mishap (List Located) := do
  let tokens ← tokensFrom source (placed 0 source.toList) 0
  if tokens.isEmpty then .error (.refused ⟨0, .emptyCondition⟩) else .ok tokens

/-! ## Both scanners read the same -/

theorem placed_getElem? (offset : Nat) (text : List Char) (i : Nat) :
    (placed offset text)[i]? = text[i]?.map fun c => (offset + byteSize (text.take i), c) := by
  induction text generalizing offset i with
  | nil => rfl
  | cons c text ih =>
    cases i with
    | zero => rfl
    | succ i =>
      rw [placed, List.getElem?_cons_succ, ih, List.getElem?_cons_succ, List.take_succ_cons]
      simp only [byteSize, List.foldr_cons, Nat.add_assoc]

@[simp] theorem length_placed (offset : Nat) (text : List Char) :
    (placed offset text).length = text.length := by
  induction text generalizing offset with
  | nil => rfl
  | cons c text ih => simp [placed, ih]

section

variable {text before : List Char}

theorem placed_next {c : Char} {rest : List Char} (h : text = before ++ c :: rest) :
    (placed 0 text)[before.length]? = some (byteSize before, c) := by
  rw [placed_getElem?, h]
  simp

theorem lt_length_placed {c : Char} {rest : List Char} (h : text = before ++ c :: rest) :
    before.length < (placed 0 text).length := by
  simp [h]

theorem placed_get {c : Char} {rest : List Char} (h : text = before ++ c :: rest)
    (there : before.length < (placed 0 text).length) :
    (placed 0 text)[before.length] = (byteSize before, c) := by
  rw [List.getElem_eq_iff]
  exact placed_next h

theorem runEnd_placed {rest : List Char} (p : Char → Bool) (h : text = before ++ rest) :
    runEnd p (placed 0 text) before.length = before.length + (rest.takeWhile p).length := by
  induction rest generalizing before with
  | nil =>
    rw [runEnd, dif_neg (by simp [h])]
    rfl
  | cons c rest ih =>
    have there := placed_get h (lt_length_placed h)
    have next := @ih (before ++ [c]) (by simp [h])
    rw [runEnd, dif_pos (lt_length_placed h), there]
    by_cases hp : p c = true
    · rw [List.length_append, List.length_singleton] at next
      rw [if_pos hp, next, List.takeWhile_cons_of_pos hp, List.length_cons]
      omega
    · rw [if_neg hp, List.takeWhile_cons_of_neg hp]
      rfl

theorem quotedFrom_escaped {x : Char} {rest : List Char} (quote : Char) (read : List Char)
    (h : text = before ++ '\\' :: x :: rest) :
    quotedFrom quote (placed 0 text) before.length read =
      quotedFrom quote (placed 0 text) (before ++ ['\\', x]).length (read ++ [x]) := by
  have behind : text = (before ++ ['\\']) ++ x :: rest := by simp [h]
  have slash := placed_get h (lt_length_placed h)
  have escaped := placed_get behind (lt_length_placed behind)
  have next := lt_length_placed behind
  simp only [List.length_append, List.length_singleton] at escaped next
  rw [quotedFrom, dif_pos (lt_length_placed h), dif_pos ⟨by rw [slash], next⟩, escaped]
  simp

theorem quotedFrom_plain {c : Char} {rest : List Char} (quote : Char) (read : List Char)
    (h : text = before ++ c :: rest) (plain : c = '\\' → rest = []) :
    quotedFrom quote (placed 0 text) before.length read =
      if c = quote then some (read, before.length)
      else quotedFrom quote (placed 0 text) (before ++ [c]).length (read ++ [c]) := by
  have lt := lt_length_placed h
  have there := placed_get h lt
  have last : ¬ (placed 0 text)[before.length].2 = '\\' ∨
      ¬ before.length + 1 < (placed 0 text).length := by
    by_cases hc : c = '\\'
    · right
      simp [h, plain hc]
    · left
      rwa [there]
  rw [quotedFrom, dif_pos (lt_length_placed h), dif_neg (not_and_or.2 last), there]
  simp

theorem quotedFrom_end (quote : Char) (read : List Char) (h : text = before) :
    quotedFrom quote (placed 0 text) before.length read = none := by
  rw [quotedFrom, dif_neg (by simp [h])]

theorem quotedFrom_placed {rest : List Char} {quote : Char} (hq : quote ≠ '\\') (read : List Char)
    (h : text = before ++ rest) :
    quotedFrom quote (placed 0 text) before.length read =
      (quotedText? quote rest).map fun (t, s) => (read ++ t, before.length + (s.length - 1)) := by
  -- Along the reader of lists, while the index follows by what lies before the rest.
  fun_induction quotedText? quote rest generalizing before read with
  | case1 => exact quotedFrom_end quote read (by simpa using h)
  | case2 =>
    rw [quotedFrom_plain quote read h (fun _ => rfl), if_neg hq.symm, quotedFrom_end _ _ h]
    rfl
  | case3 =>
    rw [quotedFrom_plain quote read h (fun _ => rfl), if_pos rfl]
    simp
  | case4 c hb hc =>
    rw [quotedFrom_plain quote read h (fun _ => rfl), if_neg hc, quotedFrom_end _ _ h]
    rfl
  | case5 x rest ih =>
    rw [quotedFrom_escaped quote read h, ih (read ++ [x]) (by simp [h])]
    cases hread : quotedText? quote rest with
    | none => rfl
    | some found =>
      obtain ⟨t, s⟩ := found
      obtain ⟨written, rfl, -, -⟩ := quoted_of_quotedText? rest hread
      simp
      omega
  | case6 x rest hb =>
    rw [quotedFrom_plain quote read h (fun hc => absurd hc hb), if_pos rfl]
    simp
  | case7 c x rest hb hc ih =>
    rw [quotedFrom_plain quote read h (fun h => absurd h hb), if_neg hc,
      ih (read ++ [c]) (by simp [h])]
    cases hread : quotedText? quote (x :: rest) with
    | none => rfl
    | some found =>
      obtain ⟨t, s⟩ := found
      obtain ⟨written, rfl, -, -⟩ := quoted_of_quotedText? (x :: rest) hread
      simp
      omega

theorem stop_placed {rest : List Char} (h : text = before ++ rest) :
    ((placed 0 text)[before.length]?.map Prod.fst).getD (String.ofList text).utf8ByteSize =
      byteSize before := by
  cases rest with
  | nil =>
    rw [List.getElem?_eq_none (by simp [h]), utf8ByteSize_ofList, h, List.append_nil]
    rfl
  | cons c rest =>
    rw [placed_next h]
    rfl

theorem runFrom_placed {c : Char} {rest : List Char} (p : Char → Bool)
    (read : String → Except Reason Token) (h : text = before ++ c :: rest) :
    runFrom (String.ofList text) (placed 0 text) before.length (byteSize before) p read =
      match read (String.ofList (c :: rest.takeWhile p)) with
      | .ok t => .ok (t, before.length + (c :: rest.takeWhile p).length)
      | .error reason => .error (.refused ⟨byteSize before, reason⟩) := by
  have split : text = before ++ ((c :: rest.takeWhile p) ++ rest.dropWhile p) := by simp [h]
  have stop : runEnd p (placed 0 text) (before.length + 1) =
      (before ++ c :: rest.takeWhile p).length := by
    have behind : text = (before ++ [c]) ++ rest := by simp [h]
    have run := runEnd_placed p behind
    rw [List.length_append, List.length_singleton] at run
    rw [run, List.length_append, List.length_cons]
    omega
  have segment : slice? (String.ofList text) (byteSize before)
      (byteSize (before ++ c :: rest.takeWhile p)) =
        some (String.ofList (c :: rest.takeWhile p)) := by
    rw [split]
    exact slice?_append _ _ _
  rw [runFrom, stop, stop_placed (by rw [split, List.append_assoc]), segment, List.length_append]

def behind (i offset : Nat) : Except Reason Lexeme → Except Mishap (Token × Nat)
  | .ok l => .ok (l.token, i + l.source.length)
  | .error reason => .error (.refused ⟨offset, reason⟩)

theorem tokenFrom_placed {c : Char} {rest : List Char} (h : text = before ++ c :: rest) :
    tokenFrom (String.ofList text) (placed 0 text) before.length (byteSize before) c =
      behind before.length (byteSize before) (lexeme c rest) := by
  have next : (placed 0 text)[before.length + 1]?.map Prod.snd = rest.head? := by
    rw [placed_getElem?, h, List.getElem?_append_right (by omega), List.head?_eq_getElem?]
    simp [Function.comp_def]
  unfold tokenFrom lexeme
  simp only [next, apply_ite (behind before.length (byteSize before))]
  refine ite_congr rfl (fun _ => rfl) fun _ => ?_
  refine ite_congr rfl (fun _ => rfl) fun _ => ?_
  refine ite_congr rfl (fun _ => rfl) fun _ => ?_
  refine ite_congr rfl (fun _ => rfl) fun _ => ?_
  refine ite_congr rfl (fun _ => rfl) fun _ => ?_
  refine ite_congr rfl (fun _ => rfl) fun _ => ?_
  refine ite_congr rfl (fun _ => rfl) fun _ => ?_
  refine ite_congr rfl (fun _ => rfl) fun _ => ?_
  refine ite_congr rfl (fun hq => ?_) fun _ => ?_
  · have inner : text = (before ++ [c]) ++ rest := by simp [h]
    have noSlash : c ≠ '\\' := by rcases hq with rfl | rfl <;> decide
    have quoted := quotedFrom_placed noSlash [] inner
    -- A text ends where its closing quote does, whatever is escaped in it.
    rw [List.length_append, List.length_singleton] at quoted
    rw [quoted]
    cases hread : quotedText? c rest with
    | none => rfl
    | some found =>
      obtain ⟨t, s⟩ := found
      obtain ⟨written, rfl, -, -⟩ := quoted_of_quotedText? rest hread
      simp [behind]
      omega
  refine ite_congr rfl (fun _ => ?_) fun _ => ?_
  · rw [runFrom_placed _ _ h]
    change _ = behind _ _ (numberLexeme (c :: rest.takeWhile isNumberChar))
    rw [readNumber, numberLexeme, String.toList_ofList]
    cases readDecimal? (c :: rest.takeWhile isNumberChar) <;> rfl
  refine ite_congr rfl (fun _ => ?_) fun _ => rfl
  rw [runFrom_placed _ _ h]
  rfl

theorem tokensFrom_blank {c : Char} {rest : List Char} (h : text = before ++ c :: rest)
    (hc : isBlank c = true) :
    tokensFrom (String.ofList text) (placed 0 text) before.length =
      tokensFrom (String.ofList text) (placed 0 text) (before ++ [c]).length := by
  have there := placed_get h (lt_length_placed h)
  rw [tokensFrom, dif_pos (lt_length_placed h), if_pos (by rw [there]; exact hc)]
  simp

theorem tokensFrom_segment {c : Char} {rest : List Char} (h : text = before ++ c :: rest)
    (hc : isBlank c = false) :
    tokensFrom (String.ofList text) (placed 0 text) before.length =
      behind before.length (byteSize before) (lexeme c rest) >>= fun (t, j) =>
        tokensFrom (String.ofList text) (placed 0 text) j >>= fun more =>
          .ok (⟨byteSize before, t⟩ :: more) := by
  have lt := lt_length_placed h
  have there := placed_get h lt
  have blank : ¬ isBlank (placed 0 text)[before.length].2 = true := by
    rw [there, hc]
    decide
  rw [tokensFrom, dif_pos (lt_length_placed h), if_neg blank, ← tokenFrom_placed h]
  split
  · next m hread =>
    rw [there] at hread
    rw [hread]
    rfl
  · next t j hread =>
    rw [there] at hread ⊢
    rw [hread]
    rfl

/-- From a place between two characters on, the scanner by index reads what the scanner reads. -/
theorem tokensFrom_placed {rest : List Char} (h : text = before ++ rest) :
    tokensFrom (String.ofList text) (placed 0 text) before.length =
      (scanFrom (byteSize before) rest).mapError .refused := by
  generalize ho : byteSize before = offset
  fun_induction scanFrom offset rest generalizing before with
  | case1 offset =>
    rw [tokensFrom, dif_neg (by simp [h])]
    rfl
  | case2 offset c rest hc ih =>
    rw [tokensFrom_blank h hc]
    exact ih (by simp [h]) (by rw [byteSize_append, ho]; rfl)
  | case3 offset c rest hc reason hl =>
    rw [tokensFrom_segment h (Bool.eq_false_iff.2 hc), hl, ← ho]
    rfl
  | case4 offset c rest hc l hl ih =>
    obtain ⟨t, segment⟩ := l
    have read := lexed c rest
    rw [hl] at read
    cases read with
    | read reads there =>
      have split := reads.append_drop there
      have next : text = (before ++ segment) ++ rest.drop (segment.length - 1) := by
        rw [List.append_assoc, split]
        exact h
      have ih := ih next (by rw [byteSize_append, ho])
      rw [List.length_append] at ih
      rw [tokensFrom_segment h (Bool.eq_false_iff.2 hc), hl, ho]
      simp only [behind, bind, Except.bind, ih]
      cases scanFrom (offset + byteSize segment) (rest.drop (segment.length - 1)) <;> rfl

end

theorem scanByIndex_eq (source : String) :
    scanByIndex source = (scan source).mapError .refused := by
  have h := tokensFrom_placed (List.nil_append source.toList).symm
  rw [String.ofList_toList] at h
  change tokensFrom source (placed 0 source.toList) 0 = (scanFrom 0 source.toList).mapError _ at h
  rw [scanByIndex, scan, h]
  cases scanFrom 0 source.toList with
  | error e => rfl
  | ok tokens => cases tokens <;> rfl

end Conduit.Condition
