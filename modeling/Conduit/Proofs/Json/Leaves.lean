import Conduit.Json.Printer
import Conduit.Json.Reader
import Conduit.Proofs.Except
import Conduit.Proofs.Text

/-!
# Leaves are read back

A string is read back from its escapes whatever comes behind it. A numeral takes as much as it can,
so what comes behind it must not go on with it, and then it is read as if it stood alone.
-/

namespace Conduit.Json

open Number Text

/-- The reader gave the value and left the rest of the text. -/
def Yields {α : Type} (outcome : Except Fault (α × Cursor)) (a : α) (rest : List Char) : Prop :=
  ∃ q, outcome = .ok (a, ⟨rest, q⟩)

theorem Yields.bind {α β : Type} {x : Except Fault (α × Cursor)} {a : α} {rest : List Char}
    {f : α × Cursor → Except Fault (β × Cursor)} {b : β} {left : List Char}
    (h : Yields x a rest) (hf : ∀ q, Yields (f (a, ⟨rest, q⟩)) b left) :
    Yields (x >>= f) b left := by
  obtain ⟨q, rfl⟩ := h
  exact hf q

theorem Yields.pure {α : Type} (a : α) (rest : List Char) (q : Position) :
    Yields (.ok (a, ⟨rest, q⟩)) a rest := ⟨q, rfl⟩

/-! ## Strings -/

theorem hexFour_values {n : Nat} (h : n < 32) :
    (hexFour n).length = 4 ∧ (∀ c ∈ hexFour n, c.utf8Size = 1) ∧
      ((hexFour n).mapM hexValue?).map (·.foldl (fun n v => 16 * n + v) 0) = some n := by
  -- Only the control characters are written in this way.
  have all : (List.range 32).all (fun n =>
      (hexFour n).length == 4 && (hexFour n).all (fun c => c.utf8Size == 1) &&
        ((hexFour n).mapM hexValue?).map (·.foldl (fun n v => 16 * n + v) 0) == some n) = true := by
    decide +kernel
  have check := List.all_eq_true.1 all n (List.mem_range.2 h)
  simpa only [Bool.and_eq_true, beq_iff_eq, List.all_eq_true, and_assoc] using check

theorem frontOfBytes?_append {front : List Char} (h : ∀ c ∈ front, c.utf8Size = 1)
    (rest : List Char) : frontOfBytes? front.length (front ++ rest) = some front := by
  induction front with
  | nil => simp [frontOfBytes?]
  | cons c front ih =>
    obtain ⟨hc, h⟩ := List.forall_mem_cons.1 h
    rw [List.length_cons, List.cons_append, frontOfBytes?, hc, Nat.add_sub_cancel, ih h]
    rfl

theorem readHexFour_hexFour {n : Nat} (h : n < 32) (rest : List Char) (p : Position) :
    Yields (readHexFour ⟨hexFour n ++ rest, p⟩) n rest := by
  obtain ⟨length, sizes, values⟩ := hexFour_values h
  have front := frontOfBytes?_append sizes rest
  rw [length] at front
  obtain ⟨digits, hdigits, hn⟩ := Option.map_eq_some_iff.1 values
  have behind : (hexFour n ++ rest).drop 4 = rest := List.drop_left' length
  simp only [readHexFour, front, hdigits, hn, Cursor.skip, behind]
  exact .pure _ _ _

theorem readUnicode_hexFour {c : Char} (h : c.toNat < 32) (rest : List Char) (p : Position) :
    Yields (readUnicode ⟨hexFour c.toNat ++ rest, p⟩) c rest := by
  refine (readHexFour_hexFour h rest p).bind fun q => ?_
  have noSurrogate : ¬ (0xdc00 ≤ c.toNat ∧ c.toNat ≤ 0xdfff) := by omega
  have single : c.toNat < 0xd800 ∨ 0xdbff < c.toNat := by omega
  dsimp only
  rw [if_neg noSurrogate, if_pos single, Char.ofNat_toNat]
  exact .pure _ _ _

section

variable {c f : Char} {fuel rest more left : List Char}
  (next : ∀ q, Yields (readChars fuel ⟨rest, q⟩) more left)
include next

theorem readChars_escaped (escape : List Char) (p : Position)
    (h : ∀ q, Yields (readEscape ⟨escape ++ rest, q⟩) c rest) :
    Yields (readChars (f :: fuel) ⟨'\\' :: (escape ++ rest), p⟩) (c :: more) left :=
  (h _).bind fun q => (next q).bind fun _ => .pure _ _ _

theorem readChars_plain (p : Position) (quote : c ≠ '"') (slash : c ≠ '\\')
    (control : ¬ c.toNat < 32) :
    Yields (readChars (f :: fuel) ⟨c :: rest, p⟩) (c :: more) left := by
  rw [readChars]
  simp only [quote, slash, control, if_false]
  exact (next _).bind fun _ => .pure _ _ _

theorem readChars_escapeChar (p : Position) :
    Yields (readChars (f :: fuel) ⟨escapeChar c ++ rest, p⟩) (c :: more) left := by
  have short {x : Char} (hx : escaped? x = some c) (hu : x ≠ 'u') :
      Yields (readChars (f :: fuel) ⟨['\\', x] ++ rest, p⟩) (c :: more) left := by
    refine readChars_escaped next [x] p fun q => ?_
    rw [List.singleton_append, readEscape]
    simp only [if_neg hu, hx]
    exact .pure _ _ _
  unfold escapeChar
  split
  · next hc => exact short (by rw [hc]; rfl) (by decide)
  split
  · next hc => exact short (by rw [hc]; rfl) (by decide)
  split
  · next hc => exact short (by rw [hc]; rfl) (by decide)
  split
  · next hc => exact short (by rw [hc]; rfl) (by decide)
  split
  · next hc => exact short (by rw [hc]; rfl) (by decide)
  split
  · next hc => exact short (by rw [hc]; rfl) (by decide)
  split
  · next hc => exact short (by rw [hc]; rfl) (by decide)
  split
  · next control =>
    exact readChars_escaped next ('u' :: hexFour c.toNat) p fun q =>
      readUnicode_hexFour control rest _
  · next quote slash _ _ _ _ _ control => exact readChars_plain next p quote slash control

end

theorem readChars_closing (f : Char) (fuel rest : List Char) (p : Position) :
    Yields (readChars (f :: fuel) ⟨'"' :: rest, p⟩) [] rest := ⟨_, rfl⟩

theorem readChars_escapes (s : List Char) {fuel : List Char} (h : s.length < fuel.length)
    (rest : List Char) (p : Position) :
    Yields (readChars fuel ⟨s.flatMap escapeChar ++ '"' :: rest, p⟩) s rest := by
  induction s generalizing fuel p with
  | nil =>
    obtain ⟨f, fuel, rfl⟩ := List.exists_cons_of_length_pos h
    exact readChars_closing f fuel rest p
  | cons c s ih =>
    obtain ⟨f, fuel, rfl⟩ := List.exists_cons_of_length_pos (Nat.zero_lt_of_lt h)
    rw [List.flatMap_cons, List.append_assoc]
    exact readChars_escapeChar (fun q => ih (Nat.lt_of_succ_lt_succ h) q) p

theorem length_le_escapes (s : List Char) : s.length ≤ (s.flatMap escapeChar).length := by
  induction s with
  | nil => exact Nat.le_refl 0
  | cons c s ih =>
    have : 0 < (escapeChar c).length := by
      unfold escapeChar
      repeat' split
      all_goals exact Nat.succ_pos _
    rw [List.flatMap_cons, List.length_append, List.length_cons]
    omega

theorem readString_escapes (s : String) (rest : List Char) (p : Position) :
    Yields (readString ⟨s.toList.flatMap escapeChar ++ '"' :: rest, p⟩) s rest := by
  have enough : s.toList.length < (s.toList.flatMap escapeChar ++ '"' :: rest).length := by
    have := length_le_escapes s.toList
    rw [List.length_append, List.length_cons]
    omega
  refine (readChars_escapes s.toList enough rest p).bind fun q => ?_
  dsimp only
  rw [String.ofList_toList]
  exact .pure _ _ _

/-! ## Numerals -/

def exponentDigits (negative : Bool) (significand : Nat) (exponent : Int) (down : Bool)
    (c : Cursor) : Except Fault (Json × Cursor) :=
  let digits := c.rest.takeWhile isDigit
  if digits.isEmpty then
    match c.rest with
    | [] => .error (c.fault .endInValue)
    | _ :: _ => .error (c.faultAhead .badNumber)
  else
    let (e, taken) := extend (Nat.pow 2 31) 0 digits
    if taken < digits.length then
      if significand ≠ 0 ∧ !down then .error ((c.skip (taken + 1)).fault .numberOutOfRange)
      else .ok (.real (.zero negative), c.skip digits.length)
    else
      scaledReal negative significand (if down then exponent - e else exponent + e)
        (c.skip digits.length)

/-- How far the sign of an exponent part goes, and whether it is a minus sign. -/
def exponentSign (text : List Char) : Bool × Nat :=
  if text.head? = some '+' then (false, 1)
  else if text.head? = some '-' then (true, 1)
  else (false, 0)

/-- What follows the digits of a numeral: a point, the letter of an exponent part or something
else. -/
def dispatch {α : Type} (text : List Char) (point exponent other : α) : α :=
  match text with
  | '.' :: _ => point
  | 'e' :: _ => exponent
  | 'E' :: _ => exponent
  | _ => other

theorem dispatch_eq {α : Type} (text : List Char) (point exponent other : α) :
    dispatch text point exponent other =
      if text.head? = some '.' then point
      else if text.head? = some 'e' ∨ text.head? = some 'E' then exponent
      else other := by
  unfold dispatch
  split <;> simp_all [List.head?_eq_some_iff]

def fractionEnd {α : Type} (text : List Char) (exponent other : α) : α :=
  match text with
  | 'e' :: _ => exponent
  | 'E' :: _ => exponent
  | _ => other

theorem fractionEnd_eq {α : Type} (text : List Char) (exponent other : α) :
    fractionEnd text exponent other = dispatch text other exponent other := by
  unfold fractionEnd dispatch
  split <;> split <;> simp_all

theorem readExponent_eq (negative : Bool) (significand : Nat) (exponent : Int) (c : Cursor) :
    readExponent negative significand exponent c =
      exponentDigits negative significand exponent (exponentSign (c.skip 1).rest).1
        ((c.skip 1).skip (exponentSign (c.skip 1).rest).2) := by
  unfold readExponent exponentSign
  dsimp only
  generalize c.skip 1 = c
  obtain ⟨text, p⟩ := c
  cases text with
  | nil => rfl
  | cons x text =>
    by_cases plus : x = '+'
    · subst plus
      rfl
    by_cases minus : x = '-'
    · subst minus
      rfl
    · simp only [List.head?_cons, Option.some.injEq, plus, minus, if_false]
      split
      · next h => exact absurd (List.cons.inj h).1 plus
      · next h => exact absurd (List.cons.inj h).1 minus
      · rfl

def isNumeralChar (c : Char) : Bool :=
  isDigit c || c == '.' || c == 'e' || c == 'E' || c == '+' || c == '-'

/-- The text does not go on with a numeral. -/
def Ends (rest : List Char) : Prop := ∀ c ∈ rest.head?, isNumeralChar c = false

theorem ends_nil : Ends [] := nofun

/-- A text is read in the same way with more behind it, which is left then. -/
inductive Extends (rest text : List Char) :
    Except Fault (Json × Cursor) → Except Fault (Json × Cursor) → Prop where
  | ok (j : Json) {left : List Char} (suffix : left <:+ text) (p q : Position) :
      Extends rest text (.ok (j, ⟨left, p⟩)) (.ok (j, ⟨left ++ rest, q⟩))
  | error (e f : Fault) : Extends rest text (.error e) (.error f)

section

variable {rest text : List Char}

theorem Extends.of_suffix {left : List Char} {x y : Except Fault (Json × Cursor)}
    (h : Extends rest left x y) (suffix : left <:+ text) : Extends rest text x y := by
  cases h with
  | ok j inner => exact .ok j (inner.trans suffix) _ _
  | error => exact .error _ _

theorem Ends.head?_append (h : Ends rest) {d : Char} (hd : isNumeralChar d = true) :
    (text ++ rest).head? = some d ↔ text.head? = some d := by
  cases text with
  | cons c text => rfl
  | nil =>
    refine iff_of_false (fun hrest => ?_) nofun
    exact absurd ((h d hrest).symm.trans hd) Bool.false_ne_true

theorem Ends.takeWhile_append (h : Ends rest) (text : List Char) :
    (text ++ rest).takeWhile isDigit = text.takeWhile isDigit := by
  induction text with
  | nil =>
    cases rest with
    | nil => rfl
    | cons c rest =>
      have hc : ¬ isDigit c = true := fun hd => by
        have := h c rfl
        simp [isNumeralChar, hd] at this
      exact List.takeWhile_cons_of_neg hc
  | cons c text ih => rw [List.cons_append, List.takeWhile_cons, List.takeWhile_cons, ih]

theorem drop_takeWhile_append (p : Char → Bool) :
    (text ++ rest).drop (text.takeWhile p).length = text.drop (text.takeWhile p).length ++ rest :=
  List.drop_append_of_le_length (List.takeWhile_prefix p).length_le

theorem scaledReal_extends (negative : Bool) (significand : Nat) (exponent : Int)
    {left : List Char} (suffix : left <:+ text) (p q : Position) :
    Extends rest text (scaledReal negative significand exponent ⟨left, p⟩)
      (scaledReal negative significand exponent ⟨left ++ rest, q⟩) := by
  unfold scaledReal
  cases scaleByTen 3 (.ofNat significand) exponent with
  | none => exact .error _ _
  | some x => exact .ok _ suffix p q

variable (ends : Ends rest)
include ends

theorem exponentDigits_extends (negative : Bool) (significand : Nat) (exponent : Int) (down : Bool)
    {left : List Char} (suffix : left <:+ text) (p q : Position) :
    Extends rest text (exponentDigits negative significand exponent down ⟨left, p⟩)
      (exponentDigits negative significand exponent down ⟨left ++ rest, q⟩) := by
  have shorter := (List.drop_suffix (left.takeWhile isDigit).length left).trans suffix
  unfold exponentDigits
  dsimp only [Cursor.skip]
  rw [ends.takeWhile_append, drop_takeWhile_append]
  split
  · split <;> split <;> exact .error _ _
  split
  · split
    · exact .error _ _
    · exact .ok _ shorter _ _
  · exact scaledReal_extends _ _ _ shorter _ _

theorem exponentSign_append (text : List Char) :
    exponentSign (text ++ rest) = exponentSign text := by
  unfold exponentSign
  simp only [ends.head?_append (d := '+') rfl, ends.head?_append (d := '-') rfl]

omit ends in
theorem exponentSign_le (text : List Char) : (exponentSign text).2 ≤ text.length := by
  cases text with
  | nil => exact Nat.zero_le _
  | cons c text =>
    unfold exponentSign
    split
    · exact Nat.succ_pos _
    · split
      · exact Nat.succ_pos _
      · exact Nat.zero_le _

theorem readExponent_extends (negative : Bool) (significand : Nat) (exponent : Int) (x : Char)
    (text : List Char) (p q : Position) :
    Extends rest (x :: text) (readExponent negative significand exponent ⟨x :: text, p⟩)
      (readExponent negative significand exponent ⟨x :: text ++ rest, q⟩) := by
  rw [readExponent_eq, readExponent_eq]
  simp only [Cursor.skip, List.cons_append, List.drop_one, List.tail_cons]
  rw [exponentSign_append ends, List.drop_append_of_le_length (exponentSign_le text)]
  exact exponentDigits_extends ends _ _ _ _
    ((List.drop_suffix _ text).trans (List.suffix_cons x text)) _ _

theorem dispatch_extends {left : List Char} {a a' b b' c c' : Except Fault (Json × Cursor)}
    (point : ∀ more, left = '.' :: more → Extends rest text a a')
    (exponent : ∀ x more, left = x :: more → Extends rest text b b')
    (other : Extends rest text c c') :
    Extends rest text (dispatch left a b c) (dispatch (left ++ rest) a' b' c') := by
  simp only [dispatch_eq, ends.head?_append (d := '.') rfl, ends.head?_append (d := 'e') rfl,
    ends.head?_append (d := 'E') rfl]
  split
  · next h =>
    obtain ⟨more, hmore⟩ := List.head?_eq_some_iff.1 h
    exact point more hmore
  split
  · next h =>
    obtain ⟨x, hx⟩ : ∃ x, left.head? = some x := h.elim (⟨_, ·⟩) (⟨_, ·⟩)
    obtain ⟨more, hmore⟩ := List.head?_eq_some_iff.1 hx
    exact exponent x more hmore
  · exact other

theorem readFraction_extends (negative : Bool) (significand : Nat) (exponent : Int) (x : Char)
    (text : List Char) (p q : Position) :
    Extends rest (x :: text) (readFraction negative significand exponent ⟨x :: text, p⟩)
      (readFraction negative significand exponent ⟨x :: text ++ rest, q⟩) := by
  unfold readFraction
  simp only [Cursor.skip, List.cons_append, List.drop_one, List.tail_cons]
  rw [ends.takeWhile_append, drop_takeWhile_append]
  have suffix := (List.drop_suffix (text.takeWhile isDigit).length text).trans
    (List.suffix_cons x text)
  split
  · split <;> split <;> exact .error _ _
  generalize text.drop (text.takeWhile isDigit).length = left at suffix ⊢
  -- What is left may be empty, so the two matches are compared as a whole.
  change Extends rest _ (fractionEnd left _ _) (fractionEnd (left ++ rest) _ _)
  rw [fractionEnd_eq, fractionEnd_eq]
  refine dispatch_extends ends (fun _ _ => ?_) (fun x more h => ?_) ?_
  · exact scaledReal_extends _ _ _ suffix _ _
  · subst h
    exact (readExponent_extends ends _ _ _ _ _ _ _).of_suffix suffix
  · exact scaledReal_extends _ _ _ suffix _ _

theorem readNumeral_extends (negative : Bool) (p q : Position) :
    Extends rest text (readNumeral negative ⟨text, p⟩)
      (readNumeral negative ⟨text ++ rest, q⟩) := by
  have suffix := List.drop_suffix (text.takeWhile isDigit).length text
  unfold readNumeral
  simp only [Cursor.skip]
  rw [ends.takeWhile_append, drop_takeWhile_append]
  generalize text.takeWhile isDigit = digits at suffix ⊢
  split
  · split <;> split <;> exact .error _ _
  · exact .error _ _
  generalize text.drop digits.length = left at suffix ⊢
  change Extends rest text (dispatch left _ _ _) (dispatch (left ++ rest) _ _ _)
  refine dispatch_extends ends (fun more h => ?_) (fun x more h => ?_) ?_
  · subst h
    exact (readFraction_extends ends _ _ _ _ _ _ _).of_suffix suffix
  · subst h
    exact (readExponent_extends ends _ _ _ _ _ _ _).of_suffix suffix
  · split
    · exact scaledReal_extends _ _ _ suffix _ _
    · exact .ok _ suffix _ _

end

theorem isSpace_of_isNumeralChar {c : Char} (h : isNumeralChar c = true) :
    Cursor.isSpace c = false := by
  refine Bool.eq_false_iff.2 fun space => ?_
  simp only [Cursor.isSpace, Bool.or_eq_true, beq_iff_eq] at space
  rcases space with ((rfl | rfl) | rfl) | rfl <;> exact absurd h (by decide)

/-- A text of numeral characters is read in the same way with something else behind it. -/
theorem readLeaf_extends {rest : List Char} (ends : Ends rest) {x : Char}
    (hx : isNumeralChar x = true) (text : List Char) (p q : Position) :
    Extends rest (x :: text) (readLeaf ⟨x :: text, p⟩) (readLeaf ⟨x :: text ++ rest, q⟩) := by
  have other {c : Char} (hc : isNumeralChar c = false) : x ≠ c := by
    rintro rfl
    exact absurd (hc.symm.trans hx) Bool.false_ne_true
  unfold readLeaf
  simp only [List.cons_append, other (c := 'n') rfl, other (c := 't') rfl, other (c := 'f') rfl,
    other (c := '"') rfl, if_false]
  split
  · exact (readNumeral_extends ends _ _ _).of_suffix (List.suffix_cons x text)
  split
  · exact readNumeral_extends ends _ _ _
  · exact .error _ _

/-! ## Printed numbers -/

def IsNumeral (text : List Char) : Prop := text ≠ [] ∧ ∀ c ∈ text, isNumeralChar c = true

theorem IsNumeral.append {front back : List Char} (hf : IsNumeral front)
    (hb : ∀ c ∈ back, isNumeralChar c = true) : IsNumeral (front ++ back) :=
  ⟨List.append_ne_nil_of_left_ne_nil hf.1 back, List.forall_mem_append.2 ⟨hf.2, hb⟩⟩

theorem IsNumeral.cons {c : Char} {text : List Char} (hc : isNumeralChar c = true)
    (h : ∀ c ∈ text, isNumeralChar c = true) : IsNumeral (c :: text) :=
  ⟨List.cons_ne_nil c text, List.forall_mem_cons.2 ⟨hc, h⟩⟩

theorem isNumeral_toDigits (n : Nat) : IsNumeral (Nat.toDigits 10 n) := by
  refine ⟨Nat.toDigits_ne_nil, fun c hc => ?_⟩
  simp [isNumeralChar, isDigit_of_mem_toDigits hc]

theorem isNumeral_integerText (n : Int) : IsNumeral (integerText n) := by
  have digits := isNumeral_toDigits n.natAbs
  unfold integerText
  split
  · exact .cons rfl digits.2
  · exact digits

theorem isNumeralChar_of_mem_zeros (n : Nat) :
    ∀ c ∈ List.replicate n '0', isNumeralChar c = true := by
  intro c hc
  rw [List.eq_of_mem_replicate hc]
  rfl

theorem isNumeral_plainText (point : Bool) {digits : List Char} (h : IsNumeral digits)
    (exponent : Int) : IsNumeral (plainText point digits exponent) := by
  have zeros := isNumeralChar_of_mem_zeros
  unfold plainText
  dsimp only
  split
  · refine (h.append (zeros _)).append ?_
    cases point <;> exact List.all_eq_true.1 rfl
  split
  · refine ⟨List.append_ne_nil_of_right_ne_nil _ (List.cons_ne_nil _ _), ?_⟩
    refine List.forall_mem_append.2 ⟨fun c hc => h.2 c (List.mem_of_mem_take hc), ?_⟩
    exact List.forall_mem_cons.2 ⟨rfl, fun c hc => h.2 c (List.mem_of_mem_drop hc)⟩
  · exact .cons rfl (List.forall_mem_cons.2 ⟨rfl, List.forall_mem_append.2 ⟨zeros _, h.2⟩⟩)

theorem isNumeral_scientificText (plus : Bool) {digits : List Char} (h : IsNumeral digits)
    (leading : Int) : IsNumeral (scientificText plus digits leading) := by
  have exponent := (isNumeral_toDigits leading.natAbs).2
  unfold scientificText
  dsimp only
  refine .append (.append ?_ (List.forall_mem_cons.2 ⟨rfl, ?_⟩)) exponent
  · split
    · exact absurd rfl h.1
    · exact h
    · obtain ⟨hd, hrest⟩ := List.forall_mem_cons.1 h.2
      exact .cons hd (List.forall_mem_cons.2 ⟨rfl, hrest⟩)
  · split
    · exact List.all_eq_true.1 rfl
    · cases plus <;> exact List.all_eq_true.1 rfl

theorem isNumeral_absolute (l : Layout) (x : Binary64) : IsNumeral (l.absolute x) := by
  have digits := isNumeral_toDigits (shortest l.tie x).digits
  unfold Layout.absolute
  split
  · split <;> exact .cons rfl (List.all_eq_true.1 rfl)
  dsimp only
  split
  · exact isNumeral_plainText _ digits _
  split
  · exact isNumeral_plainText _ digits _
  · exact isNumeral_scientificText _ digits _

theorem isNumeral_realText {x : Binary64} (finite : x.isFinite = true) :
    IsNumeral (realText x) := by
  have absolute := isNumeral_absolute Layout.document x
  have below : x.magnitude < infinite := of_decide_eq_true finite
  have number : ¬ x.isNaN = true := by
    simp only [Binary64.isNaN, decide_eq_true_eq]
    omega
  have bounded : ¬ x.isInfinite = true := by
    simp only [Binary64.isInfinite, beq_iff_eq]
    omega
  rw [realText, if_pos finite, Layout.render, if_neg number, if_neg bounded]
  dsimp only
  rw [String.toList_ofList]
  split
  · exact .cons rfl absolute.2
  · exact absolute

end Conduit.Json
