import Conduit.Number.Decimal
import Conduit.Proofs.Text

/-!
# Numerals

A plain decimal numeral is read back as the number nearest to what it writes.
-/

namespace Conduit.Number

open Text

/-- A plain decimal numeral: digits, perhaps behind a minus sign, and perhaps with a point and more
digits behind them. -/
structure Numeral where
  negative : Bool
  whole : List Char
  fraction : List Char
  digits : ∀ c ∈ whole ++ fraction, isDigit c = true
  nonempty : whole ≠ []

namespace Numeral

def unsigned (n : Numeral) : List Char :=
  n.whole ++ if n.fraction = [] then [] else '.' :: n.fraction

def text (n : Numeral) : List Char := if n.negative then '-' :: n.unsigned else n.unsigned

def value (n : Numeral) : Binary64 :=
  ofScientific n.negative (digitsValue (n.whole ++ n.fraction)) (-n.fraction.length)

theorem isDigit_whole (n : Numeral) {c : Char} (h : c ∈ n.whole) : isDigit c = true :=
  n.digits c (List.mem_append_left _ h)

theorem isDigit_fraction (n : Numeral) {c : Char} (h : c ∈ n.fraction) : isDigit c = true :=
  n.digits c (List.mem_append_right _ h)

theorem exists_unsigned_eq (n : Numeral) :
    ∃ d rest, isDigit d = true ∧ n.unsigned = d :: rest ∧
      ∀ c ∈ rest, isDigit c = true ∨ c = '.' := by
  obtain ⟨d, more, hw⟩ := List.exists_cons_of_ne_nil n.nonempty
  have hd : isDigit d = true := n.isDigit_whole (hw ▸ List.mem_cons_self)
  have hu : n.unsigned = d :: (more ++ if n.fraction = [] then [] else '.' :: n.fraction) := by
    unfold unsigned
    rw [hw]
    rfl
  refine ⟨d, _, hd, hu, fun c hc => ?_⟩
  rcases List.mem_append.1 hc with hc | hc
  · exact .inl (n.isDigit_whole (by rw [hw]; exact List.mem_cons_of_mem _ hc))
  · split at hc
    · cases hc
    · rcases List.mem_cons.1 hc with rfl | hc
      · exact .inr rfl
      · exact .inl (n.isDigit_fraction hc)

theorem exists_text_eq (n : Numeral) :
    ∃ c tail, n.text = c :: tail ∧ (isDigit c = true ∨ c = '-') := by
  obtain ⟨d, rest, hd, hu, -⟩ := n.exists_unsigned_eq
  unfold text
  split
  · exact ⟨_, _, rfl, .inr rfl⟩
  · exact ⟨d, rest, hu, .inl hd⟩

theorem readDigits?_unsigned (n : Numeral) (negative : Bool) :
    readDigits? negative n.unsigned = some
      (ofScientific negative (digitsValue (n.whole ++ n.fraction)) (-n.fraction.length)) := by
  have hwhole : n.whole.isEmpty = false := by
    cases h : n.whole with
    | nil => exact absurd h n.nonempty
    | cons _ _ => rfl
  have stop : ∀ c ∈ (if n.fraction = [] then [] else '.' :: n.fraction).head?,
      isDigit c = false := by
    intro c hc
    split at hc
    · cases hc
    · cases hc
      rfl
  unfold readDigits? unsigned
  rw [takeWhile_append_of_stop (fun c => n.isDigit_whole) stop,
    dropWhile_append_of_stop (fun c => n.isDigit_whole) stop]
  by_cases hf : n.fraction = []
  · simp [hf, hwhole, readExponent?]
  · have ended : ∀ c ∈ ([] : List Char).head?, isDigit c = false := by simp
    have htake : n.fraction.takeWhile isDigit = n.fraction := by
      simpa using takeWhile_append_of_stop (fun c => n.isDigit_fraction) ended
    have hdrop : n.fraction.dropWhile isDigit = [] := by
      simpa using dropWhile_append_of_stop (fun c => n.isDigit_fraction) ended
    simp [hf, hwhole, htake, hdrop, readExponent?]

theorem readDecimal?_text (n : Numeral) : readDecimal? n.text = some n.value := by
  obtain ⟨d, rest, hd, hu, -⟩ := n.exists_unsigned_eq
  have hsign : takeSign n.text = (n.negative, n.unsigned) := by
    unfold text
    cases n.negative with
    | true => rfl
    | false =>
      rw [hu]
      unfold takeSign
      split
      · next h => cases h; cases hd
      · next h => cases h; cases hd
      · rfl
  have hlower : lowercase d = d := by
    unfold lowercase
    refine if_neg fun h => ?_
    simp only [isDigit, Bool.and_eq_true, decide_eq_true_eq] at hd
    omega
  have hword {w : String} {c : Char} {tail : List Char} (hw : w.toList = c :: tail)
      (hc : isDigit c = false) : String.ofList (n.unsigned.map lowercase) ≠ w := by
    intro h
    have := congrArg String.toList h
    rw [String.toList_ofList, hu, hw, List.map_cons, hlower] at this
    rw [(List.cons.inj this).1, hc] at hd
    cases hd
  -- Behind its sign a numeral begins with a digit, so it is no word for infinity or for no number.
  unfold readDecimal?
  rw [hsign]
  dsimp only
  rw [if_neg (hword (c := 'n') rfl rfl),
    if_neg (not_or.2 ⟨hword (c := 'i') rfl rfl, hword (c := 'i') rfl rfl⟩)]
  exact n.readDigits?_unsigned n.negative

end Numeral

end Conduit.Number
