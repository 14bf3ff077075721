import Conduit.Text.Alphanumeric

/-!
# Texts and their characters

A blank is neither a letter nor a digit. The digits of a natural number have its value. A text whose
front has a property that its next character does not have is cut behind the front.
-/

namespace Conduit.Text

/-! ## Blanks -/

theorem not_inRanges_of_apart {as bs : List (Nat × Nat)}
    (apart : ∀ a ∈ as, ∀ b ∈ bs, a.2 < b.1 ∨ b.2 < a.1) {n : Nat} (h : inRanges as n = true) :
    inRanges bs n = false := by
  unfold inRanges at h ⊢
  obtain ⟨a, ha, hn⟩ := List.any_eq_true.1 h
  refine List.any_eq_false.2 fun b hb => ?_
  simp only [Bool.and_eq_true, decide_eq_true_eq] at hn ⊢
  have := apart a ha b hb
  omega

theorem isAlphanumeric_of_isBlank {c : Char} (h : isBlank c = true) : isAlphanumeric c = false := by
  unfold isBlank at h
  unfold isAlphanumeric
  split at h
  · next hc =>
    rw [if_pos hc]
    simp only [isDigit, isAsciiLetter, Bool.or_eq_true, Bool.and_eq_true, decide_eq_true_eq,
      beq_iff_eq, Bool.or_eq_false_iff, Bool.and_eq_false_iff, decide_eq_false_iff_not] at h ⊢
    omega
  · next hc =>
    rw [if_neg hc]
    exact not_inRanges_of_apart (by decide +kernel) h

theorem isDigit_of_isBlank {c : Char} (h : isBlank c = true) : isDigit c = false :=
  Bool.eq_false_iff.2 fun hd => by
    have := isAlphanumeric_of_isBlank h
    rw [isAlphanumeric_of_isDigit hd] at this
    cases this

/-! ## Digits of a natural number -/

theorem isDigit_of_mem_toDigits {n : Nat} {c : Char} (h : c ∈ Nat.toDigits 10 n) :
    isDigit c = true := by
  have digit := Nat.isDigit_of_mem_toDigits (by decide) (by decide) h
  simpa [Char.isDigit, isDigit, UInt32.le_iff_toNat_le] using digit

theorem digitsValue_toDigits (n : Nat) : digitsValue (Nat.toDigits 10 n) = n :=
  Nat.ofDigitChars_ten_toDigits

theorem digitsValue_append_zeros (ds : List Char) (k : Nat) :
    digitsValue (ds ++ List.replicate k '0') = digitsValue ds * Nat.pow 10 k :=
  (Nat.ofDigitChars_append 0).trans (Nat.ofDigitChars_replicate_zero.trans (Nat.mul_comm _ _))

theorem digitsValue_zeros_append (ds : List Char) (k : Nat) :
    digitsValue (List.replicate k '0' ++ ds) = digitsValue ds :=
  (Nat.ofDigitChars_append 0).trans (by rw [Nat.ofDigitChars_replicate_zero, Nat.mul_zero]; rfl)

/-! ## Cutting a text -/

section

variable {p : Char → Bool} {front rest : List Char} (all : ∀ c ∈ front, p c = true)
  (stop : ∀ c ∈ rest.head?, p c = false)
include all stop

theorem takeWhile_append_of_stop : (front ++ rest).takeWhile p = front := by
  rw [List.takeWhile_append_of_pos all]
  cases rest with
  | nil => exact List.append_nil front
  | cons c tail => rw [List.takeWhile_cons_of_neg (by simp [stop c rfl]), List.append_nil]

theorem dropWhile_append_of_stop : (front ++ rest).dropWhile p = rest := by
  rw [List.dropWhile_append_of_pos all]
  cases rest with
  | nil => rfl
  | cons c tail => exact List.dropWhile_cons_of_neg (by simp [stop c rfl])

end

end Conduit.Text
