import Conduit.Number.Layout
import Conduit.Proofs.Number.Numeral
import Conduit.Proofs.Number.Rounding

/-!
# Shortest digits

The shortest digits of a finite number write a decimal fraction in its cell. Such a fraction is
always found, since at the finest power of ten two neighbouring multiples cannot step over a cell.
-/

namespace Conduit.Number

open Binary64 Text

/-! ## The leading power of ten -/

theorem zpow_le_of_mul_le {p : ℕ} (hp : p ≠ 0) {j l a : ℤ} (exponent : j * p ≤ a)
    (h : (10 : ℚ) ^ a ≤ 2 ^ (l * p)) : (10 : ℚ) ^ j ≤ 2 ^ l := by
  rw [← pow_le_pow_iff_left₀ (by positivity) (by positivity) hp, ← zpow_natCast, ← zpow_natCast,
    ← zpow_mul, ← zpow_mul]
  exact (zpow_le_zpow_right₀ (by norm_num) exponent).trans h

/-- The estimate of a decimal exponent from a binary one is at most one too large. -/
theorem ten_pow_estimate_le {l : ℤ} (least : -20000 ≤ l) (most : l ≤ 20000) :
    (10 : ℚ) ^ (Int.fdiv (l * 30103) 100000 - 1) ≤ 2 ^ l := by
  have estimate : Int.fdiv (l * 30103) 100000 * 100000 ≤ l * 30103 := by
    have := Int.mul_fdiv_add_fmod (l * 30103) 100000
    have := Int.fmod_nonneg_of_pos (l * 30103) (by decide : (0 : ℤ) < 100000)
    omega
  generalize Int.fdiv (l * 30103) 100000 = k at *
  -- `2 ^ 196` is just above `10 ^ 59`, and `2 ^ 93` just below `10 ^ 28`.
  rcases le_or_gt 0 l with up | down
  · refine zpow_le_of_mul_le (p := 196) (a := 59 * l) (by decide) (by push_cast; omega) ?_
    rw [mul_comm l, zpow_mul, zpow_mul]
    exact zpow_le_zpow_left₀ up (by positivity) (by norm_num)
  · refine zpow_le_of_mul_le (p := 93) (a := 28 * l) (by decide) (by push_cast; omega) ?_
    have inverse : ((2 : ℚ) ^ (93 : ℤ)) ^ (-l) ≤ (10 ^ (28 : ℤ)) ^ (-l) :=
      zpow_le_zpow_left₀ (by omega) (by positivity) (by norm_num)
    have := inv_anti₀ (by positivity) inverse
    rw [← zpow_neg, ← zpow_neg, neg_neg] at this
    rw [zpow_mul, mul_comm l, zpow_mul]
    exact this

theorem log10Ratio_le {num den : ℕ} (hn : 0 < num) (hd : 0 < den)
    (least : -20000 ≤ log2Ratio num den) (most : log2Ratio num den ≤ 20000) :
    (10 : ℚ) ^ log10Ratio num den ≤ num / den := by
  have estimate := (ten_pow_estimate_le least most).trans (log2Ratio_spec hn hd).1
  unfold log10Ratio
  dsimp only
  split
  · next above => exact_mod_cast (mul_pow_le_iff (by decide : 0 < 10) hd _).1 above
  · split
    · exact estimate
    · next under =>
      exact_mod_cast (mul_pow_le_iff (by decide : 0 < 10) hd _).1 (not_lt.1 under)

/-! ## Multiples in a cell -/

namespace Interval

variable {i : Interval} {tie : Tie} {quarter unit d : ℕ}

theorem holds_of_multiple? (h : i.multiple? tie quarter unit = some d) :
    i.holds quarter unit d = true := by
  unfold multiple? at h
  dsimp only at h
  split at h
  · next both =>
    obtain ⟨below, above⟩ := Bool.and_eq_true_iff.1 both
    split at h
    · cases h
      exact below
    · split at h
      · cases h
        exact above
      · cases tie
        · cases h
          rcases Nat.mod_two_eq_zero_or_one (i.middle * quarter / unit) with even | odd
          · rw [even, Nat.add_zero]
            exact below
          · rw [odd]
            exact above
        · cases h
          exact above
  · split at h
    · next below =>
      cases h
      exact below
    · split at h
      · next above =>
        cases h
        exact above
      · cases h

theorem isSome_multiple? (h : i.holds quarter unit (i.middle * quarter / unit) = true ∨
    i.holds quarter unit (i.middle * quarter / unit + 1) = true) :
    (i.multiple? tie quarter unit).isSome = true := by
  unfold multiple?
  dsimp only
  split
  · split
    · rfl
    · split
      · rfl
      · cases tie <;> rfl
  · next nor =>
    split
    · rfl
    · next below =>
      rw [if_pos (h.resolve_left below)]
      rfl

end Interval

variable {x : Binary64}

/-- Multiples of powers of two and of ten over one denominator. -/
theorem exists_denominator (q e : ℤ) : ∃ D : ℚ, 0 < D ∧
    (∀ a : ℕ, ((a * (Nat.pow 2 q.toNat * Nat.pow 10 (-e).toNat) : ℕ) : ℚ) = a * 2 ^ q * D) ∧
    ∀ d : ℕ, ((d * (Nat.pow 2 (-q).toNat * Nat.pow 10 e.toNat) : ℕ) : ℚ) = d * 10 ^ e * D := by
  have two := pow_toNat_div (by decide : 0 < 2) q
  have ten := pow_toNat_div (by decide : 0 < 10) e
  have pos_two : (0 : ℚ) < Nat.pow 2 (-q).toNat := by
    exact_mod_cast pow_pos_nat (by decide : 0 < 2) _
  have pos_ten : (0 : ℚ) < Nat.pow 10 (-e).toNat := by
    exact_mod_cast pow_pos_nat (by decide : 0 < 10) _
  rw [div_eq_iff pos_two.ne'] at two
  rw [div_eq_iff pos_ten.ne'] at ten
  refine ⟨Nat.pow 2 (-q).toNat * Nat.pow 10 (-e).toNat, mul_pos pos_two pos_ten, ?_, ?_⟩
  · intro a
    rw [Nat.cast_mul, Nat.cast_mul, two]
    push_cast
    ring
  · intro d
    rw [Nat.cast_mul, Nat.cast_mul, ten]
    push_cast
    ring

/-- The multiples in the interval are the decimal fractions in the cell. -/
theorem holds_iff (x : Binary64) (d : ℕ) (e : ℤ) :
    (Interval.around x).holds (Nat.pow 2 (x.scale - 2).toNat * Nat.pow 10 (-e).toNat)
      (Nat.pow 2 (-(x.scale - 2)).toNat * Nat.pow 10 e.toNat) d = true ↔
      x.Covers (d * 10 ^ e) := by
  obtain ⟨D, pos, quarters, units⟩ := exists_denominator (x.scale - 2) e
  unfold Interval.holds Covers
  dsimp only
  split
  · rw [Bool.and_eq_true, decide_eq_true_iff, decide_eq_true_iff, ← @Nat.cast_le ℚ,
      ← @Nat.cast_le ℚ, quarters, quarters, units, mul_le_mul_iff_of_pos_right pos,
      mul_le_mul_iff_of_pos_right pos]
  · rw [Bool.and_eq_true, decide_eq_true_iff, decide_eq_true_iff, ← @Nat.cast_lt ℚ,
      ← @Nat.cast_lt ℚ, quarters, quarters, units, mul_lt_mul_iff_of_pos_right pos,
      mul_lt_mul_iff_of_pos_right pos]

theorem div_bounds (x : Binary64) (e : ℤ) {d : ℕ}
    (h : (Interval.around x).middle * (Nat.pow 2 (x.scale - 2).toNat * Nat.pow 10 (-e).toNat) /
      (Nat.pow 2 (-(x.scale - 2)).toNat * Nat.pow 10 e.toNat) = d) :
    d * (10 : ℚ) ^ e ≤ x.size ∧ x.size < (d + 1 : ℕ) * 10 ^ e := by
  obtain ⟨D, pos, quarters, units⟩ := exists_denominator (x.scale - 2) e
  have middle := quarters (Interval.around x).middle
  have size : ((Interval.around x).middle : ℚ) * 2 ^ (x.scale - 2) = x.size := by
    unfold Interval.around Binary64.size
    rw [quarter]
    push_cast
    ring
  rw [size] at middle
  have unit : 0 < Nat.pow 2 (-(x.scale - 2)).toNat * Nat.pow 10 e.toNat :=
    Nat.mul_pos (pow_pos_nat (by decide) _) (pow_pos_nat (by decide) _)
  constructor
  · rw [← mul_le_mul_iff_of_pos_right pos, ← units, ← middle, Nat.cast_le, ← h]
    exact Nat.div_mul_le_self _ _
  · rw [← mul_lt_mul_iff_of_pos_right pos, ← units, ← middle, Nat.cast_lt, ← h, Nat.succ_mul]
    exact Nat.lt_div_mul_add unit

/-- Of two neighbouring multiples with the number between them one lies in its cell, if their unit is
fine enough. -/
theorem covers_or_covers {d : ℕ} {unit : ℚ} (pos : 0 < unit) (fine : unit * 10 ^ 16 ≤ x.size)
    (under : d * unit ≤ x.size) (past : x.size < (d + 1 : ℕ) * unit) :
    x.Covers (d * unit) ∨ x.Covers ((d + 1 : ℕ) * unit) := by
  have place := zpow_pos_two x.scale
  have half : (2 : ℚ) ^ x.scale = 2 * 2 ^ (x.scale - 1) := by rw [← zpow_succ_two, sub_add_cancel]
  have small : unit * 10 ^ 16 < 9007199254740992 * 2 ^ x.scale := by
    refine fine.trans_lt ?_
    unfold size
    have : (x.mantissa : ℚ) < 9007199254740992 := by exact_mod_cast mantissa_lt x
    gcongr
  by_cases near : x.size - x.gapBelow / 2 < d * unit
  · exact .inl (covers_iff.2 ⟨by positivity, near.le, by linarith, fun _ => ⟨near, by linarith⟩⟩)
  · right
    have far := not_lt.1 near
    have gap := gapBelow_pos x
    have next : ((d + 1 : ℕ) : ℚ) * unit = d * unit + unit := by
      push_cast
      ring
    have below : ((d + 1 : ℕ) : ℚ) * unit < x.size + 2 ^ x.scale / 2 := by
      rw [next]
      unfold gapBelow at far
      split at far
      · -- Where the gap is half a place the mantissa is the least one, so the unit is finer.
        next close =>
        have : unit * 10 ^ 16 ≤ 4503599627370496 * 2 ^ x.scale := by
          refine fine.trans ?_
          unfold size
          rw [(mantissa_of_isClose close).1]
          norm_num
        linarith
      · linarith
    exact covers_iff.2 ⟨by positivity, by linarith, below.le, fun _ => ⟨by linarith, below⟩⟩

/-! ## The shortest digits -/

def Digits.value (d : Digits) : ℚ := d.digits * 10 ^ d.exponent

@[simp]
theorem Digits.value_trimmed (fuel : ℕ) (d : Digits) : (d.trimmed fuel).value = d.value := by
  induction fuel generalizing d with
  | zero => rfl
  | succ fuel ih =>
    unfold trimmed
    split
    · next zero =>
      rw [ih]
      have : (d.digits : ℚ) = 10 * (d.digits / 10 : ℕ) := by
        exact_mod_cast (show d.digits = 10 * (d.digits / 10) by omega)
      unfold value
      rw [this, zpow_add_one₀ (by norm_num)]
      ring
    · rfl

section

variable (finite : x.isFinite = true) (pos : 0 < x.magnitude)
include finite pos

theorem size_bounds : (2 : ℚ) ^ (-1074 : ℤ) ≤ x.size ∧ x.size < 2 ^ (1024 : ℤ) := by
  have place := zpow_pos_two x.scale
  have least : (1 : ℚ) ≤ x.mantissa := by exact_mod_cast mantissa_pos pos
  have most : (x.mantissa : ℚ) < 2 ^ (53 : ℤ) := by exact_mod_cast mantissa_lt x
  unfold size
  constructor
  · calc (2 : ℚ) ^ (-1074 : ℤ) ≤ 1 * 2 ^ x.scale := by
          rw [one_mul]
          exact zpow_le_zpow_right₀ (by norm_num) (le_scale x)
      _ ≤ x.mantissa * 2 ^ x.scale := by gcongr
  · calc (x.mantissa : ℚ) * 2 ^ x.scale < 2 ^ (53 : ℤ) * 2 ^ x.scale := by gcongr
      _ = 2 ^ (53 + x.scale) := by rw [zpow_add₀ (by norm_num)]
      _ ≤ 2 ^ (1024 : ℤ) := by
        have := scale_le finite
        exact zpow_le_zpow_right₀ (by norm_num) (by omega)

/-- Even the cell of the least number keeps away from zero. -/
theorem Binary64.Covers.least {v : ℚ} (h : x.Covers v) : (2 : ℚ) ^ (-1075 : ℤ) ≤ v := by
  obtain ⟨-, low, -, -⟩ := covers_iff.1 h
  obtain ⟨least, -⟩ := size_bounds finite pos
  have place : (2 : ℚ) ^ x.scale ≤ x.size := by
    have : (1 : ℚ) ≤ x.mantissa := by exact_mod_cast mantissa_pos pos
    unfold size
    exact le_mul_of_one_le_left (zpow_pos_two _).le this
  have gap : x.gapBelow ≤ 2 ^ x.scale := by
    unfold gapBelow
    split
    · exact zpow_le_zpow_right₀ (by norm_num) (by omega)
    · exact le_rfl
  have half : (2 : ℚ) ^ (-1074 : ℤ) = 2 * 2 ^ (-1075 : ℤ) := by
    rw [← zpow_succ_two]
    norm_num
  linarith

theorem ten_pow_le_size : (10 : ℚ) ^ log10Ratio x.ratio.1 x.ratio.2 ≤ x.size := by
  have hd := ratio_pos x
  have hn : 0 < x.ratio.1 := Nat.mul_pos (mantissa_pos pos) (pow_pos_nat (by decide) _)
  obtain ⟨below, above⟩ := log2Ratio_spec hn hd
  obtain ⟨least, most⟩ := size_bounds finite pos
  rw [ratio_size] at below above
  have one_lt : (1 : ℚ) < 2 := by norm_num
  have low := (zpow_lt_zpow_iff_right₀ one_lt).1 (least.trans_lt above)
  have high := (zpow_lt_zpow_iff_right₀ one_lt).1 (below.trans_lt most)
  rw [← ratio_size]
  exact log10Ratio_le hn hd (by omega) (by omega)

theorem covers_shortest (tie : Tie) : x.Covers (shortest tie x).value := by
  unfold shortest
  extract_lets i q top attempt
  have found : ((List.range 17).findSome? attempt).isSome = true := by
    rw [List.findSome?_isSome_iff]
    refine ⟨16, by decide, ?_⟩
    have fine : (10 : ℚ) ^ (top - (16 : ℕ)) * 10 ^ 16 ≤ x.size := by
      rw [← zpow_natCast, ← zpow_add₀ (by norm_num), sub_add_cancel]
      exact ten_pow_le_size finite pos
    obtain ⟨under, past⟩ := div_bounds x (top - (16 : ℕ)) rfl
    unfold attempt
    rw [Option.isSome_map]
    refine Interval.isSome_multiple? ((covers_or_covers (by positivity) fine under past).imp ?_ ?_)
    · exact (holds_iff x _ _).2
    · exact (holds_iff x _ _).2
  obtain ⟨d, hd⟩ := Option.isSome_iff_exists.1 found
  rw [hd]
  dsimp only
  rw [Digits.value_trimmed]
  obtain ⟨n, -, hn⟩ := List.exists_of_findSome?_eq_some hd
  obtain ⟨m, hm, rfl⟩ := Option.map_eq_some_iff.1 hn
  exact (holds_iff x m _).1 (Interval.holds_of_multiple? hm)

end

/-! ## Reading digits back -/

theorem two_pow_le (n : ℕ) : (2 : ℚ) ^ (3 * n : ℤ) ≤ 10 ^ (n : ℤ) := by
  rw [zpow_mul, zpow_natCast, zpow_natCast]
  exact pow_le_pow_left₀ (by positivity) (by norm_num) n

theorem ofScientific_of_covers {digits : ℕ} {exponent : ℤ} (finite : x.isFinite = true)
    (pos : 0 < x.magnitude) (h : x.Covers (digits * 10 ^ exponent)) :
    ofScientific x.negative digits exponent = x := by
  have least := h.least finite pos
  have some : digits ≠ 0 := by
    rintro rfl
    rw [Nat.cast_zero, zero_mul] at least
    exact absurd least (not_le.2 (zpow_pos_two _))
  -- Numbers so large would be infinite.
  have notLarge : ¬exponent > 400 := by
    intro large
    have : (2 : ℚ) ^ (1024 : ℤ) ≤ digits * 10 ^ exponent :=
      calc (2 : ℚ) ^ (1024 : ℤ) ≤ 2 ^ (3 * (400 : ℕ) : ℤ) :=
            zpow_le_zpow_right₀ (by norm_num) (by norm_num)
        _ ≤ 10 ^ ((400 : ℕ) : ℤ) := two_pow_le 400
        _ ≤ 10 ^ exponent := zpow_le_zpow_right₀ (by norm_num) (by push_cast; omega)
        _ ≤ digits * 10 ^ exponent :=
            le_mul_of_one_le_left (by positivity) (by exact_mod_cast Nat.pos_of_ne_zero some)
    exact absurd (h.lt finite) (not_lt.2 this)
  -- Numbers so small would be less than half of the least one.
  have notSmall : ¬exponent < -400 - (digits.log2 : ℤ) := by
    intro small
    have bits : (digits : ℚ) ≤ 10 ^ ((digits.log2 + 1 : ℕ) : ℤ) := by
      have : digits ≤ 10 ^ (digits.log2 + 1) :=
        Nat.lt_log2_self.le.trans (Nat.pow_le_pow_left (by decide) _)
      exact_mod_cast this
    have : (digits : ℚ) * 10 ^ exponent < 2 ^ (-1075 : ℤ) :=
      calc (digits : ℚ) * 10 ^ exponent ≤ 10 ^ ((digits.log2 + 1 : ℕ) : ℤ) * 10 ^ exponent := by gcongr
        _ = 10 ^ (((digits.log2 + 1 : ℕ) : ℤ) + exponent) := by rw [zpow_add₀ (by norm_num)]
        _ ≤ 10 ^ (-((400 : ℕ) : ℤ)) := zpow_le_zpow_right₀ (by norm_num) (by push_cast; omega)
        _ ≤ 2 ^ (-(3 * (400 : ℕ) : ℤ)) := by
          rw [zpow_neg, zpow_neg]
          exact inv_anti₀ (by positivity) (two_pow_le 400)
        _ < 2 ^ (-1075 : ℤ) := zpow_lt_zpow_right₀ (by norm_num) (by norm_num)
    exact absurd least (not_le.2 this)
  have ratio : ((digits * Nat.pow 10 exponent.toNat : ℕ) : ℚ) / (Nat.pow 10 (-exponent).toNat : ℕ) =
      digits * 10 ^ exponent := by
    rw [Nat.cast_mul, mul_div_assoc, pow_toNat_div (by decide)]
    rfl
  unfold ofScientific
  rw [if_neg some, if_neg notLarge, if_neg notSmall]
  refine ofRatio_of_covers ?_ (pow_pos_nat (by decide) _) finite (by rwa [ratio])
  exact Nat.mul_pos (Nat.pos_of_ne_zero some) (pow_pos_nat (by decide) _)

/-! ## Digits in plain positions -/

theorem exists_numeral (negative : Bool) (digits : ℕ) (exponent : ℤ) :
    ∃ n : Numeral, n.negative = negative ∧
      n.unsigned = plainText false (Nat.toDigits 10 digits) exponent ∧
      (digitsValue (n.whole ++ n.fraction) : ℚ) * 10 ^ (-n.fraction.length : ℤ) =
        digits * 10 ^ exponent := by
  have plain : ∀ c ∈ Nat.toDigits 10 digits, isDigit c = true := fun c => isDigit_of_mem_toDigits
  have zeros : ∀ k, ∀ c ∈ List.replicate k '0', isDigit c = true := by
    intro k c hc
    rw [List.eq_of_mem_replicate hc]
    rfl
  have nonempty : Nat.toDigits 10 digits ≠ [] := Nat.toDigits_ne_nil
  have value := digitsValue_toDigits digits
  unfold plainText
  dsimp only
  generalize Nat.toDigits 10 digits = ds at *
  split
  · next whole =>
    -- Zeros follow the digits.
    refine ⟨⟨negative, ds ++ List.replicate exponent.toNat '0', [], ?_, ?_⟩, rfl, ?_, ?_⟩
    · intro c hc
      rw [List.append_nil] at hc
      exact (List.mem_append.1 hc).elim (plain c) (zeros _ c)
    · exact fun h => nonempty (List.append_eq_nil_iff.1 h).1
    · simp [Numeral.unsigned]
    · obtain ⟨k, rfl⟩ := Int.eq_ofNat_of_zero_le whole
      simp [digitsValue_append_zeros, value]
  · split
    · next parted =>
      -- The point stands among the digits.
      refine ⟨⟨negative, ds.take (ds.length + exponent).toNat, ds.drop (ds.length + exponent).toNat,
        ?_, ?_⟩, rfl, ?_, ?_⟩
      · rw [List.take_append_drop]
        exact plain
      · rw [Ne, List.take_eq_nil_iff, not_or]
        exact ⟨by omega, nonempty⟩
      · unfold Numeral.unsigned
        rw [if_neg]
        rw [List.drop_eq_nil_iff]
        omega
      · dsimp only
        rw [List.take_append_drop, value, List.length_drop]
        congr 2
        omega
    · next small =>
      -- Zeros come before the digits.
      refine ⟨⟨negative, ['0'], List.replicate (-(ds.length + exponent)).toNat '0' ++ ds, ?_, ?_⟩,
        rfl, ?_, ?_⟩
      · intro c hc
        rcases List.mem_append.1 hc with hc | hc
        · exact zeros 1 c hc
        · exact (List.mem_append.1 hc).elim (zeros _ c) (plain c)
      · exact List.cons_ne_nil _ _
      · unfold Numeral.unsigned
        rw [if_neg]
        · rfl
        · exact fun h => nonempty (List.append_eq_nil_iff.1 h).2
      · dsimp only
        rw [← List.append_assoc, show ['0'] = List.replicate 1 '0' from rfl,
          List.replicate_append_replicate, digitsValue_zeros_append, value, List.length_append,
          List.length_replicate]
        congr 2
        push_cast
        omega

theorem exists_positional (finite : x.isFinite = true) :
    ∃ n : Numeral, n.text = (Layout.positional.render x).toList ∧ n.value = x := by
  unfold Layout.render
  rw [notNaN_of_isFinite finite, notInfinite_of_isFinite finite]
  simp only [Bool.false_eq_true, if_false, String.toList_ofList]
  rcases Nat.eq_zero_or_pos x.magnitude with zero | pos
  · refine ⟨⟨x.negative, ['0'], [], ?_, List.cons_ne_nil _ _⟩, ?_, ?_⟩
    · intro c hc
      rw [List.mem_singleton.1 hc]
      rfl
    · have : x.isZero = true := by
        unfold isZero
        rw [zero]
        rfl
      unfold Layout.absolute
      rw [if_pos this]
      unfold Numeral.text Numeral.unsigned
      cases x.negative <;> rfl
    · exact eq_of_magnitude rfl zero.symm
  · have notZero : x.isZero = false := by
      unfold isZero
      rw [beq_eq_false_iff_ne]
      omega
    obtain ⟨n, sign, text, value⟩ :=
      exists_numeral x.negative (shortest .away x).digits (shortest .away x).exponent
    refine ⟨n, ?_, ?_⟩
    · unfold Numeral.text Layout.absolute
      rw [sign, text, notZero]
      cases x.negative <;> rfl
    · unfold Numeral.value
      rw [sign]
      refine ofScientific_of_covers finite pos ?_
      rw [value]
      exact covers_shortest finite pos .away

theorem readDecimal?_render (finite : x.isFinite = true) :
    readDecimal? (Layout.positional.render x).toList = some x := by
  obtain ⟨n, text, value⟩ := exists_positional finite
  rw [← text, n.readDecimal?_text, value]

/-! ## Integers as texts -/

theorem toList_toString (n : ℤ) : (toString n).toList =
    if n < 0 then '-' :: Nat.toDigits 10 n.natAbs else Nat.toDigits 10 n.natAbs := by
  rw [Int.toString_eq_repr, Int.repr_eq_if]
  split
  · next nonneg =>
    rw [if_neg (by omega), Nat.repr_eq_ofList_toDigits, String.toList_ofList,
      show n.toNat = n.natAbs by omega]
  · next negative =>
    rw [if_pos (by omega), Nat.repr_eq_ofList_toDigits, show (-n).toNat = n.natAbs by omega,
      String.toList_append]
    change '-' :: (String.ofList _).toList = _
    rw [String.toList_ofList]

theorem not_minus_cons_toDigits (ds : List Char) (n : ℕ) : '-' :: ds ≠ Nat.toDigits 10 n := by
  intro h
  have := isDigit_of_mem_toDigits (n := n) (h ▸ List.mem_cons_self)
  cases this

theorem toString_injective {m n : ℤ} (h : toString m = toString n) : m = n := by
  have digits : ∀ a b : ℕ, Nat.toDigits 10 a = Nat.toDigits 10 b → a = b := by
    intro a b hab
    rw [← digitsValue_toDigits a, hab, digitsValue_toDigits]
  have text := congrArg String.toList h
  rw [toList_toString, toList_toString] at text
  split at text <;> split at text
  · have := digits _ _ (List.cons.inj text).2
    omega
  · exact absurd text (not_minus_cons_toDigits _ _)
  · exact absurd text.symm (not_minus_cons_toDigits _ _)
  · have := digits _ _ text
    omega

theorem ofScientific_zero (negative : Bool) (digits : ℕ) :
    ofScientific negative digits 0 = ofRatio negative digits 1 := by
  unfold ofScientific
  by_cases none : digits = 0
  · rw [if_pos none, none]
    rfl
  · rw [if_neg none, if_neg (by decide), if_neg (by omega)]
    congr 1
    exact Nat.mul_one digits

theorem exists_integer (n : ℤ) :
    ∃ k : Numeral, k.text = (toString n).toList ∧ k.value = .ofInt n := by
  refine ⟨⟨decide (n < 0), Nat.toDigits 10 n.natAbs, [], ?_, Nat.toDigits_ne_nil⟩, ?_, ?_⟩
  · intro c hc
    rw [List.append_nil] at hc
    exact isDigit_of_mem_toDigits hc
  · rw [toList_toString]
    unfold Numeral.text Numeral.unsigned
    simp only [decide_eq_true_eq, if_true, List.append_nil]
  · unfold Numeral.value
    dsimp only
    simp only [List.append_nil, digitsValue_toDigits]
    exact ofScientific_zero _ _

theorem readDecimal?_toString (n : ℤ) : readDecimal? (toString n).toList = some (.ofInt n) := by
  obtain ⟨k, text, value⟩ := exists_integer n
  rw [← text, k.readDecimal?_text, value]

end Conduit.Number
