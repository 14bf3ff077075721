import Conduit.Proofs.Number.Exact
import Mathlib.Tactic.FieldSimp

/-!
# Rounding

Rounding a ratio gives the number whose cell holds it, and so the nearest one, a tie going to the
even mantissa. An integer keeps its value exactly when it is a multiple of a power of two by a
factor of at most fifty-three bits.
-/

namespace Conduit.Number

open Binary64

/-! ## Ratios and powers -/

theorem pow_pos_nat {b : ℕ} (pos : 0 < b) (n : ℕ) : 0 < Nat.pow b n := Nat.pow_pos pos

theorem pow_toNat_div {b : ℕ} (pos : 0 < b) (k : ℤ) :
    ((Nat.pow b k.toNat : ℕ) : ℚ) / (Nat.pow b (-k).toNat : ℕ) = (b : ℚ) ^ k := by
  have base : (b : ℚ) ≠ 0 := by positivity
  rw [Nat.pow_eq, Nat.pow_eq, Nat.cast_pow, Nat.cast_pow, ← zpow_natCast, ← zpow_natCast,
    ← zpow_sub₀ base]
  congr 1
  omega

/-- Comparing a ratio with a power without leaving the natural numbers. -/
theorem mul_pow_lt_iff {b num den : ℕ} (base : 0 < b) (pos : 0 < den) (k : ℤ) :
    num * Nat.pow b (-k).toNat < den * Nat.pow b k.toNat ↔ (num : ℚ) / den < (b : ℚ) ^ k := by
  have := pow_pos_nat base (-k).toNat
  rw [← pow_toNat_div base, div_lt_div_iff₀ (by positivity) (by positivity), mul_comm den]
  exact_mod_cast Iff.rfl

theorem mul_pow_le_iff {b num den : ℕ} (base : 0 < b) (pos : 0 < den) (k : ℤ) :
    den * Nat.pow b k.toNat ≤ num * Nat.pow b (-k).toNat ↔ (b : ℚ) ^ k ≤ (num : ℚ) / den := by
  rw [← not_lt, mul_pow_lt_iff base pos, not_lt]

theorem div_pow_toNat {b num den : ℕ} (base : 0 < b) (e : ℤ) :
    ((num * Nat.pow b (-e).toNat : ℕ) : ℚ) / (den * Nat.pow b e.toNat : ℕ) =
      num / den / (b : ℚ) ^ e := by
  rw [← pow_toNat_div base, div_div_div_eq]
  push_cast
  rfl

theorem log2Ratio_spec {num den : ℕ} (hn : 0 < num) (hd : 0 < den) :
    (2 : ℚ) ^ log2Ratio num den ≤ num / den ∧ (num : ℚ) / den < 2 ^ (log2Ratio num den + 1) := by
  have bits : ∀ n : ℕ, 0 < n → (2 : ℚ) ^ (n.log2 : ℤ) ≤ n ∧ (n : ℚ) < 2 ^ (n.log2 + 1 : ℤ) := by
    intro n pos
    refine ⟨?_, ?_⟩
    · exact_mod_cast Nat.log2_self_le pos.ne'
    · exact_mod_cast Nat.lt_log2_self
  obtain ⟨num_ge, num_lt⟩ := bits num hn
  obtain ⟨den_ge, den_lt⟩ := bits den hd
  have hd' : (0 : ℚ) < den := by exact_mod_cast hd
  have below : (2 : ℚ) ^ ((num.log2 : ℤ) - den.log2 - 1) ≤ num / den := by
    rw [le_div_iff₀ hd']
    calc (2 : ℚ) ^ ((num.log2 : ℤ) - den.log2 - 1) * den
        ≤ 2 ^ ((num.log2 : ℤ) - den.log2 - 1) * 2 ^ (den.log2 + 1 : ℤ) := by gcongr
      _ = 2 ^ (num.log2 : ℤ) := by
        rw [← zpow_add₀ (by norm_num)]
        congr 1
        omega
      _ ≤ num := num_ge
  have above : (num : ℚ) / den < 2 ^ ((num.log2 : ℤ) - den.log2 + 1) := by
    rw [div_lt_iff₀ hd']
    calc (num : ℚ) < 2 ^ (num.log2 + 1 : ℤ) := num_lt
      _ = 2 ^ ((num.log2 : ℤ) - den.log2 + 1) * 2 ^ (den.log2 : ℤ) := by
        rw [← zpow_add₀ (by norm_num)]
        congr 1
        omega
      _ ≤ 2 ^ ((num.log2 : ℤ) - den.log2 + 1) * den := by gcongr
  -- A comparison of integers tells which of the two candidates it is.
  have test : num * Nat.pow 2 (-((num.log2 : ℤ) - den.log2)).toNat <
        den * Nat.pow 2 ((num.log2 : ℤ) - den.log2).toNat ↔
      (num : ℚ) / den < (2 : ℕ) ^ ((num.log2 : ℤ) - den.log2) :=
    mul_pow_lt_iff (by decide) hd _
  unfold log2Ratio
  dsimp only
  split
  · next less => exact ⟨below, by rw [sub_add_cancel]; exact test.1 less⟩
  · next least => exact ⟨not_lt.1 fun less => least (test.2 less), above⟩

theorem roundHalfEven_spec (num : ℕ) {den : ℕ} (pos : 0 < den) :
    |(num : ℚ) / den - roundHalfEven num den| ≤ 1 / 2 ∧
      (roundHalfEven num den % 2 = 1 → |(num : ℚ) / den - roundHalfEven num den| < 1 / 2) := by
  have hd : (0 : ℚ) < den := by exact_mod_cast pos
  have parts : (num : ℚ) / den = (num / den : ℕ) + (num % den : ℕ) / den := by
    rw [add_div' _ _ _ hd.ne']
    congr 1
    exact_mod_cast (Nat.div_add_mod' num den).symm
  have least : (0 : ℚ) ≤ (num % den : ℕ) / den := by positivity
  have most : ((num % den : ℕ) : ℚ) / den < 1 := by
    rw [div_lt_one hd]
    exact_mod_cast Nat.mod_lt num pos
  have under : 2 * (num % den) < den ↔ ((num % den : ℕ) : ℚ) / den < 1 / 2 := by
    rw [div_lt_div_iff₀ hd (by norm_num), mul_comm, one_mul]
    exact_mod_cast Iff.rfl
  have more : den < 2 * (num % den) ↔ 1 / 2 < ((num % den : ℕ) : ℚ) / den := by
    rw [div_lt_div_iff₀ (by norm_num) hd, mul_comm _ (2 : ℚ), one_mul]
    exact_mod_cast Iff.rfl
  rw [parts]
  unfold roundHalfEven
  dsimp only
  -- What is left is about the quotient and a fraction between zero and one.
  generalize num / den = q, ((num % den : ℕ) : ℚ) / den = f at *
  rcases lt_trichotomy f (1 / 2) with below | half | above
  · rw [if_pos (under.2 below)]
    have close : |(q : ℚ) + f - q| < 1 / 2 := by
      rw [abs_lt]
      constructor <;> linarith
    exact ⟨close.le, fun _ => close⟩
  · rw [if_neg (fun h => (under.1 h).ne half), if_neg (fun h => (more.1 h).ne' half)]
    rcases Nat.mod_two_eq_zero_or_one q with even | odd
    · rw [even, add_zero]
      refine ⟨?_, by omega⟩
      rw [abs_le]
      constructor <;> linarith
    · rw [odd]
      refine ⟨?_, by omega⟩
      rw [abs_le]
      push_cast
      constructor <;> linarith
  · rw [if_neg (fun h => (under.1 h).not_gt above), if_pos (more.2 above)]
    have close : |(q : ℚ) + f - (q + 1 : ℕ)| < 1 / 2 := by
      rw [abs_lt]
      push_cast
      constructor <;> linarith
    exact ⟨close.le, fun _ => close⟩

/-! ## The rounded ratio -/

namespace Binary64

variable {x : Binary64} {num den : ℕ}

def place (num den : ℕ) : ℤ := max (log2Ratio num den - 52) (-1074)

/-- The places that a rounded ratio counts. -/
def places (num den : ℕ) : ℕ :=
  roundHalfEven (num * Nat.pow 2 (-place num den).toNat) (den * Nat.pow 2 (place num den).toNat)

theorem places_spec (num : ℕ) (hd : 0 < den) :
    |(num : ℚ) / den - places num den * 2 ^ place num den| ≤ 2 ^ place num den / 2 ∧
      (places num den % 2 = 1 →
        |(num : ℚ) / den - places num den * 2 ^ place num den| < 2 ^ place num den / 2) := by
  have unit := zpow_pos_two (place num den)
  have spec := roundHalfEven_spec (num * Nat.pow 2 (-place num den).toNat)
    (Nat.mul_pos hd (pow_pos_nat (by decide : 0 < 2) (place num den).toNat))
  rw [div_pow_toNat (by decide)] at spec
  change |(num : ℚ) / den / 2 ^ place num den - places num den| ≤ 1 / 2 ∧
    (places num den % 2 = 1 → |(num : ℚ) / den / 2 ^ place num den - places num den| < 1 / 2) at spec
  rw [div_sub' unit.ne', abs_div, abs_of_pos unit, div_le_iff₀ unit, div_lt_iff₀ unit,
    mul_comm (2 ^ place num den : ℚ)] at spec
  rw [div_eq_inv_mul (2 ^ place num den : ℚ), ← one_div]
  exact spec

theorem le_place (num den : ℕ) : -1074 ≤ place num den := le_max_right _ _

theorem ratio_bounds (hn : 0 < num) (hd : 0 < den) :
    (num : ℚ) / den < 9007199254740992 * 2 ^ place num den ∧
      (-1074 < place num den → 4503599627370496 * 2 ^ place num den ≤ (num : ℚ) / den) := by
  obtain ⟨least, most⟩ := log2Ratio_spec hn hd
  have fifty : (9007199254740992 : ℚ) = 2 ^ (53 : ℤ) := by norm_num
  have fifty' : (4503599627370496 : ℚ) = 2 ^ (52 : ℤ) := by norm_num
  rw [fifty, fifty', ← zpow_add₀ (by norm_num), ← zpow_add₀ (by norm_num)]
  refine ⟨most.trans_le ?_, fun normal => le_trans ?_ least⟩
  · refine zpow_le_zpow_right₀ (by norm_num) ?_
    have : log2Ratio num den - 52 ≤ place num den := le_max_left _ _
    omega
  · refine zpow_le_zpow_right₀ (by norm_num) ?_
    unfold place at *
    omega

theorem places_bounds (hn : 0 < num) (hd : 0 < den) :
    places num den ≤ 9007199254740992 ∧
      (-1074 < place num den → 4503599627370496 ≤ places num den) := by
  obtain ⟨most, least⟩ := ratio_bounds hn hd
  obtain ⟨below, above⟩ := abs_le.1 (places_spec num hd).1
  have unit := zpow_pos_two (place num den)
  constructor
  · by_contra more
    have : (9007199254740992 : ℚ) + 1 ≤ places num den := by
      exact_mod_cast (show 9007199254740992 + 1 ≤ places num den by omega)
    nlinarith
  · intro normal
    by_contra less
    have : (places num den : ℚ) + 1 ≤ 4503599627370496 := by
      exact_mod_cast (show places num den + 1 ≤ 4503599627370496 by omega)
    nlinarith [least normal]

theorem place_le {top : ℤ} (hn : 0 < num) (hd : 0 < den)
    (lt : (num : ℚ) / den < 2 ^ (top + 53)) (bottom : -1074 ≤ top) : place num den ≤ top := by
  obtain ⟨least, -⟩ := log2Ratio_spec hn hd
  have : log2Ratio num den < top + 53 :=
    (zpow_lt_zpow_iff_right₀ (by norm_num : (1 : ℚ) < 2)).1 (least.trans_lt lt)
  unfold place
  omega

@[simp]
theorem negative_clamped (negative : Bool) (m : ℕ) : (clamped negative m).negative = negative := rfl

@[simp]
theorem negative_ofRatio (negative : Bool) (num den : ℕ) :
    (ofRatio negative num den).negative = negative := by
  unfold ofRatio zero
  split <;> rw [negative_clamped]

theorem magnitude_ofRatio (negative : Bool) (hn : 0 < num) (hd : 0 < den)
    (lt : (num : ℚ) / den < 2 ^ (1024 : ℤ)) :
    ((ofRatio negative num den).magnitude : ℤ) =
      (place num den + 1074) * 4503599627370496 + places num den := by
  have top : place num den ≤ 971 := place_le hn hd lt (by decide)
  have bottom := le_place num den
  obtain ⟨most, -⟩ := places_bounds hn hd
  have : (ofRatio negative num den).magnitude =
      min ((place num den + 1074).toNat * Nat.pow 2 52 + places num den) infinite := by
    unfold ofRatio
    rw [if_neg hn.ne']
    rfl
  have bound : infinite = 2047 * 4503599627370496 := rfl
  rw [this, pow_fraction, bound]
  omega

/-- A rounded ratio that is not too large has the counted places for its mantissa, a full count being
one more place. -/
theorem parts_ofRatio (negative : Bool) (hn : 0 < num) (hd : 0 < den)
    (lt : (num : ℚ) / den < 2 ^ (1024 : ℤ)) :
    ((ofRatio negative num den).mantissa = places num den ∧
        (ofRatio negative num den).scale = place num den) ∨
      places num den = 9007199254740992 ∧
        (ofRatio negative num den).mantissa = 4503599627370496 ∧
        (ofRatio negative num den).scale = place num den + 1 := by
  have count := magnitude_ofRatio negative hn hd lt
  have bottom := le_place num den
  obtain ⟨most, least⟩ := places_bounds hn hd
  unfold mantissa scale
  rw [pow_fraction]
  generalize (ofRatio negative num den).magnitude = m at count
  split <;> omega

theorem size_ofRatio (negative : Bool) (hn : 0 < num) (hd : 0 < den)
    (lt : (num : ℚ) / den < 2 ^ (1024 : ℤ)) :
    (ofRatio negative num den).size = places num den * 2 ^ place num den := by
  unfold size
  rcases parts_ofRatio negative hn hd lt with ⟨m, s⟩ | ⟨full, m, s⟩
  · rw [m, s]
  · rw [m, s, full, zpow_succ_two]
    push_cast
    ring

theorem covers_ofRatio (negative : Bool) (hn : 0 < num) (hd : 0 < den)
    (lt : (num : ℚ) / den < 2 ^ (1024 : ℤ)) : (ofRatio negative num den).Covers (num / den) := by
  have bottom := le_place num den
  have count := magnitude_ofRatio negative hn hd lt
  have unit := zpow_pos_two (place num den)
  obtain ⟨most, least⟩ := ratio_bounds hn hd
  obtain ⟨close, odd⟩ := places_spec num hd
  obtain ⟨below, above⟩ := abs_le.1 close
  rw [covers_iff, size_ofRatio negative hn hd lt]
  refine ⟨by positivity, ?_⟩
  rcases parts_ofRatio negative hn hd lt with ⟨m, s⟩ | ⟨full, m, s⟩
  · rw [m, s]
    by_cases h : (ofRatio negative num den).IsClose
    · -- Nothing below the least mantissa of a place rounds up to it.
      have := mantissa_of_isClose h
      rw [m, s] at this
      rw [this.1] at below above ⊢
      refine ⟨?_, by linarith, by omega⟩
      unfold gapBelow
      have gap := zpow_pos_two (place num den - 1)
      rw [if_pos h, s]
      have := least this.2
      push_cast
      linarith
    · unfold gapBelow
      rw [if_neg h, s]
      refine ⟨by linarith, by linarith, fun hodd => ?_⟩
      obtain ⟨lower, upper⟩ := abs_lt.1 (odd hodd)
      constructor <;> linarith
  · have gap : 2 ^ place num den ≤ (ofRatio negative num den).gapBelow := by
      unfold gapBelow
      rw [s, add_sub_cancel_right, zpow_succ_two]
      split <;> linarith
    rw [full] at below above
    rw [m, s, full, zpow_succ_two]
    push_cast at below above ⊢
    exact ⟨by linarith, by linarith, nofun⟩

theorem isFinite_iff : x.isFinite = true ↔ x.magnitude < infinite := decide_eq_true_iff

theorem Covers.lt {v : ℚ} (h : x.Covers v) (finite : x.isFinite = true) : v < 2 ^ (1024 : ℤ) := by
  let top : Binary64 := ⟨false, infinite, by decide⟩
  have size : top.size = 2 ^ (1024 : ℤ) := by
    have m : top.mantissa = 4503599627370496 := by decide +kernel
    have s : top.scale = 972 := by decide +kernel
    unfold Binary64.size
    rw [m, s, show ((4503599627370496 : ℕ) : ℚ) = 2 ^ (52 : ℤ) by norm_num,
      ← zpow_add₀ (by norm_num)]
    rfl
  obtain ⟨-, -, most, -⟩ := covers_iff.1 h
  have := size_add_le (x := x) (z := top) (isFinite_iff.1 finite)
  have unit := zpow_pos_two x.scale
  rw [size] at this
  linarith

theorem ofRatio_of_covers (hn : 0 < num) (hd : 0 < den) (finite : x.isFinite = true)
    (h : x.Covers (num / den)) : ofRatio x.negative num den = x := by
  have same := (covers_ofRatio x.negative hn hd (h.lt finite)).magnitude_eq h
  exact eq_of_magnitude (negative_ofRatio _ _ _) same

/-! ## The ratio of a number -/

theorem ratio_pos (x : Binary64) : 0 < x.ratio.2 := pow_pos_nat (by decide) _

theorem ratio_size (x : Binary64) : (x.ratio.1 : ℚ) / x.ratio.2 = x.size := by
  have := pow_toNat_div (by decide : 0 < 2) x.scale
  unfold ratio size
  dsimp only
  rw [Nat.cast_mul, mul_div_assoc, this]
  rfl

/-! ## Integers -/

/-- The finite number is as near to the rational number as any other, and even if one of another
value is as near. -/
structure IsNearest (x : Binary64) (v : ℚ) : Prop where
  finite : x.isFinite = true
  nearest : ∀ z : Binary64, z.isFinite = true → |x.value - v| ≤ |z.value - v|
  even : ∀ z : Binary64, z.isFinite = true → |z.value - v| = |x.value - v| → z.value ≠ x.value →
    x.mantissa % 2 = 0

/-- The integer is a multiple of a power of two by at most fifty-three bits. -/
def IsExact (n : ℤ) : Prop := ∃ (m : ℤ) (k : ℕ), m.natAbs ≤ 2 ^ 53 ∧ n = m * 2 ^ k

variable {n : ℤ}

theorem IsExact.natAbs_le (h : IsExact n) (odd : n % 2 = 1) : n.natAbs ≤ 2 ^ 53 := by
  obtain ⟨m, k, small, rfl⟩ := h
  cases k with
  | zero =>
    rw [pow_zero, mul_one]
    exact small
  | succ k =>
    rw [pow_succ, ← mul_assoc] at odd
    omega

theorem negative_ofInt (n : ℤ) : (ofInt n).negative = decide (n < 0) := negative_ofRatio _ _ _

theorem value_zero (negative : Bool) : (zero negative).value = 0 := by
  have : (zero negative).mantissa = 0 := by cases negative <;> decide
  unfold value size
  rw [this]
  simp

theorem value_ofInt_eq (n : ℤ) :
    (ofInt n).value = if n < 0 then -(ofInt n).size else (ofInt n).size := by
  unfold value
  rw [negative_ofInt]
  simp only [decide_eq_true_eq]

theorem cast_abs (n : ℤ) : (n : ℚ) = if n < 0 then -(n.natAbs : ℚ) else n.natAbs := by
  have h : ((n.natAbs : ℕ) : ℚ) = ((|n| : ℤ) : ℚ) := by rw [← Int.natCast_natAbs]; rfl
  rw [h]
  split
  · next neg => rw [abs_of_neg neg]; push_cast; ring
  · next nonneg => rw [abs_of_nonneg (not_lt.1 nonneg)]

theorem abs_size_sub_le (z : Binary64) (n : ℤ) : |z.size - n.natAbs| ≤ |z.value - n| := by
  have size := size_nonneg z
  have nat : (0 : ℚ) ≤ n.natAbs := Nat.cast_nonneg _
  rw [cast_abs n]
  unfold value
  split <;> split
  · rw [← abs_neg]
    apply le_of_eq
    congr 1
    ring
  · rw [abs_sub_comm, ← neg_add', abs_neg, abs_of_nonneg (add_nonneg size nat), abs_le]
    constructor <;> linarith
  · rw [sub_neg_eq_add, abs_of_nonneg (add_nonneg size nat), abs_le]
    constructor <;> linarith
  · exact le_rfl

theorem abs_value_ofInt (n : ℤ) : |(ofInt n).value - n| = |(ofInt n).size - n.natAbs| := by
  rw [value_ofInt_eq, cast_abs n]
  split
  · rw [← abs_neg]
    congr 1
    ring
  · rfl

/-- One magnitude with two signs is twice as near to zero only. -/
theorem value_eq_of_tie {z : Binary64} {v : ℚ} (same : z.magnitude = x.magnitude) (nonzero : v ≠ 0)
    (tie : |z.value - v| = |x.value - v|) : z.value = x.value := by
  have squares : z.value ^ 2 = x.value ^ 2 := by
    unfold value
    rw [size_congr same]
    split <;> split <;> simp only [neg_sq]
  rw [← sq_eq_sq_iff_abs_eq_abs] at tie
  have : 2 * v * (z.value - x.value) = 0 := by linarith
  have := (mul_eq_zero.1 this).resolve_left (mul_ne_zero (by norm_num) nonzero)
  linarith

theorem natAbs_div_one (n : ℤ) : (n.natAbs : ℚ) / (1 : ℕ) = n.natAbs := by
  rw [Nat.cast_one, div_one]

theorem isExact_of_size (nonzero : n ≠ 0) (h : x.size = n.natAbs) : IsExact n := by
  have bits := mantissa_lt x
  unfold size at h
  rcases le_or_gt 0 x.scale with up | down
  · obtain ⟨k, hk⟩ := Int.eq_ofNat_of_zero_le up
    rw [hk, zpow_natCast] at h
    have whole : n.natAbs = x.mantissa * 2 ^ k := by exact_mod_cast h.symm
    refine ⟨n.sign * x.mantissa, k, ?_, ?_⟩
    · rw [Int.natAbs_mul, Int.natAbs_sign_of_ne_zero nonzero, Int.natAbs_natCast]
      omega
    · conv_lhs => rw [← Int.sign_mul_natAbs n, whole]
      push_cast
      ring
  · refine ⟨n, 0, ?_, by rw [pow_zero, mul_one]⟩
    have unit : (2 : ℚ) ^ x.scale ≤ 1 := zpow_le_one_of_nonpos₀ (by norm_num) down.le
    have : (n.natAbs : ℚ) ≤ x.mantissa := by
      rw [← h]
      exact mul_le_of_le_one_right (Nat.cast_nonneg _) unit
    have : n.natAbs ≤ x.mantissa := by exact_mod_cast this
    omega

/-- Integers of about the size of machine words are far from infinity. -/
theorem natAbs_lt_of_le (h : n.natAbs ≤ 2 ^ 65) : (n.natAbs : ℚ) < 2 ^ (1023 : ℤ) :=
  calc (n.natAbs : ℚ) ≤ ((2 ^ 65 : ℕ) : ℚ) := by exact_mod_cast h
    _ = 2 ^ (65 : ℤ) := by norm_num
    _ < 2 ^ (1023 : ℤ) := zpow_lt_zpow_right₀ (by norm_num) (by norm_num)

theorem ofInt_zero : (ofInt 0).value = 0 := value_zero _

theorem places_eq {t : ℕ} (hd : 0 < den) (whole : (num : ℚ) / den = t * 2 ^ place num den) :
    places num den = t := by
  have unit := zpow_pos_two (place num den)
  have close := (places_spec num hd).1
  rw [whole, ← sub_mul, abs_mul, abs_of_pos unit] at close
  have half : |(t : ℚ) - places num den| ≤ 1 / 2 := by
    rw [← mul_le_mul_iff_of_pos_right unit]
    linarith
  obtain ⟨below, above⟩ := abs_le.1 half
  have lower : (t : ℚ) < places num den + 1 := by linarith
  have upper : (places num den : ℚ) < t + 1 := by linarith
  have lower : t < places num den + 1 := by exact_mod_cast lower
  have upper : places num den < t + 1 := by exact_mod_cast upper
  omega

theorem exists_places {m k : ℕ} (pos : 0 < m) (small : m ≤ 2 ^ 53) :
    ∃ t : ℕ, ((m * 2 ^ k : ℕ) : ℚ) / (1 : ℕ) = t * 2 ^ place (m * 2 ^ k) 1 := by
  have hn : 0 < m * 2 ^ k := Nat.mul_pos pos (pow_pos (by decide) k)
  obtain ⟨-, least⟩ := ratio_bounds hn Nat.one_pos
  rw [Nat.cast_one, div_one] at *
  rw [Nat.cast_mul, Nat.cast_pow, Nat.cast_ofNat, ← zpow_natCast] at *
  generalize place (m * 2 ^ k) 1 = e at *
  rcases le_or_gt e k with fine | coarse
  · refine ⟨m * 2 ^ (k - e).toNat, ?_⟩
    rw [Nat.cast_mul, Nat.cast_pow, Nat.cast_ofNat, ← zpow_natCast, mul_assoc,
      ← zpow_add₀ (by norm_num)]
    congr 2
    omega
  · -- Only a full mantissa is counted in places coarser than its own.
    have full := least (by omega)
    have small' : (m : ℚ) ≤ 9007199254740992 := by exact_mod_cast small
    have unit := zpow_pos_two (k : ℤ)
    have next : e = k + 1 := by
      have : (2 : ℚ) ^ e ≤ 2 ^ (k + 1 : ℤ) := by
        rw [zpow_succ_two]
        nlinarith
      have := (zpow_le_zpow_iff_right₀ (by norm_num : (1 : ℚ) < 2)).1 this
      omega
    rw [next, zpow_succ_two] at full ⊢
    have : (m : ℚ) = 9007199254740992 := by nlinarith
    refine ⟨4503599627370496, ?_⟩
    rw [this]
    push_cast
    ring

section

variable (lt : (n.natAbs : ℚ) < 2 ^ (1023 : ℤ))
include lt

theorem natAbs_lt : (n.natAbs : ℚ) / (1 : ℕ) < 2 ^ (1024 : ℤ) := by
  rw [natAbs_div_one]
  exact lt.trans (zpow_lt_zpow_right₀ (by norm_num) (by norm_num))

theorem covers_ofInt (h : n ≠ 0) : (ofInt n).Covers n.natAbs := by
  rw [← natAbs_div_one]
  exact covers_ofRatio _ (Int.natAbs_pos.2 h) Nat.one_pos (natAbs_lt lt)

theorem size_ofInt (h : n ≠ 0) :
    (ofInt n).size = places n.natAbs 1 * 2 ^ place n.natAbs 1 :=
  size_ofRatio _ (Int.natAbs_pos.2 h) Nat.one_pos (natAbs_lt lt)

theorem isFinite_ofInt : (ofInt n).isFinite = true := by
  by_cases h : n = 0
  · subst h
    decide
  · have pos := Int.natAbs_pos.2 h
    have count := magnitude_ofRatio (decide (n < 0)) pos Nat.one_pos (natAbs_lt lt)
    have top : place n.natAbs 1 ≤ 970 :=
      place_le pos Nat.one_pos (by rw [natAbs_div_one]; exact lt) (by decide)
    obtain ⟨most, -⟩ := places_bounds pos Nat.one_pos
    have bound : infinite = 2047 * 4503599627370496 := rfl
    rw [isFinite_iff, bound]
    unfold ofInt
    omega

theorem isNearest_ofInt : (ofInt n).IsNearest n := by
  refine ⟨isFinite_ofInt lt, ?_, ?_⟩
  · intro z _
    by_cases h : n = 0
    · rw [h, ofInt_zero]
      simp
    · rw [abs_value_ofInt]
      exact ((covers_ofInt lt h).nearest z).1.trans (abs_size_sub_le z n)
  · intro z _ tie other
    by_cases h : n = 0
    · rw [h, ofInt_zero] at tie other
      simp only [Int.cast_zero, sub_zero, abs_zero, abs_eq_zero] at tie
      exact absurd tie other
    · obtain ⟨nearest, even⟩ := (covers_ofInt lt h).nearest z
      rw [abs_value_ofInt] at tie
      refine even (nearest.antisymm ((abs_size_sub_le z n).trans tie.le)) fun same => other ?_
      rw [← abs_value_ofInt] at tie
      exact value_eq_of_tie same (by exact_mod_cast h) tie

theorem size_ofInt_of_isExact (nonzero : n ≠ 0) (exact : IsExact n) :
    (ofInt n).size = n.natAbs := by
  obtain ⟨m, k, small, rfl⟩ := exact
  have abs : (m * 2 ^ k).natAbs = m.natAbs * 2 ^ k := by
    rw [Int.natAbs_mul, Int.natAbs_pow]
    rfl
  obtain ⟨t, whole⟩ := exists_places (k := k)
    (Int.natAbs_pos.2 (left_ne_zero_of_mul nonzero)) small
  rw [← abs] at whole
  rw [size_ofInt lt nonzero, places_eq Nat.one_pos whole, ← whole, natAbs_div_one]

theorem value_ofInt_iff : (ofInt n).value = n ↔ IsExact n := by
  by_cases h : n = 0
  · subst h
    exact iff_of_true (by rw [ofInt_zero]; rfl) ⟨0, 0, by decide, by decide⟩
  rw [← sub_eq_zero, ← abs_eq_zero, abs_value_ofInt, abs_eq_zero, sub_eq_zero]
  exact ⟨isExact_of_size h, size_ofInt_of_isExact lt h⟩

end

/-! ## Whole numbers -/

theorem size_of_value (h : x.value = n) : x.size = n.natAbs := by
  rw [← abs_value, h, Nat.cast_natAbs, Int.cast_abs]

theorem ratio_of_value (h : x.value = n) : x.ratio.1 = n.natAbs * x.ratio.2 := by
  have := ratio_size x
  rw [size_of_value h, div_eq_iff (by exact_mod_cast (ratio_pos x).ne')] at this
  exact_mod_cast this

theorem isWhole_iff (finite : x.isFinite = true) : x.isWhole = true ↔ ∃ n : ℤ, x.value = n := by
  unfold isWhole
  rw [finite, Bool.true_and, beq_iff_eq]
  constructor
  · intro whole
    obtain ⟨k, hk⟩ := Nat.dvd_of_mod_eq_zero whole
    have size : x.size = k := by
      rw [← ratio_size, hk, Nat.cast_mul, mul_div_assoc, mul_comm, div_mul_cancel₀]
      exact_mod_cast (ratio_pos x).ne'
    unfold value
    rw [size]
    split
    · exact ⟨-k, by push_cast; rfl⟩
    · exact ⟨k, by push_cast; rfl⟩
  · rintro ⟨n, h⟩
    rw [ratio_of_value h]
    exact Nat.mul_mod_left _ _

theorem isWhole_of_le (finite : x.isFinite = true) (h : 2 ^ (53 : ℤ) ≤ x.size) :
    x.isWhole = true := by
  have unit := zpow_pos_two x.scale
  have up : 0 ≤ x.scale := by
    by_contra down
    have small : (2 : ℚ) ^ x.scale ≤ 1 := zpow_le_one_of_nonpos₀ (by norm_num) (by omega)
    have bits : (x.mantissa : ℚ) < 2 ^ (53 : ℤ) := by exact_mod_cast mantissa_lt x
    unfold size at h
    nlinarith
  unfold isWhole ratio
  rw [finite, show (-x.scale).toNat = 0 by omega]
  simp [Nat.mod_one]

theorem notNaN_of_isFinite (finite : x.isFinite = true) : x.isNaN = false := by
  have := isFinite_iff.1 finite
  exact decide_eq_false (by omega)

theorem notInfinite_of_isFinite (finite : x.isFinite = true) : x.isInfinite = false := by
  have := isFinite_iff.1 finite
  unfold isInfinite
  rw [beq_eq_false_iff_ne]
  omega

theorem truncated_eq (finite : x.isFinite = true) (h : x.value = n) (low high : ℤ) :
    x.truncated low high = max low (min high n) := by
  have quotient : x.ratio.1 / x.ratio.2 = n.natAbs := by
    rw [ratio_of_value h]
    exact Nat.mul_div_cancel _ (ratio_pos x)
  have size := size_of_value h
  have sign : (if x.negative then -(n.natAbs : ℤ) else n.natAbs) = n := by
    unfold value at h
    rw [size] at h
    split at h
    · next neg =>
      rw [if_pos neg, ← @Int.cast_inj ℚ, Int.cast_neg, Int.cast_natCast]
      exact h
    · next pos =>
      rw [if_neg pos, ← @Int.cast_inj ℚ, Int.cast_natCast]
      exact h
  unfold truncated
  rw [notNaN_of_isFinite finite, notInfinite_of_isFinite finite, quotient]
  simp only [Bool.false_eq_true, if_false, sign]

theorem value_ofInt_of_value (finite : x.isFinite = true) (h : x.value = n) :
    (ofInt n).value = n := by
  by_cases zero : n = 0
  · rw [zero, ofInt_zero]
    rfl
  · have covers := covers_size x
    rw [size_of_value h, ← natAbs_div_one] at covers
    have sign : x.negative = decide (n < 0) := by
      rw [negative_eq (by rw [h]; exact_mod_cast zero), h]
      simp only [Int.cast_lt_zero]
    have same := ofRatio_of_covers (Int.natAbs_pos.2 zero) Nat.one_pos finite covers
    rw [sign] at same
    unfold ofInt
    rw [same, h]

end Binary64

end Conduit.Number
