import Conduit.Number.Shortest
import Mathlib.Algebra.Order.Field.Power
import Mathlib.Data.Rat.Cast.Order
import Mathlib.Tactic.Linarith
import Mathlib.Tactic.NormNum
import Mathlib.Tactic.Positivity
import Mathlib.Tactic.Ring

/-!
# Exact values

A finite number stands for the rational number `± m * 2 ^ q`, which grows with the magnitude in
steps of at least `2 ^ q`. The rational numbers that round to a magnitude form its cell. Cells of
different magnitudes have nothing in common, and no magnitude is nearer to what a cell holds than
its own.
-/

namespace Conduit.Number

namespace Binary64

variable {x z : Binary64} {v : ℚ}

def size (x : Binary64) : ℚ := x.mantissa * 2 ^ x.scale

def value (x : Binary64) : ℚ := if x.negative then -x.size else x.size

/-! ## Mantissa and scale -/

theorem eq_of_magnitude (sign : x.negative = z.negative) (h : x.magnitude = z.magnitude) :
    x = z := by
  obtain ⟨s, m, _⟩ := x
  obtain ⟨s', m', _⟩ := z
  subst sign h
  rfl

theorem pow_fraction : Nat.pow 2 52 = 4503599627370496 := rfl

theorem mantissa_lt (x : Binary64) : x.mantissa < 9007199254740992 := by
  unfold mantissa
  rw [pow_fraction]
  split <;> omega

theorem magnitude_eq (x : Binary64) :
    (x.magnitude : ℤ) = (x.scale + 1074) * 4503599627370496 + x.mantissa := by
  unfold scale mantissa
  rw [pow_fraction]
  split <;> omega

theorem le_scale (x : Binary64) : -1074 ≤ x.scale := by
  unfold scale
  rw [pow_fraction]
  split <;> omega

theorem le_mantissa (h : -1074 < x.scale) : 4503599627370496 ≤ x.mantissa := by
  unfold scale at h
  unfold mantissa
  rw [pow_fraction] at *
  split <;> omega

theorem scale_le (h : x.isFinite = true) : x.scale ≤ 971 := by
  have below : x.magnitude < infinite := of_decide_eq_true h
  have : infinite = 2047 * 4503599627370496 := rfl
  unfold scale
  rw [pow_fraction]
  split <;> omega

theorem scale_mono (h : x.magnitude ≤ z.magnitude) : x.scale ≤ z.scale := by
  unfold scale
  rw [pow_fraction]
  split <;> split <;> omega

theorem parity_mantissa (x : Binary64) : x.mantissa % 2 = x.magnitude % 2 := by
  have := magnitude_eq x
  omega

theorem mantissa_pos (h : 0 < x.magnitude) : 0 < x.mantissa := by
  unfold mantissa
  rw [pow_fraction]
  split <;> omega

/-! ## Steps -/

theorem zpow_pos_two (k : ℤ) : (0 : ℚ) < 2 ^ k := by positivity

theorem zpow_succ_two (k : ℤ) : (2 : ℚ) ^ (k + 1) = 2 * 2 ^ k := by
  rw [zpow_add_one₀ (by norm_num)]
  ring

theorem size_nonneg (x : Binary64) : 0 ≤ x.size := by
  unfold size
  positivity

theorem size_add_le (h : x.magnitude < z.magnitude) : x.size + 2 ^ x.scale ≤ z.size := by
  have hx := magnitude_eq x
  have hz := magnitude_eq z
  have place := zpow_pos_two x.scale
  unfold size
  rcases (scale_mono h.le).eq_or_lt with same | lower
  · rw [← same] at hz ⊢
    have : (x.mantissa : ℚ) + 1 ≤ z.mantissa := by
      exact_mod_cast (show x.mantissa + 1 ≤ z.mantissa by omega)
    nlinarith
  · -- The scale goes up, and so does the mantissa's least value.
    have above : (x.mantissa : ℚ) + 1 ≤ 9007199254740992 := by
      exact_mod_cast mantissa_lt x
    have least : (4503599627370496 : ℚ) ≤ z.mantissa := by
      exact_mod_cast le_mantissa ((le_scale x).trans_lt lower)
    have scales : 2 * (2 : ℚ) ^ x.scale ≤ 2 ^ z.scale := by
      rw [← zpow_succ_two]
      exact zpow_le_zpow_right₀ (by norm_num) lower
    nlinarith

theorem size_lt (h : x.magnitude < z.magnitude) : x.size < z.size :=
  (lt_add_of_pos_right _ (zpow_pos_two _)).trans_le (size_add_le h)

theorem size_congr (h : x.magnitude = z.magnitude) : x.size = z.size := by
  unfold size mantissa scale
  rw [h]

theorem size_eq_iff : x.size = z.size ↔ x.magnitude = z.magnitude := by
  constructor
  · intro h
    rcases lt_trichotomy x.magnitude z.magnitude with hlt | heq | hgt
    · exact absurd h (size_lt hlt).ne
    · exact heq
    · exact absurd h (size_lt hgt).ne'
  · exact size_congr

/-! ## Signs -/

theorem abs_value (x : Binary64) : |x.value| = x.size := by
  have size := size_nonneg x
  unfold value
  split
  · rw [abs_neg, abs_of_nonneg size]
  · exact abs_of_nonneg size

theorem negative_eq (nonzero : x.value ≠ 0) : x.negative = decide (x.value < 0) := by
  have size := size_nonneg x
  unfold value at *
  split at nonzero
  · next neg =>
    rw [if_pos neg, neg, eq_comm, decide_eq_true_iff]
    exact lt_of_le_of_ne (by linarith) nonzero
  · next pos =>
    rw [if_neg pos, Bool.eq_false_iff.2 pos, eq_comm, decide_eq_false_iff_not, not_lt]
    exact size

theorem eq_of_value (h : x.value = z.value) (nonzero : x.value ≠ 0) : x = z := by
  have size : x.size = z.size := by rw [← abs_value, h, abs_value]
  refine eq_of_magnitude ?_ (size_eq_iff.1 size)
  rw [negative_eq nonzero, negative_eq (h ▸ nonzero), h]

/-! ## Gaps -/

/-- Below a power of two the numbers stand twice as close. -/
def IsClose (x : Binary64) : Prop :=
  x.magnitude % Nat.pow 2 52 = 0 ∧ Nat.pow 2 53 ≤ x.magnitude

instance : Decidable x.IsClose := inferInstanceAs (Decidable (_ ∧ _))

def gapBelow (x : Binary64) : ℚ := if x.IsClose then 2 ^ (x.scale - 1) else 2 ^ x.scale

theorem gapBelow_pos (x : Binary64) : 0 < x.gapBelow := by
  unfold gapBelow
  split <;> positivity

theorem mantissa_of_isClose (h : x.IsClose) :
    x.mantissa = 4503599627370496 ∧ -1074 < x.scale := by
  obtain ⟨whole, above⟩ := h
  have : Nat.pow 2 53 = 9007199254740992 := rfl
  unfold mantissa scale
  rw [pow_fraction] at *
  split <;> omega

theorem size_add_gap_le (h : z.magnitude < x.magnitude) : z.size + x.gapBelow ≤ x.size := by
  have hx := magnitude_eq x
  have hz := magnitude_eq z
  have place := zpow_pos_two z.scale
  unfold gapBelow
  rcases (scale_mono h.le).eq_or_lt with same | lower
  · have step := size_add_le h
    split
    · have : (2 : ℚ) ^ (x.scale - 1) ≤ 2 ^ z.scale := by
        rw [same]
        exact zpow_le_zpow_right₀ (by norm_num) (by omega)
      linarith
    · rw [← same]
      exact step
  · have above : (z.mantissa : ℚ) + 1 ≤ 9007199254740992 := by
      exact_mod_cast mantissa_lt z
    have scales : (2 : ℚ) ^ z.scale ≤ 2 ^ (x.scale - 1) :=
      zpow_le_zpow_right₀ (by norm_num) (by omega)
    have double : (2 : ℚ) ^ x.scale = 2 * 2 ^ (x.scale - 1) := by
      rw [← zpow_succ_two, sub_add_cancel]
    have normal := le_mantissa ((le_scale z).trans_lt lower)
    unfold size
    rw [double]
    split
    · next close =>
      have : (x.mantissa : ℚ) = 4503599627370496 := by
        exact_mod_cast (mantissa_of_isClose close).1
      rw [this]
      nlinarith
    · next far =>
      -- A mantissa above the least one leaves room for a whole last place.
      have : (4503599627370496 : ℚ) + 1 ≤ x.mantissa := by
        have : x.mantissa ≠ 4503599627370496 := by
          intro least
          refine far ⟨?_, ?_⟩
          · rw [pow_fraction]
            omega
          · rw [show Nat.pow 2 53 = 9007199254740992 from rfl]
            have := le_scale z
            omega
        exact_mod_cast (show 4503599627370496 + 1 ≤ x.mantissa by omega)
      nlinarith

/-! ## Cells -/

/-- The rational number rounds to the magnitude. -/
def Covers (x : Binary64) (v : ℚ) : Prop :=
  let i := Interval.around x
  let unit : ℚ := 2 ^ (x.scale - 2)
  if i.closed then i.low * unit ≤ v ∧ v ≤ i.high * unit
  else i.low * unit < v ∧ v < i.high * unit

theorem quarter (x : Binary64) : (2 : ℚ) ^ x.scale = 4 * 2 ^ (x.scale - 2) := by
  have half : (2 : ℚ) ^ (x.scale - 2 + 1) = 2 * 2 ^ (x.scale - 2) := zpow_succ_two _
  have whole : (2 : ℚ) ^ (x.scale - 2 + 1 + 1) = 2 * 2 ^ (x.scale - 2 + 1) := zpow_succ_two _
  rw [show x.scale - 2 + 1 + 1 = x.scale by omega, half] at whole
  rw [whole]
  ring

theorem high_around (x : Binary64) :
    (Interval.around x).high * (2 : ℚ) ^ (x.scale - 2) = x.size + 2 ^ x.scale / 2 := by
  unfold Interval.around size
  rw [quarter]
  push_cast
  ring

theorem low_around (h : 0 < x.magnitude) :
    (Interval.around x).low * (2 : ℚ) ^ (x.scale - 2) = x.size - x.gapBelow / 2 := by
  have pos := mantissa_pos h
  unfold gapBelow size
  have half : (2 : ℚ) ^ (x.scale - 1) = 2 * 2 ^ (x.scale - 2) := by
    rw [← zpow_succ_two]
    congr 1
    omega
  by_cases close : x.IsClose
  · have low : (Interval.around x).low = 4 * x.mantissa - 1 := by
      unfold Interval.around
      simp [close.1, close.2]
    rw [low, if_pos close, half, quarter, Nat.cast_sub (by omega)]
    push_cast
    ring
  · have low : (Interval.around x).low = 4 * x.mantissa - 2 := by
      unfold Interval.around
      simp only [Bool.and_eq_true, beq_iff_eq, decide_eq_true_eq]
      exact if_neg close
    rw [low, if_neg close, quarter, Nat.cast_sub (by omega)]
    push_cast
    ring

theorem closed_around (x : Binary64) : (Interval.around x).closed = (x.mantissa % 2 == 0) := rfl

theorem covers_iff : x.Covers v ↔
    0 ≤ v ∧ x.size - x.gapBelow / 2 ≤ v ∧ v ≤ x.size + 2 ^ x.scale / 2 ∧
      (x.mantissa % 2 = 1 → x.size - x.gapBelow / 2 < v ∧ v < x.size + 2 ^ x.scale / 2) := by
  have unit := zpow_pos_two (x.scale - 2)
  unfold Covers
  dsimp only
  rw [closed_around, high_around]
  rcases Nat.eq_zero_or_pos x.magnitude with none | pos
  · -- The cell of zero ends at zero, where half a gap below it would end under zero.
    have m : x.mantissa = 0 := by
      unfold mantissa
      rw [if_pos (by rw [none, pow_fraction]; decide), none]
    have low : (Interval.around x).low = 0 := by
      unfold Interval.around
      simp [m]
    have gap := gapBelow_pos x
    have size : x.size = 0 := by
      unfold size
      rw [m]
      simp
    rw [low, size, m]
    constructor
    · rintro ⟨least, most⟩
      rw [Nat.cast_zero, zero_mul] at least
      exact ⟨least, by linarith, most, nofun⟩
    · rintro ⟨least, -, most, -⟩
      exact ⟨by rwa [Nat.cast_zero, zero_mul], most⟩
  · have nonneg : 0 ≤ x.size - x.gapBelow / 2 := by
      rw [← low_around pos]
      positivity
    rw [low_around pos]
    rcases Nat.mod_two_eq_zero_or_one x.mantissa with even | odd
    · rw [even]
      constructor
      · rintro ⟨least, most⟩
        exact ⟨nonneg.trans least, least, most, nofun⟩
      · rintro ⟨-, least, most, -⟩
        exact ⟨least, most⟩
    · rw [odd]
      constructor
      · rintro ⟨least, most⟩
        exact ⟨nonneg.trans least.le, least.le, most.le, fun _ => ⟨least, most⟩⟩
      · rintro ⟨-, -, -, strict⟩
        exact strict rfl

theorem covers_size (x : Binary64) : x.Covers x.size := by
  have place := zpow_pos_two x.scale
  have gap := gapBelow_pos x
  exact covers_iff.2 ⟨size_nonneg x, by linarith, by linarith, fun _ => ⟨by linarith, by linarith⟩⟩

/-! ## Nearest numbers -/

/-- What a cell holds is at most half a place above the number, and only at an even one. -/
theorem Covers.above (h : x.Covers v) (greater : x.magnitude < z.magnitude) :
    |x.size - v| < |z.size - v| ∨
      |x.size - v| = |z.size - v| ∧ x.mantissa % 2 = 0 ∧ z.size = x.size + 2 ^ x.scale := by
  obtain ⟨-, -, most, strict⟩ := covers_iff.1 h
  have step := size_add_le greater
  have place := zpow_pos_two x.scale
  have far : |z.size - v| = z.size - v := abs_of_nonneg (by linarith)
  rw [far]
  rcases le_or_gt v x.size with under | past
  · left
    rw [abs_of_nonneg (by linarith)]
    linarith
  · rw [abs_of_neg (by linarith)]
    rcases (show -(x.size - v) ≤ z.size - v by linarith).lt_or_eq with closer | tie
    · exact .inl closer
    · refine .inr ⟨tie, ?_, by linarith⟩
      rcases Nat.mod_two_eq_zero_or_one x.mantissa with even | odd
      · exact even
      · have := (strict odd).2
        linarith

/-- What a cell holds is at most half a gap below the number, and only at an even one. -/
theorem Covers.below (h : x.Covers v) (less : z.magnitude < x.magnitude) :
    |x.size - v| < |z.size - v| ∨ |x.size - v| = |z.size - v| ∧ x.mantissa % 2 = 0 := by
  obtain ⟨-, least, -, strict⟩ := covers_iff.1 h
  have step := size_add_gap_le less
  have gap := gapBelow_pos x
  have far : |z.size - v| = v - z.size := by
    rw [abs_sub_comm]
    exact abs_of_nonneg (by linarith)
  rw [far]
  rcases le_or_gt x.size v with past | under
  · left
    rw [abs_sub_comm, abs_of_nonneg (by linarith)]
    linarith [size_lt less]
  · rw [abs_of_pos (by linarith)]
    rcases (show x.size - v ≤ v - z.size by linarith).lt_or_eq with closer | tie
    · exact .inl closer
    · refine .inr ⟨tie, ?_⟩
      rcases Nat.mod_two_eq_zero_or_one x.mantissa with even | odd
      · exact even
      · have := (strict odd).1
        linarith

theorem Covers.nearest (h : x.Covers v) (z : Binary64) :
    |x.size - v| ≤ |z.size - v| ∧
      (|x.size - v| = |z.size - v| → z.magnitude ≠ x.magnitude → x.mantissa % 2 = 0) := by
  rcases lt_trichotomy z.magnitude x.magnitude with less | same | greater
  · rcases h.below less with closer | ⟨tie, even⟩
    · exact ⟨closer.le, fun tie => absurd tie closer.ne⟩
    · exact ⟨tie.le, fun _ _ => even⟩
  · exact ⟨by rw [size_congr same], fun _ other => absurd same other⟩
  · rcases h.above greater with closer | ⟨tie, even, -⟩
    · exact ⟨closer.le, fun tie => absurd tie closer.ne⟩
    · exact ⟨tie.le, fun _ _ => even⟩

/-- The end that two cells share belongs to one of them, since magnitudes next to each other are not
both even. -/
theorem Covers.magnitude_le (hx : x.Covers v) (hz : z.Covers v) : z.magnitude ≤ x.magnitude := by
  by_contra hlt
  have less := not_le.1 hlt
  rcases hx.above less with closer | ⟨tie, even, next⟩
  · exact absurd closer (not_lt.2 (hz.nearest x).1)
  · have even' := (hz.nearest x).2 tie.symm less.ne
    rw [parity_mantissa] at even even'
    -- The magnitude after the smaller one lies between them.
    let w : Binary64 := ⟨false, x.magnitude + 1, (Nat.succ_le_of_lt less).trans_lt z.bounded⟩
    have first : x.size + 2 ^ x.scale ≤ w.size := size_add_le (Nat.lt_succ_self x.magnitude)
    have second : w.size < z.size := size_lt (show x.magnitude + 1 < z.magnitude by omega)
    linarith

theorem Covers.magnitude_eq (hx : x.Covers v) (hz : z.Covers v) : x.magnitude = z.magnitude :=
  le_antisymm (hz.magnitude_le hx) (hx.magnitude_le hz)

end Binary64

end Conduit.Number
