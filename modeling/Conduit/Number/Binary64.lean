/-!
# Binary64 numbers

A number is a sign and a magnitude. The magnitude is the eleven exponent bits followed by the
fifty-two fraction bits, read as one natural number, so the order of the magnitudes is the order of
the absolute values, infinity above every finite number and the NaNs above infinity. All arithmetic
is exact on ratios of natural numbers and rounds once, to the nearest number, a tie going to the
even magnitude.
-/

namespace Conduit.Number

/-- The magnitude of infinity. Larger magnitudes are not numbers. -/
def infinite : Nat := 0x7ff * Nat.pow 2 52

/-- A binary64 number: its sign, and its exponent and fraction bits. -/
structure Binary64 where
  negative : Bool
  magnitude : Nat
  bounded : magnitude < Nat.pow 2 63
  deriving DecidableEq

/-- The quotient rounded to a natural number, a half going to the even neighbour. -/
def roundHalfEven (num den : Nat) : Nat :=
  let q := num / den
  let r := num % den
  if 2 * r < den then q
  else if den < 2 * r then q + 1
  else q + q % 2

/-- The greatest `k` with `2 ^ k * den ≤ num`, for positive operands. -/
def log2Ratio (num den : Nat) : Int :=
  let k : Int := (num.log2 : Int) - den.log2
  if num * Nat.pow 2 (-k).toNat < den * Nat.pow 2 k.toNat then k - 1 else k

namespace Binary64

instance : Inhabited Binary64 := ⟨⟨false, 0, by decide⟩⟩

/-- The number with the sign and magnitude, or infinity when the magnitude is beyond it. -/
def clamped (negative : Bool) (magnitude : Nat) : Binary64 :=
  ⟨negative, min magnitude infinite, by
    have : infinite < Nat.pow 2 63 := by decide
    omega⟩

def zero (negative : Bool) : Binary64 := clamped negative 0

def infinity (negative : Bool) : Binary64 := clamped negative infinite

/-- The quiet NaN. -/
def nan : Binary64 := ⟨false, infinite + Nat.pow 2 51, by decide⟩

def isNaN (x : Binary64) : Bool := decide (infinite < x.magnitude)

def isInfinite (x : Binary64) : Bool := x.magnitude == infinite

def isFinite (x : Binary64) : Bool := decide (x.magnitude < infinite)

def isZero (x : Binary64) : Bool := x.magnitude == 0

def negate (x : Binary64) : Binary64 := { x with negative := !x.negative }

/-- The whole number `m` of the finite absolute value `m * 2 ^ q`. -/
def mantissa (x : Binary64) : Nat :=
  if x.magnitude < Nat.pow 2 52 then x.magnitude else Nat.pow 2 52 + x.magnitude % Nat.pow 2 52

/-- The exponent `q` of the finite absolute value `m * 2 ^ q`. -/
def scale (x : Binary64) : Int :=
  if x.magnitude < Nat.pow 2 52 then -1074 else (x.magnitude / Nat.pow 2 52 : Nat) - 1075

/-- The finite absolute value as a numerator and a positive denominator. -/
def ratio (x : Binary64) : Nat × Nat :=
  (x.mantissa * Nat.pow 2 x.scale.toNat, Nat.pow 2 (-x.scale).toNat)

/-- The number nearest to the ratio, ties to even. -/
def ofRatio (negative : Bool) (num den : Nat) : Binary64 :=
  if num = 0 then zero negative
  else
    let e : Int := max (log2Ratio num den - 52) (-1074)
    let q := roundHalfEven (num * Nat.pow 2 (-e).toNat) (den * Nat.pow 2 e.toNat)
    clamped negative ((e + 1074).toNat * Nat.pow 2 52 + q)

def ofNat (n : Nat) : Binary64 := ofRatio false n 1

def ofInt (n : Int) : Binary64 := ofRatio (decide (n < 0)) n.natAbs 1

def product (x y : Binary64) : Binary64 :=
  ofRatio (x.negative != y.negative) (x.ratio.1 * y.ratio.1) (x.ratio.2 * y.ratio.2)

def quotient (x y : Binary64) : Binary64 :=
  ofRatio (x.negative != y.negative) (x.ratio.1 * y.ratio.2) (x.ratio.2 * y.ratio.1)

/-! ## Order

The two zeros are one point of the order, and a NaN is outside it. -/

/-- The place of a number that is not NaN in the order. -/
def key (x : Binary64) : Int := if x.negative then -(x.magnitude : Int) else x.magnitude

/-- The two numbers are equal in value. A NaN equals nothing. -/
def eqv (x y : Binary64) : Bool := !x.isNaN && !y.isNaN && decide (x.key = y.key)

/-- The first number is less in value. A NaN is neither less nor greater than anything. -/
def lt (x y : Binary64) : Bool := !x.isNaN && !y.isNaN && decide (x.key < y.key)

def le (x y : Binary64) : Bool := !x.isNaN && !y.isNaN && decide (x.key ≤ y.key)

/-! ## Whole numbers -/

def isWhole (x : Binary64) : Bool := x.isFinite && x.ratio.1 % x.ratio.2 == 0

/-- The number without its fractional part, held between two bounds. Infinities stand at the bounds
and a NaN counts as zero. -/
def truncated (x : Binary64) (low high : Int) : Int :=
  if x.isNaN then 0
  else if x.isInfinite then (if x.negative then low else high)
  else
    let n : Int := (x.ratio.1 / x.ratio.2 : Nat)
    max low (min high (if x.negative then -n else n))

theorem eqv_comm (x y : Binary64) : eqv x y = eqv y x := by
  simp only [eqv, Bool.and_comm (!x.isNaN), eq_comm (a := x.key)]

theorem eqv_self_iff (x : Binary64) : eqv x x = true ↔ x.isNaN = false := by
  simp [eqv]

theorem le_iff_lt_or_eqv (x y : Binary64) : le x y = true ↔ lt x y = true ∨ eqv x y = true := by
  simp only [le, lt, eqv, Bool.and_eq_true, decide_eq_true_eq]
  constructor
  · rintro ⟨h, hk⟩
    rcases Int.lt_or_eq_of_le hk with hk | hk
    · exact .inl ⟨h, hk⟩
    · exact .inr ⟨h, hk⟩
  · rintro (⟨h, hk⟩ | ⟨h, hk⟩)
    · exact ⟨h, by omega⟩
    · exact ⟨h, by omega⟩

example : (ofRatio false 1 10).magnitude = 0x3fb999999999999a := by decide +kernel

example : (ofInt (-9007199254740993)).ratio = (9007199254740992, 1) := by decide +kernel

end Binary64

end Conduit.Number
