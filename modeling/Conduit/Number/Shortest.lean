import Conduit.Number.Binary64

/-!
# Shortest decimal digits

The digits of a number are the fewest that read back as the same number. The real numbers that
round to `m * 2 ^ q` form an interval around it, which holds its ends when `m` is even. The first
power of ten, from coarse to fine, with a multiple in that interval gives the digits: of the two
multiples next to the number the nearer, and of two equally near ones the one that the tie rule
names.
-/

namespace Conduit.Number

/-- Which of two equally near digit strings is written. -/
inductive Tie where
  | toEven
  | away
  deriving DecidableEq

/-- Digits and the power of ten that they count. -/
structure Digits where
  digits : Nat
  exponent : Int
  deriving DecidableEq

/-- The greatest `k` with `10 ^ k * den ≤ num`, for positive operands. -/
def log10Ratio (num den : Nat) : Int :=
  let k : Int := Int.fdiv (log2Ratio num den * 30103) 100000
  if den * Nat.pow 10 (k + 1).toNat ≤ num * Nat.pow 10 (-(k + 1)).toNat then k + 1
  else if num * Nat.pow 10 (-k).toNat < den * Nat.pow 10 k.toNat then k - 1
  else k

/-- The interval of reals that round to a number, in units of a quarter of its last place. -/
structure Interval where
  low : Nat
  middle : Nat
  high : Nat
  closed : Bool

/-- The interval around `m * 2 ^ q`. Below a power of two the numbers stand twice as close. -/
def Interval.around (x : Binary64) : Interval :=
  let m := x.mantissa
  let closeBelow := x.magnitude % Nat.pow 2 52 == 0 && decide (Nat.pow 2 53 ≤ x.magnitude)
  ⟨if closeBelow then 4 * m - 1 else 4 * m - 2, 4 * m, 4 * m + 2, m % 2 == 0⟩

/-- The multiple `d` of `unit` lies in the interval whose units are `quarter`, both over one
denominator. -/
def Interval.holds (i : Interval) (quarter unit d : Nat) : Bool :=
  let v := d * unit
  if i.closed then decide (i.low * quarter ≤ v) && decide (v ≤ i.high * quarter)
  else decide (i.low * quarter < v) && decide (v < i.high * quarter)

/-- The multiple of `unit` that stands for the number: the nearer of the two beside it that lie in
the interval. -/
def Interval.multiple? (i : Interval) (tie : Tie) (quarter unit : Nat) : Option Nat :=
  let middle := i.middle * quarter
  let d := middle / unit
  let below := i.holds quarter unit d
  let above := i.holds quarter unit (d + 1)
  if below && above then
    let r := middle - d * unit
    if 2 * r < unit then some d
    else if unit < 2 * r then some (d + 1)
    else match tie with
      | .toEven => some (d + d % 2)
      | .away => some (d + 1)
  else if below then some d
  else if above then some (d + 1)
  else none

/-- The digits without their trailing zeros. At most `fuel` zeros are taken away. -/
def Digits.trimmed : Nat → Digits → Digits
  | 0, d => d
  | fuel + 1, d =>
    if d.digits % 10 = 0 then Digits.trimmed fuel ⟨d.digits / 10, d.exponent + 1⟩ else d

/-- The fewest digits that read back as the finite number, which is not zero. Seventeen are always
enough. -/
def shortest (tie : Tie) (x : Binary64) : Digits :=
  let i := Interval.around x
  let q := x.scale - 2
  let top := log10Ratio x.ratio.1 x.ratio.2
  let attempt (n : Nat) : Option Digits :=
    let e : Int := top - n
    (i.multiple? tie (Nat.pow 2 q.toNat * Nat.pow 10 (-e).toNat)
      (Nat.pow 2 (-q).toNat * Nat.pow 10 e.toNat)).map
      fun d => ⟨d, e⟩
  match (List.range 17).findSome? attempt with
  | some d => Digits.trimmed 17 d
  | none => ⟨0, 0⟩

example : shortest .toEven (.ofRatio false 1 10) = ⟨1, -1⟩ := by decide +kernel

example : shortest .toEven ⟨false, 1, by decide⟩ = ⟨5, -324⟩ := by decide +kernel

end Conduit.Number
