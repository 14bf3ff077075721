import Conduit.Component.Library.Control
import Conduit.Proofs.Number.Shortest

/-!
# Numbers as routes

A number selects the route that is written with its value: its key is read back as that value, so
different numbers have different keys. This ends at the integers of 64 bits. Every number beyond
them has the key of the bound.
-/

namespace Conduit.Library

open Number Binary64

variable {x y : Binary64}

/-! ## The key of a number -/

/-- The integer that the key of a whole number writes. -/
def routed (n : ℤ) : ℤ := max leastInteger (min greatestInteger n)

theorem routeKey_of_value (finite : x.isFinite = true) {n : ℤ} (h : x.value = n) :
    routeKey (.number x) = some (toString (routed n)) := by
  unfold routeKey
  dsimp only
  rw [if_pos ((isWhole_iff finite).2 ⟨n, h⟩), truncated_eq finite h]
  rfl

theorem routeKey_of_fraction (h : x.isWhole = false) :
    routeKey (.number x) = some (Layout.positional.render x) := by
  unfold routeKey
  dsimp only
  rw [if_neg (by rw [h]; decide)]

theorem bounds_eq : leastInteger = -2 ^ 63 ∧ greatestInteger = 2 ^ 63 - 1 := ⟨rfl, rfl⟩

theorem routed_eq_iff {n : ℤ} : routed n = n ↔ -2 ^ 63 ≤ n ∧ n < 2 ^ 63 := by
  obtain ⟨least, greatest⟩ := bounds_eq
  unfold routed
  rw [least, greatest]
  omega

/-- The greatest integer of 64 bits is rounded up. -/
theorem value_greatestInteger : (ofInt greatestInteger).value = (2 ^ 63 : ℤ) := by
  have m : (ofInt greatestInteger).mantissa = 4503599627370496 := by decide +kernel
  have s : (ofInt greatestInteger).scale = 11 := by decide +kernel
  unfold value size
  rw [negative_ofInt, if_neg (by decide), m, s]
  norm_num

theorem value_leastInteger : (ofInt leastInteger).value = (-2 ^ 63 : ℤ) := by
  exact (value_ofInt_iff (natAbs_lt_of_le (by decide))).2 ⟨-1, 63, by decide, by decide⟩

/-- The integer that a key writes is read as a whole number, as itself if it is the value of the
number and as the power of two at the bound if it is not. -/
theorem value_routed (finite : x.isFinite = true) {n : ℤ} (h : x.value = n) :
    (ofInt (routed n)).value = (max (-2 ^ 63) (min (2 ^ 63) n) : ℤ) := by
  obtain ⟨least, greatest⟩ := bounds_eq
  by_cases within : -2 ^ 63 ≤ n ∧ n < 2 ^ 63
  · rw [routed_eq_iff.2 within, value_ofInt_of_value finite h]
    congr 1
    omega
  · rcases not_and_or.1 within with low | high
    · have bound : routed n = leastInteger := by
        unfold routed
        rw [least, greatest]
        omega
      rw [bound, value_leastInteger]
      congr 1
      omega
    · have bound : routed n = greatestInteger := by
        unfold routed
        rw [least, greatest]
        omega
      rw [bound, value_greatestInteger]
      congr 1
      omega

theorem value_of_fraction (finite : x.isFinite = true) (fraction : x.isWhole = false) :
    -2 ^ 63 < x.value ∧ x.value < 2 ^ 63 := by
  have nonneg := size_nonneg x
  have small : x.size < 2 ^ 63 := by
    by_contra large
    have : (2 : ℚ) ^ (53 : ℤ) ≤ x.size := le_trans (by norm_num) (not_lt.1 large)
    rw [isWhole_of_le finite this] at fraction
    cases fraction
  unfold value
  split <;> constructor <;> linarith

theorem exists_read (finite : x.isFinite = true) : ∃ s z, routeKey (.number x) = some s ∧
    readDecimal? s.toList = some z ∧
    z.value = max (-2 ^ 63) (min (2 ^ 63) x.value) := by
  cases whole : x.isWhole with
  | false =>
    obtain ⟨low, high⟩ := value_of_fraction finite whole
    refine ⟨_, x, routeKey_of_fraction whole, readDecimal?_render finite, ?_⟩
    rw [min_eq_right high.le, max_eq_right low.le]
  | true =>
    obtain ⟨n, h⟩ := (isWhole_iff finite).1 whole
    refine ⟨_, ofInt (routed n), routeKey_of_value finite h, readDecimal?_toString _, ?_⟩
    rw [value_routed finite h, h]
    push_cast
    rfl

/-! ## Different numbers -/

/-- Two values are the same up to the bounds. -/
def SameRoute (v w : ℚ) : Prop :=
  v = w ∨ (2 ^ 63 ≤ v ∧ 2 ^ 63 ≤ w) ∨ (v ≤ -2 ^ 63 ∧ w ≤ -2 ^ 63)

theorem sameRoute_of_eq {v w : ℚ}
    (h : max (-2 ^ 63) (min (2 ^ 63) v) = max (-2 ^ 63) (min (2 ^ 63) w)) : SameRoute v w := by
  unfold SameRoute
  grind

theorem exists_integer_of_beyond (finite : x.isFinite = true)
    (beyond : 2 ^ 63 ≤ x.value ∨ x.value ≤ -2 ^ 63) : ∃ n : ℤ, x.value = n := by
  rw [← isWhole_iff finite]
  by_contra fraction
  obtain ⟨low, high⟩ := value_of_fraction finite (Bool.eq_false_iff.2 fraction)
  rcases beyond with h | h <;> linarith

theorem routeKey_of_ge (finite : x.isFinite = true) (h : 2 ^ 63 ≤ x.value) :
    routeKey (.number x) = some (toString greatestInteger) := by
  obtain ⟨n, hn⟩ := exists_integer_of_beyond finite (.inl h)
  have : 2 ^ 63 ≤ n := by
    rw [hn] at h
    exact_mod_cast h
  obtain ⟨least, greatest⟩ := bounds_eq
  rw [routeKey_of_value finite hn]
  congr 2
  unfold routed
  omega

theorem routeKey_of_le (finite : x.isFinite = true) (h : x.value ≤ -2 ^ 63) :
    routeKey (.number x) = some (toString leastInteger) := by
  obtain ⟨n, hn⟩ := exists_integer_of_beyond finite (.inr h)
  have : n ≤ -2 ^ 63 := by
    rw [hn] at h
    exact_mod_cast h
  obtain ⟨least, greatest⟩ := bounds_eq
  rw [routeKey_of_value finite hn]
  congr 2
  unfold routed
  omega

theorem routeKey_of_value_eq (hx : x.isFinite = true) (hy : y.isFinite = true)
    (h : x.value = y.value) : routeKey (.number x) = routeKey (.number y) := by
  cases whole : x.isWhole with
  | true =>
    obtain ⟨n, hn⟩ := (isWhole_iff hx).1 whole
    rw [routeKey_of_value hx hn, routeKey_of_value hy (h ▸ hn)]
  | false =>
    have nonzero : x.value ≠ 0 := by
      intro zero
      rw [(isWhole_iff hx).2 ⟨0, by rw [zero]; rfl⟩] at whole
      cases whole
    rw [eq_of_value h nonzero]

theorem routeKey_eq_iff (hx : x.isFinite = true) (hy : y.isFinite = true) :
    routeKey (.number x) = routeKey (.number y) ↔ SameRoute x.value y.value := by
  constructor
  · intro same
    obtain ⟨s, z, key, read, value⟩ := exists_read hx
    obtain ⟨t, w, key', read', value'⟩ := exists_read hy
    rw [key, key', Option.some.injEq] at same
    rw [same, read', Option.some.injEq] at read
    exact sameRoute_of_eq (by rw [← value, ← value', read])
  · rintro (same | ⟨above, above'⟩ | ⟨below, below'⟩)
    · exact routeKey_of_value_eq hx hy same
    · rw [routeKey_of_ge hx above, routeKey_of_ge hy above']
    · rw [routeKey_of_le hx below, routeKey_of_le hy below']

/-- Two finite numbers have one key exactly if they have one value or are both beyond the same
bound. The key of a whole number is its own text exactly within the integers of 64 bits, a route is
found under that text or the text of the bound, and every key is read back as the value up to the
bounds. -/
theorem routes_by_value (hx : x.isFinite = true) (hy : y.isFinite = true) :
    (routeKey (.number x) = routeKey (.number y) ↔ SameRoute x.value y.value) ∧
      (∃ s z, routeKey (.number x) = some s ∧ readDecimal? s.toList = some z ∧
        z.value = max (-2 ^ 63) (min (2 ^ 63) x.value)) ∧
      ∀ n : ℤ, x.value = n →
        (routeKey (.number x) = some (toString n) ↔ -2 ^ 63 ≤ n ∧ n < 2 ^ 63) ∧
        ∀ p : RouteParameters, routeTarget p (some (.number x)) =
          (Entries.get? p.routes (toString (max (-2 ^ 63) (min (2 ^ 63 - 1) n)))).or p.fallback := by
  refine ⟨routeKey_eq_iff hx hy, exists_read hx, fun n h => ?_⟩
  have key := routeKey_of_value hx h
  refine ⟨?_, fun p => ?_⟩
  · rw [key, Option.some.injEq, ← routed_eq_iff]
    exact ⟨toString_injective, congrArg toString⟩
  · unfold routeTarget
    rw [Option.bind_some, key, Option.bind_some]
    have bound : routed n = max (-2 ^ 63) (min (2 ^ 63 - 1) n) := rfl
    rw [← bound]
    cases Entries.get? p.routes (toString (routed n)) <;> rfl

/-- Routes for ten to the power of nineteen and for the greatest integer of 64 bits. -/
def nineteenRoutes : RouteParameters :=
  ⟨some "k", [("10000000000000000000", "right"), ("9223372036854775807", "wrong")], none⟩

theorem routes_by_value_nineteen :
    let x := ofInt (10 ^ 19)
    let y := ofInt (2 * 10 ^ 19)
    x.isFinite = true ∧ y.isFinite = true ∧ x.value = (10 ^ 19 : ℤ) ∧ x.value ≠ y.value ∧
      routeKey (.number x) = routeKey (.number y) ∧
      routeTarget nineteenRoutes (some (.number x)) = some "wrong" := by
  intro x y
  have hx : x.isFinite = true := by decide +kernel
  have hy : y.isFinite = true := by decide +kernel
  have vx : x.value = (10 ^ 19 : ℤ) :=
    (value_ofInt_iff (natAbs_lt_of_le (by decide))).2 ⟨5 ^ 19, 19, by decide, by norm_num⟩
  have vy : y.value = (2 * 10 ^ 19 : ℤ) :=
    (value_ofInt_iff (natAbs_lt_of_le (by decide))).2 ⟨5 ^ 19, 20, by decide, by norm_num⟩
  obtain ⟨keys, -, whole⟩ := routes_by_value hx hy
  refine ⟨hx, hy, vx, ?_, keys.2 (.inr (.inl ⟨?_, ?_⟩)), ?_⟩
  · rw [vx, vy]
    norm_num
  · rw [vx]
    norm_num
  · rw [vy]
    norm_num
  · rw [(whole _ vx).2 nineteenRoutes]
    decide

end Conduit.Library
