import Conduit.Proofs.Json.RoundTrip
import Conduit.Proofs.Number.Rounding
import Conduit.Value

/-!
# Documents carried by values

A document that becomes a value and a document again keeps everything but its integers. An integer
becomes the nearest binary64 number, so the document is the same exactly if fifty-three bits carry
each of its integers.
-/

namespace Conduit.Json

open Number Binary64

/-! ## Comparing documents -/

mutual

/-- The documents are the same apart from their numbers, which are related place by place. The
members of objects are in the order of their keys, so objects that are one map are one list. -/
def Matches (R : Json → Json → Prop) : Json → Json → Prop
  | .null, .null => True
  | .bool a, .bool b => a = b
  | .string a, .string b => a = b
  | .array as, .array bs => MatchesItems R as bs
  | .object as, .object bs => MatchesMembers R as bs
  | a, b => R a b

def MatchesItems (R : Json → Json → Prop) : List Json → List Json → Prop
  | [], [] => True
  | a :: as, b :: bs => Matches R a b ∧ MatchesItems R as bs
  | _, _ => False

def MatchesMembers (R : Json → Json → Prop) : List (String × Json) → List (String × Json) → Prop
  | [], [] => True
  | (k, a) :: as, (l, b) :: bs => k = l ∧ Matches R a b ∧ MatchesMembers R as bs
  | _, _ => False

end

def value? : Json → Option ℚ
  | .integer n => some n
  | .real x => some x.value
  | _ => none

/-- Two numbers of one exact value. -/
inductive SameNumber (a b : Json) : Prop where
  | intro (v : ℚ) (left : a.value? = some v) (right : b.value? = some v)

/-- A number and what it becomes: itself, or the binary64 number nearest to an integer. -/
inductive Rounded : Json → Json → Prop where
  | real (x : Binary64) : Rounded (.real x) (.real x)
  | integer {n : ℤ} {x : Binary64} (nearest : x.IsNearest n) : Rounded (.integer n) (.real x)

/-- The documents are the same, numbers compared by their exact values. -/
def IsSame : Json → Json → Prop := Matches SameNumber

/-- The numbers of a document are what a document can hold: integers of 64 bits with a sign or
without one, and finite numbers. -/
structure IsNative (j : Json) : Prop where
  integers : ∀ n, Part (.integer n) j → -2 ^ 63 ≤ n ∧ n < 2 ^ 64
  reals : ∀ x, Part (.real x) j → x.isFinite = true

def IsNumber (j : Json) : Prop := j.value?.isSome = true

theorem isNumber_integer (n : ℤ) : (integer n).IsNumber := rfl

theorem isNumber_real (x : Binary64) : (real x).IsNumber := rfl

section

variable {n : Json} (number : n.IsNumber)
include number

theorem part_number_iff {part : Json} : Part part n ↔ part = n := by
  constructor
  · intro h
    cases h with
    | self => rfl
    | item h inner => cases number
    | member h inner => cases number
  · rintro rfl
    exact .self

theorem part_array_iff {items : List Json} : Part n (.array items) ↔ ∃ j ∈ items, Part n j := by
  constructor
  · intro h
    cases h with
    | self => cases number
    | item h inner => exact ⟨_, h, inner⟩
  · rintro ⟨j, h, inner⟩
    exact .item h inner

theorem part_object_iff {members : List (String × Json)} :
    Part n (.object members) ↔ ∃ e ∈ members, Part n e.2 := by
  constructor
  · intro h
    cases h with
    | self => cases number
    | member h inner => exact ⟨_, h, inner⟩
  · rintro ⟨e, h, inner⟩
    exact .member h inner

theorem matches_number_iff {R : Json → Json → Prop} {other : Json} :
    Matches R n other ↔ R n other := by
  cases n with
  | integer n => cases other <;> exact Iff.rfl
  | real x => cases other <;> exact Iff.rfl
  | _ => cases number

end

/-! ## Through a value -/

section

variable {R : Json → Json → Prop} {P : Json → Prop}

mutual

/-- How a document compares with what it comes back as is decided number by number. -/
theorem matches_toJson_ofJson (j : Json)
    (leaf : ∀ n, n.IsNumber → Part n j → (R n (Value.ofJson n).toJson ↔ P n)) :
    Matches R j (Value.ofJson j).toJson ↔ ∀ n, n.IsNumber → Part n j → P n := by
  have plain : (∀ n, n.IsNumber → ¬Part n j) → (∀ n, n.IsNumber → Part n j → P n) :=
    fun none n number part => absurd part (none n number)
  by_cases number : j.IsNumber
  · rw [matches_number_iff number, leaf j number .self]
    constructor
    · intro h n _ part
      rw [(part_number_iff number).1 part]
      exact h
    · intro h
      exact h j number .self
  cases j with
  | null => exact iff_of_true trivial (plain fun n h part => by cases part; exact number h)
  | bool b => exact iff_of_true rfl (plain fun n h part => by cases part; exact number h)
  | string s => exact iff_of_true rfl (plain fun n h part => by cases part; exact number h)
  | integer n => exact absurd rfl number
  | real x => exact absurd rfl number
  | array items =>
    have items' := matchesItems_toItems_ofItems items
      fun j hj n hn part => leaf n hn (.item hj part)
    constructor
    · intro h n hn part
      obtain ⟨j, hj, inner⟩ := (part_array_iff hn).1 part
      exact items'.1 h j hj n hn inner
    · intro h
      exact items'.2 fun j hj n hn inner => h n hn (.item hj inner)
  | object members =>
    have members' := matchesMembers_toMembers_ofMembers members
      fun e he n hn part => leaf n hn (.member he part)
    constructor
    · intro h n hn part
      obtain ⟨e, he, inner⟩ := (part_object_iff hn).1 part
      exact members'.1 h e he n hn inner
    · intro h
      exact members'.2 fun e he n hn inner => h n hn (.member he inner)

theorem matchesItems_toItems_ofItems (items : List Json)
    (leaf : ∀ j ∈ items, ∀ n, n.IsNumber → Part n j → (R n (Value.ofJson n).toJson ↔ P n)) :
    MatchesItems R items (Value.toItems (Value.ofItems items)) ↔
      ∀ j ∈ items, ∀ n, n.IsNumber → Part n j → P n := by
  cases items with
  | nil => exact iff_of_true trivial nofun
  | cons j items =>
    rw [List.forall_mem_cons] at leaf ⊢
    exact and_congr (matches_toJson_ofJson j leaf.1) (matchesItems_toItems_ofItems items leaf.2)

theorem matchesMembers_toMembers_ofMembers (members : List (String × Json))
    (leaf : ∀ e ∈ members, ∀ n, n.IsNumber → Part n e.2 → (R n (Value.ofJson n).toJson ↔ P n)) :
    MatchesMembers R members (Value.toMembers (Value.ofMembers members)) ↔
      ∀ e ∈ members, ∀ n, n.IsNumber → Part n e.2 → P n := by
  cases members with
  | nil => exact iff_of_true trivial nofun
  | cons e members =>
    obtain ⟨k, j⟩ := e
    rw [List.forall_mem_cons] at leaf ⊢
    refine (and_iff_right rfl).trans ?_
    exact and_congr (matches_toJson_ofJson j leaf.1)
      (matchesMembers_toMembers_ofMembers members leaf.2)

end

end

theorem toJson_ofJson_real {x : Binary64} (finite : x.isFinite = true) :
    (Value.ofJson (.real x)).toJson = .real x := by
  rw [Value.ofJson, Value.toJson, if_pos finite]

section

variable {n : ℤ} (low : -2 ^ 63 ≤ n) (high : n < 2 ^ 64)
include low high

theorem magnitude_lt : (n.natAbs : ℚ) < 2 ^ (1023 : ℤ) := natAbs_lt_of_le (by omega)

theorem toJson_ofJson_integer : (Value.ofJson (.integer n)).toJson = .real (ofInt n) := by
  rw [Value.ofJson, Value.toJson, if_pos (isFinite_ofInt (magnitude_lt low high))]

end

section

variable {j n : Json} (native : j.IsNative) (number : n.IsNumber) (part : Part n j)
include native number part

theorem rounded_toJson_ofJson : Rounded n (Value.ofJson n).toJson := by
  cases n with
  | integer n =>
    obtain ⟨low, high⟩ := native.integers n part
    rw [toJson_ofJson_integer low high]
    exact .integer (isNearest_ofInt (magnitude_lt low high))
  | real x =>
    rw [toJson_ofJson_real (native.reals x part)]
    exact .real x
  | _ => cases number

theorem sameNumber_iff :
    SameNumber n (Value.ofJson n).toJson ↔ ∀ m, n = .integer m → IsExact m := by
  cases n with
  | integer n =>
    obtain ⟨low, high⟩ := native.integers n part
    rw [toJson_ofJson_integer low high]
    constructor
    · rintro ⟨v, left, right⟩ m same
      cases same
      cases left
      exact (value_ofInt_iff (magnitude_lt low high)).1 (Option.some.inj right)
    · intro exact
      have value := (value_ofInt_iff (magnitude_lt low high)).2 (exact n rfl)
      exact ⟨n, rfl, congrArg some value⟩
  | real x =>
    rw [toJson_ofJson_real (native.reals x part)]
    exact iff_of_true ⟨x.value, rfl, rfl⟩ nofun
  | _ => cases number

end

/-- A document comes back with the same texts, keys, items and members, each of its numbers being
itself or, in place of an integer, the nearest binary64 number. It is the same document exactly if
fifty-three bits carry each of its integers. -/
theorem carried_by_value {j : Json} (native : j.IsNative) :
    Matches Rounded j (Value.ofJson j).toJson ∧
      (IsSame j (Value.ofJson j).toJson ↔ ∀ n, Part (.integer n) j → IsExact n) := by
  constructor
  · have each := matches_toJson_ofJson (P := fun _ => True) j fun n number part =>
      iff_of_true (rounded_toJson_ofJson native number part) trivial
    exact each.2 fun _ _ _ => trivial
  · have each := matches_toJson_ofJson j fun n number part => sameNumber_iff native number part
    rw [IsSame, each]
    constructor
    · intro h n part
      exact h (.integer n) rfl part n rfl
    · rintro h j - part n rfl
      exact h n part

/-- The least positive integer that needs more than fifty-three bits. -/
def fiftyFourBits : ℤ := 9007199254740993

theorem not_isExact_fiftyFourBits : ¬IsExact fiftyFourBits := by
  intro exact
  exact absurd (exact.natAbs_le (by decide)) (by decide)

/-- The least integer that needs more bits stands next to one that does not. -/
def neighbours : Json := .object [("a", .array [.integer 9007199254740992, .integer fiftyFourBits])]

theorem carried_by_value_neighbours :
    neighbours.IsNative ∧ Matches Rounded neighbours (Value.ofJson neighbours).toJson ∧
      ¬IsSame neighbours (Value.ofJson neighbours).toJson := by
  have parts : ∀ n : Json, n.IsNumber → Part n neighbours →
      n = .integer 9007199254740992 ∨ n = .integer fiftyFourBits := by
    intro n number part
    obtain ⟨e, he, part⟩ := (part_object_iff number).1 part
    cases List.mem_singleton.1 he
    obtain ⟨j, hj, part⟩ := (part_array_iff number).1 part
    rcases List.mem_pair.1 hj with rfl | rfl
    · exact .inl ((part_number_iff (isNumber_integer _)).1 part)
    · exact .inr ((part_number_iff (isNumber_integer _)).1 part)
  have native : neighbours.IsNative := by
    refine ⟨fun n part => ?_, fun x part => ?_⟩
    · rcases parts _ (isNumber_integer n) part with h | h <;> cases h <;> decide
    · rcases parts _ (isNumber_real x) part with h | h <;> cases h
  obtain ⟨rounded, same⟩ := carried_by_value native
  refine ⟨native, rounded, fun h => not_isExact_fiftyFourBits (same.1 h _ ?_)⟩
  exact .member (List.mem_singleton_self _) (.item (List.mem_cons_of_mem _ List.mem_cons_self) .self)

/-- An integer of more bits comes back as another number. -/
theorem not_same_of_fiftyFour_bits :
    (integer fiftyFourBits).IsNative ∧
      ¬IsSame (.integer fiftyFourBits) (Value.ofJson (.integer fiftyFourBits)).toJson := by
  have number := isNumber_integer fiftyFourBits
  refine ⟨⟨fun n part => ?_, fun x part => ?_⟩, ?_⟩
  · cases (part_number_iff number).1 part
    decide
  · cases (part_number_iff number).1 part
  · rw [toJson_ofJson_integer (by decide) (by decide), IsSame, matches_number_iff number]
    rintro ⟨v, left, right⟩
    cases left
    refine not_isExact_fiftyFourBits ((value_ofInt_iff (natAbs_lt_of_le (by decide))).1 ?_)
    exact Option.some.inj right

end Conduit.Json
