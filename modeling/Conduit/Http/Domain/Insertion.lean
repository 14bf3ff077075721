/-!
# Labels in ASCII letters

A label with characters beyond ASCII is written as its ASCII characters, a hyphen, and a row of
letters and figures that says where the others are inserted. They are inserted in the order of their
code points. Each is told by a delta: how many places, in this and in the code points before it, are
passed over since the last one. A delta is a row of digits to base 36 that ends with a small digit.
-/

namespace Conduit.Http.Domain.Insertion

/-! ## Digits -/

/-- A digit below 36: letters first, then figures. -/
def digitChar (n : Nat) : Char := if n < 26 then Char.ofNat (97 + n) else Char.ofNat (22 + n)

def digitValue? (c : Char) : Option Nat :=
  let n := c.toNat
  if 97 ≤ n ∧ n ≤ 122 then some (n - 97)
  else if 48 ≤ n ∧ n ≤ 57 then some (n - 22)
  else none

/-- A digit below the threshold ends a delta. It grows with the place of the digit. -/
def threshold (place bias : Nat) : Nat :=
  if place ≤ bias then 1 else if bias + 26 ≤ place then 26 else place - bias

/-- The place of the first digit. Each place is one base further than the one before it. -/
def firstPlace : Nat := 36

/-- The bias that a large delta gives: about how many digits the next one may need. -/
def spread (delta place : Nat) : Nat :=
  if 455 < delta then spread (delta / 35) (place + 36) else place + 36 * delta / (delta + 38)
termination_by delta
decreasing_by exact Nat.div_lt_self (by omega) (by omega)

/-- The bias after a delta, when so many characters are there. -/
def bend (delta size : Nat) (isFirst : Bool) : Nat :=
  let d := if isFirst then delta / 700 else delta / 2
  spread (d + d / size) 0

theorem threshold_pos (place bias : Nat) : 0 < threshold place bias := by
  unfold threshold
  split
  · exact Nat.one_pos
  · split <;> omega

theorem threshold_lt (place bias : Nat) : threshold place bias < 36 := by
  unfold threshold
  split
  · omega
  · split <;> omega

theorem digitValue?_digitChar {n : Nat} (h : n < 36) : digitValue? (digitChar n) = some n := by
  have all : ∀ m ∈ List.range 36, digitValue? (digitChar m) = some m := by decide
  exact all n (List.mem_range.2 h)

/-! ## Writing -/

def deltaText (bias place delta : Nat) : List Char :=
  let t := threshold place bias
  if delta < t then [digitChar delta]
  else
    digitChar (t + (delta - t) % (36 - t)) :: deltaText bias (place + 36) ((delta - t) / (36 - t))
termination_by delta
decreasing_by
  have := threshold_pos place bias
  exact Nat.lt_of_le_of_lt (Nat.div_le_self _ _) (by omega)

/-- How far the writing of a label has come: the delta, the bias, how many characters are there and
what was written. -/
structure Writing where
  delta : Nat
  bias : Nat
  size : Nat
  written : List Char

/-- Tells where one code point stands in the label. -/
def tell (label : List Nat) (basic point : Nat) (w : Writing) : Writing :=
  label.foldl (fun w c =>
    if c < point then { w with delta := w.delta + 1 }
    else if c = point then
      ⟨0, bend w.delta (w.size + 1) (w.size == basic), w.size + 1,
        w.written ++ deltaText w.bias firstPlace w.delta⟩
    else w) w

def beyondAscii (label : List Nat) : List Nat :=
  (label.filter (128 ≤ ·)).foldl (fun acc n =>
    if acc.contains n then acc else acc.takeWhile (· < n) ++ n :: acc.dropWhile (· < n)) []

def encode (label : List Char) : List Char :=
  let points := label.map Char.toNat
  let basic := label.filter fun c => decide (c.toNat < 128)
  let start : Writing := ⟨0, 72, basic.length, if basic.isEmpty then [] else basic ++ ['-']⟩
  let (_, last) := (beyondAscii points).foldl (fun (next, w) point =>
    let w := { w with delta := w.delta + (point - next) * (w.size + 1) }
    let w := tell points basic.length point w
    (point + 1, { w with delta := w.delta + 1 })) (128, start)
  last.written

/-! ## Reading -/

/-- Deltas and weights stay below this number. -/
def bound : Nat := Nat.pow 2 32

/-- A delta, added to a sum, and the text behind it. -/
def readDelta? (bias place weight sum : Nat) : List Char → Option (Nat × List Char)
  | [] => none
  | c :: rest =>
    match digitValue? c with
    | none => none
    | some d =>
      let t := threshold place bias
      let sum := sum + d * weight
      -- Neither the sum nor the weight may outgrow 32 bits.
      if bound ≤ sum then none
      else if d < t then some (sum, rest)
      else if bound ≤ weight * (36 - t) then none
      else readDelta? bias (place + 36) (weight * (36 - t)) sum rest

theorem length_readDelta? {bias place weight sum n : Nat} {text rest : List Char}
    (h : readDelta? bias place weight sum text = some (n, rest)) : rest.length < text.length := by
  induction text generalizing place weight sum with
  | nil => simp [readDelta?] at h
  | cons c text ih =>
    unfold readDelta? at h
    split at h
    · cases h
    · dsimp only at h
      split at h
      · cases h
      · split at h
        · cases h
          exact Nat.lt_succ_self _
        · split at h
          · cases h
          · exact Nat.lt_succ_of_lt (ih h)

/-- Inserts what a row of deltas tells into a text. -/
def insertAll? (bias point sum : Nat) (text : List Char) (deltas : List Char) :
    Option (List Char) :=
  if deltas.isEmpty then some text
  else
    match h : readDelta? bias firstPlace 1 sum deltas with
    | none => none
    | some (total, rest) =>
      let size := text.length + 1
      let n := point + total / size
      let place := total % size
      if n.isValidChar then
        insertAll? (bend (total - sum) size (sum == 0)) n (place + 1)
          (text.insertIdx place (Char.ofNat n)) rest
      else none
termination_by deltas.length
decreasing_by exact length_readDelta? h

def decode? (written : List Char) : Option (List Char) :=
  let deltas := (written.reverse.takeWhile (· != '-')).reverse
  let basic := written.take (written.length - deltas.length - 1)
  if basic.isEmpty then insertAll? 72 128 0 [] written else insertAll? 72 128 0 basic deltas

example : encode "münchen".toList = "mnchen-3ya".toList := by decide +kernel

example : decode? "mnchen-3ya".toList = some "münchen".toList := by decide +kernel

end Conduit.Http.Domain.Insertion
