import Conduit.Json.Fault
import Conduit.Text.Alphanumeric

/-!
# Numerals of JSON texts

A numeral without a point or an exponent is an integer if it fits into 64 bits. Every other numeral
is a binary64 number: the first digits below `2 ^ 64`, taken as a number, times a power of ten. The
two steps round one after the other, so the result can differ from the number nearest to the
numeral.
-/

namespace Conduit.Json

open Number Text

/-- The number below a limit that the first digits extend, and how many digits were taken. -/
def extend (limit : Nat) : Nat → List Char → Nat × Nat
  | n, [] => (n, 0)
  | n, c :: rest =>
    let m := n * 10 + digitValue c
    if m < limit then
      let (k, taken) := extend limit m rest
      (k, taken + 1)
    else (n, 0)

def powerOfTen (n : Nat) : Binary64 := .ofNat (Nat.pow 10 n)

/-- The number times a power of ten, unless it is too great. An exponent beyond 308 is worked off in
steps of 308, of which three make every number zero. -/
def scaleByTen : Nat → Binary64 → Int → Option Binary64
  | steps, x, e =>
    if e.natAbs ≤ 308 then
      if 0 ≤ e then
        let y := x.product (powerOfTen e.natAbs)
        if y.isInfinite then none else some y
      else some (x.quotient (powerOfTen e.natAbs))
    else if x.isZero then some x
    else if 0 ≤ e then none
    else match steps with
      | 0 => some (.zero false)
      | steps + 1 => scaleByTen steps (x.quotient (powerOfTen 308)) (e + 308)

/-- The number with a sign, or the fault at the cursor that it is too great. -/
def scaledReal (negative : Bool) (significand : Nat) (exponent : Int) (c : Cursor) :
    Except Fault (Json × Cursor) :=
  match scaleByTen 3 (.ofNat significand) exponent with
  | some x => .ok (.real (if negative then x.negate else x), c)
  | none => .error (c.fault .numberOutOfRange)

/-- The exponent part, the cursor standing on its letter. -/
def readExponent (negative : Bool) (significand : Nat) (exponent : Int) (c : Cursor) :
    Except Fault (Json × Cursor) :=
  let c := c.skip 1
  let (down, c) := match c.rest with
    | '+' :: _ => (false, c.skip 1)
    | '-' :: _ => (true, c.skip 1)
    | _ => (false, c)
  let digits := c.rest.takeWhile isDigit
  if digits.isEmpty then
    match c.rest with
    | [] => .error (c.fault .endInValue)
    | _ :: _ => .error (c.faultAhead .badNumber)
  else
    let (e, taken) := extend (Nat.pow 2 31) 0 digits
    -- An exponent too long to hold makes the number zero or too great.
    if taken < digits.length then
      if significand ≠ 0 ∧ !down then .error ((c.skip (taken + 1)).fault .numberOutOfRange)
      else .ok (.real (.zero negative), c.skip digits.length)
    else
      scaledReal negative significand (if down then exponent - e else exponent + e)
        (c.skip digits.length)

def readFraction (negative : Bool) (significand : Nat) (exponent : Int) (c : Cursor) :
    Except Fault (Json × Cursor) :=
  let c := c.skip 1
  let digits := c.rest.takeWhile isDigit
  if digits.isEmpty then
    match c.rest with
    | [] => .error (c.fault .endInValue)
    | _ :: _ => .error (c.faultAhead .badNumber)
  else
    let (significand, taken) := extend (Nat.pow 2 64) significand digits
    let c := c.skip digits.length
    let exponent := exponent - taken
    match c.rest with
    | 'e' :: _ => readExponent negative significand exponent c
    | 'E' :: _ => readExponent negative significand exponent c
    | _ => scaledReal negative significand exponent c

/-- The integer with a sign, or the number nearest to it if it does not fit. Minus zero is a
number of its own. -/
def signedInteger (negative : Bool) (n : Nat) : Json :=
  if !negative then .integer n
  else if n = 0 ∨ Nat.pow 2 63 < n then .real (Binary64.ofNat n).negate
  else .integer (-n)

/-- An unsigned numeral, the cursor standing where its first digit is wanted. -/
def readNumeral (negative : Bool) (c : Cursor) : Except Fault (Json × Cursor) :=
  let digits := c.rest.takeWhile isDigit
  match digits with
  | [] =>
    match c.rest with
    | [] => .error (c.fault .endInValue)
    | _ :: _ => .error (c.faultAhead .badNumber)
  | '0' :: _ :: _ => .error ((c.skip 1).faultAhead .badNumber)
  | _ =>
    let (significand, taken) := extend (Nat.pow 2 64) 0 digits
    -- The digits that do not fit count as powers of ten.
    let beyond : Int := (digits.length - taken : Nat)
    let c := c.skip digits.length
    match c.rest with
    | '.' :: _ => readFraction negative significand beyond c
    | 'e' :: _ => readExponent negative significand beyond c
    | 'E' :: _ => readExponent negative significand beyond c
    | _ =>
      if taken < digits.length then scaledReal negative significand beyond c
      else .ok (signedInteger negative significand, c)

def skipExponent (c : Cursor) : Except Fault Cursor :=
  let c := c.skip 1
  let c := match c.rest with
    | '+' :: _ => c.skip 1
    | '-' :: _ => c.skip 1
    | _ => c
  let digits := c.rest.takeWhile isDigit
  if digits.isEmpty then .error (c.faultAhead .badNumber) else .ok (c.skip digits.length)

/-- Passes over an unsigned numeral of any size. -/
def skipNumeral (c : Cursor) : Except Fault Cursor :=
  let digits := c.rest.takeWhile isDigit
  match digits with
  | [] => .error (c.faultAhead .badNumber)
  | '0' :: _ :: _ => .error ((c.skip 1).faultAhead .badNumber)
  | _ =>
    let c := c.skip digits.length
    match c.rest with
    | '.' :: _ =>
      let c := c.skip 1
      let fraction := c.rest.takeWhile isDigit
      if fraction.isEmpty then .error (c.faultAhead .badNumber)
      else
        let c := c.skip fraction.length
        match c.rest with
        | 'e' :: _ => skipExponent c
        | 'E' :: _ => skipExponent c
        | _ => .ok c
    | 'e' :: _ => skipExponent c
    | 'E' :: _ => skipExponent c
    | _ => .ok c

end Conduit.Json
