import Conduit.Number.Binary64
import Conduit.Text.Alphanumeric

/-!
# Decimal numerals

A numeral is an optional sign, then `inf`, `infinity` or `nan` in any case, or digits with at most
one point and an optional exponent. At least one digit stands before the exponent. A numeral reads
as the binary64 number nearest to what it writes.
-/

namespace Conduit.Number

open Conduit.Text

/-- The number nearest to `digits * 10 ^ exponent`. An exponent far outside the range of binary64
gives zero or infinity at once. -/
def ofScientific (negative : Bool) (digits : Nat) (exponent : Int) : Binary64 :=
  if digits = 0 then .zero negative
  else if exponent > 400 then .infinity negative
  else if exponent < -400 - (digits.log2 : Int) then .zero negative
  else .ofRatio negative (digits * Nat.pow 10 exponent.toNat) (Nat.pow 10 (-exponent).toNat)

def lowercase (c : Char) : Char :=
  if 65 ≤ c.toNat ∧ c.toNat ≤ 90 then Char.ofNat (c.toNat + 32) else c

def takeSign : List Char → Bool × List Char
  | '-' :: rest => (true, rest)
  | '+' :: rest => (false, rest)
  | rest => (false, rest)

/-- The exponent part: nothing, or `e` with an optional sign and at least one digit. -/
def readExponent? : List Char → Option Int
  | [] => some 0
  | e :: rest =>
    if lowercase e = 'e' then
      let (negative, digits) := takeSign rest
      if digits.isEmpty || !digits.all isDigit then none
      else
        let n : Int := digitsValue digits
        some (if negative then -n else n)
    else none

def readDigits? (negative : Bool) (text : List Char) : Option Binary64 :=
  let whole := text.takeWhile isDigit
  let rest := text.dropWhile isDigit
  let (fraction, tail) := match rest with
    | '.' :: more => (more.takeWhile isDigit, more.dropWhile isDigit)
    | other => ([], other)
  if whole.isEmpty && fraction.isEmpty then none
  else (readExponent? tail).map fun e =>
    ofScientific negative (digitsValue (whole ++ fraction)) (e - fraction.length)

/-- The number that a numeral writes, or nothing if the text is no numeral. -/
def readDecimal? (text : List Char) : Option Binary64 :=
  let (negative, rest) := takeSign text
  let word := String.ofList (rest.map lowercase)
  if word = "nan" then some .nan
  else if word = "inf" ∨ word = "infinity" then some (.infinity negative)
  else readDigits? negative rest

example : readDecimal? "2.5e3".toList = some (.ofNat 2500) := by decide +kernel

example : readDecimal? ".".toList = none ∧ readDecimal? "1e".toList = none := by decide +kernel

end Conduit.Number
