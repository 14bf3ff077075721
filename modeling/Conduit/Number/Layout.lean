import Conduit.Number.Shortest

/-!
# Number text

A layout says how the shortest digits of a number are set out: within which powers of ten they are
written in plain positions, whether a whole number ends in `.0`, whether a positive exponent carries
a plus sign and which of two equally short texts is chosen.
-/

namespace Conduit.Number

/-- The decisions of a number format. -/
structure Layout where
  /-- The least and the greatest leading power of ten written in plain positions. -/
  plain : Option (Int × Int)
  /-- A whole number in plain positions ends in `.0`. -/
  point : Bool
  /-- A positive exponent carries a plus sign. -/
  plus : Bool
  tie : Tie

/-- Numbers in a document: plain from `1e-5` up to below `1e16`. -/
def Layout.document : Layout := ⟨some (-5, 15), true, true, .toEven⟩

/-- Numbers shown in a message: plain from `1e-4` up to below `1e16`. -/
def Layout.literal : Layout := ⟨some (-4, 15), true, false, .away⟩

/-- Numbers as names: always plain, whole numbers without a point. -/
def Layout.positional : Layout := ⟨none, false, false, .away⟩

def plainText (point : Bool) (digits : List Char) (exponent : Int) : List Char :=
  let n : Int := digits.length
  if 0 ≤ exponent then
    digits ++ List.replicate exponent.toNat '0' ++ (if point then ['.', '0'] else [])
  else if 0 < n + exponent then
    digits.take (n + exponent).toNat ++ '.' :: digits.drop (n + exponent).toNat
  else
    '0' :: '.' :: List.replicate (-(n + exponent)).toNat '0' ++ digits

def scientificText (plus : Bool) (digits : List Char) (leading : Int) : List Char :=
  let mantissa := match digits with
    | [] => []
    | [d] => [d]
    | d :: rest => d :: '.' :: rest
  let sign := if leading < 0 then ['-'] else if plus then ['+'] else []
  mantissa ++ 'e' :: sign ++ Nat.toDigits 10 leading.natAbs

def Layout.absolute (l : Layout) (x : Binary64) : List Char :=
  if x.isZero then (if l.point then ['0', '.', '0'] else ['0'])
  else
    let d := shortest l.tie x
    let digits := Nat.toDigits 10 d.digits
    let leading : Int := digits.length + d.exponent - 1
    match l.plain with
    | none => plainText l.point digits d.exponent
    | some (low, high) =>
      if low ≤ leading ∧ leading ≤ high then plainText l.point digits d.exponent
      else scientificText l.plus digits leading

def Layout.render (l : Layout) (x : Binary64) : String :=
  if x.isNaN then "NaN"
  else
    let sign := if x.negative then ['-'] else []
    String.ofList (sign ++ if x.isInfinite then "inf".toList else l.absolute x)

example : Layout.document.render (.ofRatio false 1 1000000) = "1e-6" := by decide +kernel

example : Layout.document.render (.ofNat (Nat.pow 10 16)) = "1e+16" ∧
    Layout.literal.render (.ofNat (Nat.pow 10 16)) = "1e16" ∧
    Layout.positional.render (.ofNat (Nat.pow 10 16)) = "10000000000000000" := by decide +kernel

example : Layout.document.render (.ofRatio true 5 2) = "-2.5" := by decide +kernel

end Conduit.Number
