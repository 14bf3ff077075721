/-!
# Blank characters

A character is blank when it has the White_Space property of Unicode. Blanks set words apart, and a
text is trimmed of the blanks at both of its ends.
-/

namespace Conduit.Text

/-- The blank characters beyond ASCII, as closed ranges of code points. -/
def blankRanges : List (Nat × Nat) :=
  [(0x85, 0x85), (0xa0, 0xa0), (0x1680, 0x1680), (0x2000, 0x200a), (0x2028, 0x2029),
    (0x202f, 0x202f), (0x205f, 0x205f), (0x3000, 0x3000)]

def inRanges (ranges : List (Nat × Nat)) (n : Nat) : Bool :=
  ranges.any fun r => decide (r.1 ≤ n) && decide (n ≤ r.2)

/-- A character with the White_Space property. -/
def isBlank (c : Char) : Bool :=
  if c.toNat < 128 then c.toNat == 32 || (decide (9 ≤ c.toNat) && decide (c.toNat ≤ 13))
  else inRanges blankRanges c.toNat

def trim (text : List Char) : List Char :=
  ((text.dropWhile isBlank).reverse.dropWhile isBlank).reverse

def isAllBlank (text : List Char) : Bool := text.all isBlank

example : isBlank '\t' = true ∧ isBlank '\u00a0' = true ∧ isBlank '\u200b' = false := by decide

example : trim " a b\n".toList = "a b".toList := by decide

end Conduit.Text
