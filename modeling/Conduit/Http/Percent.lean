import Conduit.Json.Quoted

/-!
# Percent form

In an address a character that may not stand for itself is written as its bytes, each as a percent
sign and two digits.
-/

namespace Conduit.Http

/-! ## Writing -/

def percentByte (b : UInt8) : List Char :=
  let digits := (Nat.toDigits 16 b.toNat).map Char.toUpper
  '%' :: (List.replicate (2 - digits.length) '0' ++ digits)

/-- The character may stand for itself: it is visible ASCII or a blank, and none of some others. -/
def isPlain (others : List Char) (c : Char) : Bool :=
  decide (32 ≤ c.toNat) && decide (c.toNat < 127) && !others.contains c

def escape (others : List Char) (text : List Char) : List Char :=
  text.flatMap fun c =>
    if isPlain others c then [c] else (String.utf8EncodeChar c).flatMap percentByte

theorem escape_of_plain {others text : List Char} (h : ∀ c ∈ text, isPlain others c = true) :
    escape others text = text := by
  induction text with
  | nil => rfl
  | cons c rest ih =>
    rw [escape, List.flatMap_cons, if_pos (h c List.mem_cons_self)]
    exact congrArg (c :: ·) (ih fun d hd => h d (List.mem_cons_of_mem c hd))

example : escape [' '] "a é".toList = "a%20%C3%A9".toList := by decide +kernel

/-! ## Reading -/

/-- The bytes of a text in which a percent sign and two hexadecimal digits stand for a byte. -/
def percentBytes : List Char → List UInt8
  | [] => []
  | [c] => String.utf8EncodeChar c
  | [c, d] => String.utf8EncodeChar c ++ String.utf8EncodeChar d
  | c :: d :: e :: rest =>
    if c = '%' then
      match Json.hexValue? d, Json.hexValue? e with
      | some x, some y => UInt8.ofNat (16 * x + y) :: percentBytes rest
      | _, _ => String.utf8EncodeChar c ++ percentBytes (d :: e :: rest)
    else String.utf8EncodeChar c ++ percentBytes (d :: e :: rest)

/-- The characters that the bytes of a text write, if they write any. -/
def unescape? (text : List Char) : Option (List Char) :=
  (String.fromUTF8? ⟨(percentBytes text).toArray⟩).map String.toList

end Conduit.Http
