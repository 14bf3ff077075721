import Conduit.Condition.Token
import Conduit.Json.Quoted
import Conduit.Text.Segments

/-!
# Run ids

A run id is a universally unique identifier: thirty-two hexadecimal digits, read with or without
hyphens after the 8th, 12th, 16th and 20th, and with hyphens also in braces or behind `urn:uuid:`.
It is written in lowercase with hyphens.
-/

namespace Conduit

open Condition (byteSize)

/-- A run id in its written form. -/
structure RunId where
  text : String
  deriving DecidableEq

/-- Why a text is no run id. Places are counted within braces or behind `urn:uuid:`. -/
inductive RunIdError where
  | badChar (c : Char) (place : Nat)
  | badLength (length : Nat)
  | badGroupCount (count : Nat)
  | badGroupLength (group expected found : Nat)

def RunIdError.message : RunIdError → String
  | badChar c place =>
    "UUID parsing failed: invalid character: found `" ++ c.toString ++ "` at " ++ toString place
  | badLength n => "UUID parsing failed: invalid length: found " ++ toString n
  | badGroupCount n =>
    "UUID parsing failed: invalid group count: expected 5, found " ++ toString n
  | badGroupLength group expected found =>
    "UUID parsing failed: invalid group length in group " ++ toString group ++ ": expected " ++
      toString expected ++ ", found " ++ toString found

namespace RunId

def lowerHex (c : Char) : Char :=
  if 65 ≤ c.toNat ∧ c.toNat ≤ 70 then Char.ofNat (c.toNat + 32) else c

def isHex (c : Char) : Bool := (Json.hexValue? c).isSome

def grouped (digits : List Char) : List (List Char) :=
  [digits.take 8, (digits.drop 8).take 4, (digits.drop 12).take 4, (digits.drop 16).take 4,
    digits.drop 20]

def ofDigits (digits : List Char) : RunId :=
  ⟨String.ofList (['-'].intercalate (grouped (digits.map lowerHex)))⟩

/-- The run id in digits alone or in five groups of the right lengths. -/
def ofPlain? (text : List Char) (mayBeSimple : Bool) : Option RunId :=
  if mayBeSimple && text.length == 32 && text.all isHex then some (ofDigits text)
  else
    let groups := Text.segmentsOf '-' text
    if groups.map List.length = [8, 4, 4, 4, 12] ∧ groups.all fun g => g.all isHex then
      some (ofDigits groups.flatten)
    else none

/-- The text starts with some lowercase letters and marks, in either case. -/
def startsWith (start text : List Char) : Bool :=
  start.isPrefixOf ((text.take start.length).map fun c => if c.toNat < 128 then c.toLower else c)

/-- The text without braces or `urn:uuid:` around it, if there are any. -/
def unwrap? (text : List Char) : Option (List Char) :=
  let urn := "urn:uuid:".toList
  if text.head? = some '\x7b' ∧ text.getLast? = some '\x7d' ∧ 2 ≤ text.length then
    some (text.drop 1).dropLast
  else if startsWith urn text then some (text.drop urn.length)
  else none

/-- The first character that no run id has, and the bytes before it. -/
def firstBad? (offset : Nat) : List Char → Option (Char × Nat)
  | [] => none
  | c :: rest =>
    if c = '-' ∨ isHex c then firstBad? (offset + c.utf8Size) rest else some (c, offset)

def diagnose (inner : List Char) (mayBeSimple : Bool) : RunIdError :=
  match firstBad? 0 inner with
  | some (c, place) => .badChar c place
  | none =>
    let groups := Text.segmentsOf '-' inner
    if groups.length = 1 ∧ mayBeSimple then .badLength (byteSize inner)
    else if groups.length ≠ 5 then .badGroupCount groups.length
    else
      match ((groups.map List.length).zip [8, 4, 4, 4]).zipIdx.find? fun g => g.1.1 != g.1.2 with
      | some ((found, expected), i) => .badGroupLength i expected found
      | none => .badGroupLength 4 12 (byteSize inner - 24)

/-- The length of the longest run id, which has `urn:uuid:` before it. -/
def longest : Nat := 45

def read (text : String) : Except RunIdError RunId :=
  let chars := text.toList
  let inner := (unwrap? chars).getD chars
  let mayBeSimple := (unwrap? chars).isNone
  if longest < byteSize chars then .error (.badLength (byteSize chars))
  else
    match ofPlain? inner mayBeSimple with
    | some id => .ok id
    | none => .error (diagnose inner mayBeSimple)

example : (read "URN:UUID:6F1C2D3E-4B5A-4C7D-8E9F-0A1B2C3D4E5F").toOption.map RunId.text =
    some "6f1c2d3e-4b5a-4c7d-8e9f-0a1b2c3d4e5f" := by decide +kernel

end RunId

end Conduit
