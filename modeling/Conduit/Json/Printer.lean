import Conduit.Json.Basic
import Conduit.Number.Layout

/-!
# The text of a JSON document

A document is written on one line without spaces, or over several lines with two spaces for every
level. An empty array or object stays on one line in both.
-/

namespace Conduit.Json

open Number

def hexFour (n : Nat) : List Char :=
  let digits := Nat.toDigits 16 n
  List.replicate (4 - digits.length) '0' ++ digits

def escapeChar (c : Char) : List Char :=
  if c = '"' then ['\\', '"']
  else if c = '\\' then ['\\', '\\']
  else if c = '\x08' then ['\\', 'b']
  else if c = '\t' then ['\\', 't']
  else if c = '\n' then ['\\', 'n']
  else if c = '\x0c' then ['\\', 'f']
  else if c = '\r' then ['\\', 'r']
  else if c.toNat < 32 then '\\' :: 'u' :: hexFour c.toNat
  else [c]

def stringText (s : String) : List Char := '"' :: (s.toList.flatMap escapeChar ++ ['"'])

/-- A number, or `null` for a number that no document can hold. -/
def realText (x : Binary64) : List Char :=
  if x.isFinite then (Layout.document.render x).toList else ['n', 'u', 'l', 'l']

def integerText (n : Int) : List Char :=
  if n < 0 then '-' :: Nat.toDigits 10 n.natAbs else Nat.toDigits 10 n.natAbs

/-- The text of a document that is neither an array nor an object, nothing for those. -/
def leafText : Json → List Char
  | .null => ['n', 'u', 'l', 'l']
  | .bool true => ['t', 'r', 'u', 'e']
  | .bool false => ['f', 'a', 'l', 's', 'e']
  | .integer n => integerText n
  | .real x => realText x
  | .string s => stringText s
  | .array _ => []
  | .object _ => []

mutual

def compactText : Json → List Char
  | .array [] => ['[', ']']
  | .array (item :: items) => '[' :: (compactText item ++ compactItems items)
  | .object [] => ['\x7b', '\x7d']
  | .object ((key, value) :: members) =>
    '\x7b' :: (stringText key ++ ':' :: (compactText value ++ compactMembers members))
  | leaf => leafText leaf

def compactItems : List Json → List Char
  | [] => [']']
  | item :: items => ',' :: (compactText item ++ compactItems items)

def compactMembers : List (String × Json) → List Char
  | [] => ['\x7d']
  | (key, value) :: members =>
    ',' :: (stringText key ++ ':' :: (compactText value ++ compactMembers members))

end

def indent (level : Nat) : List Char := '\n' :: List.replicate (2 * level) ' '

mutual

def prettyText (level : Nat) : Json → List Char
  | .array [] => ['[', ']']
  | .array (item :: items) =>
    '[' :: (indent (level + 1) ++ prettyText (level + 1) item ++ prettyItems level items)
  | .object [] => ['\x7b', '\x7d']
  | .object ((key, value) :: members) =>
    '\x7b' :: (indent (level + 1) ++ stringText key ++ ':' :: ' ' ::
      (prettyText (level + 1) value ++ prettyMembers level members))
  | leaf => leafText leaf

def prettyItems (level : Nat) : List Json → List Char
  | [] => indent level ++ [']']
  | item :: items =>
    ',' :: (indent (level + 1) ++ prettyText (level + 1) item ++ prettyItems level items)

def prettyMembers (level : Nat) : List (String × Json) → List Char
  | [] => indent level ++ ['\x7d']
  | (key, value) :: members =>
    ',' :: (indent (level + 1) ++ stringText key ++ ':' :: ' ' ::
      (prettyText (level + 1) value ++ prettyMembers level members))

end

def compact (j : Json) : String := String.ofList (compactText j)

def pretty (j : Json) : String := String.ofList (prettyText 0 j)

example : compact (.object [("a", .array [.integer 1, .real (.ofNat 2)]), ("b\n", .null)]) =
    "\x7b\"a\":[1,2.0],\"b\\n\":null\x7d" := by decide +kernel

example : pretty (.array [.array [], .bool true]) = "[\n  [],\n  true\n]" := by decide +kernel

end Conduit.Json
