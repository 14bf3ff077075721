import Conduit.Http.Domain.Name
import Conduit.Http.Percent

/-!
# Hosts

The host of an address is a name, an address of four bytes or one of eight groups of sixteen bits in
brackets. A name whose last label is a number has to be an address of four bytes.
-/

namespace Conduit.Http

open Text

/-- Why a text is no address. -/
inductive UrlError where
  | emptyHost
  | invalidName
  | invalidNumber
  | invalidFourBytes
  | invalidGroups
  | invalidDomainCharacter
  | relative

def UrlError.message : UrlError → String
  | emptyHost => "empty host"
  | invalidName => "invalid international domain name"
  | invalidNumber => "invalid port number"
  | invalidFourBytes => "invalid IPv4 address"
  | invalidGroups => "invalid IPv6 address"
  | invalidDomainCharacter => "invalid domain character"
  | relative => "relative URL without a base"

/-! ## Addresses of four bytes -/

def digitsTo? (base : Nat) (digits : List Char) : Option Nat :=
  digits.foldl (fun n c => do
    let n ← n
    let v ← Json.hexValue? c
    if v < base then some (n * base + v) else none) (some 0)

/-- The number of a part in decimal, octal behind a zero or hexadecimal behind `0x`. -/
def partNumber? : List Char → Option Nat
  | [] => none
  | '0' :: 'x' :: digits => digitsTo? 16 digits
  | '0' :: 'X' :: digits => digitsTo? 16 digits
  | '0' :: d :: digits => digitsTo? 8 (d :: digits)
  | digits => digitsTo? 10 digits

/-- The labels of a name, without an empty one at its end. -/
def labels (name : List Char) : List (List Char) :=
  let parts := segmentsOf '.' name
  if 1 < parts.length ∧ parts.getLast? = some [] then parts.dropLast else parts

def endsInNumber (name : List Char) : Bool :=
  match (labels name).getLast? with
  | none => false
  | some [] => false
  | some label => label.all isDigit || (partNumber? label).isSome

/-- The address that a name of numbers writes. The last number fills all bytes that are left. -/
def fourBytes? (name : List Char) : Option Nat := do
  let numbers ← (labels name).mapM partNumber?
  let last ← numbers.getLast?
  let front := numbers.dropLast
  if 3 < front.length ∨ front.any (fun n => decide (255 < n)) ∨
      Nat.pow 256 (4 - front.length) ≤ last then
    none
  else
    some (front.zipIdx.foldl (fun sum n => sum + n.1 * Nat.pow 256 (3 - n.2)) last)

def fourBytesText (address : Nat) : List Char :=
  ['.'].intercalate ([3, 2, 1, 0].map fun i => Nat.toDigits 10 (address / Nat.pow 256 i % 256))

/-! ## Addresses of eight groups -/

/-- The groups of a text without an empty group. Four bytes with points at the end are two groups.
-/
def groups? (text : List Char) : Option (List Nat) :=
  if text.isEmpty then some []
  else
    let parts := segmentsOf ':' text
    let group? (part : List Char) : Option (List Nat) :=
      if part.isEmpty ∨ 4 < part.length then none else (digitsTo? 16 part).map fun n => [n]
    let last? (part : List Char) : Option (List Nat) :=
      if part.contains '.' then do
        let bytes ← (segmentsOf '.' part).mapM fun b =>
          if b.isEmpty ∨ 3 < b.length ∨ (1 < b.length ∧ b.head? = some '0') then none
          else digitsTo? 10 b
        match bytes with
        | [a, b, c, d] => if bytes.all (· < 256) then some [a * 256 + b, c * 256 + d] else none
        | _ => none
      else group? part
    do
      let front ← parts.dropLast.mapM group?
      let last ← last? (parts.getLastD [])
      some (front.flatten ++ last)

def splitGap : List Char → List Char × Option (List Char)
  | [] => ([], none)
  | ':' :: ':' :: rest => ([], some rest)
  | c :: rest =>
    let (before, gap) := splitGap rest
    (c :: before, gap)

/-- The eight groups of an address, in which a pair of colons stands for groups of zero. -/
def eightGroups? (text : List Char) : Option (List Nat) :=
  match splitGap text with
  | (all, none) => (groups? all).bind fun g => if g.length = 8 then some g else none
  | (before, some rest) => do
    -- Four bytes with points stand only at the end.
    let front ← if before.contains '.' then none else groups? before
    let back ← groups? rest
    let n := front.length + back.length
    if 7 < n then none else some (front ++ List.replicate (8 - n) 0 ++ back)

/-- The first longest run of zero groups, as where it starts and its length. -/
def longestGap (groups : List Nat) : Nat × Nat :=
  (List.range 8).foldl (fun best i =>
    let n := ((groups.drop i).takeWhile (· == 0)).length
    if best.2 < n then (i, n) else best) (0, 0)

/-- The groups in brackets, the first longest run of two zeros or more left out. -/
def groupsText (groups : List Nat) : List Char :=
  let join (g : List Nat) : List Char := [':'].intercalate (g.map (Nat.toDigits 16))
  let (start, n) := longestGap groups
  let inner :=
    if n < 2 then join groups
    else join (groups.take start) ++ [':', ':'] ++ join (groups.drop (start + n))
  '[' :: inner ++ [']']

/-! ## Hosts -/

def readGroups (text : List Char) : Except UrlError (List Char) :=
  match text.getLast?, eightGroups? text.dropLast with
  | some ']', some groups => .ok (groupsText groups)
  | _, _ => .error .invalidGroups

def readHost (text : List Char) : Except UrlError (List Char) :=
  if text.head? = some '[' then readGroups (text.drop 1)
  else
    match (unescape? text).bind Domain.asciiName? with
    | none => .error .invalidName
    | some [] => .error .emptyHost
    | some name =>
      if endsInNumber name then
        match fourBytes? name with
        | some address => .ok (fourBytesText address)
        | none => .error .invalidFourBytes
      else .ok name

end Conduit.Http
