import Conduit.Json.Fault
import Conduit.Text.Alphanumeric

/-!
# Strings of JSON texts

A string stands between quotes. A backslash starts an escape, of which `\u` gives a UTF-16 unit in
four hexadecimal digits. A character beyond the first plane is a pair of such units.
-/

namespace Conduit.Json

open Text

def hexValue? (c : Char) : Option Nat :=
  let n := c.toNat
  if isDigit c then some (n - 48)
  else if 97 ≤ n ∧ n ≤ 102 then some (n - 87)
  else if 65 ≤ n ∧ n ≤ 70 then some (n - 55)
  else none

/-- The front of a text that makes up a number of bytes or just goes beyond it, or nothing if the
text is shorter. -/
def frontOfBytes? : Nat → List Char → Option (List Char)
  | 0, _ => some []
  | _ + 1, [] => none
  | n + 1, c :: rest => (frontOfBytes? (n + 1 - c.utf8Size) rest).map (c :: ·)

def Position.afterBytes : Nat → Position → List Char → Position
  | 0, p, _ => p
  | _ + 1, p, [] => p
  | n + 1, p, c :: rest =>
    if c.utf8Size ≤ n + 1 then afterBytes (n + 1 - c.utf8Size) (p.after c) rest
    else ⟨p.line, p.column + n + 1⟩

def readHexFour (c : Cursor) : Except Fault (Nat × Cursor) :=
  match frontOfBytes? 4 c.rest with
  | none => .error ⟨.endInString, (c.behind c.rest).position⟩
  | some front =>
    match front.mapM hexValue? with
    | some values => .ok (values.foldl (fun n v => 16 * n + v) 0, c.skip 4)
    | none => .error ⟨.badEscape, c.position.afterBytes 4 c.rest⟩

/-- The cursor behind a wanted character of one byte inside a pair of units. -/
def pairMark (mark : Char) (c : Cursor) : Except Fault Cursor :=
  match c.rest with
  | [] => .error (c.fault .endInString)
  | x :: _ => if x = mark then .ok (c.skip 1) else .error (c.faultAhead .endOfHexEscape)

/-- The character of a `\u` escape, the cursor standing behind the letter. -/
def readUnicode (c : Cursor) : Except Fault (Char × Cursor) := do
  let (n, c) ← readHexFour c
  if 0xdc00 ≤ n ∧ n ≤ 0xdfff then .error (c.fault .loneSurrogate)
  else if n < 0xd800 ∨ 0xdbff < n then .ok (Char.ofNat n, c)
  else
    let c ← pairMark '\\' c
    let c ← pairMark 'u' c
    let (m, c) ← readHexFour c
    if m < 0xdc00 ∨ 0xdfff < m then .error (c.fault .loneSurrogate)
    else .ok (Char.ofNat ((n - 0xd800) * 0x400 + (m - 0xdc00) + 0x10000), c)

/-- The character that a letter behind a backslash stands for. -/
def escaped? (c : Char) : Option Char :=
  if c = '"' then some '"'
  else if c = '\\' then some '\\'
  else if c = '/' then some '/'
  else if c = 'b' then some '\x08'
  else if c = 'f' then some '\x0c'
  else if c = 'n' then some '\n'
  else if c = 'r' then some '\r'
  else if c = 't' then some '\t'
  else none

def readEscape (c : Cursor) : Except Fault (Char × Cursor) :=
  match c.rest with
  | [] => .error (c.fault .endInString)
  | x :: _ =>
    if x = 'u' then readUnicode (c.skip 1)
    else match escaped? x with
      | some y => .ok (y, c.skip 1)
      | none => .error (c.faultAhead .badEscape)

/-- The characters up to the closing quote. Every round takes a character, so the text itself is
fuel enough. -/
def readChars : List Char → Cursor → Except Fault (List Char × Cursor)
  | [], c => .error (c.fault .endInString)
  | _ :: fuel, c =>
    match c.rest with
    | [] => .error (c.fault .endInString)
    | x :: _ =>
      if x = '"' then .ok ([], c.skip 1)
      else if x = '\\' then do
        let (y, c) ← readEscape (c.skip 1)
        let (more, c) ← readChars fuel c
        .ok (y :: more, c)
      else if x.toNat < 32 then .error (c.faultAhead .controlCharacter)
      else do
        let (more, c) ← readChars fuel (c.behind [x])
        .ok (x :: more, c)

/-- The string that the cursor stands in, behind its opening quote. -/
def readString (c : Cursor) : Except Fault (String × Cursor) := do
  let (chars, c) ← readChars c.rest c
  .ok (String.ofList chars, c)

/-- Passes over an escape, the cursor standing behind the backslash. Units need not form pairs. -/
def skipEscape (c : Cursor) : Except Fault Cursor :=
  match c.rest with
  | [] => .error (c.fault .endInString)
  | x :: _ =>
    if x = 'u' then (readHexFour (c.skip 1)).map Prod.snd
    else match escaped? x with
      | some _ => .ok (c.skip 1)
      | none => .error (c.faultAhead .badEscape)

def skipChars : List Char → Cursor → Except Fault Cursor
  | [], c => .error (c.fault .endInString)
  | _ :: fuel, c =>
    match c.rest with
    | [] => .error (c.fault .endInString)
    | x :: _ =>
      if x = '"' then .ok (c.skip 1)
      else if x = '\\' then skipEscape (c.skip 1) >>= skipChars fuel
      -- The fault stands where the cursor is, not at the character ahead of it.
      else if x.toNat < 32 then .error (c.fault .controlCharacter)
      else skipChars fuel (c.behind [x])

def skipString (c : Cursor) : Except Fault Cursor := skipChars c.rest c

end Conduit.Json
