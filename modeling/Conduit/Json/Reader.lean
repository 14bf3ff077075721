import Conduit.Json.Numeral
import Conduit.Json.Quoted

/-!
# Reading JSON texts

The reader of one document, and the readers of sequences and members that every reader of a list or
an object is built from. Documents nest at most 127 levels deep.
-/

namespace Conduit.Json

open Text

def maxLevels : Nat := 127

/-! ## Words, numbers and strings -/

def readWord : List Char → Cursor → Except Fault Cursor
  | [], c => .ok c
  | w :: word, c =>
    match c.rest with
    | [] => .error (c.fault .endInValue)
    | x :: _ => if x = w then readWord word (c.skip 1) else .error (c.faultAhead .wantedWord)

/-- A document that is neither an array nor an object, the cursor standing on its first
character. -/
def readLeaf (c : Cursor) : Except Fault (Json × Cursor) :=
  match c.rest with
  | [] => .error (c.fault .endInValue)
  | x :: _ =>
    if x = 'n' then do .ok (.null, ← readWord "ull".toList (c.skip 1))
    else if x = 't' then do .ok (.bool true, ← readWord "rue".toList (c.skip 1))
    else if x = 'f' then do .ok (.bool false, ← readWord "alse".toList (c.skip 1))
    else if x = '-' then readNumeral true (c.skip 1)
    else if isDigit x then readNumeral false c
    else if x = '"' then do
      let (s, c) ← readString (c.skip 1)
      .ok (.string s, c)
    else .error (c.faultAhead .wantedValue)

/-! ## Sequences and members -/

/-- Another item of a list follows, and the cursor at it or at the closing bracket. -/
def itemFollows (first : Bool) (c : Cursor) : Except Fault (Bool × Cursor) :=
  let c := c.skipSpaces
  match c.rest with
  | [] => .error (c.fault .endInList)
  | x :: _ =>
    if x = ']' then .ok (false, c)
    else if first then .ok (true, c)
    else if x = ',' then
      let c := (c.skip 1).skipSpaces
      match c.rest with
      | [] => .error (c.fault .endInValue)
      | y :: _ => if y = ']' then .error (c.faultAhead .trailingComma) else .ok (true, c)
    else .error (c.faultAhead .wantedCommaOrBracket)

def memberFollows (first : Bool) (c : Cursor) : Except Fault (Bool × Cursor) :=
  let c := c.skipSpaces
  match c.rest with
  | [] => .error (c.fault .endInObject)
  | x :: _ =>
    if x = '\x7d' then .ok (false, c)
    else if first then
      if x = '"' then .ok (true, c) else .error (c.faultAhead .keyNotString)
    else if x = ',' then
      let c := (c.skip 1).skipSpaces
      match c.rest with
      | [] => .error (c.fault .endInValue)
      | y :: _ =>
        if y = '"' then .ok (true, c)
        else if y = '\x7d' then .error (c.faultAhead .trailingComma)
        else .error (c.faultAhead .keyNotString)
    else .error (c.faultAhead .wantedCommaOrBrace)

def readColon (c : Cursor) : Except Fault Cursor :=
  let c := c.skipSpaces
  match c.rest with
  | [] => .error (c.fault .endInObject)
  | x :: _ => if x = ':' then .ok (c.skip 1) else .error (c.faultAhead .wantedColon)

/-- The items up to the closing bracket. Every item takes a character, so the text itself is fuel
enough. -/
def readItemsFrom {α : Type} (read : Reader α) :
    List Char → Bool → Cursor → Except Fault (List α × Cursor)
  | [], _, c => .error (c.fault .endInList)
  | _ :: fuel, first, c => do
    let (more, c) ← itemFollows first c
    if more then
      let (item, c) ← read c
      let (items, c) ← readItemsFrom read fuel false c
      .ok (item :: items, c)
    else .ok ([], c.skip 1)

def readItems {α : Type} (read : Reader α) (c : Cursor) : Except Fault (List α × Cursor) :=
  readItemsFrom read c.rest true c

def readMembersFrom {α : Type} (read : Reader α) :
    List Char → Bool → Cursor → Except Fault (List (String × α) × Cursor)
  | [], _, c => .error (c.fault .endInObject)
  | _ :: fuel, first, c => do
    let (more, c) ← memberFollows first c
    if more then
      let (key, c) ← readString (c.skip 1)
      let c ← readColon c
      let (value, c) ← read c
      let (members, c) ← readMembersFrom read fuel false c
      .ok ((key, value) :: members, c)
    else .ok ([], c.skip 1)

/-- The members of an object in the order of the text, the cursor standing behind its opening
brace. -/
def readMembers {α : Type} (read : Reader α) (c : Cursor) :
    Except Fault (List (String × α) × Cursor) :=
  readMembersFrom read c.rest true c

/-! ## Documents -/

def readJson (levels : Nat) (c : Cursor) : Except Fault (Json × Cursor) :=
  let c := c.skipSpaces
  match c.rest with
  | '[' :: _ =>
    match levels with
    | 0 => .error (c.faultAhead .tooDeep)
    | n + 1 => do
      let (items, c) ← readItems (readJson n) (c.skip 1)
      .ok (.array items, c)
  | '\x7b' :: _ =>
    match levels with
    | 0 => .error (c.faultAhead .tooDeep)
    | n + 1 => do
      let (members, c) ← readMembers (readJson n) (c.skip 1)
      .ok (ofMembers members, c)
  | _ => readLeaf c

def atEnd (c : Cursor) : Except Fault Unit :=
  let c := c.skipSpaces
  if c.rest.isEmpty then .ok () else .error (c.faultAhead .trailingCharacters)

def readAll {α : Type} (read : Reader α) (text : String) : Except Fault α := do
  let (a, c) ← read (.ofText text)
  atEnd c
  .ok a

def parse (text : String) : Except Fault Json := readAll (readJson maxLevels) text

end Conduit.Json
