import Conduit.Json.Reader

/-!
# Passing over documents

A member that nobody asks for is passed over without being kept. Its brackets are tracked in a
stack, so it may nest as deep as it likes.
-/

namespace Conduit.Json

open Text

/-- What an open bracket belongs to. -/
inductive Frame where
  | list
  | object

def Frame.closing : Frame → Char
  | .list => ']'
  | .object => '\x7d'

def Frame.unclosed : Frame → Cause
  | .list => .endInList
  | .object => .endInObject

/-- The cause when neither a comma nor the closing bracket follows an item. -/
def Frame.unseparated : Frame → Cause
  | .list => .wantedCommaOrBracket
  | .object => .wantedCommaOrBrace

/-- Passes over the brackets that close here and one comma. Leaves the frames that are still open,
innermost first. A comma is wanted only after an item. -/
def closeFrames : Bool → List Frame → Cursor → Except Fault (List Frame × Cursor)
  | _, [], c => .ok ([], c)
  | afterItem, frame :: outer, c =>
    let c := c.skipSpaces
    match c.rest with
    | [] => .error (c.fault frame.unclosed)
    | x :: _ =>
      if afterItem && x == ',' then .ok (frame :: outer, c.skip 1)
      else if x = frame.closing then closeFrames true outer (c.skip 1)
      else if afterItem then .error (c.faultAhead frame.unseparated)
      else .ok (frame :: outer, c)

def skipKey (c : Cursor) : Except Fault Cursor :=
  let c := c.skipSpaces
  match c.rest with
  | [] => .error (c.fault .endInObject)
  | x :: _ =>
    if x = '"' then skipString (c.skip 1) >>= readColon
    else .error (c.faultAhead .keyNotString)

def skipLeaf (c : Cursor) : Except Fault Cursor :=
  match c.rest with
  | [] => .error (c.fault .endInValue)
  | x :: _ =>
    if x = 'n' then readWord "ull".toList (c.skip 1)
    else if x = 't' then readWord "rue".toList (c.skip 1)
    else if x = 'f' then readWord "alse".toList (c.skip 1)
    else if x = '-' then skipNumeral (c.skip 1)
    else if isDigit x then skipNumeral c
    else if x = '"' then skipString (c.skip 1)
    else .error (c.faultAhead .wantedValue)

/-- Passes over one document and the rest of the open frames. Every round takes a character, so
the text itself is fuel enough. -/
def skipFrames : List Char → List Frame → Cursor → Except Fault Cursor
  | [], _, c => .error (c.fault .endInValue)
  | _ :: fuel, frames, c => do
    let c := c.skipSpaces
    let (frames, c) ← match c.rest with
      | '[' :: _ => closeFrames false (.list :: frames) (c.skip 1)
      | '\x7b' :: _ => closeFrames false (.object :: frames) (c.skip 1)
      | _ => do closeFrames true frames (← skipLeaf c)
    match frames with
    | [] => .ok c
    | .object :: _ => do skipFrames fuel frames (← skipKey c)
    | .list :: _ => skipFrames fuel frames c

def skipJson (c : Cursor) : Except Fault Cursor := skipFrames c.rest [] c

end Conduit.Json
