import Conduit.Json.Basic
import Conduit.Number.Layout
import Conduit.Text.Quoted

/-!
# Faults of JSON texts and documents

A fault in a text has a position: a line, counted from one, and the number of bytes read of that
line. A document that does not fit what is wanted of it has a fault without a position.
-/

namespace Conduit.Json

open Number

/-- A place in a text. -/
structure Position where
  line : Nat
  column : Nat
  deriving DecidableEq

def Position.after (p : Position) (c : Char) : Position :=
  if c = '\n' then ⟨p.line + 1, 0⟩ else ⟨p.line, p.column + c.utf8Size⟩

/-- The place behind the first byte of a character. -/
def Position.touch (p : Position) (c : Char) : Position :=
  if c = '\n' then ⟨p.line + 1, 0⟩ else ⟨p.line, p.column + 1⟩

/-- The kind of a document that was found where another was wanted. -/
inductive Found where
  | null
  | bool (value : Bool)
  | integer (value : Int)
  | real (value : Binary64)
  | string (value : String)
  | sequence
  | map

def Found.text : Found → String
  | .null => "null"
  | .bool b => "boolean `" ++ toString b ++ "`"
  | .integer n => "integer `" ++ toString n ++ "`"
  | .real x => "floating point `" ++ Layout.document.render x ++ "`"
  | .string s => "string " ++ Text.quote s
  | .sequence => "sequence"
  | .map => "map"

def found : Json → Found
  | .null => .null
  | .bool b => .bool b
  | .integer n => .integer n
  | .real x => .real x
  | .string s => .string s
  | .array _ => .sequence
  | .object _ => .map

/-- Why a text or a document was refused. -/
inductive Cause where
  | endInValue
  | endInList
  | endInObject
  | endInString
  | wantedValue
  | wantedWord
  | wantedColon
  | wantedCommaOrBracket
  | wantedCommaOrBrace
  | trailingComma
  | trailingCharacters
  | keyNotString
  | badNumber
  | numberOutOfRange
  | badEscape
  | endOfHexEscape
  | loneSurrogate
  | controlCharacter
  | tooDeep
  | wrongType (found : Found) (wanted : String)
  | wrongValue (found : Found) (wanted : String)
  | wrongLength (length : Nat) (wanted : String)
  | missingField (name : String)
  | duplicateField (name : String)
  | unknownVariant (name : String) (known : List String)
  | other (text : String)

def Cause.message : Cause → String
  | endInValue => "EOF while parsing a value"
  | endInList => "EOF while parsing a list"
  | endInObject => "EOF while parsing an object"
  | endInString => "EOF while parsing a string"
  | wantedValue => "expected value"
  | wantedWord => "expected ident"
  | wantedColon => "expected `:`"
  | wantedCommaOrBracket => "expected `,` or `]`"
  | wantedCommaOrBrace => "expected `,` or `\x7d`"
  | trailingComma => "trailing comma"
  | trailingCharacters => "trailing characters"
  | keyNotString => "key must be a string"
  | badNumber => "invalid number"
  | numberOutOfRange => "number out of range"
  | badEscape => "invalid escape"
  | endOfHexEscape => "unexpected end of hex escape"
  | loneSurrogate => "lone leading surrogate in hex escape"
  | controlCharacter => "control character (\\u0000-\\u001F) found while parsing a string"
  | tooDeep => "recursion limit exceeded"
  | wrongType found wanted => "invalid type: " ++ found.text ++ ", expected " ++ wanted
  | wrongValue found wanted => "invalid value: " ++ found.text ++ ", expected " ++ wanted
  | wrongLength n wanted => "invalid length " ++ toString n ++ ", expected " ++ wanted
  | missingField name => "missing field `" ++ name ++ "`"
  | duplicateField name => "duplicate field `" ++ name ++ "`"
  | unknownVariant name known =>
    "unknown variant `" ++ name ++ "`, expected one of " ++
      String.intercalate ", " (known.map fun k => "`" ++ k ++ "`")
  | other text => text

/-- A cause and the place in the text at which it was found. -/
structure Fault where
  cause : Cause
  position : Position

def Fault.message (f : Fault) : String :=
  f.cause.message ++ " at line " ++ toString f.position.line ++
    " column " ++ toString f.position.column

/-- What is still to be read of a text, and where it starts. -/
structure Cursor where
  rest : List Char
  position : Position

namespace Cursor

def ofText (text : String) : Cursor := ⟨text.toList, ⟨1, 0⟩⟩

def fault (c : Cursor) (cause : Cause) : Fault := ⟨cause, c.position⟩

/-- A fault at the character after the cursor, whose first byte counts as read. -/
def faultAhead (c : Cursor) (cause : Cause) : Fault :=
  match c.rest with
  | [] => ⟨cause, c.position⟩
  | x :: _ => ⟨cause, c.position.touch x⟩

/-- The cursor behind `n` characters, each of one byte and none the end of a line. -/
def skip (c : Cursor) (n : Nat) : Cursor :=
  ⟨c.rest.drop n, ⟨c.position.line, c.position.column + n⟩⟩

def behind (c : Cursor) (front : List Char) : Cursor :=
  ⟨c.rest.drop front.length, front.foldl Position.after c.position⟩

def isSpace (x : Char) : Bool := x == ' ' || x == '\n' || x == '\t' || x == '\r'

def skipSpaces (c : Cursor) : Cursor := c.behind (c.rest.takeWhile isSpace)

end Cursor

/-- A reader takes the front of a text. -/
abbrev Reader (α : Type) := Cursor → Except Fault (α × Cursor)

end Conduit.Json
