import Conduit.Number.Decimal
import Conduit.Number.Layout
import Conduit.Text.Alphanumeric
import Conduit.Text.Quoted

/-!
# Tokens of conditions

A condition is cut into words, strings, numbers, comparisons, connectives and parentheses, with
blanks between them. A token starts at a byte offset of the source.
-/

namespace Conduit.Condition

open Number Text

/-- A comparison of two operands. -/
inductive Comparison where
  | equal
  | unequal
  | less
  | lessEqual
  | greater
  | greaterEqual
  | contains
  deriving DecidableEq

def Comparison.shown : Comparison → String
  | equal => "Eq"
  | unequal => "Ne"
  | less => "Lt"
  | lessEqual => "Le"
  | greater => "Gt"
  | greaterEqual => "Ge"
  | contains => "Contains"

inductive Token where
  | word (text : String)
  | string (text : String)
  | number (value : Binary64)
  | openParen
  | closeParen
  | not
  | and
  | or
  | comparison (c : Comparison)
  deriving DecidableEq

def Token.shown : Token → String
  | word text => "Ident(" ++ quote text ++ ")"
  | string text => "Str(" ++ quote text ++ ")"
  | number x => "Num(" ++ Layout.literal.render x ++ ")"
  | openParen => "LParen"
  | closeParen => "RParen"
  | not => "Not"
  | and => "And"
  | or => "Or"
  | comparison c => "Op(" ++ c.shown ++ ")"

/-- Why a source is no condition. -/
inductive Reason where
  | emptyCondition
  | unterminatedString
  | invalidNumber (text : String)
  | unexpectedCharacter (c : Char)
  | unexpectedToken (t : Token)
  | wantedClosing
  | wantedPath
  | wantedValue (t : Token)
  | unexpectedEnd

def Reason.message : Reason → String
  | emptyCondition => "empty condition"
  | unterminatedString => "unterminated string"
  | invalidNumber text => "invalid number '" ++ text ++ "'"
  | unexpectedCharacter c => "unexpected character '" ++ c.toString ++ "'"
  | unexpectedToken t => "unexpected token " ++ t.shown
  | wantedClosing => "expected ')'"
  | wantedPath => "expected a path after 'exists'"
  | wantedValue t => "expected a value, found " ++ t.shown
  | unexpectedEnd => "unexpected end of condition"

/-- A reason and the byte offset it points at. -/
structure ParseError where
  offset : Nat
  reason : Reason

def ParseError.message (e : ParseError) : String :=
  "parse error at offset " ++ toString e.offset ++ ": " ++ e.reason.message

/-- A token and the byte offset it starts at. -/
structure Located where
  offset : Nat
  token : Token

def byteSize (text : List Char) : Nat := text.foldr (fun c n => c.utf8Size + n) 0

/-- A token and the characters of the source that it was read from. -/
structure Lexeme where
  token : Token
  source : List Char

def isWordChar (c : Char) : Bool := isAlphanumeric c || c == '_' || c == '.' || c == '-'

/-- A word of letters stands for a connective or a comparison, or for itself. -/
def wordToken (text : String) : Token :=
  if text = "contains" then .comparison .contains
  else if text = "and" then .and
  else if text = "or" then .or
  else if text = "not" then .not
  else .word text

/-- The text of a string up to the closing quote, and the characters it was read from with that
quote. A backslash makes the next character stand for itself. -/
def quotedText? (quote : Char) : List Char → Option (List Char × List Char)
  | [] => none
  -- A backslash at the very end escapes nothing.
  | [c] => if c = '\\' then none else if c = quote then some ([], [c]) else none
  | c :: x :: rest =>
    if c = '\\' then (quotedText? quote rest).map fun (t, s) => (x :: t, c :: x :: s)
    else if c = quote then some ([], [c])
    else (quotedText? quote (x :: rest)).map fun (t, s) => (c :: t, c :: s)

def lexeme (c : Char) (rest : List Char) : Except Reason Lexeme :=
  let next := rest.head?
  if c = '(' then .ok ⟨.openParen, [c]⟩
  else if c = ')' then .ok ⟨.closeParen, [c]⟩
  else if c = '&' ∧ next = some '&' then .ok ⟨.and, [c, '&']⟩
  else if c = '|' ∧ next = some '|' then .ok ⟨.or, [c, '|']⟩
  else if c = '=' ∧ next = some '=' then .ok ⟨.comparison .equal, [c, '=']⟩
  else if c = '!' then
    if next = some '=' then .ok ⟨.comparison .unequal, [c, '=']⟩ else .ok ⟨.not, [c]⟩
  else if c = '<' then
    if next = some '=' then .ok ⟨.comparison .lessEqual, [c, '=']⟩
    else .ok ⟨.comparison .less, [c]⟩
  else if c = '>' then
    if next = some '=' then .ok ⟨.comparison .greaterEqual, [c, '=']⟩
    else .ok ⟨.comparison .greater, [c]⟩
  else if c = '"' ∨ c = '\'' then
    match quotedText? c rest with
    | some (text, source) => .ok ⟨.string (String.ofList text), c :: source⟩
    | none => .error .unterminatedString
  -- A minus sign belongs to the digit behind it, and means nothing on its own.
  else if isDigit c ∨ (c = '-' ∧ next.any isDigit) then
    let source := c :: rest.takeWhile fun x => isDigit x || x == '.'
    match readDecimal? source with
    | some x => .ok ⟨.number x, source⟩
    | none => .error (.invalidNumber (String.ofList source))
  else if isAlphanumeric c ∨ c = '_' then
    let source := c :: rest.takeWhile isWordChar
    .ok ⟨wordToken (String.ofList source), source⟩
  else .error (.unexpectedCharacter c)

/-- The tokens of a text that starts at a byte offset. -/
def scanFrom (offset : Nat) (text : List Char) : Except ParseError (List Located) :=
  match text with
  | [] => .ok []
  | c :: rest =>
    if isBlank c then scanFrom (offset + c.utf8Size) rest
    else
      match lexeme c rest with
      | .error reason => .error ⟨offset, reason⟩
      | .ok l => do
        let more ← scanFrom (offset + byteSize l.source) (rest.drop (l.source.length - 1))
        .ok (⟨offset, l.token⟩ :: more)
termination_by text.length
decreasing_by
  · simp
  · simp only [List.length_drop, List.length_cons]; omega

def scan (source : String) : Except ParseError (List Located) := do
  let tokens ← scanFrom 0 source.toList
  if tokens.isEmpty then .error ⟨0, .emptyCondition⟩ else .ok tokens

end Conduit.Condition
