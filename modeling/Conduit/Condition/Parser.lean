import Conduit.Condition.Basic
import Conduit.Text.Segments

/-!
# Parsing conditions

`or` binds weaker than `and`, both group to the left, and `not` applies to the whole comparison
after it. Comparisons do not chain. The level of conjunctions is built from that of single terms,
and the level of disjunctions from that of conjunctions.
-/

namespace Conduit.Condition

/-- What a parser leaves of the tokens. -/
abbrev Tokens := List Located

/-- A parser takes the front of the tokens. -/
abbrev Parser (α : Type) := Tokens → Except ParseError (α × Tokens)

/-- The offset of the first token that is left, or that of the last token of all. -/
def offsetAt (last : Nat) : Tokens → Nat
  | [] => last
  | t :: _ => t.offset

def splitPath (word : String) : List String := Text.segments '.' word

def wordOperand (word : String) : Operand :=
  if word = "true" then .literal (.bool true)
  else if word = "false" then .literal (.bool false)
  else if word = "null" then .literal .null
  else .path (splitPath word)

def parseOperand (last : Nat) : Parser Operand
  | [] => .error ⟨last, .unexpectedEnd⟩
  | ⟨offset, token⟩ :: rest =>
    match token with
    | .string s => .ok (.literal (.string s), rest)
    | .number x => .ok (.literal (.number x), rest)
    | .word w => .ok (wordOperand w, rest)
    | other => .error ⟨offset, .wantedValue other⟩

def parseComparison (last : Nat) (tokens : Tokens) : Except ParseError (Expr × Tokens) := do
  let (left, rest) ← parseOperand last tokens
  match rest with
  | ⟨_, .comparison c⟩ :: more =>
    let (right, rest) ← parseOperand last more
    .ok (.compare left c right, rest)
  | _ => .ok (.truthy left, rest)

/-- The further terms that follow a separator each, joined to the left. -/
def joinFrom (separator : Token) (join : Expr → Expr → Expr) (term : Parser Expr) :
    Nat → Expr → Parser Expr
  | 0, left, tokens => .ok (left, tokens)
  | fuel + 1, left, tokens =>
    match tokens with
    | [] => .ok (left, [])
    | t :: rest =>
      if t.token = separator then do
        let (right, rest) ← term rest
        joinFrom separator join term fuel (join left right) rest
      else .ok (left, t :: rest)

/-- Terms with separators between them. Every further term takes a separator, so the number of
tokens is fuel enough. -/
def joined (separator : Token) (join : Expr → Expr → Expr) (term : Parser Expr) : Parser Expr :=
  fun tokens => do
    let (left, rest) ← term tokens
    joinFrom separator join term rest.length left rest

def disjunction (term : Parser Expr) : Parser Expr :=
  joined .or .or (joined .and .and term)

/-- A negation, a condition in parentheses, a test for a path or a comparison. Every negation and
every parenthesis takes a token, so the number of tokens is depth enough. -/
def parseTerm (last : Nat) : Nat → Parser Expr
  | 0, tokens => parseComparison last tokens
  | depth + 1, tokens =>
    match tokens with
    | ⟨_, .not⟩ :: rest => do
      let (inner, rest) ← parseTerm last depth rest
      .ok (.not inner, rest)
    | ⟨_, .openParen⟩ :: rest => do
      let (inner, rest) ← disjunction (parseTerm last depth) rest
      match rest with
      | [] => .error ⟨last, .wantedClosing⟩
      | t :: rest =>
        if t.token = .closeParen then .ok (inner, rest)
        -- The token has been passed over, so that the one behind it is blamed.
        else .error ⟨offsetAt last rest, .wantedClosing⟩
    | ⟨offset, .word w⟩ :: rest =>
      if w = "exists" then
        match rest with
        | [] => .error ⟨last, .wantedPath⟩
        | ⟨_, .word path⟩ :: rest => .ok (.present (splitPath path), rest)
        | _ :: rest => .error ⟨offsetAt last rest, .wantedPath⟩
      else parseComparison last (⟨offset, .word w⟩ :: rest)
    | tokens => parseComparison last tokens

def parseTokens (tokens : Tokens) : Except ParseError Expr := do
  let last := (tokens.getLast?.map Located.offset).getD 0
  let (expr, rest) ← disjunction (parseTerm last tokens.length) tokens
  match rest with
  | [] => .ok expr
  | t :: _ => .error ⟨t.offset, .unexpectedToken t.token⟩

end Conduit.Condition

namespace Conduit

def Condition.parse (source : String) : Except Condition.ParseError Condition := do
  let tokens ← Condition.scan source
  .ok ⟨source, ← Condition.parseTokens tokens⟩

end Conduit
