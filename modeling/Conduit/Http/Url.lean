import Conduit.Http.Host
import Conduit.Http.Path

/-!
# Addresses

An address is read into its parts and written in its normal form: the scheme and the host in
lowercase, no number behind the host that goes without saying, dots in the path worked off and all
that may not stand for itself in percent form. The well-known schemes take a backslash for a slash
and need a host, but for the one of files.
-/

namespace Conduit.Http

open Text

/-- Who calls and where: what stands between the two slashes and the path of an address. -/
structure Authority where
  user : List Char
  password : Option (List Char)
  /-- The host, which is empty if there is none. -/
  host : List Char
  /-- The number behind the host, if it does not go without saying. -/
  number : Option Nat

/-- An address in its parts. -/
structure Url where
  scheme : String
  authority : Option Authority
  path : List Char
  query : Option (List Char)
  fragment : Option (List Char)

namespace Url

def specialSchemes : List (String × Option Nat) :=
  [("http", some 80), ("https", some 443), ("ws", some 80), ("wss", some 443), ("ftp", some 21),
    ("file", none)]

def isSpecial (scheme : String) : Bool := specialSchemes.any fun s => s.1 == scheme

/-- The number that goes without saying. -/
def usualNumber? (scheme : String) : Option Nat :=
  (specialSchemes.find? fun s => s.1 == scheme).bind Prod.snd

/-! ## What may not stand for itself -/

def fragmentOthers : List Char := [' ', '"', '<', '>', '`']

def pathOthers : List Char := fragmentOthers ++ ['#', '?', '\x7b', '\x7d']

def userOthers : List Char := pathOthers ++ "/:;=@[\\]^|".toList

def queryOthers (special : Bool) : List Char :=
  [' ', '"', '#', '<', '>'] ++ if special then ['\''] else []

/-! ## Reading -/

def upTo (ends : List Char) (text : List Char) : List Char :=
  text.takeWhile fun c => !ends.contains c

def splitScheme? (text : List Char) : Option (String × List Char) :=
  let name := text.takeWhile fun x => isAsciiLetter x || isDigit x || "+-.".toList.contains x
  if (text.head?.map isAsciiLetter).getD false && (text.drop name.length).head? == some ':' then
    some (String.ofList (name.map Char.toLower), text.drop (name.length + 1))
  else none

def splitAt (c : Char) (text : List Char) : List Char × Option (List Char) :=
  let front := upTo [c] text
  match text.drop front.length with
  | [] => (front, none)
  | _ :: back => (front, some back)

def authorityEnds (special : Bool) : List Char := if special then ['/', '\\'] else ['/']

/-- The user and the password before the last `@` of an authority, and the text behind it. `isAlone`
says that nothing follows the authority. An `@` with nothing before it is passed over, but not if
nothing is between it and the path. -/
def readUser (special isAlone : Bool) (text : List Char) :
    Except UrlError (List Char × Option (List Char) × List Char) :=
  let authority := upTo (authorityEnds special) text
  match (segmentsOf '@' authority).reverse with
  | last :: front :: more =>
    -- Only the last of several `@` ends the user.
    let named := ['@'].intercalate (front :: more).reverse
    let rest := text.drop (named.length + 1)
    if named.isEmpty then
      if last.isEmpty ∧ !(isAlone && rest.isEmpty) then .error .emptyHost else .ok ([], none, rest)
    else
      let (user, password) := splitAt ':' named
      .ok (escape userOthers user, (password.filter (· ≠ [])).map (escape userOthers), rest)
  | _ => .ok ([], none, text)

/-- The text up to a colon outside of brackets or to the end of the authority. -/
def hostText (special : Bool) : Bool → List Char → List Char
  | _, [] => []
  | inside, c :: rest =>
    if (authorityEnds special).contains c ∨ c = ':' ∧ !inside then []
    else c :: hostText special (c == '[' || inside && c != ']') rest

/-- The host of an address whose scheme is not well-known. -/
def readOpaqueHost (text : List Char) : Except UrlError (List Char) :=
  if text.head? = some '[' then readGroups (text.drop 1)
  else if text.any fun c => "\x00\t\n\r #/:<>?@[\\]^|".toList.contains c then
    .error .invalidDomainCharacter
  else .ok (escape [] text)

def largestNumber : Nat := 65535

/-- The number behind the colon of a host, none if it is the usual one or left out, and the text
behind it. -/
def readNumber (usual : Option Nat) (text : List Char) :
    Except UrlError (Option Nat × List Char) :=
  match text with
  | ':' :: text =>
    let digits := text.takeWhile isDigit
    let rest := text.drop digits.length
    if largestNumber < digitsValue digits ∨ !(rest.head?.map ['/', '\\'].contains).getD true then
      .error .invalidNumber
    -- The number that is usual for the scheme is not written.
    else if digits.isEmpty ∨ usual = some (digitsValue digits) then .ok (none, rest)
    else .ok (some (digitsValue digits), rest)
  | _ => .ok (none, text)

def readAuthority (scheme : String) (isAlone : Bool) (text : List Char) :
    Except UrlError (Authority × List Char) := do
  let special := isSpecial scheme
  let (user, password, text) ← readUser special isAlone text
  let written := hostText special false text
  let rest := text.drop written.length
  if written.isEmpty ∧ (special ∨ rest.head? = some ':') then .error .emptyHost
  else
    let host ← if special then readHost written else readOpaqueHost written
    let (number, rest) ← readNumber (usualNumber? scheme) rest
    if host.isEmpty ∧ (user ≠ [] ∨ password.isSome) then .error .emptyHost
    else .ok (⟨user, password, host, number⟩, rest)

def readPath (special : Bool) (text : List Char) : List Char :=
  if text.isEmpty ∧ !special then []
  else
    let isSlash := (text.head?.map (authorityEnds special).contains).getD false
    (Path.read false special pathOthers ['/'] (text.drop (if isSlash then 1 else 0))).path

/-- The host and the path of an address of a file. The host of this computer is left out, and any
host in front of a drive. -/
def readFile (text : List Char) : Except UrlError (List Char × List Char) := do
  let isSlash (c : Char) : Bool := c == '/' || c == '\\'
  let read (start text : List Char) : Path.Building := Path.read true true pathOthers start text
  if (text.take 2).length = 2 ∧ (text.take 2).all isSlash then
    let text := text.drop 2
    let written := upTo (authorityEnds true) text
    -- A drive in the place of the host belongs to the path.
    if written.isEmpty ∨ Path.isDrive written then .ok ([], (read ['/'] text).path)
    else
      let host ← readHost written
      let rest := text.drop written.length
      if host = "localhost".toList then .ok ([], (read ['/'] rest).path)
      else
        let b := read ['/'] (rest.drop 1)
        .ok (if b.hasDrive then [] else host, b.path)
  else if (text.head?.map isSlash).getD false then .ok ([], (read [] text).path)
  else .ok ([], (read ['/'] text).path)

def readBody (scheme : String) (isAlone : Bool) (text : List Char) :
    Except UrlError (Option Authority × List Char) := do
  if scheme = "file" then
    let (host, path) ← readFile text
    .ok (some ⟨[], none, host, none⟩, path)
  -- Before a host of a well-known scheme there may be any number of slashes.
  else if isSpecial scheme then
    let (authority, rest) ←
      readAuthority scheme isAlone (text.dropWhile fun c => c == '/' || c == '\\')
    .ok (some authority, readPath true rest)
  else
    match text with
    | '/' :: '/' :: text =>
      let (authority, rest) ← readAuthority scheme isAlone text
      .ok (some authority, readPath false rest)
    | '/' :: _ => .ok (none, readPath false text)
    | _ => .ok (none, escape [] text)

/-- The text without controls and blanks at its ends, and without tabs and ends of lines inside. -/
def cleaned (text : List Char) : List Char :=
  let isOuter (c : Char) : Bool := decide (c.toNat ≤ 32)
  ((text.dropWhile isOuter).reverse.dropWhile isOuter).reverse.filter fun c =>
    c != '\t' && c != '\n' && c != '\r'

def read (text : String) : Except UrlError Url :=
  match splitScheme? (cleaned text.toList) with
  | none => .error .relative
  | some (scheme, rest) => do
    let (front, fragment) := splitAt '#' rest
    let (body, query) := splitAt '?' front
    let (authority, path) ← readBody scheme (query.isNone && fragment.isNone) body
    .ok {
      scheme := scheme
      authority := authority
      path := path
      query := query.map (escape (queryOthers (isSpecial scheme)))
      fragment := fragment.map (escape fragmentOthers) }

/-! ## Writing -/

def hasHost (u : Url) : Bool := u.authority.any fun a => !a.host.isEmpty

def userText (a : Authority) : List Char :=
  match a.password with
  | some password => a.user ++ ':' :: password ++ ['@']
  | none => if a.user.isEmpty then [] else a.user ++ ['@']

def numberText (a : Authority) : List Char :=
  match a.number with
  | some n => ':' :: Nat.toDigits 10 n
  | none => []

/-- The authority with its two slashes. In an address without one, a path with two slashes at its
start is kept apart from the scheme by a dot. -/
def authorityText (u : Url) : List Char :=
  match u.authority with
  | some a => ['/', '/'] ++ userText a ++ a.host ++ numberText a
  | none => if "//".toList.isPrefixOf u.path then ['/', '.'] else []

def marked (sign : Char) : Option (List Char) → List Char
  | some text => sign :: text
  | none => []

def text (u : Url) : String :=
  u.scheme ++ ":" ++
    String.ofList (authorityText u ++ u.path ++ marked '?' u.query ++ marked '#' u.fragment)

def withoutUser (u : Url) : Url :=
  { u with authority := u.authority.map fun a => { a with user := [], password := none } }

end Url

end Conduit.Http
