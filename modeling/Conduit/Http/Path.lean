import Conduit.Http.Percent
import Conduit.Text.Segments

/-!
# Paths of addresses

A path is built segment by segment. A segment of one dot stays where it is and one of two dots takes
the last segment away. The name of a drive, a letter with a colon behind it, is never taken away.
In an address of a file it can also be written with a bar, and the path has one slash at its start.
-/

namespace Conduit.Http.Path

open Text

/-- What follows a drive. -/
def driveEnds : List Char := ['/', '\\', '?', '#']

def startsWithDrive : List Char → Bool
  | c :: d :: rest =>
    isAsciiLetter c && (d == ':' || d == '|') && (rest.head?.map driveEnds.contains).getD true
  | _ => false

def isDrive (text : List Char) : Bool := text.length == 2 && startsWithDrive text

/-- The text is a drive, written with a colon. -/
def isPlainDrive (text : List Char) : Bool := isDrive text && text.getLast? == some ':'

def isUp (segment : List Char) : Bool :=
  ["..", ".%2e", "%2e.", "%2e%2e"].contains (String.ofList (segment.map Char.toLower))

def isHere (segment : List Char) : Bool :=
  [".", "%2e"].contains (String.ofList (segment.map Char.toLower))

def lastSegment (path : List Char) : List Char := (path.reverse.takeWhile (· != '/')).reverse

def upToLastSlash (path : List Char) : List Char :=
  path.take (path.length - (lastSegment path).length)

/-- The path without the slash at its end, if a segment that is no drive is before the slash. -/
def closed (path : List Char) : List Char :=
  let front := path.dropLast
  if path.getLast? = some '/' ∧ front.contains '/' ∧ !startsWithDrive (lastSegment front ++ ['/'])
  then front else path

def shortened (isFile : Bool) (path : List Char) : List Char :=
  if isFile && isPlainDrive (lastSegment path) then path else upToLastSlash path

def opened (path : List Char) : List Char :=
  if path.getLast? = some '/' then path else path ++ ['/']

/-- A path that is being built. -/
structure Building where
  path : List Char
  /-- The path of a file starts with a drive that was named in a segment. -/
  hasDrive : Bool

/-- Takes a segment in. All but the last are followed by a slash. -/
def Building.add (isFile : Bool) (b : Building) (segment : List Char) (isLast : Bool) : Building :=
  let slash := if isLast then [] else ['/']
  if isUp segment then
    let path := shortened isFile (closed b.path)
    { b with path := if isLast then path else opened path }
  else if isHere segment then { b with path := opened b.path }
  else if isFile && b.path == ['/'] && isDrive segment then
    ⟨b.path ++ segment.take 1 ++ [':'] ++ slash, true⟩
  else { b with path := b.path ++ segment ++ slash }

def Building.addAll (isFile : Bool) : Building → List (List Char) → Building
  | b, [] => b
  | b, [s] => b.add isFile s true
  | b, s :: rest => (b.add isFile s false).addAll isFile rest

/-- The path of a file has one slash at its start. -/
def oneSlash (path : List Char) : List Char := '/' :: path.dropWhile (· == '/')

/-- The path that a text behind a beginning writes. `isSpecial` addresses take a backslash for a
slash. -/
def read (isFile isSpecial : Bool) (others : List Char) (start text : List Char) : Building :=
  let text := if isSpecial then text.map fun c => if c = '\\' then '/' else c else text
  let b := Building.addAll isFile ⟨start, false⟩ ((segmentsOf '/' text).map (escape others))
  if isFile then { b with path := oneSlash b.path } else b

example : (read false true [] ['/'] "a/./b/../c".toList).path = "/a/c".toList := by decide +kernel

example : (read true true [] ['/'] "c|/../x".toList).path = "/c:/x".toList := by decide +kernel

end Conduit.Http.Path
