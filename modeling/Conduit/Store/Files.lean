import Conduit.Entries
import Conduit.Text.Segments

/-!
# Files

A tree of text files. A place in the tree is a list of names from its top, and a directory is there
when it was made or when a file is in it. A written path is followed name by name, and every name
but the last has to lead to a directory.
-/

namespace Conduit

/-- Files and directories by their places. -/
structure Files where
  texts : List (List String × String)
  directories : List (List String)

namespace Files

/-- Why nothing is to be read or written at a path. -/
inductive Trouble where
  | notThere
  | notDirectory
  | isDirectory
  | nameTooLong
  /-- A name holds a zero character. -/
  | unfitName
  deriving DecidableEq

def Trouble.message : Trouble → String
  | notThere => "No such file or directory (os error 2)"
  | notDirectory => "Not a directory (os error 20)"
  | isDirectory => "Is a directory (os error 21)"
  | nameTooLong => "File name too long (os error 36)"
  | unfitName => "file name contained an unexpected NUL byte"

def empty : Files := ⟨[], []⟩

def text? (files : Files) (place : List String) : Option String :=
  (files.texts.find? fun f => f.1 == place).map Prod.snd

def isDirectory (files : Files) (place : List String) : Bool :=
  place.isEmpty || files.directories.contains place ||
    files.texts.any fun f => place.isPrefixOf f.1 && decide (place.length < f.1.length)

/-! ## Written paths -/

def isAbsolute (path : String) : Bool := path.toList.head? = some '/'

/-- The names of a path that say where it leads. -/
def names (path : String) : List String :=
  (Text.segments '/' path).filter fun s => s != "" && s != "."

/-- The path to what a second path leads to from the directory of the first. -/
def join (directory path : String) : String :=
  if isAbsolute path then path else directory ++ "/" ++ path

/-- Two paths are the same but for marks that lead nowhere. -/
def samePath (a b : String) : Bool := isAbsolute a == isAbsolute b && names a == names b

/-- The name stands for the directory that it is followed from, or for the one above. -/
def isStep (name : String) : Bool := name == "" || name == "." || name == ".."

def longestName : Nat := 255

def longestPath : Nat := 4095

def enter (files : Files) (here : List String) (name : String) : Except Trouble (List String) :=
  if name = ".." then .ok here.dropLast
  else if isStep name then .ok here
  else if longestName < name.utf8ByteSize then .error .nameTooLong
  else if files.isDirectory (here ++ [name]) then .ok (here ++ [name])
  else if (files.text? (here ++ [name])).isSome then .error .notDirectory
  else .error .notThere

def follow (files : Files) (here : List String) (names : List String) :
    Except Trouble (List String) :=
  names.foldlM files.enter here

def check (path : String) : Except Trouble Unit :=
  if path.toList.contains '\x00' then .error .unfitName
  else if path.isEmpty then .error .notThere
  else if longestPath < path.utf8ByteSize then .error .nameTooLong
  else .ok ()

/-- Where a path is followed from if it is written in a directory. -/
def origin (start : List String) (path : String) : List String :=
  if isAbsolute path then [] else start

def directory (files : Files) (start : List String) (path : String) :
    Except Trouble (List String) := do
  check path
  files.follow (origin start path) (Text.segments '/' path)

/-- The directory in which the last name of a path stands, and that name. -/
def parent (files : Files) (start : List String) (path : String) :
    Except Trouble (List String × String) := do
  check path
  let names := Text.segments '/' path
  let here ← files.follow (origin start path) names.dropLast
  .ok (here, names.getLast?.getD "")

/-! ## Reading and writing -/

def read (files : Files) (start : List String) (path : String) : Except Trouble String := do
  let (here, name) ← files.parent start path
  if isStep name then .error .isDirectory
  else if longestName < name.utf8ByteSize then .error .nameTooLong
  else if files.isDirectory (here ++ [name]) then .error .isDirectory
  else
    match files.text? (here ++ [name]) with
    | some text => .ok text
    | none => .error .notThere

def write (files : Files) (place : List String) (text : String) : Files :=
  { files with texts := files.texts.filter (fun f => f.1 != place) ++ [(place, text)] }

def withoutEnd (path : String) : String :=
  String.ofList (path.toList.reverse.dropWhile (· == '/')).reverse

/-- The place of the file that a path names, if it is there or can be made. A path with a slash at
its end names a directory. -/
def target (files : Files) (start : List String) (path : String) :
    Except Trouble (List String) := do
  check path
  let (here, name) ←
    if withoutEnd path = "" then .ok ([], "") else files.parent start (withoutEnd path)
  if isStep name ∨ withoutEnd path ≠ path then .error .isDirectory
  else if longestName < name.utf8ByteSize then .error .nameTooLong
  else if files.isDirectory (here ++ [name]) then .error .isDirectory
  else .ok (here ++ [name])

def save (files : Files) (start : List String) (path text : String) : Except Trouble Files :=
  (files.target start path).map fun place => files.write place text

def remove (files : Files) (place : List String) : Files :=
  { files with texts := files.texts.filter fun f => f.1 != place }

def list (files : Files) (directory : List String) : List String :=
  let below (place : List String) : Option String :=
    if directory.isPrefixOf place then (place.drop directory.length).head? else none
  ((files.texts.map Prod.fst ++ files.directories).filterMap below).eraseDups

end Files

/-- The part of a file's name behind its last point, if something stands before the point. -/
def extension? (name : String) : Option String :=
  match (Text.segments '.' name).reverse with
  | [] => none
  | [_] => none
  | [last, front] => if front.isEmpty then none else some last
  | last :: _ => some last

end Conduit
