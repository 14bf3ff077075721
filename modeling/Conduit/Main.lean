import Conduit.CommandLine.Program
import Conduit.Event.RunId

/-!
# The command

The outer layer of the command line: it reads the files that a command names, hands them to the
program, and prints, waits and writes as the report says.
-/

namespace Conduit.CommandLine

/-- The place of a written path in the tree, followed from the working directory. -/
def placeOf (start : List String) (path : String) : List String :=
  (Files.names path).foldl (fun p name => if name = ".." then p.dropLast else p ++ [name])
    (Files.origin start path)

def beginnings (path : String) : List String :=
  let names := Text.segments '/' path
  ((List.range names.length).map fun i => String.intercalate "/" (names.take (i + 1))).filter
    fun beginning => beginning != ""

def isDirectoryAt (path : String) : IO Bool := do
  let here ← IO.currentDir
  (here / path).isDir

/-- The tree with the directories on the way to a written path. -/
def addWay (start : List String) (files : Files) (path : String) : IO Files := do
  let there ← (beginnings path).filterM isDirectoryAt
  return { files with directories := there.map (placeOf start) ++ files.directories }

def loadFile (start : List String) (files : Files) (path : String) : IO Files := do
  let here ← IO.currentDir
  let files ← addWay start files path
  if ← isDirectoryAt path then return files
  try
    let text ← IO.FS.readFile (here / path)
    return files.write (placeOf start path) text
  catch _ => return files

def loadDirectory (start : List String) (files : Files) (path : String) : IO Files := do
  let here ← IO.currentDir
  let files ← loadFile start files path
  if ← isDirectoryAt path then
    let entries ← (here / path).readDir
    entries.foldlM (fun files entry => loadFile start files (Files.join path entry.fileName)) files
  else return files

/-- The tree with what a command reads, and the directories that it writes to. -/
def load (start : List String) (words : List String) : IO Files := do
  let files : Files := ⟨[], [start]⟩
  match Command.ofWords words with
  | .error _ => return files
  | .ok (.init output) => loadFile start files output
  | .ok command =>
    let files ← command.filePaths.foldlM (loadFile start) files
    command.directoryPaths.foldlM (loadDirectory start) files

def newRunId : IO RunId := do
  let digits ← (List.range 32).mapM fun i => do
    let n ← IO.rand 0 15
    return (Nat.digitChar (if i = 12 then 4 else if i = 16 then 8 + n % 4 else n))
  return RunId.ofDigits digits

def printAll : Nat → List (Nat × String) → IO Unit
  | _, [] => return
  | now, (time, line) :: rest => do
    if now < time then IO.sleep (UInt32.ofNat (time - now))
    IO.println line
    printAll (max now time) rest

def saveOutput (start : List String) (words : List String) (r : Report) : IO Unit := do
  match Command.ofWords words with
  | .ok (.init output) =>
    if r.exitCode = 0 then
      match r.files.text? (placeOf start output) with
      | some text => IO.FS.writeFile ((← IO.currentDir) / output) text
      | none => return
  | _ => return

end Conduit.CommandLine

open Conduit.CommandLine in
def main (words : List String) : IO UInt32 := do
  let start := Conduit.Files.names (← IO.currentDir).toString
  let r := report ⟨← load start words, start⟩ (← newRunId).text words
  saveOutput start words r
  printAll 0 r.printed
  r.errors.forM IO.eprintln
  return UInt32.ofNat r.exitCode
