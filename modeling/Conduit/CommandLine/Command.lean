import Conduit.Entries
import Conduit.Value

/-!
# Commands

The words of a command line, read as a command with its options. An option is written `--name
value`, `--name=value`, `-n value` or `-nvalue`, and no option is given twice. The word `--` ends
the options, and nothing may follow it.
-/

namespace Conduit.CommandLine

/-- What is wrong with a command line. -/
inductive UsageError where
  | noCommand
  | unknownCommand (word : String)
  | unexpected (word : String)
  | missingValue (option : String)
  | missingOption (option : String)
  | repeated (option : String)
  | badValue (option value : String)

def UsageError.message : UsageError → String
  | noCommand => "error: a command is required: run, validate, components or init"
  | unknownCommand word => "error: unrecognized subcommand '" ++ word ++ "'"
  | unexpected word => "error: unexpected argument '" ++ word ++ "' found"
  | missingValue option => "error: a value is required for '--" ++ option ++ "'"
  | missingOption option => "error: '--" ++ option ++ "' is required"
  | repeated option => "error: the argument '--" ++ option ++ "' cannot be used multiple times"
  | badValue option value => "error: invalid value '" ++ value ++ "' for '--" ++ option ++ "'"

/-- An option: its name, its letter if it has one, and whether a value follows. -/
structure Flag where
  name : String
  letter : Option Char
  takesValue : Bool

/-- The options that a word gives, and the name of one whose value is the next word. -/
abbrev Given := List (String × String) × Option String

def readLetters (flags : List Flag) (word : String) : List Char → Except UsageError Given
  | [] => .ok ([], none)
  | c :: rest =>
    match flags.find? fun f => f.letter == some c with
    | none => .error (.unexpected word)
    | some f =>
      if !f.takesValue then
        (readLetters flags word rest).map fun (given, next) => ((f.name, "") :: given, next)
      else
        match rest with
        -- The value is the rest of the word, or the next word if nothing is left.
        | [] => .ok ([], some f.name)
        | '=' :: value => .ok ([(f.name, String.ofList value)], none)
        | value => .ok ([(f.name, String.ofList value)], none)

def readName (flags : List Flag) (word : String) (text : List Char) : Except UsageError Given :=
  let name := String.ofList (text.takeWhile (· != '='))
  let tail := text.dropWhile (· != '=')
  match flags.find? fun f => f.name == name with
  | none => .error (.unexpected word)
  | some f =>
    match f.takesValue, tail with
    | true, [] => .ok ([], some name)
    | true, _ :: value => .ok ([(name, String.ofList value)], none)
    | false, [] => .ok ([(name, "")], none)
    | false, _ :: _ => .error (.unexpected word)

def readWord (flags : List Flag) (word : String) : Except UsageError Given :=
  match word.toList with
  | '-' :: '-' :: text => readName flags word text
  | '-' :: c :: rest => readLetters flags word (c :: rest)
  | _ => .error (.unexpected word)

def isValue (word : String) : Bool := !(word.toList.head? == some '-' && decide (1 < word.length))

def readRest : List String → Except UsageError (List (String × String))
  | [] => .ok []
  | word :: _ => .error (.unexpected word)

/-- The options of the words, after one whose value comes first. -/
def readWords (flags : List Flag) :
    Option String → List String → Except UsageError (List (String × String))
  | none, [] => .ok []
  | none, "--" :: rest => readRest rest
  | some name, [] => .error (.missingValue name)
  | some name, value :: rest =>
    if isValue value then (readWords flags none rest).map fun given => (name, value) :: given
    else .error (.missingValue name)
  | none, word :: rest => do
    let (given, next) ← readWord flags word
    let more ← readWords flags next rest
    .ok (given ++ more)

/-- Where a pipeline, its prototypes and the pipelines nested in it are read from. -/
structure Sources where
  file : String
  components : Option String
  pipelines : Option String

inductive Command where
  | run (sources : Sources) (input config : Option String) (timeoutMs : Option Nat)
  | validate (sources : Sources)
  | components
  | init (output : String)

def sourceFlags : List Flag :=
  [⟨"file", some 'f', true⟩, ⟨"components", some 'c', true⟩, ⟨"pipelines", some 'p', true⟩]

def runFlags : List Flag :=
  sourceFlags ++
    [⟨"input", some 'i', true⟩, ⟨"config", none, true⟩, ⟨"timeout-ms", none, true⟩,
      ⟨"verbose", some 'v', false⟩]

def outputFlags : List Flag := [⟨"output", some 'o', true⟩]

def pathOptions : List String := ["file", "components", "pipelines", "config", "output"]

def checkPaths (given : List (String × String)) : Except UsageError Unit :=
  match given.find? fun g => g.2.isEmpty && pathOptions.contains g.1 with
  | some (name, _) => .error (.missingValue name)
  | none => .ok ()

def firstTwice? : List (String × String) → Option String
  | [] => none
  | (name, _) :: rest => if (rest.lookup name).isSome then some name else firstTwice? rest

def readOptions (flags : List Flag) (words : List String) :
    Except UsageError (List (String × String)) := do
  let given ← readWords flags none words
  match firstTwice? given with
  | some name => .error (.repeated name)
  | none => do
    checkPaths given
    .ok given

def readSources (given : List (String × String)) : Except UsageError Sources :=
  match given.lookup "file" with
  | none => .error (.missingOption "file")
  | some file => .ok ⟨file, given.lookup "components", given.lookup "pipelines"⟩

def readTimeout (given : List (String × String)) : Except UsageError (Option Nat) :=
  match given.lookup "timeout-ms" with
  | none => .ok none
  | some value =>
    match readIndex? value with
    | some n => .ok (some n)
    | none => .error (.badValue "timeout-ms" value)

def Command.ofWords : List String → Except UsageError Command
  | [] => .error .noCommand
  | "run" :: rest => do
    let given ← readOptions runFlags rest
    let timeout ← readTimeout given
    .ok (.run (← readSources given) (given.lookup "input") (given.lookup "config") timeout)
  | "validate" :: rest => do .ok (.validate (← readSources (← readOptions sourceFlags rest)))
  | "components" :: rest => do
    let _ ← readOptions [] rest
    .ok .components
  | "init" :: rest => do
    let given ← readOptions outputFlags rest
    .ok (.init ((given.lookup "output").getD "pipeline.json"))
  | word :: _ => .error (.unknownCommand word)

def Command.filePaths : Command → List String
  | .run s _ config _ => s.file :: (s.components.toList ++ config.toList)
  | .validate s => s.file :: s.components.toList
  | _ => []

def Command.directoryPaths : Command → List String
  | .run s _ _ _ => s.pipelines.toList
  | .validate s => s.pipelines.toList
  | _ => []

end Conduit.CommandLine
