import Conduit.Error
import Conduit.Event.Basic
import Conduit.Store.Files
import Conduit.Text.Segments

/-!
# Reports

What a command prints, line by line with the time of each, and how it ends.
-/

namespace Conduit.CommandLine

/-- Why a command failed, the cause of that if there is one to tell, and how it exits. -/
structure Failure where
  message : String
  cause : Option String
  exitCode : Nat := 1

namespace Failure

def ofError (e : PipelineError) : Failure := ⟨e.message, e.cause?, 1⟩

def brokenOff (message : String) : Failure := ⟨message, none, 101⟩

def lines (f : Failure) : List String :=
  Text.segments '\n' ("Error: " ++ f.message) ++
  match f.cause with
  | some cause => ["", "Caused by:"] ++ (Text.segments '\n' cause).map ("    " ++ ·)
  | none => []

end Failure

/-- What a command left: the printed lines with their times, the lines about errors, its exit code
and the files. -/
structure Report where
  printed : List (Nat × String)
  errors : List String
  exitCode : Nat
  files : Files

/-- Work that prints lines and can fail. What was printed before a failure stays. -/
abbrev Printing (α : Type) := ExceptT Failure (StateM (List (Nat × String))) α

def sayAt (time : Nat) (line : String) : Printing Unit :=
  modify fun printed => printed ++ [(time, line)]

def say (line : String) : Printing Unit := sayAt 0 line

/-- The time of an earlier occurrence in the same run, the newest of a list that starts with the
newest. -/
def timeOf (earlier : List Occurrence) (run : Nat) (isIt : Happening → Bool) : Nat :=
  match earlier.find? fun o => o.run == run && isIt o.happening with
  | some o => o.time
  | none => 0

def duration (earlier : List Occurrence) (o : Occurrence) : Nat :=
  match o.happening with
  | .runCompleted _ _ =>
    o.time - timeOf earlier o.run fun h =>
      match h with
      | .runStarted _ => true
      | _ => false
  | .nodeCompleted node =>
    o.time - timeOf earlier o.run fun h =>
      match h with
      | .nodeStarted other _ => other == node
      | _ => false
  | _ => 0

def occurrenceLine (earlier : List Occurrence) (o : Occurrence) : String :=
  let ms := toString (duration earlier o) ++ "ms"
  match o.happening with
  | .runStarted pipeline => "▶️  Run started: " ++ pipeline
  | .nodeStarted node component => "  ⚡ Starting node: " ++ node ++ " (" ++ component ++ ")"
  | .nodeCompleted node => "  ✅ Node " ++ node ++ " completed in " ++ ms
  | .nodeSkipped node => "  ⏭️  Node " ++ node ++ " skipped"
  | .nodeFailed node error => "  ❌ Node " ++ node ++ " failed: " ++ error
  | .runCompleted false _ => "💥 Run failed after " ++ ms
  | .runCompleted true true => "🏁 Run ended early after " ++ ms
  | .runCompleted true false => "✨ Run completed successfully in " ++ ms

end Conduit.CommandLine
