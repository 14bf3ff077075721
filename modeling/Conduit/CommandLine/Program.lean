import Conduit.CommandLine.Command
import Conduit.CommandLine.Report
import Conduit.Engine.Clock

/-!
# The program

A command works on a tree of files and prints what it does. Its waiting is told by the times of the
printed lines.
-/

namespace Conduit.CommandLine

open Json

/-- The files that a command works on, and the directory it is called in. -/
structure Place where
  files : Files
  start : List String

def readText (p : Place) (path : String) : Except String String :=
  (p.files.read p.start path).mapError Files.Trouble.message

def orFail {α ε : Type} (failure : ε → Failure) (outcome : Except ε α) : Printing α :=
  ExceptT.mk (pure (outcome.mapError failure))

def loadDefinition (p : Place) (path : String) : Printing Definition := do
  let text ←
    orFail (fun trouble => ⟨"reading pipeline " ++ path, some trouble, 1⟩) (readText p path)
  orFail (fun fault : Fault => ⟨"parsing pipeline " ++ path, some fault.message, 1⟩)
    (Definition.decoder.parse text)

def loadSettings (p : Place) : Option String → Printing Settings
  | none => return Settings.usual
  | some path => do
    let text ←
      orFail (fun trouble => ⟨"reading config " ++ path, some trouble, 1⟩) (readText p path)
    orFail (fun fault : Fault => ⟨fault.message, none, 1⟩) (Settings.decoder.parse text)

/-- The engine of the standard components, with prototypes from a file and pipelines from a
directory if they are given. -/
def buildEngine (p : Place) (sources : Sources) (settings : Settings) : Printing Engine := do
  let store : Store := match sources.pipelines with
    | none => .memory []
    | some path => .directory p.start path
  let engine := Engine.new settings Library.standard store p.files Http.unreachable
  let engine ← match sources.components with
    | none => pure engine
    | some path => do
      let (engine, outcome) := engine.reloadFile p.start path
      let count ← match outcome with
        | some outcome => orFail Failure.ofError outcome
        | none => throw (.brokenOff "the reload does not end")
      say ("📦 Loaded " ++ toString count ++ " component prototypes")
      pure engine
  -- The prototypes are loaded first, and their line is printed even if this fails.
  if settings.canBeMet then return engine
  else throw (.brokenOff "so many events cannot be kept")

def readInput : Option String → Except Failure Values
  | none => .ok []
  | some text =>
    match Json.parse text with
    | .error fault => .error ⟨fault.message, none, 1⟩
    | .ok (.object members) => .ok (Value.ofMembers members)
    | .ok _ => .error ⟨"Input must be a JSON object", none, 1⟩

/-! ## Running -/

/-- A run that is watched: the engine, how many events and values were told, and the lines. -/
structure Watch where
  engine : Engine
  told : Nat
  sent : Nat
  printed : List (Nat × String)

/-- The lines about the newest events of a list that starts with the newest, in order. -/
def newestLines : Nat → List Occurrence → List (Nat × String)
  | 0, _ => []
  | _, [] => []
  | n + 1, o :: earlier => newestLines n earlier ++ [(o.time, occurrenceLine earlier o)]

def Watch.look (w : Watch) (sink : Nat) : Watch :=
  let events := w.engine.world.events
  let values := (w.engine.sent sink).drop w.sent
  { w with
    told := events.length
    sent := w.sent + values.length
    printed := w.printed ++ newestLines (events.length - w.told) events ++
      values.map fun v => (w.engine.world.now, "  📨 " ++ v.toJson.compact) }

/-- The run is watched until it is over or the horizon is reached. -/
def Watch.follow (task sink : Nat) (horizon : Option Nat) : Nat → Watch → Watch
  | 0, w => w
  | fuel + 1, w =>
    -- Without a horizon the run is left as soon as it has ended.
    if horizon.isNone && (w.engine.ending? task).isSome then w
    else
      match w.engine.advance? horizon with
      | none => w
      | some engine => Watch.follow task sink horizon fuel ({ w with engine := engine }.look sink)

/-- How long a run that is over is still listened to. -/
def settlingMs : Nat := 100

def summary (runId : String) (o : RunOutcome) (values : Values) : List String :=
  ["", "📊 Run Summary:", "   Run ID: " ++ runId,
    "   Executed: " ++ String.intercalate " → " o.executed] ++
  (o.statuses.map fun (id, status) => "     " ++ id ++ ": " ++ status.name) ++
  ["", "📤 Context:"] ++ Text.segments '\n' values.toJson.pretty

def execute (engine : Engine) (d : Definition) (values : Values) (runId : String) :
    Printing Unit := do
  let (engine, sink) := engine.addSink
  let (engine, context) := engine.addContext values (some sink)
  let (engine, task) := engine.launch (.definition d) context
  let w := Watch.follow task sink none Engine.patience ⟨engine, 0, 0, []⟩
  let w := w.follow task sink (some (w.engine.world.now + settlingMs)) Engine.patience
  modify fun printed => printed ++ w.printed
  let values := (w.engine.context context).values
  match w.engine.ending? task with
  | none => throw (.brokenOff "the run does not end")
  | some (.brokenOff, _) => throw (.brokenOff "so many nodes cannot execute at a time")
  | some (.over result, time) =>
    let time := time + settlingMs
    match result with
    | .ok o => (summary runId o values).forM (sayAt time)
    | .error e => do
      match Entries.get? values Values.errorKey with
      | some v => sayAt time ("   Context error: " ++ v.toJson.compact)
      | none => pure ()
      throw (Failure.ofError e)

/-! ## Commands -/

def runPipeline (p : Place) (sources : Sources) (input config : Option String)
    (timeoutMs : Option Nat) (runId : String) : Printing Unit := do
  let settings ← loadSettings p config
  let settings := match timeoutMs with
    | some ms => { settings with timeoutMs := some ms }
    | none => settings
  say ("🚀 Loading pipeline from: " ++ sources.file)
  let d ← loadDefinition p sources.file
  say ("📋 Pipeline: " ++ d.name ++ " (" ++ d.id ++ ")")
  say ("   Nodes: " ++ toString d.nodes.length)
  say ""
  let engine ← buildEngine p sources settings
  let values ← orFail id (readInput input)
  execute engine d values runId

def validatePipeline (p : Place) (sources : Sources) : Printing Unit := do
  say ("🔍 Validating pipeline: " ++ sources.file)
  let d ← loadDefinition p sources.file
  let engine ← buildEngine p sources Settings.usual
  let graph ← match (engine.compile d).2 with
    | some outcome => orFail Failure.ofError outcome
    | none => throw (.brokenOff "the compilation does not end")
  say "✅ Pipeline is valid:"
  say ("   Name: " ++ d.name)
  say ("   Root: " ++ graph.root)
  say ("   Nodes: " ++ toString graph.nodes.length)

def listComponents : Printing Unit := do
  say "📦 Available Component Kinds:"
  say ""
  let (registry, _) := (Registry.ofFactories Library.standard).run 0
  registry.factories.forM fun (kind, f) => do
    say ("  • " ++ kind ++ " (" ++ f.category ++ ")")
    say ("    " ++ f.description)

/-- The pipeline to begin with: it sets a greeting, branches on it and logs the result. -/
def examplePipeline : Definition :=
  let node (id component : String) (parameter : Json) : NodeSpec :=
    { NodeSpec.new id with base := some component, parameter := parameter }
  let d : Definition := { Definition.new "example" with
    name := "Example Pipeline"
    description := some "Sets a greeting, branches on it and logs the result" }
  let d := d.addNode (node "greet" "context.set"
    (.object [("values", .object [("count", .integer 3), ("greeting", .string "hello")])]))
  let d := d.addNode (node "log" "debug.log"
    (.object [("keys", .array [.string "greeting"]), ("message", .string "Greeting set")]))
  let d := d.addNode (node "emit" "stream.emit" (.object [("key", .string "greeting")]))
  (d.connect "greet" "log").connectWhen "greet" "emit" "count > 2"

def writeExample (p : Place) (output : String) : Printing Files := do
  let text := examplePipeline.sheet.pretty
  let files ← orFail (fun t : Files.Trouble => ⟨t.message, none, 1⟩)
    (p.files.save p.start output text)
  say ("✨ Created example pipeline: " ++ output)
  say ""
  say "Run it with:"
  say ("  pipeline run --file " ++ output)
  return files

def carryOut (p : Place) (runId : String) : Command → Printing Files
  | .run sources input config timeoutMs => do
    runPipeline p sources input config timeoutMs runId
    return p.files
  | .validate sources => do
    validatePipeline p sources
    return p.files
  | .components => do
    listComponents
    return p.files
  | .init output => writeExample p output

/-- What a command line leaves. `runId` is what the reported run is called. -/
def report (p : Place) (runId : String) (words : List String) : Report :=
  match Command.ofWords words with
  | .error e => ⟨[], [e.message], 2, p.files⟩
  | .ok command =>
    match (carryOut p runId command).run.run [] with
    | (.ok files, printed) => ⟨printed, [], 0, files⟩
    | (.error failure, printed) => ⟨printed, failure.lines, failure.exitCode, p.files⟩

end Conduit.CommandLine
