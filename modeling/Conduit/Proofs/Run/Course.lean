import Conduit.Run.Step

/-!
# Courses

The course of a world is everything that happened in it since a run was launched: which task went on
in which world, when time passed and when a context was cancelled. The order in which ready tasks go
on is left open, so a statement about all courses is one about all schedules. What a step does to
the runs is told by its deeds.
-/

namespace Conduit

/-! ## Deeds -/

/-- A change of a context key by an execution. -/
inductive Touch where
  | write (key : String) (value : Value)
  | erase (key : String)

/-- What was done to a run in a step. -/
inductive Deed where
  /-- The condition of an edge was evaluated. -/
  | asked (run : Nat) (source target : String)
  /-- An arrival over an edge was counted at the target's gate. -/
  | delivered (run : Nat) (source target : String) (live : Bool)
  /-- An execution went on until it ended with a result or had to wait, and touched keys in this
  order. -/
  | performed (run : Nat) (node : String) (touches : List Touch) (result : Option Result)
  /-- A node failed for a reason of its own. -/
  | failed (run : Nat) (node : String) (error : PipelineError)
  | concluded (run : Nat) (result : RunResult)

/-- The keys that an execution touches until it ends or has to wait. -/
def Activity.touches (network : Http.Network) : Activity → Scene → List Touch
  | .finish _, _ => []
  | .look next, s => (next s.values).touches network s
  | .write key value next, s =>
    .write key value :: next.touches network { s with values := s.values.set key value }
  | .erase key next, s =>
    .erase key :: next.touches network { s with values := Entries.erase s.values key }
  | .cancel next, s => next.touches network { s with cancelled := true }
  | .emit value next, s => next.touches network { s with emitted := s.emitted ++ [value] }
  | .note n next, s => next.touches network { s with notes := s.notes ++ [n] }
  | .pause ms next stopped, s =>
    if s.cancelled then stopped.touches network s
    else if ms = 0 then next.touches network s
    else []
  | .send request next stopped, s =>
    if s.cancelled then stopped.touches network s
    else
      match Http.exchange network request with
      | (0, reply) => (next reply).touches network s
      | (_ + 1, _) => []

/-- How far an execution goes on at once: the keys it touches, the scene it leaves, and whether it ends
or has to wait. -/
inductive Activity.Bursts (network : Http.Network) :
    Activity → Scene → List Touch → Scene → Pending → Prop where
  | finish (result : Result) (s : Scene) : Bursts network (.finish result) s [] s (.finished result)
  | look {next : Values → Activity} {s s' : Scene} {ts : List Touch} {p : Pending}
      (rest : Bursts network (next s.values) s ts s' p) : Bursts network (.look next) s ts s' p
  | write {key : String} {value : Value} {next : Activity} {s s' : Scene} {ts : List Touch}
      {p : Pending} (rest : Bursts network next { s with values := s.values.set key value } ts s' p) :
      Bursts network (.write key value next) s (.write key value :: ts) s' p
  | erase {key : String} {next : Activity} {s s' : Scene} {ts : List Touch} {p : Pending}
      (rest : Bursts network next { s with values := Entries.erase s.values key } ts s' p) :
      Bursts network (.erase key next) s (.erase key :: ts) s' p
  | cancel {next : Activity} {s s' : Scene} {ts : List Touch} {p : Pending}
      (rest : Bursts network next { s with cancelled := true } ts s' p) :
      Bursts network (.cancel next) s ts s' p
  | emit {value : Value} {next : Activity} {s s' : Scene} {ts : List Touch} {p : Pending}
      (rest : Bursts network next { s with emitted := s.emitted ++ [value] } ts s' p) :
      Bursts network (.emit value next) s ts s' p
  | note {n : Note} {next : Activity} {s s' : Scene} {ts : List Touch} {p : Pending}
      (rest : Bursts network next { s with notes := s.notes ++ [n] } ts s' p) :
      Bursts network (.note n next) s ts s' p
  /-- A cancelled run waits for no pause. -/
  | cut {ms : Nat} {next stopped : Activity} {s s' : Scene} {ts : List Touch} {p : Pending}
      (rest : Bursts network stopped s ts s' p) : Bursts network (.pause ms next stopped) s ts s' p
  | pass {ms : Nat} {next stopped : Activity} {s s' : Scene} {ts : List Touch} {p : Pending}
      (rest : Bursts network next s ts s' p) : Bursts network (.pause ms next stopped) s ts s' p
  | pause {ms : Nat} {next stopped : Activity} {s : Scene} (goesOn : s.cancelled = false) :
      Bursts network (.pause ms next stopped) s [] s (.asleep (waitOf ms) next stopped)
  /-- Nor does it wait for a reply. -/
  | drop {request : Http.Request} {next : Http.Reply → Activity} {stopped : Activity} {s s' : Scene}
      {ts : List Touch} {p : Pending} (rest : Bursts network stopped s ts s' p) :
      Bursts network (.send request next stopped) s ts s' p
  | reply {request : Http.Request} {next : Http.Reply → Activity} {stopped : Activity} {s s' : Scene}
      {ts : List Touch} {p : Pending} (reply : Http.Reply)
      (rest : Bursts network (next reply) s ts s' p) :
      Bursts network (.send request next stopped) s ts s' p
  | send {request : Http.Request} {next : Http.Reply → Activity} {stopped : Activity} {s : Scene}
      (ms : Nat) (reply : Http.Reply) (goesOn : s.cancelled = false) :
      Bursts network (.send request next stopped) s [] s (.asleep ms (next reply) stopped)

theorem Activity.bursts (network : Http.Network) (a : Activity) (s : Scene) :
    a.Bursts network s (a.touches network s) (a.burst network s).1 (a.burst network s).2 := by
  induction a generalizing s with
  | finish result => exact .finish result s
  | look next ih => exact .look (ih _ s)
  | write key value next ih => exact .write (ih _)
  | erase key next ih => exact .erase (ih _)
  | cancel next ih => exact .cancel (ih _)
  | emit value next ih => exact .emit (ih _)
  | note n next ih => exact .note (ih _)
  | pause ms next stopped ihn ihs =>
    unfold touches burst
    split
    · exact .cut (ihs s)
    · next hc =>
      split
      · exact .pass (ihn s)
      · exact .pause (Bool.eq_false_iff.2 hc)
  | send request next stopped ihn ihs =>
    unfold touches burst
    split
    · exact .drop (ihs s)
    · next hc =>
      cases Http.exchange network request with
      | mk ms reply =>
        cases ms with
        | zero => exact .reply reply (ihn reply s)
        | succ ms => exact .send _ reply (Bool.eq_false_iff.2 hc)

theorem Activity.bursts_of_burst {network : Http.Network} {a : Activity} {s s' : Scene} {p : Pending}
    (h : a.burst network s = (s', p)) : a.Bursts network s (a.touches network s) s' p := by
  have hb := a.bursts network s
  rwa [h] at hb

def Pending.result? : Pending → Option Result
  | .finished result => some result
  | .asleep _ _ _ => none

namespace World

/-! ## The deeds of a step

They follow the functions of the same names, the newest deed first. -/

def sceneOf (w : World) (c : Nat) : Scene :=
  ⟨(w.contexts.get c).values, (w.contexts.get c).cancelled, [], []⟩

def completeDeeds (w : World) (r : Nat) (node : String) (result : Result) : List Deed :=
  let w := w.release r
  if (w.contextOf r).cancelled then []
  else
    match w.verdict r result with
    | .error e => [.failed r node (.componentExecution node e)]
    | .ok () => []

def performDeeds (w : World) (r : Nat) (node : String) (activity : Activity) : List Deed :=
  let c := (w.runs.get r).context
  let (scene, pending) := activity.burst w.network (w.sceneOf c)
  let ending := match pending with
    | .finished result => (w.apply c scene).completeDeeds r node result
    | .asleep _ _ _ => []
  ending ++ [.performed r node (activity.touches w.network (w.sceneOf c)) pending.result?]

def nestingDeeds (w : World) (t r : Nat) (node : String) (inner : Nat) : List Deed :=
  let c := (w.runs.get inner).context
  match w.isOver inner with
  | none => []
  | some cancelled =>
    let (w, result) := w.conclude inner cancelled
    let w := (w.leave c t).setValues c fun v => Entries.erase v Values.endKey
    w.completeDeeds r node (nestedResult (w.runs.get inner).graph.pipeline result) ++
      [.concluded inner result]

def startDeeds (w : World) (t r : Nat) (node : String) : List Deed :=
  if w.shouldStop r then []
  else
    match (w.runs.get r).graph.node? node with
    | none => []
    | some n =>
      match n.slot with
      | .unusable _ => []
      | .ready component _ =>
        let w := w.changeRun r fun run => run.setStatus node .running
        let w := w.emit r (.nodeStarted node n.componentId)
        match component with
        | .basic _ activity => w.performDeeds r node activity
        | .pipeline graph =>
          let run := w.runs.get r
          let inner := w.nextRun
          (w.begin graph run.context t run.limits).nestingDeeds t r node inner

def acquireDeeds (w : World) (t r : Nat) (node : String) : List Deed :=
  if 0 < (w.runs.get r).free then
    (w.changeRun r fun run => { run with free := run.free - 1 }).startDeeds t r node
  else []

def dispatchDeeds (w : World) (t r : Nat) (node : String) : List Deed :=
  if w.shouldStop r then []
  else
    match (w.runs.get r).graph.node? node with
    | none => [.failed r node (.graph (.nodeNotFound node))]
    | some n =>
      match n.slot with
      | .unusable reason => [.failed r node (.missingComponent node reason)]
      | .ready _ _ =>
        let limit := (w.runs.get r).limits.steps
        let w := w.changeRun r fun run => { run with steps := run.steps + 1 }
        if limit < (w.runs.get r).steps then [.failed r node (.stepLimitExceeded limit)]
        else w.acquireDeeds t r node

/-- The condition of an edge is evaluated for live arrivals only. -/
def askDeeds (r : Nat) (source : String) (edge : Edge) (live : Bool) : List Deed :=
  if live && edge.condition.isSome then [.asked r source edge.target] else []

def arriveDeeds (w : World) (t r : Nat) (source : String) (place : Nat) (live : Bool) :
    List Deed :=
  if w.shouldStop r then []
  else
    match (w.runs.get r).edge? source place with
    | none => []
    | some edge =>
      let target := edge.target
      match w.isLive r edge live with
      | .error e =>
        .failed r target (.conditionEval source target e.message) :: askDeeds r source edge live
      | .ok passed =>
        let (run, arrival) := (w.runs.get r).arriveAt target passed
        let w := w.changeRun r fun _ => run
        let counted := .delivered r source target passed :: askDeeds r source edge live
        match arrival with
        | none => askDeeds r source edge live
        | some .waiting => counted
        | some .fire => w.dispatchDeeds t r target ++ counted
        | some .skip => counted

def awaitingDeeds (w : World) (t r : Nat) (node : String) : List Deed :=
  let run := w.runs.get r
  if run.granted.contains t then
    let w := w.changeRun r fun run => { run with granted := run.granted.erase t }
    (w.leave run.context t).startDeeds t r node
  else []

def pausingDeeds (w : World) (t r : Nat) (node : String) (wakeAt : Nat)
    (next stopped : Activity) : List Deed :=
  let c := (w.runs.get r).context
  if wakeAt ≤ w.now then (w.leave c t).performDeeds r node next
  else if (w.contextOf r).cancelled then (w.leave c t).performDeeds r node stopped
  else []

def conductingDeeds (w : World) (r : Nat) (deadline : Option Nat) : List Deed :=
  let c := (w.runs.get r).context
  match w.isOver r with
  | some cancelled => [.concluded r (w.conclude r cancelled).2]
  | none =>
    if deadline.any fun d => decide (d ≤ w.now) then
      [.concluded r ((w.cancel c).conclude r true).2]
    else []

def pollDeeds (w : World) (t : Nat) : List Deed :=
  match w.tasks.get t with
  | .over => []
  | .launching => []
  | .conducting r deadline => w.conductingDeeds r deadline
  | .arriving r source edge live => w.arriveDeeds t r source edge live
  | .dispatched r node => w.dispatchDeeds t r node
  | .awaiting r node => w.awaitingDeeds t r node
  | .pausing r node wakeAt next stopped => w.pausingDeeds t r node wakeAt next stopped
  | .nesting r node inner => w.nestingDeeds t r node inner

end World

/-! ## Courses -/

/-- Something that can happen in a world. -/
inductive Act where
  /-- A task goes on. -/
  | step (task : Nat)
  /-- Time passes. -/
  | pass (ms : Nat)
  /-- Somebody cancels a context. -/
  | cancel (context : Nat)

namespace World

/-- Only a ready task can go on. -/
def Allows (w : World) : Act → Prop
  | .step t => t ∈ w.ready
  | .pass _ => True
  | .cancel _ => True

instance (w : World) : (a : Act) → Decidable (w.Allows a)
  | .step t => inferInstanceAs (Decidable (t ∈ w.ready))
  | .pass _ => inferInstanceAs (Decidable True)
  | .cancel _ => inferInstanceAs (Decidable True)

def act (w : World) : Act → World
  | .step t => w.step t
  | .pass ms => w.pass ms
  | .cancel c => w.cancel c

def deeds (w : World) : Act → List Deed
  | .step t => { w with ready := w.ready.erase t }.pollDeeds t
  | .pass _ => []
  | .cancel _ => []

theorem happens_iff {w w' : World} : Happens w w' ↔ ∃ a, w.Allows a ∧ w.act a = w' := by
  constructor
  · rintro (h | ms | c)
    · exact ⟨.step _, h, rfl⟩
    · exact ⟨.pass ms, trivial, rfl⟩
    · exact ⟨.cancel c, trivial, rfl⟩
  · rintro ⟨a, h, rfl⟩
    cases a with
    | step t => exact .step h
    | pass ms => exact .pass ms
    | cancel c => exact .cancel c

/-- Nothing is left to happen by itself: no task is ready, and none waits for a time. -/
def Quiet (w : World) : Prop := w.ready = [] ∧ w.timers = []

end World

/-- What happened since the first world, the newest first, with the worlds in which it did. -/
inductive Course (first : World) : List (World × Act) → World → Prop where
  | start : Course first [] first
  | next {past : List (World × Act)} {w : World} (a : Act) (before : Course first past w)
      (allowed : w.Allows a) : Course first ((w, a) :: past) (w.act a)

def deedsOf (past : List (World × Act)) : List Deed := past.flatMap fun p => p.1.deeds p.2

theorem Course.step {first : World} {past : List (World × Act)} {w : World}
    (before : Course first past w) (t : Nat) (ready : t ∈ w.ready) :
    Course first ((w, .step t) :: past) (w.step t) :=
  .next (.step t) before ready

theorem deedsOf_cons (w : World) (a : Act) (past : List (World × Act)) :
    deedsOf ((w, a) :: past) = w.deeds a ++ deedsOf past := rfl

/-! ## Launching -/

/-- What a run is launched with. -/
structure Launch where
  network : Http.Network
  values : Values
  /-- The context was cancelled before. -/
  cancelled : Bool
  sink : Option Nat
  graph : Graph Component
  limits : Limits
  timeout : Option Nat

namespace Launch

/-- A world with one context and one task that is about to run the graph in it. -/
def before (l : Launch) : World :=
  let w := World.new l.network
  { w with
    contexts := w.contexts.set 0 ⟨l.values, l.cancelled, [], l.sink⟩
    nextContext := 1 }.spawn .launching

def world (l : Launch) : World := (l.before.step 0).conduct 0 l.graph 0 l.limits l.timeout

/-- A run of so many permits at a time can be set up. -/
def Fits (l : Launch) : Prop := l.limits.parallel ≤ Limits.mostParallel

end Launch

end Conduit
