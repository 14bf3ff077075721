import Conduit.Context.Values

/-!
# Handles on contexts

A context is used through handles, and all handles of one context share its values, its extensions
and its token. A token is cancelled by itself or with the token that it is a child of. A sink keeps
what was sent to it until it is drained, and one that is closed accepts nothing more.
-/

namespace Conduit

/-- Whether a token was cancelled by itself, and the token that it is a child of. -/
structure Token where
  parent : Option Nat
  cancelled : Bool

/-- What is put into a context besides values. -/
inductive Extension where
  | sink (n : Nat)
  | text (s : String)

/-- What the handles of one context share. -/
structure Shared where
  values : Values
  extensions : Entries Extension
  token : Nat

instance : Inhabited Shared := ⟨⟨[], [], 0⟩⟩

structure Sink where
  accepting : Bool
  waiting : List Value

/-- The contexts with their handles, their tokens and the sinks, all by number. -/
structure Handles where
  contexts : List Shared
  /-- The context of every handle. -/
  handles : List Nat
  tokens : List Token
  sinks : List Sink

namespace Handles

def sinkKey : String := "sink"

def ofValues (values : Values) : Handles := ⟨[⟨values, [], 0⟩], [0], [⟨none, false⟩], []⟩

def place (d : Handles) (h : Nat) : Nat := d.handles.getD h 0

def get (d : Handles) (h : Nat) : Shared := d.contexts.getD (d.place h) default

def change (d : Handles) (h : Nat) (f : Shared → Shared) : Handles :=
  { d with contexts := d.contexts.modify (d.place h) f }

def setValues (d : Handles) (h : Nat) (f : Values → Values) : Handles :=
  d.change h fun x => { x with values := f x.values }

def addHandle (d : Handles) (place : Nat) : Handles × Nat :=
  ({ d with handles := d.handles ++ [place] }, d.handles.length)

def clone (d : Handles) (h : Nat) : Handles × Nat := d.addHandle (d.place h)

/-- A handle on a new context, whose token is a child of another or of none. -/
def addContext (d : Handles) (parent : Option Nat) : Handles × Nat :=
  let d := { d with
    contexts := d.contexts ++ [(⟨[], [], d.tokens.length⟩ : Shared)]
    tokens := d.tokens ++ [(⟨parent, false⟩ : Token)] }
  d.addHandle (d.contexts.length - 1)

def addChild (d : Handles) (h : Nat) : Handles × Nat := d.addContext (some (d.get h).token)

/-- The token is cancelled, by itself or with one that it descends from within so many steps. -/
def tokenCancelled (tokens : List Token) : Nat → Nat → Bool
  | 0, _ => false
  | steps + 1, n =>
    match tokens[n]? with
    | none => false
    | some t =>
      t.cancelled ||
        match t.parent with
        | some p => tokenCancelled tokens steps p
        | none => false

def isCancelled (d : Handles) (h : Nat) : Bool :=
  tokenCancelled d.tokens d.tokens.length (d.get h).token

def cancel (d : Handles) (h : Nat) : Handles :=
  { d with tokens := d.tokens.modify (d.get h).token fun t => { t with cancelled := true } }

/-! ## Extensions and sinks -/

def attach (d : Handles) (h : Nat) (key : String) (x : Extension) : Handles :=
  d.change h fun c => { c with extensions := c.extensions.insert key x }

def text? (d : Handles) (h : Nat) (key : String) : Option String :=
  match (d.get h).extensions.get? key with
  | some (.text s) => some s
  | _ => none

def sink? (d : Handles) (h : Nat) : Option Nat :=
  match (d.get h).extensions.get? sinkKey with
  | some (.sink n) => some n
  | _ => none

def attachSink (d : Handles) (h : Nat) : Handles × Nat :=
  let n := d.sinks.length
  ({ d with sinks := d.sinks ++ [(⟨true, []⟩ : Sink)] }.attach h sinkKey (.sink n), n)

/-- Sends a value to the sink of a handle's context, and tells whether it was accepted. -/
def send (d : Handles) (h : Nat) (v : Value) : Handles × Option Bool :=
  match d.sink? h with
  | none => (d, none)
  | some n =>
    let accepting := (d.sinks[n]?).any Sink.accepting
    if accepting then
      ({ d with sinks := d.sinks.modify n fun s => { s with waiting := s.waiting ++ [v] } },
        some true)
    else (d, some false)

def drain (d : Handles) (n : Nat) : Handles × List Value :=
  ({ d with sinks := d.sinks.modify n fun s => { s with waiting := [] } },
    ((d.sinks[n]?).map Sink.waiting).getD [])

def close (d : Handles) (n : Nat) : Handles :=
  { d with sinks := d.sinks.modify n fun s => { s with accepting := false } }

def shown (d : Handles) (h : Nat) : String :=
  "RunContext \x7b values: " ++ Value.shownEntries (d.get h).values ++
    ", cancelled: " ++ toString (d.isCancelled h) ++ " \x7d"

end Handles

end Conduit
