import Conduit.Json.Skipped

/-!
# Decoders

A decoder reads a type of its own from a document, or straight from a text. Both ways accept the
same documents, but a fault in a text has a position, and of two faults in one text the one that is
read first is reported.
-/

namespace Conduit.Json

open Text

/-- How a type is read from a document and from a text, the text with a bound on its levels. -/
structure Decoder (α : Type) where
  ofJson : Json → Except Cause α
  ofText : Nat → Reader α

namespace Decoder

variable {α β σ : Type}

/-- The fault of a document of the wrong type. What is neither an array nor an object is read
first. -/
def refuse (wanted : String) (c : Cursor) : Except Fault (α × Cursor) :=
  match c.rest with
  | '[' :: _ => .error (c.fault (.wrongType .sequence wanted))
  | '\x7b' :: _ => .error (c.fault (.wrongType .map wanted))
  | _ => do
    let (j, c) ← readLeaf c
    .error (c.fault (.wrongType (found j) wanted))

def map (f : α → β) (d : Decoder α) : Decoder β where
  ofJson j := (d.ofJson j).map f
  ofText levels c := (d.ofText levels c).map fun (a, c) => (f a, c)

def json : Decoder Json where
  ofJson j := .ok j
  ofText levels := readJson levels

def string : Decoder String where
  ofJson
    | .string s => .ok s
    | j => .error (.wrongType (found j) "a string")
  ofText _ c :=
    let c := c.skipSpaces
    match c.rest with
    | '"' :: _ => readString (c.skip 1)
    | _ => refuse "a string" c

def bool : Decoder Bool where
  ofJson
    | .bool b => .ok b
    | j => .error (.wrongType (found j) "a boolean")
  ofText _ c :=
    let c := c.skipSpaces
    match c.rest with
    | 't' :: _ => do .ok (true, ← readWord "rue".toList (c.skip 1))
    | 'f' :: _ => do .ok (false, ← readWord "alse".toList (c.skip 1))
    | _ => refuse "a boolean" c

def naturalOf (wanted : String) : Json → Except Cause Nat
  | .integer n =>
    if n < 0 then .error (.wrongValue (.integer n) wanted) else .ok n.toNat
  | j => .error (.wrongType (found j) wanted)

/-- A natural number of 64 bits, by the name of its type. -/
def natural (wanted : String) : Decoder Nat where
  ofJson := naturalOf wanted
  ofText _ c :=
    let c := c.skipSpaces
    match c.rest with
    | x :: _ =>
      if x = '-' ∨ isDigit x then do
        -- The number is read whole before it is judged, so that a fault stands behind it.
        let (j, c) ← readLeaf c
        match naturalOf wanted j with
        | .ok n => .ok (n, c)
        | .error cause => .error (c.fault cause)
      else refuse wanted c
    | [] => refuse wanted c

def option (d : Decoder α) : Decoder (Option α) where
  ofJson
    | .null => .ok none
    | j => (d.ofJson j).map some
  ofText levels c :=
    let c := c.skipSpaces
    match c.rest with
    | 'n' :: _ => do .ok (none, ← readWord "ull".toList (c.skip 1))
    | _ => (d.ofText levels c).map fun (a, c) => (some a, c)

def list (d : Decoder α) : Decoder (List α) where
  ofJson
    | .array items => items.mapM d.ofJson
    | j => .error (.wrongType (found j) "a sequence")
  ofText levels c :=
    let c := c.skipSpaces
    match c.rest with
    | '[' :: _ =>
      match levels with
      | 0 => .error (c.faultAhead .tooDeep)
      | n + 1 => readItems (d.ofText n) (c.skip 1)
    | _ => refuse "a sequence" c

/-- Keys with values, of which the last of a key counts. -/
def entries (d : Decoder α) : Decoder (Entries α) where
  ofJson
    | .object members => do
      .ok (.ofPairs (← members.mapM fun (k, j) => do .ok (k, ← d.ofJson j)))
    | j => .error (.wrongType (found j) "a map")
  ofText levels c :=
    let c := c.skipSpaces
    match c.rest with
    | '\x7b' :: _ =>
      match levels with
      | 0 => .error (c.faultAhead .tooDeep)
      | n + 1 => (readMembers (d.ofText n) (c.skip 1)).map fun (m, c) => (.ofPairs m, c)
    | _ => refuse "a map" c

/-! ## Records

A record is read from an object by the names of its fields, or from an array in their order. A
field may have more than one name, and it may be absent unless it is required. -/

/-- A field of a record: its names, the first of which is used in messages, and how its value
changes the record. -/
structure Field (σ : Type) where
  names : List String
  store : Decoder (σ → σ)
  required : Bool

def Field.name (f : Field σ) : String := f.names.headD ""

def field (names : List String) (d : Decoder α) (set : α → σ → σ) : Field σ :=
  ⟨names, d.map set, false⟩

def requiredField (names : List String) (d : Decoder α) (set : α → σ → σ) : Field σ :=
  ⟨names, d.map set, true⟩

def findField? (fields : List (Field σ)) (key : String) : Option (Field σ × Nat) :=
  fields.zipIdx.find? fun f => f.1.names.contains key

/-- The first required field that was not given, as a cause. -/
def checkRequired (fields : List (Field σ)) (seen : List Nat) : Except Cause Unit :=
  match fields.zipIdx.find? fun f => f.1.required && !seen.contains f.2 with
  | some (f, _) => .error (.missingField f.name)
  | none => .ok ()

def recordText (what : String) (size : Nat) : String :=
  what ++ " with " ++ toString size ++ (if size = 1 then " element" else " elements")

/-- The record of an object, its members taken in order. -/
def recordOfMembers (fields : List (Field σ)) :
    List (String × Json) → List Nat → σ → Except Cause σ
  | [], seen, s => do
    checkRequired fields seen
    .ok s
  | (key, j) :: members, seen, s =>
    match findField? fields key with
    | none => recordOfMembers fields members seen s
    | some (f, i) =>
      if seen.contains i then .error (.duplicateField f.name)
      else do
        let set ← f.store.ofJson j
        recordOfMembers fields members (i :: seen) (set s)

/-- The record of an array: what it is called, what an array that is too long should have been, the
number of all fields, and the fields and items that are left with the number of those taken. -/
def recordOfItems (what excess : String) (total : Nat) :
    List (Field σ) → Nat → List Json → σ → Except Cause σ
  | [], taken, rest, s =>
    if rest.isEmpty then .ok s else .error (.wrongLength (taken + rest.length) excess)
  | f :: fields, taken, [], s =>
    -- Fields that are not required may be missing at the end.
    if f.required then .error (.wrongLength taken (recordText what total))
    else recordOfItems what excess total fields (taken + 1) [] s
  | f :: fields, taken, j :: rest, s => do
    let set ← f.store.ofJson j
    recordOfItems what excess total fields (taken + 1) rest (set s)

/-- The members of a record in a text. A cause without a place of its own ends the reading where the
cursor stands. Every member takes a character, so the text itself is fuel enough. -/
def readFieldsFrom (fields : List (Field σ)) (levels : Nat) :
    List Char → Bool → List Nat → σ → Cursor → Except Fault (Except Cause σ × Cursor)
  | [], _, _, _, c => .error (c.fault .endInObject)
  | _ :: fuel, first, seen, s, c => do
    let (more, c) ← memberFollows first c
    if more then
      let (key, c) ← readString (c.skip 1)
      match findField? fields key with
      | none =>
        let c ← readColon c
        let c ← skipJson c
        readFieldsFrom fields levels fuel false seen s c
      | some (f, i) =>
        if seen.contains i then .ok (.error (.duplicateField f.name), c)
        else
          let c ← readColon c
          let (set, c) ← f.store.ofText levels c
          readFieldsFrom fields levels fuel false (i :: seen) (set s) c
    else .ok ((checkRequired fields seen).map fun _ => s, c)

def readSlots (what : String) (total levels : Nat) :
    List (Field σ) → Nat → σ → Cursor → Except Fault (Except Cause σ × Cursor)
  | [], _, s, c => .ok (.ok s, c)
  | f :: fields, taken, s, c => do
    let (more, c) ← itemFollows (taken == 0) c
    if more then
      let (set, c) ← f.store.ofText levels c
      readSlots what total levels fields (taken + 1) (set s) c
    else if f.required then
      .ok (.error (.wrongLength taken (recordText what total)), c)
    else readSlots what total levels fields (taken + 1) s c

/-- Where the closing bracket of a list is looked for, and the fault if it is not there. -/
def closeList (c : Cursor) : Cursor × Option Fault :=
  let c := c.skipSpaces
  match c.rest with
  | [] => (c, some (c.fault .endInList))
  | x :: _ =>
    if x = ']' then (c.skip 1, none)
    else if x = ',' then
      let c := (c.skip 1).skipSpaces
      (c, some (c.faultAhead (if c.rest.head? = some ']' then .trailingComma
        else .trailingCharacters)))
    else (c, some (c.faultAhead .trailingCharacters))

def closeObject (c : Cursor) : Cursor × Option Fault :=
  let c := c.skipSpaces
  match c.rest with
  | [] => (c, some (c.fault .endInObject))
  | x :: _ =>
    if x = '\x7d' then (c.skip 1, none)
    else if x = ',' then (c, some (c.faultAhead .trailingComma))
    else (c, some (c.faultAhead .trailingCharacters))

/-- The outcome of a record whose end was looked for. A cause takes the place that was reached. -/
def settle (outcome : Except Cause σ) (closed : Cursor × Option Fault) :
    Except Fault (σ × Cursor) :=
  match outcome, closed with
  | .error cause, (c, _) => .error (c.fault cause)
  | .ok _, (_, some f) => .error f
  | .ok s, (c, none) => .ok (s, c)

/-- A record with a name, its fields, and what it is before any field is given. -/
def record (name : String) (fields : List (Field σ)) (blank : σ) : Decoder σ where
  ofJson
    | .array items =>
      recordOfItems ("struct " ++ name) "fewer elements in array" fields.length fields 0 items blank
    | .object members => recordOfMembers fields members [] blank
    | j => .error (.wrongType (found j) ("struct " ++ name))
  ofText levels c :=
    let c := c.skipSpaces
    match c.rest with
    | '[' :: _ =>
      match levels with
      | 0 => .error (c.faultAhead .tooDeep)
      | n + 1 => do
        let (outcome, c) ← readSlots ("struct " ++ name) fields.length n fields 0 blank
          (c.skip 1)
        settle outcome (closeList c)
    | '\x7b' :: _ =>
      match levels with
      | 0 => .error (c.faultAhead .tooDeep)
      | n + 1 => do
        let (outcome, c) ← readFieldsFrom fields n c.rest true [] blank (c.skip 1)
        settle outcome (closeObject c)
    | _ => refuse ("struct " ++ name) c

def parse (d : Decoder α) (text : String) : Except Fault α := readAll (d.ofText maxLevels) text

end Decoder

end Conduit.Json
