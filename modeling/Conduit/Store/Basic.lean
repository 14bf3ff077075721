import Conduit.Definition.Document
import Conduit.Error
import Conduit.Store.Files

/-!
# Stores

A store finds the enabled pipeline of an id. It holds definitions by their ids, or it is a directory
of files, one definition in each. A file named by the id is tried first, and all others after it.
-/

namespace Conduit

inductive Store where
  | memory (pipelines : Entries Definition)
  /-- The files in the directory that a path leads to from a place. -/
  | directory (start : List String) (path : String)

namespace Store

def isDirectory : Store → Bool
  | .memory _ => false
  | .directory _ _ => true

def ifEnabled (d : Definition) : Option Definition := if d.enabled then some d else none

/-- The store with a definition held by its id. A directory is not written to. -/
def insert : Store → Definition → Store
  | .memory pipelines, d => .memory (Entries.insert d.id d pipelines)
  | .directory start path, _ => .directory start path

def remove : Store → String → Store
  | .memory pipelines, id => .memory (Entries.erase pipelines id)
  | .directory start path, _ => .directory start path

/-- The definition that is held by an id, enabled or not. -/
def held? : Store → String → Option Definition
  | .memory pipelines, id => Entries.get? pipelines id
  | .directory _ _, _ => none

def troubled (t : Files.Trouble) : PipelineError := .io t.message

def namedPath (path id : String) : String := Files.join path (id ++ ".json")

/-- A file is passed over that is no document by its name, or that was tried before. -/
def isPassedOver (path id name : String) : Bool :=
  extension? name != some "json" || Files.samePath (Files.join path name) (namedPath path id)

/-- The definition of an id among files of a directory. A file that is no definition is passed
over. -/
def scan (files : Files) (start : List String) (path id : String) :
    List String → Except PipelineError (Option Definition)
  | [] => .ok none
  | name :: rest =>
    if isPassedOver path id name then scan files start path id rest
    else
      match files.read start (Files.join path name) with
      | .error t => .error (troubled t)
      | .ok text =>
        match Definition.decoder.parse text with
        | .error _ => scan files start path id rest
        | .ok d => if d.id = id then .ok (ifEnabled d) else scan files start path id rest

def scanAll (files : Files) (start : List String) (path id : String) :
    Except PipelineError (Option Definition) :=
  match files.directory start path with
  | .error t => .error (troubled t)
  | .ok place => scan files start path id (files.list place)

def findInDirectory (files : Files) (start : List String) (path id : String) :
    Except PipelineError (Option Definition) :=
  match files.read start (namedPath path id) with
  | .error _ => scanAll files start path id
  | .ok text =>
    match Definition.decoder.parse text with
    | .error fault => .error (.serialization fault.message)
    | .ok d => if d.id = id then .ok (ifEnabled d) else scanAll files start path id

def find (store : Store) (files : Files) (id : String) : Except PipelineError (Option Definition) :=
  match store with
  | .memory pipelines => .ok ((Entries.get? pipelines id).bind ifEnabled)
  | .directory start path => findInDirectory files start path id

end Store

end Conduit
