import SchemaScript.Event
import SchemaScript.Files.Program
import SchemaScript.Snapshot.Snapshot
import SchemaScript.Text.Quoted
import SchemaScript.Unicode.Alphanumeric

/-!
# SchemaScript.Store.Store

Projects kept in a directory, one file for each. A project is found by its id, which is the name of
its file without the extension. A project is saved by writing another file first and renaming it, so
that readers see the old file or the new one.

* `isValidId`, `storedId?`: ids, and the ids behind the names in a directory.
* `Store.load`, `Store.save`, `Store.delete`, `Store.list`: the operations.
-/

namespace SchemaScript

inductive StoreError where
  | notFound (id : String)
  | invalidId (id : String)
  | file (path : String) (error : FileError)
  | snapshot (id : String) (error : Snapshot.Error)
deriving DecidableEq

def StoreError.message : StoreError → String
  | notFound id => "Project not found: " ++ id
  | invalidId id => "Invalid project id: " ++ Text.quoted id
  | file path error => "I/O error on " ++ path ++ ": " ++ error.message
  | snapshot id error => "Project " ++ id ++ ": " ++ error.message

/-- What a list shows of a project. -/
structure ProjectSummary where
  id : String
  name : String
  tables : Nat
deriving DecidableEq

structure Store where
  root : String

def projectExtension : String := ".json"

/-- An id consists of letters, numbers, hyphens and underscores. -/
def isValidId (id : String) : Bool :=
  !id.isEmpty && id.toList.all fun c => Unicode.isAlphanumeric c || c == '-' || c == '_'

/-- The id that the name of a directory entry stands for: what comes before the extension, unless
that is nothing. -/
def storedId? (entry : String) : Option String :=
  let cs := entry.toList
  let stem := cs.take (cs.length - projectExtension.toList.length)
  if !stem.isEmpty && cs == stem ++ projectExtension.toList then some (String.ofList stem) else none

namespace Store

def path (s : Store) (id : String) : String :=
  joinPath s.root (id ++ projectExtension)

/-- The file in which a project is written before it takes its place. -/
def draftPath (s : Store) (id : String) : String :=
  joinPath s.root ("." ++ id ++ projectExtension ++ ".tmp")

def load (s : Store) (id : String) : Program (Except StoreError Project) := do
  if !isValidId id then
    return .error (.invalidId id)
  match ← readText (s.path id) with
  | .error .notFound => return .error (.notFound id)
  | .error e => return .error (.file (s.path id) e)
  | .ok text => return (Snapshot.ofText text).mapError (.snapshot id)

/-- Creates or replaces a project. -/
def save (s : Store) (id : String) (p : Project) :
    Program (Except StoreError Unit × List Event) := do
  if !isValidId id then
    return (.error (.invalidId id), [])
  match Snapshot.validate p with
  | .error e => return (.error (.snapshot id e), [])
  | .ok _ =>
    match ← writeText (s.draftPath id) (Snapshot.toText p) with
    | .error e => return (.error (.file (s.draftPath id) e), [])
    | .ok _ =>
      match ← Program.rename (s.draftPath id) (s.path id) Program.done with
      | .error e => return (.error (.file (s.path id) e), [])
      | .ok _ => return (.ok (), [.projectSaved id p.tables.length])

def delete (s : Store) (id : String) : Program (Except StoreError Unit) := do
  if !isValidId id then
    return .error (.invalidId id)
  match ← Program.remove (s.path id) Program.done with
  | .error .notFound => return .error (.notFound id)
  | .error e => return .error (.file (s.path id) e)
  | .ok _ => return .ok ()

/-- The summaries of the projects with the given ids. A project that cannot be loaded is skipped with
a warning, a name that is no id without one. -/
def summaries (s : Store) : List String → Program (List ProjectSummary × List Event)
  | [] => return ([], [])
  | id :: ids => do
    let loaded ← s.load id
    let (rest, events) ← s.summaries ids
    match loaded with
    | .ok p => return (⟨id, p.name, p.tables.length⟩ :: rest, events)
    | .error (.invalidId _) => return (rest, events)
    | .error e => return (rest, .projectSkipped id e.message :: events)

/-- The projects of the store by ascending id. -/
def list (s : Store) : Program (Except StoreError (List ProjectSummary) × List Event) := do
  match ← Program.entries s.root Program.done with
  | .error e => return (.error (.file s.root e), [])
  | .ok names =>
    let ids := (names.filterMap storedId?).mergeSort fun i j => decide (i ≤ j)
    let (found, events) ← s.summaries ids
    return (.ok found, events)

end Store
end SchemaScript
