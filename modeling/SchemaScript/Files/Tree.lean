import SchemaScript.Files.Error
import SchemaScript.Text.Split

/-!
# SchemaScript.Files.Tree

A tree of files and directories with a working directory in it, and what requests do to it. A path is
followed name by name, from the root if it begins with a slash and else from the working directory.

* `FileTree`: the nodes by their locations, each listed once, and the working directory.
* `FileTree.locate`: where a path leads.
* `read`, `write`, `rename`, `remove`, `entries`, `isDirectory`, `present`: the requests.
-/

namespace SchemaScript

/-- The names from the root down. -/
abbrev Location := List String

inductive Node where
  | file (content : ByteArray)
  | directory

def Node.isDirectory : Node → Bool
  | file _ => false
  | directory => true

/-- Files and directories by location. The root is not listed; it is always a directory. -/
structure FileTree where
  nodes : List (Location × Node)
  /-- Where relative paths start. -/
  working : Location := []
  distinct : (nodes.map (·.1)).Nodup := by decide

/-- The nodes with `n` at a location. -/
def setNode (place : Location) (n : Node) (nodes : List (Location × Node)) :
    List (Location × Node) :=
  if (nodes.lookup place).isSome then
    nodes.map fun (l, m) => if l == place then (l, n) else (l, m)
  else
    nodes ++ [(place, n)]

theorem locations_setNode (place : Location) (n : Node) (nodes : List (Location × Node)) :
    (setNode place n nodes).map (·.1) =
      if place ∈ nodes.map (·.1) then nodes.map (·.1) else nodes.map (·.1) ++ [place] := by
  have hmem : place ∈ nodes.map (·.1) ↔ (nodes.lookup place).isSome := by
    rw [List.lookup_isSome_iff, List.mem_map]
    exact exists_congr fun node => and_congr_right fun _ => by rw [beq_iff_eq, eq_comm]
  rw [setNode, ite_congr (propext hmem) (fun _ => rfl) (fun _ => rfl)]
  split
  · rw [List.map_map]
    refine List.map_congr_left fun (l, m) _ => ?_
    dsimp only [Function.comp]
    split <;> rfl
  · rw [List.map_append, List.map_singleton]

theorem nodup_setNode {nodes : List (Location × Node)} (h : (nodes.map (·.1)).Nodup)
    (place : Location) (n : Node) : ((setNode place n nodes).map (·.1)).Nodup := by
  rw [locations_setNode]
  split
  · exact h
  · rename_i hplace
    exact List.nodup_append.mpr ⟨h, by simp, by grind⟩

/-- `name` below `base`. -/
def joinPath (base name : String) : String :=
  if base.toList.getLast?.getD '/' = '/' then base ++ name else base ++ "/" ++ name

/-- The names of a path, with an empty name where slashes stand together or at an end. -/
def pathNames (path : String) : List String :=
  (Text.split (· == '/') path.toList).map String.ofList

namespace FileTree

def node? (t : FileTree) (place : Location) : Option Node :=
  if place.isEmpty then some .directory else t.nodes.lookup place

/-- The tree with `n` at a location. -/
def put (t : FileTree) (place : Location) (n : Node) : FileTree where
  nodes := setNode place n t.nodes
  working := t.working
  distinct := nodup_setNode t.distinct place n

/-- The tree without the node at a location. -/
def erase (t : FileTree) (place : Location) : FileTree where
  nodes := t.nodes.filter fun (l, _) => l != place
  working := t.working
  distinct := t.distinct.sublist (List.filter_sublist.map _)

/-- Whether a location is a directory, and why one cannot go on from it. -/
def requireDirectory (t : FileTree) (here : Location) : Except FileError Unit :=
  match t.node? here with
  | some .directory => .ok ()
  | some (.file _) => .error .notDirectory
  | none => .error .notFound

/-- Follows names from `here`. The last one need not exist. Above the root is the root. -/
def walk (t : FileTree) (here : Location) : List String → Except FileError Location
  | [] => .ok here
  | name :: names => do
    t.requireDirectory here
    if name = "" ∨ name = "." then
      walk t here names
    else if name = ".." then
      walk t here.dropLast names
    else if 255 < name.utf8ByteSize then
      .error .nameTooLong
    else
      walk t (here ++ [name]) names

/-- The names of a path that is not too long. -/
def followable (path : String) : Except FileError (List String) :=
  if path.toList.contains '\x00' then .error .nulInPath
  else if path = "" then .error .notFound
  else if 4096 ≤ path.utf8ByteSize then .error .nameTooLong
  else .ok (pathNames path)

/-- Where a path starts. -/
def origin (t : FileTree) (path : String) : Location :=
  if path.toList.head? = some '/' then [] else t.working

/-- Where a path leads. The last name need not exist. -/
def locate (t : FileTree) (path : String) : Except FileError Location := do
  t.walk (t.origin path) (← followable path)

def read (t : FileTree) (path : String) : Except FileError ByteArray := do
  match t.node? (← t.locate path) with
  | some (.file content) => .ok content
  | some .directory => .error .isDirectory
  | none => .error .notFound

/-- Where a file can be written under a path: in a directory that exists, and not in place of a
directory. A path that ends in a slash names a directory, whatever its last name. -/
def writable (t : FileTree) (path : String) : Except FileError Location := do
  let names ← followable path
  if names.getLast? = some "" then
    let parent ← t.walk (t.origin path) (names.reverse.dropWhile (· == "")).tail.reverse
    t.requireDirectory parent
    throw .isDirectory
  else
    let place ← t.walk (t.origin path) names
    match t.node? place with
    | some .directory => throw .isDirectory
    | _ =>
      t.requireDirectory place.dropLast
      return place

/-- Creates or replaces a file. -/
def write (t : FileTree) (path : String) (content : ByteArray) :
    Except FileError Unit × FileTree :=
  match t.writable path with
  | .error e => (.error e, t)
  | .ok place => (.ok (), t.put place (.file content))

/-- Moves a file, replacing the file in its new place. Directories are neither moved nor replaced. -/
def rename (t : FileTree) (source target : String) : Except FileError Unit × FileTree :=
  match t.locate source with
  | .error e => (.error e, t)
  | .ok here =>
    match t.node? here with
    | none => (.error .notFound, t)
    | some .directory => (.error .isDirectory, t)
    | some (.file content) =>
      match t.writable target with
      | .error e => (.error e, t)
      | .ok place =>
        (.ok (), if place = here then t else (t.erase here).put place (.file content))

def remove (t : FileTree) (path : String) : Except FileError Unit × FileTree :=
  match t.locate path with
  | .error e => (.error e, t)
  | .ok place =>
    match t.node? place with
    | none => (.error .notFound, t)
    | some .directory => (.error .isDirectory, t)
    | some (.file _) => (.ok (), t.erase place)

def names (t : FileTree) (place : Location) : List String :=
  t.nodes.filterMap fun (l, _) => if l.dropLast = place then l.getLast? else none

def entries (t : FileTree) (path : String) : Except FileError (List String) := do
  let place ← t.locate path
  t.requireDirectory place
  return t.names place

def isDirectory (t : FileTree) (path : String) : Bool :=
  match t.locate path with
  | .ok place => (t.node? place).any Node.isDirectory
  | .error _ => false

/-- Whether a path leads to anything. -/
def present (t : FileTree) (path : String) : Bool :=
  match t.locate path with
  | .ok place => (t.node? place).isSome
  | .error _ => false

end FileTree
end SchemaScript
