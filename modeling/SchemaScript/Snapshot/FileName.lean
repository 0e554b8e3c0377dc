import SchemaScript.Unicode.WhiteSpace

/-!
# SchemaScript.Snapshot.FileName

The name of the file for a project's script: characters that mean something in a path become
underscores.
-/

namespace SchemaScript

/-- Characters that may not stand in a file name. -/
def isPathHostile (c : Char) : Bool :=
  ['/', '\\', ':', '*', '?', '"', '<', '>', '|'].contains c || Unicode.isControl c

/-- The file name without its extension: the project's name without hostile characters and
surrounding white space, or `project` if nothing is left. -/
def scriptStem (projectName : String) : String :=
  let cs := Unicode.trimChars
    (projectName.toList.map fun c => if isPathHostile c then '_' else c)
  if cs.isEmpty then "project" else String.ofList cs

/-- The name of the file for a project's script. -/
def scriptFileName (projectName : String) : String :=
  scriptStem projectName ++ ".sql"

end SchemaScript
