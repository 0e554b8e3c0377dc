import SchemaScript.Schema.Resolution

/-!
# SchemaScript.Script.Options

The choices that change how a script is written.
-/

namespace SchemaScript

structure ScriptOptions where
  /-- The schema of tables without one; it is never created. -/
  defaultSchema : String
  /-- The line that ends every batch. -/
  batchSeparator : String
  /-- Whether comments on the project and the time stand at the top. -/
  includeHeader : Bool
  /-- Whether the types of a table's columns start at one column of the display. -/
  alignColumns : Bool
deriving DecidableEq

/-- The choices made where none is given. -/
def ScriptOptions.standard : ScriptOptions where
  defaultSchema := builtInSchema
  batchSeparator := "GO"
  includeHeader := true
  alignColumns := false

end SchemaScript
