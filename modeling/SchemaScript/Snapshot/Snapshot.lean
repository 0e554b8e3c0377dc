import SchemaScript.Snapshot.Format
import SchemaScript.Snapshot.Validation

/-!
# SchemaScript.Snapshot.Snapshot

Projects as text. A text is read in one pass from left to right, and then the project is checked; the
first fault is reported.

* `ofText`: the project in a text.
* `toText`: the text of a project.
-/

namespace SchemaScript
namespace Snapshot

/-- Why a text is no project, or a project is not accepted. -/
inductive Error where
  | json (fault : Json.Error)
  | invalid (violation : Violation)
deriving DecidableEq

def Error.message : Error → String
  | json fault => "Invalid snapshot JSON: " ++ fault.message
  | invalid violation => violation.message

/-- Whether a project meets all requirements. -/
def validate (p : Project) : Except Error Unit :=
  match p.violation? with
  | some v => .error (.invalid v)
  | none => .ok ()

/-- The project in a text, whatever its names. -/
def parse (text : String) : Except Error Project :=
  (Json.readAll project.read text).mapError .json

/-- The project in a text that meets all requirements. -/
def ofText (text : String) : Except Error Project := do
  let p ← parse text
  validate p
  return p

/-- The text of a project, over several lines. -/
def toText (p : Project) : String :=
  String.ofList ((project.write p).pretty 0)

end Snapshot
end SchemaScript
