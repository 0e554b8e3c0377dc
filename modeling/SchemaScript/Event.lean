/-!
# SchemaScript.Event

What is reported along the way, apart from results: how grave it is, what happened, and the data that
belong to it.
-/

namespace SchemaScript

inductive Level where
  | warning
  | information
  | detail
deriving DecidableEq

/-- Something that happened while a script was made or a store was used. -/
inductive Event where
  | renderingTable (table : String) (columns checks uniques : Nat)
  | skippedUnique (table : String)
  | unknownTarget (table target : String)
  | skippedForeignKey (table target : String)
  | skippedIndex (table : String)
  | duplicateName (space name : String)
  | suffixCollided (name : String)
  | scriptGenerated (tables names bytes : Nat)
  | projectSaved (id : String) (tables : Nat)
  | projectSkipped (id error : String)
deriving DecidableEq

namespace Event

def level : Event → Level
  | skippedUnique _ | skippedForeignKey _ _ | skippedIndex _ | duplicateName _ _
  | projectSkipped _ _ => .warning
  | projectSaved _ _ => .information
  | _ => .detail

def message : Event → String
  | renderingTable _ _ _ _ => "rendering table"
  | skippedUnique _ => "skipping unique constraint without columns"
  | unknownTarget _ _ => "foreign key target is not part of the project"
  | skippedForeignKey _ _ => "skipping foreign key without columns"
  | skippedIndex _ => "skipping index without columns"
  | duplicateName _ _ => "duplicate constraint name in script"
  | suffixCollided _ => "foreign key suffix collided, drawing again"
  | scriptGenerated _ _ _ => "script generated"
  | projectSaved _ _ => "project saved"
  | projectSkipped _ _ => "skipping unreadable project"

end Event
end SchemaScript
