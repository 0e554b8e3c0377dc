import SchemaScript.Schema.Project
import SchemaScript.Text.Digits
import SchemaScript.Unicode.WhiteSpace

/-!
# SchemaScript.Snapshot.Validation

What is asked of a project before it is stored or used: certain texts must not be blank, and some of
them not too long.

* `Requirement`: a text of the project, where it stands, and its limit.
* `Project.requirements`: all of them in order.
* `Project.violation?`: the first that is not met.
-/

namespace SchemaScript

inductive Violation where
  | required (path : String)
  | tooLong (path : String) (limit : Nat)
deriving DecidableEq

def Violation.message : Violation → String
  | required path => path ++ " is required"
  | tooLong path limit => path ++ " exceeds " ++ Text.decimalText limit ++ " characters"

/-- A text that must not be blank, its place in the project, and the most characters it may have. -/
structure Requirement where
  path : String
  value : String
  limit : Option Nat
deriving DecidableEq

/-- How a requirement is violated, if it is. -/
def Requirement.violation? (r : Requirement) : Option Violation :=
  if Unicode.isBlank r.value then some (.required r.path)
  else
    match r.limit with
    | some limit => if limit < r.value.length then some (.tooLong r.path limit) else none
    | none => none

/-- The most characters of the name of a project, table or column. -/
def nameLimit : Nat := 200

/-- The most characters of a data type. -/
def typeLimit : Nat := 128

/-- The path of element `i` of the list `list` below `base`. -/
def elementPath (base list : String) (i : Nat) : String :=
  base ++ list ++ "[" ++ Text.decimalText i ++ "]."

/-- What is asked of the elements of a list below `base`, by element and path. -/
def eachRequirement {α : Type} (base list : String) (items : List α)
    (ask : String → α → List Requirement) : List Requirement :=
  items.zipIdx.flatMap fun (a, i) => ask (elementPath base list i) a

def Column.requirements (path : String) (c : Column) : List Requirement :=
  [⟨path ++ "name", c.name, some nameLimit⟩, ⟨path ++ "dataType", c.dataType, some typeLimit⟩]

def ForeignKey.requirements (path : String) (k : ForeignKey) : List Requirement :=
  ⟨path ++ "refTable", k.refTable, none⟩
    :: eachRequirement path "columns" k.columns fun path c =>
      [⟨path ++ "columnName", c.columnName, none⟩,
        ⟨path ++ "refColumnName", c.refColumnName, none⟩]

def Index.requirements (path : String) (i : Index) : List Requirement :=
  eachRequirement path "columns" i.columns fun path c => [⟨path ++ "columnName", c.columnName, none⟩]

def Table.requirements (path : String) (t : Table) : List Requirement :=
  ⟨path ++ "name", t.name, some nameLimit⟩
    :: eachRequirement path "columns" t.columns Column.requirements
    ++ eachRequirement path "foreignKeys" t.foreignKeys ForeignKey.requirements
    ++ eachRequirement path "indexes" t.indexes Index.requirements
    ++ eachRequirement path "checkConstraints" t.checkConstraints (fun path c =>
      [⟨path ++ "expression", c.expression, none⟩])
    ++ eachRequirement path "uniqueConstraints" t.uniqueConstraints (fun path u =>
      [⟨path ++ "columnsCsv", u.columnsCsv, none⟩])

/-- What is asked of a project, in the order in which it is checked. -/
def Project.requirements (p : Project) : List Requirement :=
  ⟨"name", p.name, some nameLimit⟩ :: eachRequirement "" "tables" p.tables Table.requirements

def Project.violation? (p : Project) : Option Violation :=
  p.requirements.findSome? Requirement.violation?

end SchemaScript
