import SchemaScript.Schema.Resolution
import SchemaScript.Unicode.Casing

/-!
# SchemaScript.Schema.Lookup

Finding tables by schema and name, whatever their case.

* `TableKey`: schema and name as they are compared.
* `TableLookup`: the tables of a project with their keys. Of two tables with one key the later one
  is found.
* `TableLookup.dangling`: the foreign keys whose target is not part of the project.
-/

namespace SchemaScript

/-- Schema and name of a table in the form in which they are compared. -/
structure TableKey where
  schema : String
  name : String
deriving DecidableEq

/-- The key of the table with the given schema and name. -/
def TableKey.make (defaultSchema schema name : String) : TableKey :=
  ⟨Unicode.lower (resolveSchema defaultSchema schema), Unicode.lower (Unicode.trim name)⟩

def Table.key (defaultSchema : String) (t : Table) : TableKey :=
  .make defaultSchema t.schema t.name

def ForeignKey.target (defaultSchema : String) (k : ForeignKey) : TableKey :=
  .make defaultSchema k.refSchema k.refTable

/-- The tables of a project with their keys, in the order of declaration. -/
structure TableLookup where
  defaultSchema : String
  entries : List (TableKey × Table)

namespace TableLookup

def ofProject (defaultSchema : String) (p : Project) : TableLookup :=
  ⟨defaultSchema, p.tables.map fun t => (t.key defaultSchema, t)⟩

/-- The position of the last table with the given key. -/
def position? (l : TableLookup) (key : TableKey) : Option Nat :=
  (l.entries.zipIdx.filter (·.1.1 == key)).getLast?.map (·.2)

/-- The last table with the given key. -/
def get? (l : TableLookup) (key : TableKey) : Option Table :=
  (l.entries.filter (·.1 == key)).getLast?.map (·.2)

def target? (l : TableLookup) (k : ForeignKey) : Option Table :=
  l.get? (k.target l.defaultSchema)

/-- The position of the table that a foreign key refers to. -/
def targetPosition? (l : TableLookup) (k : ForeignKey) : Option Nat :=
  l.position? (k.target l.defaultSchema)

/-- The foreign keys of `p` whose target is not found, each with its table. -/
def dangling (l : TableLookup) (p : Project) : List (Table × ForeignKey) :=
  p.foreignKeys.filter fun (_, k) => (l.target? k).isNone

end TableLookup
end SchemaScript
