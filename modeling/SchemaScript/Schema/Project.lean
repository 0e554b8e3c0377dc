/-!
# SchemaScript.Schema.Project

The schema model: a project is a list of tables, and a table has columns, foreign keys, indexes and
constraints. Nothing is resolved here: a blank schema stands for the default schema, and names that
are absent or blank are derived when a script is made.
-/

namespace SchemaScript

/-- How the text of a column's default becomes an expression. -/
inductive DefaultKind where
  /-- There is no default, whatever the text. -/
  | none
  /-- The text is an expression and is taken as it is. -/
  | rawExpression
  /-- The text is a value, quoted unless it can be told to be an expression. -/
  | literal
deriving DecidableEq

structure Column where
  name : String
  dataType : String
  length : Option Int32
  precision : Option Int32
  scale : Option Int32
  isNullable : Bool
  isPrimaryKey : Bool
  /-- The place within a primary key of several columns. -/
  primaryKeyOrder : Option Int32
  isIdentity : Bool
  identitySeed : Int32
  identityIncrement : Int32
  defaultSql : Option String
  defaultKind : DefaultKind
  isUnique : Bool
deriving DecidableEq

/-- A column of the referencing table and the column it refers to. -/
structure ForeignKeyColumn where
  columnName : String
  refColumnName : String
deriving DecidableEq

structure ForeignKey where
  name : Option String
  refSchema : String
  refTable : String
  onDeleteAction : Option String
  columns : List ForeignKeyColumn
deriving DecidableEq

structure IndexColumn where
  columnName : String
  descending : Bool
deriving DecidableEq

/-- An index of a table. The included columns are a list separated by commas. -/
structure Index where
  name : Option String
  isUnique : Bool
  columns : List IndexColumn
  includeColumnsCsv : Option String
deriving DecidableEq

/-- A condition on the rows of a table. -/
structure CheckConstraint where
  name : Option String
  expression : String
deriving DecidableEq

/-- A set of columns without duplicates. The columns are a list separated by commas. -/
structure UniqueConstraint where
  name : Option String
  columnsCsv : String
deriving DecidableEq

structure Table where
  schema : String
  name : String
  primaryKeyName : Option String
  columns : List Column
  foreignKeys : List ForeignKey
  indexes : List Index
  checkConstraints : List CheckConstraint
  uniqueConstraints : List UniqueConstraint
deriving DecidableEq

/-- A database schema under one name. -/
structure Project where
  name : String
  description : Option String
  tables : List Table
deriving DecidableEq

/-- The key columns in the order of declaration. -/
def Table.primaryKeyColumns (t : Table) : List Column :=
  t.columns.filter (·.isPrimaryKey)

/-- Whether a place is at most another, where to have none is least. -/
def placeAtMost : Option Int32 → Option Int32 → Bool
  | none, _ => true
  | some _, none => false
  | some m, some n => m ≤ n

/-- Whether a column may stand in front of another in a key: first by whether they have a place, and
then by the places. -/
def Column.keyAtMost (c d : Column) : Bool :=
  if c.primaryKeyOrder.isNone = d.primaryKeyOrder.isNone then
    placeAtMost c.primaryKeyOrder d.primaryKeyOrder
  else
    d.primaryKeyOrder.isNone

/-- The key columns in the order of the key. -/
def Table.primaryKey (t : Table) : List Column :=
  t.primaryKeyColumns.mergeSort Column.keyAtMost

/-- Every foreign key with the table it belongs to, in the order of declaration. -/
def Project.foreignKeys (p : Project) : List (Table × ForeignKey) :=
  p.tables.flatMap fun t => t.foreignKeys.map fun k => (t, k)

/-- Every index with the table it belongs to, in the order of declaration. -/
def Project.indexes (p : Project) : List (Table × Index) :=
  p.tables.flatMap fun t => t.indexes.map fun i => (t, i)

end SchemaScript
