import SchemaScript.Naming.Names
import SchemaScript.Schema.ColumnList
import SchemaScript.Schema.Lookup
import SchemaScript.Script.Alignment
import SchemaScript.Script.Batch
import SchemaScript.Script.Options
import SchemaScript.Sql.DataType

/-!
# SchemaScript.Script.Generate

From a project to the batches of its script: session settings, missing schemas, every table dropped
and created, then every foreign key, then every index. Foreign keys come after all tables, so that
their targets exist.

A batch is a function of the options and of what it describes. Only the names of foreign keys depend
on what came before: on the names issued and on the words drawn.

* `Planned`: something that is written, or the event of its being skipped.
* `createTable`, `indexStatement`, `foreignKeyStatement`: the statements.
* `generate`: the script of a project.
-/

namespace SchemaScript

/-- Something that is written into the script, or the reason why it is not. -/
inductive Planned (α : Type) where
  | made (value : α)
  | skipped (event : Event)

def Planned.made? {α : Type} : Planned α → Option α
  | made a => some a
  | skipped _ => none

/-- The name of a table with its schema, which is the default schema when blank. -/
def ScriptOptions.objectName (o : ScriptOptions) (schema name : String) : ObjectName :=
  ⟨resolveSchema o.defaultSchema schema, name⟩

def ScriptOptions.tableName (o : ScriptOptions) (t : Table) : ObjectName :=
  o.objectName t.schema t.name

/-! ## Tables -/

/-- The alignment of the column names of a table. -/
def ScriptOptions.alignment (o : ScriptOptions) (t : Table) : Alignment :=
  if o.alignColumns then .ofTexts (t.columns.map fun c => Sql.quoteName c.name) else .none

/-- The entry of a column, its name padded to `width`. A column that is the whole key is unique
without a constraint. -/
def columnEntry (width : Alignment) (t : Table) (c : Column) : ColumnEntry where
  name := c.name
  padding := width.fill (Sql.quoteName c.name)
  typeText := c.typeText
  identity :=
    if c.isIdentity then some (c.identitySeed.toInt, c.identityIncrement.toInt) else none
  isNullable := c.isNullable
  default := (Sql.defaultExpression c.defaultSql c.defaultKind).map fun e => ⟨t.defaultName c, e⟩
  unique :=
    if c.isUnique && !(c.isPrimaryKey && t.primaryKeyColumns.length == 1) then
      some (t.columnUniqueName c)
    else none

/-- The entry of the primary key, if the table has key columns. -/
def keyEntry (t : Table) : Option Entry :=
  if t.primaryKey.isEmpty then none
  else some (.primaryKey t.keyName (t.primaryKey.map (·.name)))

/-- The entry of a unique constraint, which is skipped when it names no column. -/
def planUnique (t : Table) (u : UniqueConstraint) : Planned Entry :=
  let columns := splitColumnList u.columnsCsv
  if columns.isEmpty then .skipped (.skippedUnique t.name)
  else .made (.unique (t.uniqueName u) columns)

/-- The entries of a table in order: columns, primary key, checks, unique constraints. -/
def planEntries (o : ScriptOptions) (t : Table) : List (Planned Entry) :=
  let width := o.alignment t
  t.columns.map (fun c => .made (.column (columnEntry width t c)))
    ++ (keyEntry t).toList.map .made
    ++ t.checkConstraints.map (fun c => .made (.check (t.checkName c) c.expression))
    ++ t.uniqueConstraints.map (planUnique t)

def createTable (o : ScriptOptions) (t : Table) : Batch :=
  .createTable (o.tableName t) ((planEntries o t).filterMap Planned.made?)

def tableBatches (o : ScriptOptions) (t : Table) : List Batch :=
  [.dropTable (o.tableName t), createTable o t]

/-! ## Indexes and foreign keys -/

def indexStatement (o : ScriptOptions) (t : Table) (i : Index) : IndexStatement where
  table := o.tableName t
  name := t.indexName i
  isUnique := i.isUnique
  columns := i.columns
  included := (i.includeColumnsCsv.map splitColumnList).getD []

/-- The statement for an index, which is skipped when it has no column. -/
def planIndex (o : ScriptOptions) (t : Table) (i : Index) : Planned IndexStatement :=
  if i.columns.isEmpty then .skipped (.skippedIndex t.name) else .made (indexStatement o t i)

/-- The statement for a foreign key under the name issued for it. -/
def foreignKeyStatement (o : ScriptOptions) (t : Table) (k : ForeignKey) (name : String) :
    ForeignKeyStatement where
  table := o.tableName t
  name := name
  columns := k.columns
  target := o.objectName k.refSchema k.refTable
  onDelete := givenName k.onDeleteAction

/-! ## Schemas and session settings -/

/-- The schemas of the tables that have to be created, each in the spelling that comes first; `seen`
holds those found so far in lower case. -/
def missingSchemas (o : ScriptOptions) (seen : List String) : List Table → List String
  | [] => []
  | t :: ts =>
    let schema := resolveSchema o.defaultSchema t.schema
    let folded := Unicode.lower schema
    if Unicode.equalsIgnoringAsciiCase schema o.defaultSchema
        || Unicode.equalsIgnoringAsciiCase schema builtInSchema || seen.contains folded then
      missingSchemas o seen ts
    else
      schema :: missingSchemas o (folded :: seen) ts

/-- The comments at the top, if they are wanted. A blank description is left out. -/
def heading (o : ScriptOptions) (p : Project) (time : Instant) : Option Heading :=
  if o.includeHeader then
    some ⟨p.name, p.description.filter fun d => !Unicode.isBlank d, time⟩
  else none

/-! ## Issuing names -/

/-- The names that stand in an entry, in order. -/
def Entry.names : Entry → List String
  | column e => (e.default.map (·.name)).toList ++ e.unique.toList
  | primaryKey name _ => [name]
  | check name _ => [name]
  | unique name _ => [name]

/-- A step in the account of a script: an event, or a name that is issued. -/
inductive Step where
  | note (event : Event)
  | claim (claim : Claim)

def Planned.steps {α : Type} (claims : α → List Claim) : Planned α → List Step
  | made a => (claims a).map .claim
  | skipped e => [.note e]

/-- The steps of a table: it is announced, and its names are issued entry by entry. -/
def tableSteps (o : ScriptOptions) (t : Table) : List Step :=
  .note (.renderingTable t.name t.columns.length t.checkConstraints.length
      t.uniqueConstraints.length)
    :: (planEntries o t).flatMap
      (Planned.steps fun e => e.names.map fun n => ⟨t.constraintSpace, n⟩)

def indexSteps (o : ScriptOptions) (t : Table) (i : Index) : List Step :=
  (planIndex o t i).steps fun s => [⟨t.indexSpace, s.name⟩]

/-- The scope after some steps, and their events. A name that is taken is issued all the same. -/
def NameScope.account (scope : NameScope) : List Step → NameScope × List Event
  | [] => (scope, [])
  | .note e :: steps =>
    let (final, events) := scope.account steps
    (final, e :: events)
  | .claim c :: steps =>
    let (final, events) := (scope.insert c).account steps
    (final, scope.clashes c ++ events)

/-- The batches of all foreign keys, with the scope, the words and the events after them. -/
structure ForeignKeyBatches where
  batches : List Batch
  scope : NameScope
  words : WordSource
  events : List Event

/-- The events of a foreign key before its name is issued. -/
def foreignKeyNotes (lookup : TableLookup) (t : Table) (k : ForeignKey) : List Event :=
  if (lookup.target? k).isNone then [.unknownTarget t.name k.refTable] else []

/-- Writes the foreign keys one after the other. A key without columns is skipped. -/
def addForeignKeys (o : ScriptOptions) (lookup : TableLookup) (scope : NameScope)
    (words : WordSource) : List (Table × ForeignKey) → Option ForeignKeyBatches
  | [] => some ⟨[], scope, words, []⟩
  | (t, k) :: keys =>
    if k.columns.isEmpty then do
      let rest ← addForeignKeys o lookup scope words keys
      return { rest with events := .skippedForeignKey t.name k.refTable :: rest.events }
    else do
      let issued ← nameForeignKey scope words t k
      let rest ← addForeignKeys o lookup issued.scope issued.words keys
      return { rest with
        batches := .addForeignKey (foreignKeyStatement o t k issued.name) :: rest.batches
        events := foreignKeyNotes lookup t k ++ issued.events ++ rest.events }

/-! ## The script -/

/-- A script: its batches and text, the names issued, the words drawn, and what happened. -/
structure Generated where
  batches : List Batch
  script : String
  scope : NameScope
  words : WordSource
  events : List Event

/-- The script of a project. There is none only if no name is left for a foreign key. -/
def generate (o : ScriptOptions) (p : Project) (time : Instant) (words : WordSource) :
    Option Generated := do
  let p := p.resolveSchemas o.defaultSchema
  let lookup := TableLookup.ofProject o.defaultSchema p
  let (scope, tableEvents) := NameScope.empty.account (p.tables.flatMap (tableSteps o))
  let keys ← addForeignKeys o lookup scope words p.foreignKeys
  let (scope, indexEvents) :=
    keys.scope.account (p.indexes.flatMap fun (t, i) => indexSteps o t i)
  let batches :=
    .session (heading o p time) :: (missingSchemas o [] p.tables).map .createSchema
      ++ p.tables.flatMap (tableBatches o)
      ++ keys.batches
      ++ p.indexes.filterMap fun (t, i) => (planIndex o t i).made?.map .createIndex
  let script := renderScript o.batchSeparator batches
  return {
    batches, script, scope
    words := keys.words
    events := tableEvents ++ keys.events ++ indexEvents
      ++ [.scriptGenerated p.tables.length scope.size script.utf8ByteSize] }

end SchemaScript
