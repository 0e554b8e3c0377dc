import SchemaScript.Script.Generate

/-!
# SchemaScript.Script.Writer

The script written in one pass, with what has been written so far carried along: the text, the names
issued, the words still to be drawn and the events. Every name in a statement is the answer of the
step that issues it.

* `Writing`: a part of the pass.
* `claimFixed`, `foreignKeyName`: the steps that issue a name.
* `writeTable`, `writeForeignKey`, `writeIndex`: the statements with their names.
* `writeScript`: the whole pass.
-/

namespace SchemaScript

/-- A script of which nothing is written. -/
def Generated.start (words : WordSource) : Generated := ⟨[], "", .empty, words, []⟩

/-- A part of the writing of a script. It changes what has been written so far, or finds no name. -/
abbrev Writing := StateT Generated Option

namespace Writing

def note (e : Event) : Writing Unit :=
  modify fun g => { g with events := g.events ++ [e] }

/-- Writes a batch with its separator. -/
def push (o : ScriptOptions) (b : Batch) : Writing Unit :=
  modify fun g => { g with
    batches := g.batches ++ [b]
    script := g.script ++ String.ofList (b.closed o.batchSeparator) }

/-! ## Names -/

/-- Issues a name if it is free, and says whether it was. -/
def claim (c : Claim) : Writing Bool :=
  modifyGet fun g =>
    let (free, scope) := g.scope.claim c
    (free, { g with scope })

/-- Issues a name that cannot be chosen otherwise. If it is taken, that is noted and the name kept. -/
def claimFixed (space name : String) : Writing String := do
  unless ← claim ⟨space, name⟩ do
    note (.duplicateName space name)
  return name

def drawWord : Writing UInt32 :=
  modifyGet fun g =>
    let (w, words) := g.words.draw
    (w, { g with words })

/-- Draws words until the name with one of them is free. -/
def drawName (space stem : String) : Nat → Writing String
  | 0 => failure
  | fuel + 1 => do
    let name := suffixed stem (← drawWord)
    if ← claim ⟨space, name⟩ then
      return name
    note (.suffixCollided name)
    drawName space stem fuel

def foreignKeyName (t : Table) (k : ForeignKey) : Writing String := do
  match givenName k.name with
  | some name => claimFixed t.constraintSpace name
  | none =>
    let g ← get
    drawName t.constraintSpace (t.foreignKeyStem k) (g.words.pending.length + g.scope.size + 1)

/-! ## Tables -/

/-- The default of a column under the name issued for it. -/
def writeDefault (t : Table) (c : Column) : Writing (Option DefaultClause) :=
  match Sql.defaultExpression c.defaultSql c.defaultKind with
  | some e => do
    let name ← claimFixed t.constraintSpace (t.defaultName c)
    return some ⟨name, e⟩
  | none => return none

/-- The name issued for a column's unique constraint. A sole key is already unique. -/
def writeColumnUnique (t : Table) (c : Column) : Writing (Option String) := do
  let soleKey := c.isPrimaryKey && t.primaryKeyColumns.length == 1
  if c.isUnique && !soleKey then
    return some (← claimFixed t.constraintSpace (t.columnUniqueName c))
  else
    return none

def writeColumn (o : ScriptOptions) (t : Table) (c : Column) : Writing Entry := do
  let default ← writeDefault t c
  let unique ← writeColumnUnique t c
  return .column { columnEntry (o.alignment t) t c with default, unique }

/-- The line of the primary key, if there are key columns. -/
def writeKey (t : Table) : Writing (List Entry) := do
  if t.primaryKey.isEmpty then
    return []
  let name ← claimFixed t.constraintSpace t.keyName
  return [.primaryKey name (t.primaryKey.map (·.name))]

def writeCheck (t : Table) (c : CheckConstraint) : Writing Entry := do
  let name ← claimFixed t.constraintSpace (t.checkName c)
  return .check name c.expression

/-- The line of a unique constraint, if it names columns. -/
def writeUnique (t : Table) (u : UniqueConstraint) : Writing (List Entry) := do
  let columns := splitColumnList u.columnsCsv
  if columns.isEmpty then
    note (.skippedUnique t.name)
    return []
  let name ← claimFixed t.constraintSpace (t.uniqueName u)
  return [.unique name columns]

/-- Writes a table: how it is dropped, and its lines one after the other. -/
def writeTable (o : ScriptOptions) (t : Table) : Writing Unit := do
  note (.renderingTable t.name t.columns.length t.checkConstraints.length
    t.uniqueConstraints.length)
  push o (.dropTable (o.tableName t))
  let columns ← t.columns.mapM (writeColumn o t)
  let key ← writeKey t
  let checks ← t.checkConstraints.mapM (writeCheck t)
  let uniques ← t.uniqueConstraints.mapM (writeUnique t)
  push o (.createTable (o.tableName t) (columns ++ key ++ checks ++ uniques.flatten))

/-! ## Foreign keys and indexes -/

/-- Notes a target that is not part of the project. -/
def noteTarget (lookup : TableLookup) (t : Table) (k : ForeignKey) : Writing Unit :=
  if (lookup.target? k).isNone then note (.unknownTarget t.name k.refTable) else return ()

def writeForeignKey (o : ScriptOptions) (lookup : TableLookup) (t : Table) (k : ForeignKey) :
    Writing Unit := do
  if k.columns.isEmpty then
    note (.skippedForeignKey t.name k.refTable)
  else
    noteTarget lookup t k
    let name ← foreignKeyName t k
    push o (.addForeignKey (foreignKeyStatement o t k name))

def writeIndex (o : ScriptOptions) (t : Table) (i : Index) : Writing Unit := do
  if i.columns.isEmpty then
    note (.skippedIndex t.name)
  else
    let name ← claimFixed t.indexSpace (t.indexName i)
    push o (.createIndex { indexStatement o t i with name })

/-! ## The script -/

/-- The session settings, the missing schemas and the tables. -/
def writeTables (o : ScriptOptions) (p : Project) (time : Instant) : Writing Unit := do
  push o (.session (heading o p time))
  forM (missingSchemas o [] p.tables) fun schema => push o (.createSchema schema)
  forM p.tables (writeTable o)

def writeForeignKeys (o : ScriptOptions) (p : Project) : Writing Unit :=
  let lookup := TableLookup.ofProject o.defaultSchema p
  forM p.tables fun t => forM t.foreignKeys (writeForeignKey o lookup t)

def writeIndexes (o : ScriptOptions) (p : Project) : Writing Unit :=
  forM p.tables fun t => forM t.indexes (writeIndex o t)

/-- The script of a project in one pass. -/
def writeScript (o : ScriptOptions) (p : Project) (time : Instant) : Writing Unit := do
  let p := p.resolveSchemas o.defaultSchema
  writeTables o p time
  writeForeignKeys o p
  writeIndexes o p
  let g ← get
  note (.scriptGenerated p.tables.length g.scope.size g.script.utf8ByteSize)

end Writing
end SchemaScript
