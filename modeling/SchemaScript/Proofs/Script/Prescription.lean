import SchemaScript.Proofs.Schema.Resolution
import SchemaScript.Proofs.Script.Reading

/-!
# SchemaScript.Proofs.Script.Prescription

No name of a project changes how its script is read. If the texts that are taken over as they are end
in code, then so does every batch, and the names and strings that the scanner finds are those that the
project asks for, in the order of the statements.

* `Table.mentions`, `ScriptOptions.batchMentions`: what the batches mention, written down from the
  project alone.
* `ClosedFragments`: what is asked of the texts that are taken over.
* `generate_reads`: the reading of a whole script.
-/

namespace SchemaScript

open Sql

/-! ## What a project asks for -/

/-- The type of a column. Nothing unless it is custom. -/
def Column.typeMentions (c : Column) : List Mention :=
  if TypeFamily.of (Unicode.lower (Unicode.trim c.dataType)) = .custom then [.raw c.dataType] else []

/-- A column: its name, its type, its default under the name of the default, and the name of the
constraint that makes it unique. -/
def Column.mentions (t : Table) (c : Column) : List Mention :=
  .name c.name :: c.typeMentions
    ++ (match defaultExpression c.defaultSql c.defaultKind with
      | some e => [.name (t.defaultName c), e.mention]
      | none => [])
    ++ (if c.isUnique && !(c.isPrimaryKey && t.primaryKeyColumns.length == 1) then
        [.name (t.columnUniqueName c)]
      else [])

/-- A check constraint: its name and its condition. -/
def CheckConstraint.mentions (t : Table) (c : CheckConstraint) : List Mention :=
  [.name (t.checkName c), .raw c.expression]

/-- A unique constraint: its name and its columns. Nothing if it lists no column. -/
def UniqueConstraint.mentions (t : Table) (u : UniqueConstraint) : List Mention :=
  if (splitColumnList u.columnsCsv).isEmpty then []
  else .name (t.uniqueName u) :: (splitColumnList u.columnsCsv).map .name

namespace Table

/-- The primary key: its name and its columns in the order of the key. Nothing if no column is
part of it. -/
def keyMentions (t : Table) : List Mention :=
  if t.primaryKey.isEmpty then []
  else .name t.keyName :: t.primaryKey.map fun c => .name c.name

/-- What stands in the body of CREATE TABLE. -/
def mentions (t : Table) : List Mention :=
  t.columns.flatMap (Column.mentions t) ++ t.keyMentions
    ++ t.checkConstraints.flatMap (CheckConstraint.mentions t)
    ++ t.uniqueConstraints.flatMap (UniqueConstraint.mentions t)

end Table

namespace ScriptOptions

/-- A schema that is created: its name as a value, and the statement that creates it as another. -/
def schemaMentions (schema : String) : List Mention :=
  [.string schema, .string ("CREATE SCHEMA " ++ quoteName schema)]

/-- A table that is dropped: its quoted name as a value, the letter for tables, and its name. -/
def dropMentions (o : ScriptOptions) (t : Table) : List Mention :=
  [.string (quoteName (o.tableName t).schema ++ "." ++ quoteName t.name), .string "U",
    .name (o.tableName t).schema, .name t.name]

/-- A table that is created. -/
def createMentions (o : ScriptOptions) (t : Table) : List Mention :=
  [.name (o.tableName t).schema, .name t.name] ++ t.mentions

/-- A foreign key under a name: its table, its name, its columns, the table and columns that it
refers to, and what happens on deletion. -/
def foreignKeyMentions (o : ScriptOptions) (t : Table) (k : ForeignKey) (name : String) :
    List Mention :=
  [.name (o.tableName t).schema, .name t.name, .name name]
    ++ k.columns.map (fun c => .name c.columnName)
    ++ [.name (o.objectName k.refSchema k.refTable).schema, .name k.refTable]
    ++ k.columns.map (fun c => .name c.refColumnName)
    ++ (givenName k.onDeleteAction).toList.map .raw

/-- An index: its name, its table, its columns and the columns that are included. -/
def indexMentions (o : ScriptOptions) (t : Table) (i : Index) : List Mention :=
  [.name (t.indexName i), .name (o.tableName t).schema, .name t.name]
    ++ i.columns.map (fun c => .name c.columnName)
    ++ ((i.includeColumnsCsv.map splitColumnList).getD []).map .name

/-- What the batches of a script mention, in order. -/
def batchMentions (o : ScriptOptions) (p : Project) (issued : List IssuedKey) :
    List (List Mention) :=
  [[]]
    ++ (missingSchemas o [] p.tables).map schemaMentions
    ++ p.tables.flatMap (fun t => [o.dropMentions t, o.createMentions t])
    ++ issued.map (fun k => o.foreignKeyMentions k.table k.key k.name)
    ++ p.writtenIndexes.map fun index => o.indexMentions index.1 index.2

/-- What a script mentions. The separator is taken over as it is after every batch. -/
def mentions (o : ScriptOptions) (p : Project) (issued : List IssuedKey) : List Mention :=
  (o.batchMentions p issued).flatMap fun ms => ms ++ [.raw (o.batchSeparator ++ "\n")]

end ScriptOptions

/-! ## The batches mention what is asked for -/

theorem Column.typeMentions_tokens (c : Column) :
    (Mention.raw c.typeText).tokens = c.typeMentions.flatMap Mention.tokens := by
  rw [typeMentions]
  split
  · rename_i hf
    rw [Column.typeText_of_custom hf]
    simp
  · rename_i hf
    rw [Mention.tokens, Column.typeText, resolveType]
    exact (isQuiet_typeClause _ _ _ hf).quoted_lex

theorem columnEntry_tokens (o : ScriptOptions) (t : Table) (c : Column) :
    (columnEntry (o.alignment t) t c).mentions.flatMap Mention.tokens
      = (c.mentions t).flatMap Mention.tokens := by
  rw [ColumnEntry.mentions, Column.mentions, columnEntry]
  cases defaultExpression c.defaultSql c.defaultKind with
  | none =>
    cases c.isUnique && !(c.isPrimaryKey && t.primaryKeyColumns.length == 1) <;>
      simp [c.typeMentions_tokens]
  | some e =>
    cases c.isUnique && !(c.isPrimaryKey && t.primaryKeyColumns.length == 1) <;>
      simp [c.typeMentions_tokens]

theorem keyEntry_mentions (t : Table) :
    (keyEntry t).toList.flatMap Entry.mentions = t.keyMentions := by
  unfold keyEntry Table.keyMentions
  cases t.primaryKey with
  | nil => rfl
  | cons c cs => simp [Entry.mentions]

theorem planUnique_mentions (t : Table) (us : List UniqueConstraint) :
    (us.filterMap fun u => (planUnique t u).made?).flatMap Entry.mentions
      = us.flatMap (UniqueConstraint.mentions t) := by
  induction us with
  | nil => rfl
  | cons u us ih =>
    rw [List.filterMap_cons, List.flatMap_cons, UniqueConstraint.mentions, ← ih, planUnique]
    cases (splitColumnList u.columnsCsv).isEmpty <;> rfl

theorem createTable_tokens (o : ScriptOptions) (t : Table) :
    (createTable o t).mentions.flatMap Mention.tokens
      = (o.createMentions t).flatMap Mention.tokens := by
  have hchecks : (t.checkConstraints.map fun c => Entry.check (t.checkName c) c.expression).flatMap
      Entry.mentions = t.checkConstraints.flatMap (CheckConstraint.mentions t) := by
    rw [List.flatMap_map]
    rfl
  have hcolumns : ((t.columns.map fun c => Entry.column (columnEntry (o.alignment t) t c)).flatMap
      Entry.mentions).flatMap Mention.tokens
        = (t.columns.flatMap (Column.mentions t)).flatMap Mention.tokens := by
    rw [List.flatMap_map, List.flatMap_assoc, List.flatMap_assoc]
    exact congrArg (t.columns.flatMap ·) (funext fun c => columnEntry_tokens o t c)
  rw [createTable, Batch.mentions, filterMap_planEntries, List.flatMap_append, List.flatMap_append,
    List.flatMap_append, List.flatMap_append, List.flatMap_append, List.flatMap_append,
    List.flatMap_append, hcolumns, keyEntry_mentions, hchecks, planUnique_mentions,
    ScriptOptions.createMentions, Table.mentions, List.flatMap_append, List.flatMap_append,
    List.flatMap_append, List.flatMap_append]
  rfl

theorem ObjectName.text_eq (n : ObjectName) :
    n.text = quoteName n.schema ++ "." ++ quoteName n.name := by
  apply String.toList_inj.mp
  simp [text, pieces, Piece.all, Piece.chars, quoteName]

theorem dropTable_mentions (o : ScriptOptions) (t : Table) :
    (Batch.dropTable (o.tableName t)).mentions = o.dropMentions t := by
  rw [Batch.mentions, ObjectName.text_eq]
  rfl

theorem addForeignKey_mentions (o : ScriptOptions) (k : IssuedKey) :
    (k.batch o).mentions = o.foreignKeyMentions k.table k.key k.name := by
  rw [IssuedKey.batch, Batch.mentions, ForeignKeyStatement.mentions,
    ScriptOptions.foreignKeyMentions, foreignKeyStatement]
  cases givenName k.key.onDeleteAction <;> simp [ObjectName.mentions, ScriptOptions.tableName,
    ScriptOptions.objectName]

theorem createIndex_mentions (o : ScriptOptions) (t : Table) (i : Index) :
    (Batch.createIndex (indexStatement o t i)).mentions = o.indexMentions t i :=
  rfl

/-- Batch by batch, the names and strings mentioned are those that the project asks for. -/
theorem scriptBatches_tokens (o : ScriptOptions) (p : Project) (time : Instant)
    (issued : List IssuedKey) :
    (scriptBatches o p time issued).map (fun b => b.mentions.flatMap Mention.tokens)
      = (o.batchMentions p issued).map (·.flatMap Mention.tokens) := by
  have htables : (p.tables.flatMap (tableBatches o)).map
        (fun b => b.mentions.flatMap Mention.tokens)
      = (p.tables.flatMap fun t => [o.dropMentions t, o.createMentions t]).map
          (·.flatMap Mention.tokens) := by
    rw [List.map_flatMap, List.map_flatMap]
    refine congrArg (p.tables.flatMap ·) (funext fun t => ?_)
    simp only [tableBatches, List.map_cons, List.map_nil, dropTable_mentions, createTable_tokens]
  simp only [scriptBatches, ScriptOptions.batchMentions, List.map_append, List.map_cons,
    List.map_map, List.map_nil, Function.comp_def, htables, addForeignKey_mentions,
    createIndex_mentions]
  rfl

theorem closedMentions_tokens {separator : String} {bs : List Batch} {mss : List (List Mention)}
    (h : bs.map (fun b => b.mentions.flatMap Mention.tokens) = mss.map (·.flatMap Mention.tokens)) :
    (bs.flatMap (·.closedMentions separator)).flatMap Mention.tokens
      = (mss.flatMap fun ms => ms ++ [.raw (separator ++ "\n")]).flatMap Mention.tokens := by
  -- With its separator, a batch is read as its own tokens and those of the separator.
  have hclose : ∀ tss : List (List Mention),
      (tss.flatMap fun ms => ms ++ [.raw (separator ++ "\n")]).flatMap Mention.tokens
        = (tss.map (·.flatMap Mention.tokens)).flatMap
            (· ++ (Mention.raw (separator ++ "\n")).tokens) := by
    intro tss
    rw [List.flatMap_assoc, List.flatMap_map]
    simp only [List.flatMap_append, List.flatMap_singleton]
  have hbatches := hclose (bs.map Batch.mentions)
  rw [List.flatMap_map, List.map_map] at hbatches
  rw [hclose mss, ← h]
  exact hbatches

/-! ## Texts that are taken over -/

/-- Every text of a project that is taken over as it is ends in code: custom types, defaults that are
not quoted, conditions, actions on deletion, and the separator with its line feed. -/
structure ClosedFragments (o : ScriptOptions) (p : Project) : Prop where
  types : ∀ t ∈ p.tables, ∀ c ∈ t.columns,
    TypeFamily.of (Unicode.lower (Unicode.trim c.dataType)) = .custom → IsClosed c.dataType.toList
  defaults : ∀ t ∈ p.tables, ∀ c ∈ t.columns, ∀ text,
    defaultExpression c.defaultSql c.defaultKind = some (.raw text) → IsClosed text.toList
  checks : ∀ t ∈ p.tables, ∀ c ∈ t.checkConstraints, IsClosed c.expression.toList
  deletions : ∀ key ∈ p.writtenForeignKeys, ∀ action,
    givenName key.2.onDeleteAction = some action → IsClosed action.toList
  separator : IsClosed (o.batchSeparator.toList ++ ['\n'])

theorem ClosedFragments.resolveSchemas {o : ScriptOptions} {p : Project}
    (h : ClosedFragments o p) (d : String) : ClosedFragments o (p.resolveSchemas d) where
  types t ht := by
    obtain ⟨s, hs, rfl⟩ := Project.mem_tables_resolveSchemas.mp ht
    exact h.types s hs
  defaults t ht := by
    obtain ⟨s, hs, rfl⟩ := Project.mem_tables_resolveSchemas.mp ht
    exact h.defaults s hs
  checks t ht := by
    obtain ⟨s, hs, rfl⟩ := Project.mem_tables_resolveSchemas.mp ht
    exact h.checks s hs
  deletions key hkey := by
    rw [Project.writtenForeignKeys_resolveSchemas] at hkey
    obtain ⟨original, horiginal, rfl⟩ := List.mem_map.mp hkey
    exact h.deletions original horiginal
  separator := h.separator

theorem columnEntry_rawsClosed {o : ScriptOptions} {p : Project} (h : ClosedFragments o p)
    {t : Table} (ht : t ∈ p.tables) {c : Column} (hc : c ∈ t.columns) :
    (columnEntry (o.alignment t) t c).RawsClosed := by
  have htype : (columnEntry (o.alignment t) t c).typeText = c.typeText := by
    rw [columnEntry]
  have hdefault : (columnEntry (o.alignment t) t c).default
      = (defaultExpression c.defaultSql c.defaultKind).map fun e => ⟨t.defaultName c, e⟩ := by
    rw [columnEntry]
  refine ⟨?_, fun d text hd hraw => ?_⟩
  · rw [htype]
    exact Column.isClosed_typeText (h.types t ht c hc)
  · rw [hdefault] at hd
    obtain ⟨e, he, rfl⟩ := Option.map_eq_some_iff.mp hd
    exact h.defaults t ht c hc text (he.trans (congrArg some hraw))

theorem createTable_rawsClosed {o : ScriptOptions} {p : Project} (h : ClosedFragments o p)
    {t : Table} (ht : t ∈ p.tables) : (createTable o t).RawsClosed := by
  intro e he
  rw [filterMap_planEntries, List.mem_append, List.mem_append, List.mem_append] at he
  rcases he with ((he | he) | he) | he
  · obtain ⟨c, hc, rfl⟩ := List.mem_map.mp he
    exact columnEntry_rawsClosed h ht hc
  · rw [Option.mem_toList, keyEntry] at he
    split at he
    · cases he
    · cases he
      trivial
  · obtain ⟨c, hc, rfl⟩ := List.mem_map.mp he
    exact h.checks t ht c hc
  · obtain ⟨u, -, hu⟩ := List.mem_filterMap.mp he
    rw [planUnique] at hu
    split at hu
    · cases hu
    · cases hu
      trivial

theorem scriptBatches_rawsClosed {o : ScriptOptions} {p : Project} (h : ClosedFragments o p)
    {time : Instant} {issued : List IssuedKey}
    (hissued : issued.map (·.unnamed) = p.writtenForeignKeys) :
    ∀ b ∈ scriptBatches o p time issued, b.RawsClosed := by
  intro b hb
  simp only [scriptBatches, List.cons_append, List.mem_cons, List.mem_append] at hb
  rcases hb with rfl | ((hb | hb) | hb) | hb
  · trivial
  · obtain ⟨schema, -, rfl⟩ := List.mem_map.mp hb
    trivial
  · obtain ⟨t, ht, hb⟩ := List.mem_flatMap.mp hb
    simp only [tableBatches, List.mem_cons, List.not_mem_nil, or_false] at hb
    rcases hb with rfl | rfl
    · trivial
    · exact createTable_rawsClosed h ht
  · obtain ⟨k, hk, rfl⟩ := List.mem_map.mp hb
    exact h.deletions k.unnamed (hissued ▸ List.mem_map_of_mem hk)
  · obtain ⟨index, -, rfl⟩ := List.mem_map.mp hb
    trivial

/-! ## The script -/

/-- After any number of its batches a script is in code, and the names and strings read in it are
those that the project asks for; what is read in a text that is taken over is the same as when that
text stands alone. -/
theorem generate_reads {o : ScriptOptions} {p : Project} {time : Instant} {words : WordSource}
    {g : Generated} (hp : ClosedFragments o p) (h : generate o p time words = some g) :
    g.script.toList = g.batches.flatMap (·.closed o.batchSeparator) ∧
      (∀ n, (scan .code ((g.batches.take n).flatMap (·.closed o.batchSeparator))).1 = .code) ∧
      ∃ issued : List IssuedKey,
        issued.map (·.unnamed) = (p.resolveSchemas o.defaultSchema).writtenForeignKeys ∧
        quoted (lex g.script.toList)
          = (o.mentions (p.resolveSchemas o.defaultSchema) issued).flatMap Mention.tokens := by
  obtain ⟨issued, hissued, hbatches, hscript⟩ := generate_batches h
  have hr := hp.resolveSchemas o.defaultSchema
  have hraws : ∀ b ∈ g.batches, b.RawsClosed := by
    rw [hbatches]
    exact scriptBatches_rawsClosed hr hissued
  have htext : g.script.toList = g.batches.flatMap (·.closed o.batchSeparator) := by
    rw [hscript, renderScript, String.toList_ofList]
  refine ⟨htext, fun n => ?_, issued, hissued, ?_⟩
  · exact (scan_batches hr.separator fun b hb => hraws b (List.mem_of_mem_take hb)).1
  · obtain ⟨hcode, hquoted⟩ := scan_batches hr.separator hraws
    have hlex : lex g.script.toList
        = (scan .code (g.batches.flatMap (·.closed o.batchSeparator))).2 := by
      rw [htext, lex, lexFrom, hcode]
      exact List.append_nil _
    rw [hlex, hquoted, ScriptOptions.mentions]
    refine closedMentions_tokens ?_
    rw [hbatches]
    exact scriptBatches_tokens o _ time issued

theorem closedFragments_awkwardProject : ClosedFragments .standard awkwardProject where
  types := by decide +kernel
  defaults t ht c hc text h := by
    have hdefault : ∀ t ∈ awkwardProject.tables, ∀ c ∈ t.columns,
        defaultExpression c.defaultSql c.defaultKind = some (.raw "'a'';--'") := by
      decide +kernel
    rw [hdefault t ht c hc] at h
    cases h
    decide
  checks := by decide +kernel
  deletions key hkey action h := by
    have haction : ∀ key ∈ awkwardProject.writtenForeignKeys,
        givenName key.2.onDeleteAction = some "SET [']" := by
      decide +kernel
    rw [haction key hkey] at h
    cases h
    decide
  separator := by decide

theorem generate_reads_awkwardProject :
    ∃ g issued, generate .standard awkwardProject ⟨0, 0⟩ (.ofList []) = some g ∧
      (scan .code g.script.toList).1 = .code ∧
      quoted (lex g.script.toList) = (ScriptOptions.standard.mentions
        (awkwardProject.resolveSchemas ScriptOptions.standard.defaultSchema) issued).flatMap
          Mention.tokens := by
  obtain ⟨g, hg⟩ := generate_awkwardProject
  obtain ⟨htext, hcode, issued, -, hquoted⟩ := generate_reads closedFragments_awkwardProject hg
  refine ⟨g, issued, hg, ?_, hquoted⟩
  have hall := hcode g.batches.length
  rw [List.take_length] at hall
  rw [htext]
  exact hall

end SchemaScript
