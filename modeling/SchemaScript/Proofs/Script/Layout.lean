import SchemaScript.Proofs.Schema.Resolution
import SchemaScript.Script.Generate

/-!
# SchemaScript.Proofs.Script.Layout

The order of the batches in a script, and what each of them depends on.

* `generate_inv`: what a script that was generated consists of.
* `addForeignKeys_issued`: the foreign keys with columns are written one by one, each under the name
  issued for it; the names issued before have no other effect on the batches.
* `generate_batches`: the batches of a script as a function of the resolved project, the time and the
  names issued for foreign keys.
* `generate_layout`: the text of a script, batch by batch.
-/

namespace SchemaScript

/-! ## What is written -/

/-- The foreign keys that are written: those with columns. -/
def Project.writtenForeignKeys (p : Project) : List (Table × ForeignKey) :=
  p.foreignKeys.filter fun key => !key.2.columns.isEmpty

theorem Project.writtenForeignKeys_resolveSchemas (d : String) (p : Project) :
    (p.resolveSchemas d).writtenForeignKeys
      = p.writtenForeignKeys.map fun key => (key.1.resolveSchemas d, key.2.resolveSchema d) := by
  rw [writtenForeignKeys, foreignKeys_resolveSchemas, List.filter_map]
  rfl

/-- The indexes that are written: those with columns. -/
def Project.writtenIndexes (p : Project) : List (Table × Index) :=
  p.indexes.filter fun index => !index.2.columns.isEmpty

/-- A name that may be issued for a foreign key: the one given, or the stem with the digits of a
word. -/
def ForeignKey.MayBeNamed (t : Table) (k : ForeignKey) (name : String) : Prop :=
  match givenName k.name with
  | some given => name = given
  | none => ∃ w, name = suffixed (t.foreignKeyStem k) w

/-- A foreign key of a table under the name issued for it. -/
structure IssuedKey where
  table : Table
  key : ForeignKey
  name : String
  named : key.MayBeNamed table name

def IssuedKey.unnamed (k : IssuedKey) : Table × ForeignKey :=
  (k.table, k.key)

def IssuedKey.batch (o : ScriptOptions) (k : IssuedKey) : Batch :=
  .addForeignKey (foreignKeyStatement o k.table k.key k.name)

/-- The batches of the script of a project whose schemas are filled in. -/
def scriptBatches (o : ScriptOptions) (p : Project) (time : Instant) (issued : List IssuedKey) :
    List Batch :=
  .session (heading o p time)
    :: (missingSchemas o [] p.tables).map .createSchema
    ++ p.tables.flatMap (tableBatches o)
    ++ issued.map (·.batch o)
    ++ p.writtenIndexes.map fun index => .createIndex (indexStatement o index.1 index.2)

/-! ## Issuing names -/

theorem freshName_suffixed {space stem : String} {scope : NameScope} {fuel : Nat}
    {words : WordSource} {i : Issued} (h : freshName space stem scope fuel words = some i) :
    ∃ w, i.name = suffixed stem w := by
  induction fuel generalizing words i with
  | zero => cases h
  | succ fuel ih =>
    simp only [freshName] at h
    split at h
    · obtain ⟨j, hj, hi⟩ := Option.map_eq_some_iff.mp h
      obtain ⟨w, hw⟩ := ih hj
      exact ⟨w, by rw [← hi, hw]⟩
    · cases h
      exact ⟨_, rfl⟩

theorem nameForeignKey_mayBeNamed {scope : NameScope} {words : WordSource} {t : Table}
    {k : ForeignKey} {i : Issued} (h : nameForeignKey scope words t k = some i) :
    k.MayBeNamed t i.name := by
  rw [nameForeignKey] at h
  rw [ForeignKey.MayBeNamed]
  cases hg : givenName k.name with
  | some given =>
    rw [hg] at h
    cases h
    rfl
  | none =>
    rw [hg] at h
    exact freshName_suffixed h

theorem addForeignKeys_cons_skipped {o : ScriptOptions} {lookup : TableLookup} {scope : NameScope}
    {words : WordSource} {t : Table} {k : ForeignKey} {keys : List (Table × ForeignKey)}
    {r : ForeignKeyBatches} (hk : k.columns.isEmpty = true)
    (h : addForeignKeys o lookup scope words ((t, k) :: keys) = some r) :
    ∃ rest, addForeignKeys o lookup scope words keys = some rest ∧
      r = { rest with events := .skippedForeignKey t.name k.refTable :: rest.events } := by
  simp only [addForeignKeys, hk, if_true] at h
  obtain ⟨rest, hrest, hr⟩ := Option.bind_eq_some_iff.mp h
  exact ⟨rest, hrest, (Option.some.inj hr).symm⟩

theorem addForeignKeys_cons_written {o : ScriptOptions} {lookup : TableLookup} {scope : NameScope}
    {words : WordSource} {t : Table} {k : ForeignKey} {keys : List (Table × ForeignKey)}
    {r : ForeignKeyBatches} (hk : k.columns.isEmpty = false)
    (h : addForeignKeys o lookup scope words ((t, k) :: keys) = some r) :
    ∃ issued rest, nameForeignKey scope words t k = some issued ∧
      addForeignKeys o lookup issued.scope issued.words keys = some rest ∧
      r = { rest with
        batches := .addForeignKey (foreignKeyStatement o t k issued.name) :: rest.batches
        events := foreignKeyNotes lookup t k ++ issued.events ++ rest.events } := by
  simp only [addForeignKeys, hk, Bool.false_eq_true, if_false] at h
  obtain ⟨issued, hissued, h⟩ := Option.bind_eq_some_iff.mp h
  obtain ⟨rest, hrest, hr⟩ := Option.bind_eq_some_iff.mp h
  exact ⟨issued, rest, hissued, hrest, (Option.some.inj hr).symm⟩

/-- By induction on the keys; the scope and the words are those left by the keys before, and nothing
is asked of them. -/
theorem addForeignKeys_issued {o : ScriptOptions} {lookup : TableLookup}
    (keys : List (Table × ForeignKey)) :
    ∀ {scope : NameScope} {words : WordSource} {r : ForeignKeyBatches},
      addForeignKeys o lookup scope words keys = some r →
      ∃ issued : List IssuedKey,
        issued.map (·.unnamed) = keys.filter (fun key => !key.2.columns.isEmpty) ∧
        r.batches = issued.map (·.batch o) := by
  induction keys with
  | nil =>
    intro scope words r h
    cases h
    exact ⟨[], rfl, rfl⟩
  | cons key keys ih =>
    obtain ⟨t, k⟩ := key
    intro scope words r h
    cases hk : k.columns.isEmpty with
    | true =>
      -- Neither the scope nor the words change here.
      obtain ⟨rest, hrest, rfl⟩ := addForeignKeys_cons_skipped hk h
      obtain ⟨issued, hkeys, hbatches⟩ := ih hrest
      exact ⟨issued, by simp [hk, hkeys], hbatches⟩
    | false =>
      obtain ⟨i, rest, hi, hrest, rfl⟩ := addForeignKeys_cons_written hk h
      obtain ⟨issued, hkeys, hbatches⟩ := ih hrest
      refine ⟨⟨t, k, i.name, nameForeignKey_mayBeNamed hi⟩ :: issued, ?_, ?_⟩
      · rw [List.map_cons, hkeys]
        simp [hk, IssuedKey.unnamed]
      · rw [List.map_cons, ← hbatches]
        rfl

/-! ## The script -/

theorem planIndex_made? (o : ScriptOptions) (t : Table) (i : Index) :
    (planIndex o t i).made? = if i.columns.isEmpty then none else some (indexStatement o t i) := by
  unfold planIndex
  split <;> rfl

theorem writtenIndexes_batches (o : ScriptOptions) (indexes : List (Table × Index)) :
    (indexes.filterMap fun (t, i) => (planIndex o t i).made?.map Batch.createIndex)
      = (indexes.filter fun index => !index.2.columns.isEmpty).map
          fun index => .createIndex (indexStatement o index.1 index.2) := by
  induction indexes with
  | nil => rfl
  | cons index indexes ih =>
    rw [List.filterMap_cons, List.filter_cons, ih]
    cases hi : index.2.columns.isEmpty with
    | true => simp only [planIndex_made?, hi]; rfl
    | false => simp only [planIndex_made?, hi]; rfl

/-- The entries of a table that are written. -/
theorem filterMap_planEntries (o : ScriptOptions) (t : Table) :
    (planEntries o t).filterMap Planned.made?
      = t.columns.map (fun c => .column (columnEntry (o.alignment t) t c))
        ++ (keyEntry t).toList
        ++ t.checkConstraints.map (fun c => .check (t.checkName c) c.expression)
        ++ t.uniqueConstraints.filterMap fun u => (planUnique t u).made? := by
  have hmade : ∀ {α : Type} (as : List α) (f : α → Entry),
      (as.map fun a => Planned.made (f a)).filterMap Planned.made? = as.map f := by
    intro α as f
    rw [List.filterMap_map]
    exact congrFun List.filterMap_eq_map' as
  have hkey : ((keyEntry t).toList.map Planned.made).filterMap Planned.made?
      = (keyEntry t).toList :=
    (hmade _ fun e => e).trans (List.map_id' _)
  have hunique : (t.uniqueConstraints.map (planUnique t)).filterMap Planned.made?
      = t.uniqueConstraints.filterMap fun u => (planUnique t u).made? :=
    List.filterMap_map
  simp only [planEntries, List.filterMap_append, hkey, hunique, hmade]

/-- The parts of a script that was generated. -/
theorem generate_inv {o : ScriptOptions} {p : Project} {time : Instant} {words : WordSource}
    {g : Generated} (h : generate o p time words = some g) :
    ∃ keys, addForeignKeys o
        (TableLookup.ofProject o.defaultSchema (p.resolveSchemas o.defaultSchema))
        (NameScope.empty.account
          ((p.resolveSchemas o.defaultSchema).tables.flatMap (tableSteps o))).1
        words (p.resolveSchemas o.defaultSchema).foreignKeys = some keys ∧
      (g.words = keys.words ∧
        g.scope = (keys.scope.account ((p.resolveSchemas o.defaultSchema).indexes.flatMap
          fun (t, i) => indexSteps o t i)).1 ∧
        g.events = (NameScope.empty.account
            ((p.resolveSchemas o.defaultSchema).tables.flatMap (tableSteps o))).2
          ++ keys.events
          ++ (keys.scope.account ((p.resolveSchemas o.defaultSchema).indexes.flatMap
            fun (t, i) => indexSteps o t i)).2
          ++ [.scriptGenerated (p.resolveSchemas o.defaultSchema).tables.length g.scope.size
            g.script.utf8ByteSize]) ∧
      g.script = renderScript o.batchSeparator g.batches ∧
      g.batches =
        .session (heading o (p.resolveSchemas o.defaultSchema) time)
          :: (missingSchemas o [] (p.resolveSchemas o.defaultSchema).tables).map .createSchema
          ++ (p.resolveSchemas o.defaultSchema).tables.flatMap (tableBatches o)
          ++ keys.batches
          ++ (p.resolveSchemas o.defaultSchema).indexes.filterMap fun (t, i) =>
              (planIndex o t i).made?.map .createIndex := by
  obtain ⟨keys, hkeys, hg⟩ := Option.bind_eq_some_iff.mp h
  cases hg
  exact ⟨keys, hkeys, ⟨rfl, rfl, rfl⟩, rfl, rfl⟩

theorem generate_batches {o : ScriptOptions} {p : Project} {time : Instant} {words : WordSource}
    {g : Generated} (h : generate o p time words = some g) :
    ∃ issued : List IssuedKey,
      issued.map (·.unnamed) = (p.resolveSchemas o.defaultSchema).writtenForeignKeys ∧
      g.batches = scriptBatches o (p.resolveSchemas o.defaultSchema) time issued ∧
      g.script = renderScript o.batchSeparator g.batches := by
  obtain ⟨keys, hkeys, -, hscript, hbatches⟩ := generate_inv h
  obtain ⟨issued, hissued, hkeyBatches⟩ := addForeignKeys_issued _ hkeys
  refine ⟨issued, hissued, ?_, hscript⟩
  rw [hbatches, hkeyBatches, writtenIndexes_batches]
  rfl

/-! ## The text of a script -/

namespace ScriptOptions

/-- The comments and session settings at the top. -/
def headerText (o : ScriptOptions) (p : Project) (time : Instant) : List Char :=
  (Batch.session (heading o p time)).closed o.batchSeparator

def schemaText (o : ScriptOptions) (schema : String) : List Char :=
  (Batch.createSchema schema).closed o.batchSeparator

def dropText (o : ScriptOptions) (t : Table) : List Char :=
  (Batch.dropTable (o.tableName t)).closed o.batchSeparator

def createText (o : ScriptOptions) (t : Table) : List Char :=
  (createTable o t).closed o.batchSeparator

/-- The batch that adds a foreign key under a name. -/
def foreignKeyText (o : ScriptOptions) (t : Table) (k : ForeignKey) (name : String) : List Char :=
  (Batch.addForeignKey (foreignKeyStatement o t k name)).closed o.batchSeparator

def indexText (o : ScriptOptions) (t : Table) (i : Index) : List Char :=
  (Batch.createIndex (indexStatement o t i)).closed o.batchSeparator

/-- The texts of the batches of a script, in order. -/
def scriptTexts (o : ScriptOptions) (p : Project) (time : Instant) (issued : List IssuedKey) :
    List (List Char) :=
  [o.headerText p time]
    ++ (missingSchemas o [] p.tables).map o.schemaText
    ++ p.tables.flatMap (fun t => [o.dropText t, o.createText t])
    ++ issued.map (fun k => o.foreignKeyText k.table k.key k.name)
    ++ p.writtenIndexes.map fun index => o.indexText index.1 index.2

end ScriptOptions

theorem map_closed_scriptBatches (o : ScriptOptions) (p : Project) (time : Instant)
    (issued : List IssuedKey) :
    (scriptBatches o p time issued).map (·.closed o.batchSeparator)
      = o.scriptTexts p time issued := by
  have htables : (p.tables.flatMap (tableBatches o)).map (·.closed o.batchSeparator)
      = p.tables.flatMap fun t => [o.dropText t, o.createText t] := by
    rw [List.map_flatMap]
    rfl
  simp only [scriptBatches, List.map_append, List.map_cons, List.map_map, htables]
  rfl

theorem toList_renderScript (o : ScriptOptions) (p : Project) (time : Instant)
    (issued : List IssuedKey) :
    (renderScript o.batchSeparator (scriptBatches o p time issued)).toList
      = (o.scriptTexts p time issued).flatten := by
  rw [renderScript, String.toList_ofList, List.flatMap, map_closed_scriptBatches]

theorem length_scriptTexts (o : ScriptOptions) (p : Project) (time : Instant)
    (issued : List IssuedKey) :
    (o.scriptTexts p time issued).length
      = 1 + (missingSchemas o [] p.tables).length + 2 * p.tables.length + issued.length
        + p.writtenIndexes.length := by
  have htables : (p.tables.flatMap fun t => [o.dropText t, o.createText t]).length
      = 2 * p.tables.length := by
    induction p.tables with
    | nil => rfl
    | cons t ts ih => rw [List.flatMap_cons, List.length_append, ih, List.length_cons]; simp; omega
  simp [ScriptOptions.scriptTexts, htables]
  omega

theorem scriptTexts_end (o : ScriptOptions) (p : Project) (time : Instant)
    (issued : List IssuedKey) {text : List Char} (h : text ∈ o.scriptTexts p time issued) :
    ∃ body, text = body ++ o.batchSeparator.toList ++ ['\n', '\n'] := by
  rw [← map_closed_scriptBatches] at h
  obtain ⟨b, -, rfl⟩ := List.mem_map.mp h
  exact ⟨b.chars, rfl⟩

/-- A script is the header, the missing schemas, every table dropped and created, the foreign keys
with columns and the indexes with columns, in this order and nothing else. Each text is a function of
the options and of what it writes; a foreign key also takes the name issued for it. -/
theorem generate_layout {o : ScriptOptions} {p : Project} {time : Instant} {words : WordSource}
    {g : Generated} (h : generate o p time words = some g) :
    ∃ issued : List IssuedKey,
      issued.map (·.unnamed) = (p.resolveSchemas o.defaultSchema).writtenForeignKeys ∧
      g.script.toList
        = (o.scriptTexts (p.resolveSchemas o.defaultSchema) time issued).flatten ∧
      (o.scriptTexts (p.resolveSchemas o.defaultSchema) time issued).length
        = 1 + (missingSchemas o [] (p.resolveSchemas o.defaultSchema).tables).length
          + 2 * p.tables.length
          + (p.resolveSchemas o.defaultSchema).writtenForeignKeys.length
          + (p.resolveSchemas o.defaultSchema).writtenIndexes.length ∧
      ∀ text ∈ o.scriptTexts (p.resolveSchemas o.defaultSchema) time issued,
        ∃ body, text = body ++ o.batchSeparator.toList ++ ['\n', '\n'] := by
  obtain ⟨issued, hissued, hbatches, hscript⟩ := generate_batches h
  refine ⟨issued, hissued, ?_, ?_, fun text => scriptTexts_end o _ time issued⟩
  · rw [hscript, hbatches, renderScript, String.toList_ofList, List.flatMap,
      map_closed_scriptBatches]
  · have htables : (p.resolveSchemas o.defaultSchema).tables.length = p.tables.length := by
      rw [Project.resolveSchemas, List.length_map]
    rw [length_scriptTexts, htables, ← hissued, List.length_map]

/-- Two tables whose names have to be quoted with care. One foreign key and one index have no
columns, and the other foreign key is not given a name. -/
def awkwardProject : Project where
  name := "it's\n--[all]"
  description := some "]'\r\nGO"
  tables := [
    { schema := "sa]les"
      name := "Or'der--s"
      primaryKeyName := some "[pk"
      columns := [
        { name := "I'd]\n"
          dataType := "[x--y]"
          length := none
          precision := none
          scale := none
          isNullable := false
          isPrimaryKey := true
          primaryKeyOrder := none
          isIdentity := false
          identitySeed := 1
          identityIncrement := 1
          defaultSql := some "'a'';--'"
          defaultKind := .rawExpression
          isUnique := true }]
      foreignKeys := [
        { name := none, refSchema := " ", refTable := "Cust]om[ers"
          onDeleteAction := some " SET [']\n", columns := [⟨"I'd]\n", "--"⟩] },
        { name := none, refSchema := "", refTable := "None", onDeleteAction := none, columns := [] }]
      indexes := [
        { name := none, isUnique := true, columns := [⟨"I'd]\n", true⟩]
          includeColumnsCsv := some "],'" },
        { name := none, isUnique := false, columns := [], includeColumnsCsv := none }]
      checkConstraints := [⟨none, "[I'd]]\n] > 0 -- '\n"⟩]
      uniqueConstraints := [⟨none, ","⟩, ⟨some "u]", "--, I'd]"⟩] },
    { schema := ""
      name := "Cust]om[ers"
      primaryKeyName := none
      columns := []
      foreignKeys := []
      indexes := []
      checkConstraints := []
      uniqueConstraints := [] }]

theorem generate_awkwardProject :
    ∃ g, generate .standard awkwardProject ⟨0, 0⟩ (.ofList []) = some g :=
  Option.isSome_iff_exists.mp (by decide +kernel)

theorem generate_layout_awkwardProject :
    ∃ g issued, generate .standard awkwardProject ⟨0, 0⟩ (.ofList []) = some g ∧
      g.script.toList = (ScriptOptions.standard.scriptTexts
        (awkwardProject.resolveSchemas ScriptOptions.standard.defaultSchema) ⟨0, 0⟩ issued).flatten ∧
      (ScriptOptions.standard.scriptTexts
        (awkwardProject.resolveSchemas ScriptOptions.standard.defaultSchema) ⟨0, 0⟩ issued).length
          = 1 + 1 + 2 * 2 + 1 + 1 := by
  obtain ⟨g, hg⟩ := generate_awkwardProject
  obtain ⟨issued, -, htext, hlength, -⟩ := generate_layout hg
  have hschemas : (missingSchemas .standard [] (awkwardProject.resolveSchemas
      ScriptOptions.standard.defaultSchema).tables).length = 1 := by decide +kernel
  have hkeys : (awkwardProject.resolveSchemas
      ScriptOptions.standard.defaultSchema).writtenForeignKeys.length = 1 := by decide +kernel
  have hindexes : (awkwardProject.resolveSchemas
      ScriptOptions.standard.defaultSchema).writtenIndexes.length = 1 := by decide +kernel
  refine ⟨g, issued, hg, htext, ?_⟩
  rw [hlength, hschemas, hkeys, hindexes]
  rfl

end SchemaScript
