import Mathlib.Data.List.Basic
import SchemaScript.Proofs.Schema.Lookup
import SchemaScript.Proofs.Schema.Resolution
import SchemaScript.Script.Generate

/-!
# SchemaScript.Proofs.Script.Resolution

Filling in the schemas of a project beforehand changes nothing about its script. A script is made
from schemas that are filled in, and everything that reads one of them fills it in again or trims it.
Neither can tell a schema that was filled in once from one that was filled in twice, although the two
differ where the default schema has white space around it.

* `Table.IsSettled`, `ForeignKey.IsSettled`: the schemas mean the same when they are filled in again.
* `tableSteps_resolve`, `addForeignKeys_resolve`, …: what is made from settled tables and keys.
* `generate_resolveSchemas`: the script of a project with its schemas filled in.
-/

namespace SchemaScript

variable {d : String} {o : ScriptOptions}

/-! ## Settled schemas -/

/-- The names of the table and the name spaces of its parts are the same after its schema is filled in
again. -/
structure Table.IsSettled (d : String) (t : Table) : Prop where
  schema : resolveSchema d (resolveSchema d t.schema) = resolveSchema d t.schema
  space : Unicode.trim (resolveSchema d t.schema) = Unicode.trim t.schema

/-- The name of the target is the same after its schema is filled in again. -/
def ForeignKey.IsSettled (d : String) (k : ForeignKey) : Prop :=
  SchemaScript.resolveSchema d (SchemaScript.resolveSchema d k.refSchema)
    = SchemaScript.resolveSchema d k.refSchema

theorem Table.isSettled_resolveSchemas (d : String) (t : Table) :
    (t.resolveSchemas d).IsSettled d where
  schema := resolveSchema_settled d t.schema
  space := trim_resolveSchema_resolveSchema d t.schema

theorem ForeignKey.isSettled_resolveSchema (d : String) (k : ForeignKey) :
    (k.resolveSchema d).IsSettled d :=
  resolveSchema_settled d k.refSchema

/-! ## Names -/

theorem tableName_resolve {t : Table} (h : t.IsSettled o.defaultSchema) :
    o.tableName (t.resolveSchemas o.defaultSchema) = o.tableName t :=
  congrArg (ObjectName.mk · t.name) h.schema

theorem key_resolve {t : Table} (h : t.IsSettled d) : (t.resolveSchemas d).key d = t.key d :=
  congrArg (fun schema => TableKey.mk (Unicode.lower schema) (Unicode.lower (Unicode.trim t.name)))
    h.schema

theorem target_resolve {k : ForeignKey} (h : k.IsSettled d) :
    (k.resolveSchema d).target d = k.target d :=
  congrArg
    (fun schema => TableKey.mk (Unicode.lower schema) (Unicode.lower (Unicode.trim k.refTable))) h

/-! ## Tables and indexes -/

theorem tableSteps_resolve {t : Table} (h : t.IsSettled o.defaultSchema) :
    tableSteps o (t.resolveSchemas o.defaultSchema) = tableSteps o t := by
  have hspace : (t.resolveSchemas o.defaultSchema).constraintSpace = t.constraintSpace := h.space
  have hentries : planEntries o (t.resolveSchemas o.defaultSchema) = planEntries o t := rfl
  rw [tableSteps, tableSteps, hspace, hentries]
  rfl

theorem tableBatches_resolve {t : Table} (h : t.IsSettled o.defaultSchema) :
    tableBatches o (t.resolveSchemas o.defaultSchema) = tableBatches o t := by
  have hentries : planEntries o (t.resolveSchemas o.defaultSchema) = planEntries o t := rfl
  rw [tableBatches, tableBatches, createTable, createTable, tableName_resolve h, hentries]

theorem planIndex_resolve {t : Table} (h : t.IsSettled o.defaultSchema) (i : Index) :
    planIndex o (t.resolveSchemas o.defaultSchema) i = planIndex o t i := by
  rw [planIndex, planIndex, indexStatement, indexStatement, tableName_resolve h]
  rfl

theorem indexSteps_resolve {t : Table} (h : t.IsSettled o.defaultSchema) (i : Index) :
    indexSteps o (t.resolveSchemas o.defaultSchema) i = indexSteps o t i := by
  have hspace : (t.resolveSchemas o.defaultSchema).indexSpace = t.indexSpace :=
    congrArg (· ++ "." ++ t.name) h.space
  rw [indexSteps, indexSteps, planIndex_resolve h, hspace]

theorem missingSchemas_resolve {ts : List Table} (h : ∀ t ∈ ts, t.IsSettled o.defaultSchema)
    (seen : List String) :
    missingSchemas o seen (ts.map (·.resolveSchemas o.defaultSchema)) = missingSchemas o seen ts := by
  induction ts generalizing seen with
  | nil => rfl
  | cons t ts ih =>
    have hschema : resolveSchema o.defaultSchema (t.resolveSchemas o.defaultSchema).schema
        = resolveSchema o.defaultSchema t.schema := (h t List.mem_cons_self).schema
    have ih := ih fun u hu => h u (List.mem_cons_of_mem _ hu)
    simp only [List.map_cons, missingSchemas, hschema, ih]

/-! ## Foreign keys -/

theorem nameForeignKey_resolve {t : Table} (h : t.IsSettled d) (scope : NameScope)
    (words : WordSource) (k : ForeignKey) :
    nameForeignKey scope words (t.resolveSchemas d) (k.resolveSchema d)
      = nameForeignKey scope words t k := by
  have hspace : (t.resolveSchemas d).constraintSpace = t.constraintSpace := h.space
  rw [nameForeignKey, nameForeignKey, hspace]
  rfl

theorem foreignKeyStatement_resolve {t : Table} {k : ForeignKey}
    (ht : t.IsSettled o.defaultSchema) (hk : k.IsSettled o.defaultSchema) (name : String) :
    foreignKeyStatement o (t.resolveSchemas o.defaultSchema) (k.resolveSchema o.defaultSchema) name
      = foreignKeyStatement o t k name := by
  have htarget : o.objectName (k.resolveSchema o.defaultSchema).refSchema
      (k.resolveSchema o.defaultSchema).refTable = o.objectName k.refSchema k.refTable :=
    congrArg (ObjectName.mk · k.refTable) hk
  rw [foreignKeyStatement, foreignKeyStatement, tableName_resolve ht, htarget]
  rfl

theorem foreignKeyNotes_resolve {p : Project} (hp : ∀ t ∈ p.tables, t.IsSettled d)
    {k : ForeignKey} (hk : k.IsSettled d) (t : Table) :
    foreignKeyNotes (.ofProject d (p.resolveSchemas d)) (t.resolveSchemas d) (k.resolveSchema d)
      = foreignKeyNotes (.ofProject d p) t k := by
  have htarget : ((TableLookup.ofProject d (p.resolveSchemas d)).target? (k.resolveSchema d)).isNone
      = ((TableLookup.ofProject d p).target? k).isNone := by
    rw [Bool.eq_iff_iff, TableLookup.target?_isNone_iff, TableLookup.target?_isNone_iff,
      target_resolve hk]
    simp only [Project.mem_tables_resolveSchemas, forall_exists_index, and_imp,
      forall_apply_eq_imp_iff₂]
    exact forall₂_congr fun u hu => by rw [key_resolve (hp u hu)]
  rw [foreignKeyNotes, foreignKeyNotes, htarget]
  rfl

/-- By induction on the keys: the name of each is issued in the scope that the keys before it left,
which is the same on both sides. -/
theorem addForeignKeys_resolve {p : Project} (hp : ∀ t ∈ p.tables, t.IsSettled o.defaultSchema)
    {keys : List (Table × ForeignKey)}
    (hkeys : ∀ key ∈ keys, key.1.IsSettled o.defaultSchema ∧ key.2.IsSettled o.defaultSchema)
    (scope : NameScope) (words : WordSource) :
    addForeignKeys o (.ofProject o.defaultSchema (p.resolveSchemas o.defaultSchema)) scope words
        (keys.map fun key =>
          (key.1.resolveSchemas o.defaultSchema, key.2.resolveSchema o.defaultSchema))
      = addForeignKeys o (.ofProject o.defaultSchema p) scope words keys := by
  induction keys generalizing scope words with
  | nil => rfl
  | cons key keys ih =>
    obtain ⟨t, k⟩ := key
    obtain ⟨ht, hk⟩ := hkeys (t, k) List.mem_cons_self
    have ih := ih fun key hkey => hkeys key (List.mem_cons_of_mem _ hkey)
    rw [List.map_cons, addForeignKeys, addForeignKeys]
    simp only [ih, nameForeignKey_resolve ht, foreignKeyStatement_resolve ht hk,
      foreignKeyNotes_resolve hp hk]
    rfl

/-! ## The script -/

theorem Project.indexes_resolveSchemas (d : String) (p : Project) :
    (p.resolveSchemas d).indexes = p.indexes.map fun index => (index.1.resolveSchemas d, index.2) := by
  simp only [indexes, resolveSchemas, List.flatMap_map, List.map_flatMap, Table.resolveSchemas,
    List.map_map, Function.comp_def]

theorem Project.flatMap_indexes_resolveSchemas {β : Type} {d : String} {p : Project}
    {f : Table × Index → List β}
    (h : ∀ index ∈ p.indexes, f (index.1.resolveSchemas d, index.2) = f index) :
    (p.resolveSchemas d).indexes.flatMap f = p.indexes.flatMap f := by
  rw [indexes_resolveSchemas, List.flatMap_map]
  exact List.flatMap_congr h

theorem Project.filterMap_indexes_resolveSchemas {β : Type} {d : String} {p : Project}
    {f : Table × Index → Option β}
    (h : ∀ index ∈ p.indexes, f (index.1.resolveSchemas d, index.2) = f index) :
    (p.resolveSchemas d).indexes.filterMap f = p.indexes.filterMap f := by
  rw [indexes_resolveSchemas, List.filterMap_map]
  exact List.filterMap_congr h

/-- Every table, foreign key and index is settled once the schemas of a project are filled in. -/
theorem Project.isSettled_resolveSchemas (d : String) (p : Project) :
    (∀ t ∈ (p.resolveSchemas d).tables, t.IsSettled d) ∧
      (∀ key ∈ (p.resolveSchemas d).foreignKeys, key.1.IsSettled d ∧ key.2.IsSettled d) ∧
      ∀ index ∈ (p.resolveSchemas d).indexes, index.1.IsSettled d := by
  rw [foreignKeys_resolveSchemas, indexes_resolveSchemas, resolveSchemas]
  simp only [List.forall_mem_map]
  exact ⟨fun t _ => t.isSettled_resolveSchemas d,
    fun key _ => ⟨key.1.isSettled_resolveSchemas d, key.2.isSettled_resolveSchema d⟩,
    fun index _ => index.1.isSettled_resolveSchemas d⟩

/-- The script of a project is the script of the project with its schemas filled in: the same
batches and text, the same names issued and words drawn, and the same events. -/
theorem generate_resolveSchemas (o : ScriptOptions) (p : Project) (time : Instant)
    (words : WordSource) :
    generate o (p.resolveSchemas o.defaultSchema) time words = generate o p time words := by
  obtain ⟨htables, hkeys, hindexes⟩ := p.isSettled_resolveSchemas o.defaultSchema
  unfold generate
  -- what the script is made from, on both sides
  generalize p.resolveSchemas o.defaultSchema = q at htables hkeys hindexes ⊢
  have hsteps : (q.resolveSchemas o.defaultSchema).tables.flatMap (tableSteps o)
      = q.tables.flatMap (tableSteps o) := by
    rw [Project.resolveSchemas, List.flatMap_map]
    exact List.flatMap_congr fun t ht => tableSteps_resolve (htables t ht)
  have hbatches : (q.resolveSchemas o.defaultSchema).tables.flatMap (tableBatches o)
      = q.tables.flatMap (tableBatches o) := by
    rw [Project.resolveSchemas, List.flatMap_map]
    exact List.flatMap_congr fun t ht => tableBatches_resolve (htables t ht)
  have hschemas : missingSchemas o [] (q.resolveSchemas o.defaultSchema).tables
      = missingSchemas o [] q.tables :=
    missingSchemas_resolve htables []
  have hcount : (q.resolveSchemas o.defaultSchema).tables.length = q.tables.length :=
    List.length_map ..
  dsimp only
  rw [hsteps, hbatches, hschemas, hcount, Project.foreignKeys_resolveSchemas,
    addForeignKeys_resolve htables hkeys, Project.flatMap_indexes_resolveSchemas ?indexSteps,
    Project.filterMap_indexes_resolveSchemas ?indexBatches]
  case indexSteps => exact fun index hi => indexSteps_resolve (hindexes index hi) index.2
  case indexBatches =>
    intro index hi
    dsimp only
    rw [planIndex_resolve (hindexes index hi)]
  rfl

end SchemaScript
