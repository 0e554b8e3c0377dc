import Mathlib.Order.Bounds.Defs
import SchemaScript.Proofs.Script.Accounting
import SchemaScript.Proofs.Script.TableBody
import SchemaScript.Proofs.Unicode.DisplayWidth

/-!
# SchemaScript.Proofs.Script.Alignment

Aligning the columns of a table puts spaces behind their names and changes nothing else in a script.

* `isGreatest_alignedName`: the names of a table are padded to the widest of them.
* `ScriptOptions.spacedTexts`: a script with any numbers of spaces behind the names of its columns;
  `scriptTexts_eq_spacedTexts`: every script is one.
* `tableSteps_aligned`, `addForeignKeys_aligned`: the alignment has no part in issuing names.
* `generate_aligned`: a script that is aligned, and the same one without.
-/

namespace SchemaScript

open Sql Unicode

/-! ## Widths -/

/-- A text with some spaces behind it. -/
def spaced (text : String) (count : Nat) : String :=
  text ++ String.ofList (List.replicate count ' ')

theorem displayWidth_spaced (text : String) (count : Nat) :
    displayWidth (spaced text count) = displayWidth text + count :=
  displayWidth_append_spaces text count

theorem Alignment.isGreatest_width {texts : List String} (h : texts ≠ []) :
    IsGreatest {w | ∃ text ∈ texts, displayWidth text = w} (ofTexts texts).width := by
  have hset : {w | ∃ text ∈ texts, displayWidth text = w} = {w | w ∈ texts.map displayWidth} := by
    simp only [List.mem_map]
  have hmax : (texts.map displayWidth).max? = some (ofTexts texts).width := by
    cases texts with
    | nil => exact absurd rfl h
    | cons text texts =>
      rw [ofTexts, List.map_cons, List.max?_cons', List.foldl_cons, Nat.zero_max]
  obtain ⟨hmem, hle⟩ := List.max?_eq_some_iff.mp hmax
  rw [hset]
  exact ⟨hmem, fun w hw => hle w hw⟩

/-- The number of spaces that the alignment of a table puts behind the name of a column. -/
def Table.alignedSpaces (t : Table) (c : Column) : Nat :=
  (Alignment.ofTexts (t.columns.map fun d => quoteName d.name)).fill (quoteName c.name)

/-- The aligned names of a table are all as wide as the widest of its names. -/
theorem isGreatest_alignedName {t : Table} {c : Column} (hc : c ∈ t.columns) :
    IsGreatest {w | ∃ d ∈ t.columns, displayWidth (quoteName d.name) = w}
      (displayWidth (spaced (quoteName c.name) (t.alignedSpaces c))) := by
  have hgreatest := Alignment.isGreatest_width
    (mt List.map_eq_nil_iff.mp (List.ne_nil_of_mem hc) :
      t.columns.map (fun d => quoteName d.name) ≠ [])
  simp only [List.mem_map, exists_exists_and_eq_and] at hgreatest
  have hle := hgreatest.2 ⟨c, hc, rfl⟩
  have hwidth : displayWidth (spaced (quoteName c.name) (t.alignedSpaces c))
      = (Alignment.ofTexts (t.columns.map fun d => quoteName d.name)).width := by
    rw [displayWidth_spaced, Table.alignedSpaces, Alignment.fill]
    exact Nat.add_sub_of_le hle
  rw [hwidth]
  exact hgreatest

/-! ## Scripts with spaces behind the names of columns -/

/-- What stands in front of the type in the line of a column. -/
def Column.lineFront (c : Column) (spaces : Nat) : String :=
  "    " ++ spaced (quoteName c.name) spaces ++ " "

/-- What stands behind the front of a line starts right behind the columns of the name, the indent and
the space between them, and is as wide as it is alone. -/
theorem Column.displayWidth_lineFront_append (c : Column) (spaces : Nat) (rest : String) :
    displayWidth (c.lineFront spaces ++ rest)
      = displayWidth (spaced (quoteName c.name) spaces) + 5 + displayWidth rest := by
  have hindent : "    " = String.ofList (List.replicate 4 ' ') := rfl
  rw [lineFront, displayWidth_append_space_append, hindent, displayWidth_spaces_append]

/-- The line of a column with some spaces behind its name. -/
def Table.spacedLine (t : Table) (c : Column) (spaces : Nat) : String :=
  c.lineFront spaces ++ c.typeText ++ String.join ((columnEntry .none t c).clauses.map (·.text))

/-- The entries of a table behind those of its columns. -/
def Table.constraintEntries (t : Table) : List Entry :=
  (keyEntry t).toList
    ++ t.checkConstraints.map (fun c => .check (t.checkName c) c.expression)
    ++ t.uniqueConstraints.filterMap fun u => (planUnique t u).made?

namespace ScriptOptions

/-- The batch that creates a table, with some spaces behind the names of its columns. -/
def spacedTable (o : ScriptOptions) (t : Table) (spaces : Column → Nat) : List Char :=
  ("CREATE TABLE " ++ (o.tableName t).text ++ "\n(\n"
      ++ listedLines (t.columns.map (fun c => t.spacedLine c (spaces c))
        ++ t.constraintEntries.map Entry.line)
      ++ ");\n").toList
    ++ o.batchSeparator.toList ++ ['\n', '\n']

/-- The texts of the batches of a script, with some spaces behind the names of columns. -/
def spacedTexts (o : ScriptOptions) (p : Project) (time : Instant) (issued : List IssuedKey)
    (spaces : Table → Column → Nat) : List (List Char) :=
  [o.headerText p time]
    ++ (missingSchemas o [] p.tables).map o.schemaText
    ++ p.tables.flatMap (fun t => [o.dropText t, o.spacedTable t (spaces t)])
    ++ issued.map (fun k => o.foreignKeyText k.table k.key k.name)
    ++ p.writtenIndexes.map fun index => o.indexText index.1 index.2

end ScriptOptions

/-! ## The parts of a script -/

section

variable (o : ScriptOptions)

theorem line_columnEntry_eq_spacedLine (width : Alignment) (t : Table) (c : Column) :
    (columnEntry width t c).line = t.spacedLine c (width.fill (quoteName c.name)) := by
  have hnull : (columnEntry width t c).isNullable = (columnEntry .none t c).isNullable := rfl
  have hclauses : (columnEntry width t c).clauses = (columnEntry .none t c).clauses := by
    rw [ColumnEntry.clauses, hnull]
    simp only [ColumnEntry.clauses, columnEntry]
  rw [ColumnEntry.line, hclauses, Table.spacedLine, Column.lineFront, spaced]
  simp only [columnEntry, String.append_assoc]

theorem createText_eq_spacedTable (t : Table) :
    o.createText t = o.spacedTable t fun c => (o.alignment t).fill (quoteName c.name) := by
  have hentries : (planEntries o t).filterMap Planned.made?
      = t.columns.map (fun c => .column (columnEntry (o.alignment t) t c)) ++ t.constraintEntries := by
    rw [filterMap_planEntries, Table.constraintEntries]
    simp only [List.append_assoc]
  rw [ScriptOptions.createText, Batch.closed, createTable, createTable_chars, hentries,
    List.map_append, List.map_map, ScriptOptions.spacedTable]
  simp only [Function.comp_def, Entry.line, line_columnEntry_eq_spacedLine]

theorem scriptTexts_eq_spacedTexts (p : Project) (time : Instant) (issued : List IssuedKey) :
    o.scriptTexts p time issued
      = o.spacedTexts p time issued fun t c => (o.alignment t).fill (quoteName c.name) := by
  simp only [ScriptOptions.scriptTexts, ScriptOptions.spacedTexts, createText_eq_spacedTable]

variable (aligned : Bool)

theorem missingSchemas_aligned (seen : List String) (tables : List Table) :
    missingSchemas { o with alignColumns := aligned } seen tables = missingSchemas o seen tables := by
  induction tables generalizing seen with
  | nil => rfl
  | cons t ts ih => simp only [missingSchemas, ih]

theorem spacedTexts_aligned (p : Project) (time : Instant) (issued : List IssuedKey)
    (spaces : Table → Column → Nat) :
    { o with alignColumns := aligned }.spacedTexts p time issued spaces
      = o.spacedTexts p time issued spaces := by
  rw [ScriptOptions.spacedTexts, missingSchemas_aligned]
  rfl

/-- The padding of a column is no part of the names in its entry. -/
theorem tableSteps_aligned : tableSteps { o with alignColumns := aligned } = tableSteps o := by
  funext t
  have hnames (width : Alignment) (c : Column) : (Entry.column (columnEntry width t c)).names
      = (Entry.column (columnEntry .none t c)).names := by
    simp only [Entry.names, columnEntry]
  simp only [tableSteps, planEntries, List.flatMap_append, List.flatMap_map, Planned.steps, hnames]

/-- By induction on the keys: the names are issued in the same scopes and from the same words. -/
theorem addForeignKeys_aligned (lookup : TableLookup) (scope : NameScope) (words : WordSource)
    (keys : List (Table × ForeignKey)) :
    addForeignKeys { o with alignColumns := aligned } lookup scope words keys
      = addForeignKeys o lookup scope words keys := by
  induction keys generalizing scope words with
  | nil => rfl
  | cons key keys ih =>
    obtain ⟨t, k⟩ := key
    simp only [addForeignKeys, ih]
    rfl

end

/-! ## Aligned and not -/

/-- Two scripts of a project whose schemas are filled in are the same but for the spaces behind the
names of columns: the same names are issued in the same order, the same words are drawn, and the same
is reported but for the size of the script. -/
structure SameButSpaces (o : ScriptOptions) (p : Project) (time : Instant)
    (spaces spaces' : Table → Column → Nat) (g g' : Generated) : Prop where
  script : ∃ issued : List IssuedKey, issued.map (·.unnamed) = p.writtenForeignKeys ∧
    g.script.toList = (o.spacedTexts p time issued spaces).flatten ∧
    g'.script.toList = (o.spacedTexts p time issued spaces').flatten
  names : g.batches.flatMap Batch.claims = g'.batches.flatMap Batch.claims
  scope : g.scope = g'.scope
  words : g.words = g'.words
  events : ∃ events tables names,
    g.events = events ++ [.scriptGenerated tables names g.script.utf8ByteSize] ∧
    g'.events = events ++ [.scriptGenerated tables names g'.script.utf8ByteSize]

section

variable {o : ScriptOptions} {p : Project} {time : Instant} {words : WordSource}

theorem isSome_generate : (generate o p time words).isSome
    = (addForeignKeys o (.ofProject o.defaultSchema (p.resolveSchemas o.defaultSchema))
        (NameScope.empty.account
          ((p.resolveSchemas o.defaultSchema).tables.flatMap (tableSteps o))).1
        words (p.resolveSchemas o.defaultSchema).foreignKeys).isSome := by
  unfold generate
  dsimp only
  generalize addForeignKeys o _ _ words _ = keys
  cases keys <;> rfl

theorem isSome_generate_aligned (aligned : Bool) :
    (generate { o with alignColumns := aligned } p time words).isSome
      = (generate o p time words).isSome := by
  rw [isSome_generate, isSome_generate, addForeignKeys_aligned, tableSteps_aligned]

theorem claims_aligned (hp : ∀ t ∈ p.tables, o.Places t) (aligned : Bool) (issued : List IssuedKey) :
    (scriptBatches { o with alignColumns := aligned } p time issued).flatMap Batch.claims
      = (scriptBatches o p time issued).flatMap Batch.claims := by
  have hplaces : ∀ t ∈ p.tables, { o with alignColumns := aligned }.Places t := hp
  rw [claims_scriptBatches, claims_scriptBatches, ← claims_tables hp, ← claims_tables hplaces,
    tableSteps_aligned]
  rfl

theorem ScriptRun.toList_script {g : Generated} {issued : List IssuedKey} {left : NameScope}
    {keyEvents : List Event} (h : ScriptRun o p time words g issued left keyEvents) :
    g.script.toList = (o.spacedTexts p time issued
      fun t c => (o.alignment t).fill (quoteName c.name)).flatten := by
  rw [h.script, h.batches, toList_renderScript, scriptTexts_eq_spacedTexts]

/-- The foreign keys of both scripts are written in one and the same run. -/
theorem ScriptRun.sameButSpaces {aligned aligned' : Bool} {g g' : Generated}
    {issued issued' : List IssuedKey} {left left' : NameScope} {keyEvents keyEvents' : List Event}
    (h : ScriptRun { o with alignColumns := aligned } p time words g issued left keyEvents)
    (h' : ScriptRun { o with alignColumns := aligned' } p time words g' issued' left' keyEvents')
    (hp : ∀ t ∈ p.tables, o.Places t) :
    SameButSpaces o p time
      (fun t c => ({ o with alignColumns := aligned }.alignment t).fill (quoteName c.name))
      (fun t c => ({ o with alignColumns := aligned' }.alignment t).fill (quoteName c.name))
      g g' := by
  have hkeys := h.keys
  have hkeys' := h'.keys
  rw [tableSteps_aligned o aligned] at hkeys
  rw [tableSteps_aligned o aligned'] at hkeys'
  obtain ⟨rfl, rfl, hwords, rfl⟩ := hkeys.unique hkeys'
  have hscope : g.scope = g'.scope := h.scope.trans h'.scope.symm
  refine ⟨⟨issued, h.unnamed, ?_, ?_⟩, ?_, hscope, hwords, ⟨_, _, _, h.events, ?_⟩⟩
  · rw [h.toList_script, spacedTexts_aligned]
  · rw [h'.toList_script, spacedTexts_aligned]
  · rw [h.batches, h'.batches, claims_aligned hp aligned, claims_aligned hp aligned']
  · rw [h'.events, hscope, tableSteps_aligned o aligned, tableSteps_aligned o aligned']
    rfl

end

/-- Whether the columns of a project are aligned makes no difference to whether there is a script.
Aligned, it is the same but for spaces behind the quoted names of columns, and all names of a table
are then as wide as the widest of them, so that the types start at one place. -/
theorem generate_aligned (o : ScriptOptions) (p : Project) (time : Instant) (words : WordSource) :
    Option.Rel (SameButSpaces o (p.resolveSchemas o.defaultSchema) time Table.alignedSpaces
        fun _ _ => 0)
      (generate { o with alignColumns := true } p time words)
      (generate { o with alignColumns := false } p time words) ∧
    ∀ t : Table, ∀ c ∈ t.columns,
      IsGreatest {w | ∃ d ∈ t.columns, displayWidth (quoteName d.name) = w}
        (displayWidth (spaced (quoteName c.name) (t.alignedSpaces c))) ∧
      ∀ rest : String, displayWidth (c.lineFront (t.alignedSpaces c) ++ rest)
        = displayWidth (spaced (quoteName c.name) (t.alignedSpaces c)) + 5 + displayWidth rest := by
  refine ⟨?_, fun t c hc => ⟨isGreatest_alignedName hc, c.displayWidth_lineFront_append _⟩⟩
  have hsome : (generate { o with alignColumns := true } p time words).isSome
      = (generate { o with alignColumns := false } p time words).isSome :=
    (isSome_generate_aligned true).trans (isSome_generate_aligned false).symm
  have hzero : (fun (t : Table) (c : Column) =>
      ({ o with alignColumns := false }.alignment t).fill (quoteName c.name)) = fun _ _ => 0 :=
    funext₂ fun _ _ => Nat.zero_sub _
  cases h : generate { o with alignColumns := true } p time words with
  | none =>
    cases h' : generate { o with alignColumns := false } p time words with
    | none => exact .none
    | some g' => rw [h, h'] at hsome; cases hsome
  | some g =>
    cases h' : generate { o with alignColumns := false } p time words with
    | none => rw [h, h'] at hsome; cases hsome
    | some g' =>
      obtain ⟨issued, left, keyEvents, hrun⟩ := generate_run h
      obtain ⟨issued', left', keyEvents', hrun'⟩ := generate_run h'
      have hsame := hrun.sameButSpaces hrun' fun t ht => places_resolveSchemas ht
      rw [hzero] at hsame
      exact .some hsame

/-- A nullable column without further clauses. -/
def Column.plain (name dataType : String) : Column where
  name := name
  dataType := dataType
  length := none
  precision := none
  scale := none
  isNullable := true
  isPrimaryKey := false
  primaryKeyOrder := none
  isIdentity := false
  identitySeed := 1
  identityIncrement := 1
  defaultSql := none
  defaultKind := .rawExpression
  isUnique := false

/-- A table with a name of two wide characters, an accent and an emoji among its columns. -/
def unevenTable : Table where
  schema := ""
  name := "Customers"
  primaryKeyName := none
  columns := [.plain "Id" "int", .plain "Status" "int", .plain "名前" "int", .plain "e\u0301👍🏽" "int"]
  foreignKeys := []
  indexes := []
  checkConstraints := []
  uniqueConstraints := []

def unevenProject : Project where
  name := "Customers"
  description := none
  tables := [unevenTable]

theorem generate_aligned_unevenProject :
    unevenTable.columns.map unevenTable.alignedSpaces = [4, 0, 2, 3] ∧
      IsGreatest {w | ∃ d ∈ unevenTable.columns, displayWidth (quoteName d.name) = w} 8 ∧
      ∃ g g', generate { ScriptOptions.standard with alignColumns := true } unevenProject ⟨0, 0⟩
          (.ofList []) = some g ∧
        generate { ScriptOptions.standard with alignColumns := false } unevenProject ⟨0, 0⟩
          (.ofList []) = some g' ∧
        SameButSpaces .standard (unevenProject.resolveSchemas ScriptOptions.standard.defaultSchema)
          ⟨0, 0⟩ Table.alignedSpaces (fun _ _ => 0) g g' := by
  obtain ⟨hrel, hwidths⟩ := generate_aligned .standard unevenProject ⟨0, 0⟩ (.ofList [])
  have hfirst := (hwidths unevenTable (.plain "Id" "int") List.mem_cons_self).1
  have hwidest : displayWidth (spaced (quoteName "Id")
      (unevenTable.alignedSpaces (.plain "Id" "int"))) = 8 := by decide +kernel
  have haligned : (generate { ScriptOptions.standard with alignColumns := true } unevenProject ⟨0, 0⟩
      (.ofList [])).isSome = true := by decide +kernel
  refine ⟨by decide +kernel, hwidest ▸ hfirst, ?_⟩
  obtain ⟨g, hg⟩ := Option.isSome_iff_exists.mp haligned
  rw [hg] at hrel
  cases hg' : generate { ScriptOptions.standard with alignColumns := false } unevenProject ⟨0, 0⟩
      (.ofList []) with
  | none => rw [hg'] at hrel; cases hrel
  | some g' =>
    rw [hg'] at hrel
    cases hrel with
    | some hsame => exact ⟨g, g', hg, rfl, hsame⟩

end SchemaScript
