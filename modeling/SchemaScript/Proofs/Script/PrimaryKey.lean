import SchemaScript.Proofs.Schema.KeyOrder
import SchemaScript.Proofs.Script.TableBody

/-!
# SchemaScript.Proofs.Script.PrimaryKey

The primary key in the statement that creates a table, read from its line: the columns stand in the
order of the key, and nothing that happens to other columns changes it.

* `readKeyLine`: the name and the columns of the key that a line declares.
* `ScriptOptions.KeyedBy`: the entry of a statement that declares the key.
* `createTable_primaryKey`: what is read there.
-/

namespace SchemaScript

open Sql

/-! ## Reading the line -/

/-- The name of a column in ascending order. -/
def takeAscending : Reader String := fun cs => do
  let (name, cs) ← takeName cs
  let cs ← takeWord " ASC" cs
  return (name, cs)

/-- The name and the columns of the primary key that a line declares. -/
def readKeyLine (line : String) : Option (String × List String) := do
  let cs ← takeWord "    CONSTRAINT " line.toList
  let (name, cs) ← takeName cs
  let cs ← takeWord " PRIMARY KEY (" cs
  let (columns, cs) ← takeList takeAscending cs
  if cs = ")".toList then some (name, columns) else none

theorem takeAscending_append (name : String) (rest : List Char) :
    takeAscending ((quoteName name ++ " ASC").toList ++ rest) = some (name, rest) := by
  have hchars : (quoteName name ++ " ASC").toList ++ rest
      = nameChars name.toList ++ (" ASC".toList ++ rest) := by
    simp [quoteName]
  rw [takeAscending, hchars, takeName_word (by decide)]
  simp only [Option.bind_eq_bind, Option.bind_some, takeWord_append]
  rfl

/-- A key with columns is read back from its line. -/
theorem readKeyLine_line (name : String) {columns : List String} (h : columns ≠ []) :
    readKeyLine (Entry.primaryKey name columns).line = some (name, columns) := by
  have hchars : (Entry.primaryKey name columns).line.toList
      = "    CONSTRAINT ".toList ++ (nameChars name.toList ++ (" PRIMARY KEY (".toList
        ++ (Text.join ", ".toList (columns.map fun c => (quoteName c ++ " ASC").toList)
        ++ ")".toList))) := by
    have hwords : " PRIMARY KEY (".toList
        = " ".toList ++ ("PRIMARY KEY".toList ++ " (".toList) := by decide
    rw [Entry.line, toList_constraintLine, String.toList_intercalate, ← Text.join_eq_intercalate,
      List.map_map, hwords]
    simp only [List.append_assoc, Function.comp_def]
  rw [readKeyLine, hchars]
  refine Option.bind_eq_some_iff.mpr ⟨_, takeWord_append _ _, ?_⟩
  refine Option.bind_eq_some_iff.mpr ⟨_, takeName_word (by decide) _ _, ?_⟩
  refine Option.bind_eq_some_iff.mpr ⟨_, takeWord_append _ _, ?_⟩
  refine Option.bind_eq_some_iff.mpr
    ⟨_, takeList_join (fun c rest _ => takeAscending_append c rest) h (by decide), ?_⟩
  exact if_pos rfl

/-! ## The key of a statement -/

def Entry.isKey : Entry → Bool
  | primaryKey _ _ => true
  | _ => false

/-- The statement that creates a table has one entry for a primary key, and consists of the lines of its
entries. -/
def ScriptOptions.KeyedBy (o : ScriptOptions) (t : Table) (entry : Entry) : Prop :=
  ∃ entries, createTable o t = .createTable (o.tableName t) entries ∧
    entries.filter Entry.isKey = [entry] ∧
    (createTable o t).chars = ("CREATE TABLE " ++ (o.tableName t).text ++ "\n(\n"
      ++ listedLines (entries.map Entry.line) ++ ");\n").toList

theorem keyedBy_primaryKey (o : ScriptOptions) {t : Table} (h : t.primaryKey ≠ []) :
    o.KeyedBy t (.primaryKey t.keyName (t.primaryKey.map (·.name))) := by
  refine ⟨_, rfl, ?_, createTable_chars _ _⟩
  have hcolumns : (t.columns.map fun c =>
      Entry.column (columnEntry (o.alignment t) t c)).filter Entry.isKey = [] := by
    simp [List.filter_eq_nil_iff, Entry.isKey]
  have hchecks : (t.checkConstraints.map fun c =>
      Entry.check (t.checkName c) c.expression).filter Entry.isKey = [] := by
    simp [List.filter_eq_nil_iff, Entry.isKey]
  have huniques : (t.uniqueConstraints.filterMap fun u => (planUnique t u).made?).filter Entry.isKey
      = [] := by
    refine List.filter_eq_nil_iff.mpr fun e he => ?_
    obtain ⟨u, -, hu⟩ := List.mem_filterMap.mp he
    rw [planUnique_made?] at hu
    split at hu
    · cases hu
    · cases hu
      exact Bool.false_ne_true
  rw [filterMap_planEntries, keyEntry, if_neg (by simpa using h), List.filter_append,
    List.filter_append, List.filter_append, hcolumns, hchecks, huniques]
  rfl

/-- If a table has key columns then its statement declares one primary key. The columns that are read
from its line are the key columns in the one order that a key has, and the line stays as it is when
columns outside the key are put in, taken out, moved or given other places. -/
theorem createTable_primaryKey {t : Table} (h : ∃ c ∈ t.columns, c.isPrimaryKey = true) :
    ∃ entry key, (∀ o : ScriptOptions, o.KeyedBy t entry) ∧
      readKeyLine entry.line = some (t.keyName, key.map (·.name)) ∧
      (∀ key', IsKeyOrder t.columns key' ↔ key' = key) ∧
      ∀ columns, Relation.ReflTransGen NonKeyEdit t.columns columns →
        ∀ o : ScriptOptions, o.KeyedBy { t with columns := columns } entry := by
  have hne : t.primaryKey ≠ [] := by
    obtain ⟨c, hc, hkey⟩ := h
    rw [ne_eq, t.primaryKey_eq_nil_iff]
    intro hnone
    rw [hnone c hc] at hkey
    cases hkey
  refine ⟨.primaryKey t.keyName (t.primaryKey.map (·.name)), t.primaryKey,
    fun o => keyedBy_primaryKey o hne, readKeyLine_line _ (by simpa using hne), fun key' => ?_,
    fun columns hedits o => ?_⟩
  · constructor
    · intro hkey'
      exact hkey'.eq t.isKeyOrder_primaryKey
    · rintro rfl
      exact t.isKeyOrder_primaryKey
  · have hkey := Table.primaryKey_of_nonKeyEdits hedits
    have hedited := keyedBy_primaryKey o (t := { t with columns := columns }) (by rw [hkey]; exact hne)
    rw [hkey] at hedited
    exact hedited

/-- A column that takes nothing but a place. -/
def placedColumn (name : String) (isPrimaryKey : Bool) (order : Option Int32) : Column where
  name := name
  dataType := "int"
  length := none
  precision := none
  scale := none
  isNullable := false
  isPrimaryKey := isPrimaryKey
  primaryKeyOrder := order
  isIdentity := false
  identitySeed := 1
  identityIncrement := 1
  defaultSql := none
  defaultKind := .none
  isUnique := false

/-- A table in which places are negative, equal, absent, and given to a column outside the key. -/
def mixedTable : Table where
  schema := ""
  name := "Mixed"
  primaryKeyName := none
  columns := [placedColumn "b" true none, placedColumn "x" false (some (-9)),
    placedColumn "c" true (some 2), placedColumn "a" true (some (-1)),
    placedColumn "d" true (some 2), placedColumn "a" true none]
  foreignKeys := []
  indexes := []
  checkConstraints := []
  uniqueConstraints := []

theorem isKeyOrder_mixedTable : IsKeyOrder mixedTable.columns
    [placedColumn "a" true (some (-1)), placedColumn "c" true (some 2),
      placedColumn "d" true (some 2), placedColumn "b" true none, placedColumn "a" true none] where
  perm := by decide +kernel
  placedFirst := by
    refine ⟨[placedColumn "a" true (some (-1)), placedColumn "c" true (some 2),
      placedColumn "d" true (some 2)], [placedColumn "b" true none, placedColumn "a" true none],
      rfl, by decide, by decide⟩
  ascending := by decide
  stable place := by
    by_cases hfirst : some (-1) = place
    · subst hfirst
      decide
    · by_cases hsecond : some 2 = place
      · subst hsecond
        decide
      · by_cases hlast : none = place
        · subst hlast
          decide
        · simp [mixedTable, placedColumn, hfirst, hsecond, hlast]

theorem createTable_primaryKey_mixedTable :
    ∃ entry, (∀ o : ScriptOptions, o.KeyedBy mixedTable entry) ∧
      readKeyLine entry.line = some ("PK_Mixed", ["a", "c", "d", "b", "a"]) ∧
      ∀ o : ScriptOptions,
        o.KeyedBy { mixedTable with columns := mixedTable.primaryKeyColumns } entry := by
  obtain ⟨entry, key, hentry, hread, hkey, hedits⟩ :=
    createTable_primaryKey (t := mixedTable) (by decide)
  obtain rfl := (hkey _).mp isKeyOrder_mixedTable
  refine ⟨entry, hentry, hread, hedits _ (.single ?_)⟩
  exact @NonKeyEdit.remove [placedColumn "b" true none] _ (placedColumn "x" false (some (-9))) rfl

end SchemaScript
