import Mathlib.Data.List.Forall2
import SchemaScript.Proofs.Schema.ColumnList
import SchemaScript.Proofs.Schema.KeyOrder
import SchemaScript.Proofs.Script.Mentions
import SchemaScript.Proofs.Script.Statements

/-!
# SchemaScript.Proofs.Script.TableBody

The body of CREATE TABLE, line by line: columns, primary key, checks, unique constraints.

* `ColumnClause`, `Column.HasClauses`: what a column declares behind its name and type.
* `Entry.line`, `Entry.all_pieces`: the line of an entry.
* `createTable_chars`: the text of the statement is made of the lines of its entries.
* `createTable_lines`: the lines of a table.
-/

namespace SchemaScript

open Sql

/-! ## Clauses of a column -/

/-- What a column declares behind its name and type. -/
inductive ColumnClause where
  | identity (seed increment : Int)
  | null
  | notNull
  | default (name expression : String)
  | unique (name : String)
deriving DecidableEq

namespace ColumnClause

/-- The place of a clause among those of a column. -/
def rank : ColumnClause → Nat
  | identity _ _ => 0
  | null | notNull => 1
  | default _ _ => 2
  | unique _ => 3

def text : ColumnClause → String
  | identity seed increment =>
    " IDENTITY(" ++ String.ofList (Text.signedDecimal seed) ++ ","
      ++ String.ofList (Text.signedDecimal increment) ++ ")"
  | null => " NULL"
  | notNull => " NOT NULL"
  | default name expression =>
    " CONSTRAINT " ++ quoteName name ++ " DEFAULT (" ++ expression ++ ")"
  | unique name => " CONSTRAINT " ++ quoteName name ++ " UNIQUE"

-- The equations that `simp` would derive are slow for texts that start with a literal.
theorem text_identity (seed increment : Int) : (identity seed increment).text
    = " IDENTITY(" ++ String.ofList (Text.signedDecimal seed) ++ ","
      ++ String.ofList (Text.signedDecimal increment) ++ ")" := rfl

theorem text_default (name expression : String) : (default name expression).text
    = " CONSTRAINT " ++ quoteName name ++ " DEFAULT (" ++ expression ++ ")" := rfl

theorem text_unique (name : String) : (unique name).text
    = " CONSTRAINT " ++ quoteName name ++ " UNIQUE" := rfl

end ColumnClause

/-- The clauses are those of a column in a table, each once and in their order: its identity with both
numbers, whether it may be null, its default if there is an expression for one, and that it is unique
unless it is the only key column. -/
structure Column.HasClauses (t : Table) (c : Column) (clauses : List ColumnClause) : Prop where
  ordered : clauses.Pairwise fun a b => a.rank < b.rank
  identity (seed increment : Int) : .identity seed increment ∈ clauses
    ↔ c.isIdentity = true ∧ seed = c.identitySeed.toInt ∧ increment = c.identityIncrement.toInt
  null : .null ∈ clauses ↔ c.isNullable = true
  notNull : .notNull ∈ clauses ↔ c.isNullable = false
  default (name expression : String) : .default name expression ∈ clauses
    ↔ encodeDefault c.defaultSql c.defaultKind = some expression ∧ name = t.defaultName c
  unique (name : String) : .unique name ∈ clauses
    ↔ (c.isUnique = true ∧ t.primaryKeyColumns ≠ [c]) ∧ name = t.columnUniqueName c

namespace ColumnEntry

def clauses (e : ColumnEntry) : List ColumnClause :=
  (e.identity.map fun (seed, increment) => .identity seed increment).toList
    ++ [if e.isNullable then .null else .notNull]
    ++ (e.default.map fun d => .default d.name d.expression.text).toList
    ++ (e.unique.map .unique).toList

theorem mem_clauses {e : ColumnEntry} {clause : ColumnClause} :
    clause ∈ e.clauses ↔
      (∃ numbers, e.identity = some numbers ∧ clause = .identity numbers.1 numbers.2)
        ∨ clause = (if e.isNullable then .null else .notNull)
        ∨ (∃ d, e.default = some d ∧ clause = .default d.name d.expression.text)
        ∨ ∃ name, e.unique = some name ∧ clause = .unique name := by
  simp only [clauses, List.mem_append, List.mem_singleton, Option.mem_toList,
    Option.map_eq_some_iff, or_assoc]
  simp only [@eq_comm _ clause]

/-- The ranks of the clauses are some of `0, 1, 2, 3`. -/
theorem pairwise_clauses (e : ColumnEntry) : e.clauses.Pairwise fun a b => a.rank < b.rank := by
  have hranks : List.Sublist (e.clauses.map ColumnClause.rank) ([0] ++ [1] ++ [2] ++ [3]) := by
    simp only [clauses, List.map_append]
    refine .append (.append (.append ?_ ?_) ?_) ?_
    · cases e.identity <;> simp [ColumnClause.rank]
    · cases e.isNullable <;> simp [ColumnClause.rank]
    · cases e.default <;> simp [ColumnClause.rank]
    · cases e.unique <;> simp [ColumnClause.rank]
  exact List.pairwise_map.mp (List.Pairwise.sublist hranks (by decide))

end ColumnEntry

/-! ## Lines -/

/-- The line of a constraint: its name, what it is, and what stands in parentheses. -/
def constraintLine (name kind body : String) : String :=
  "    CONSTRAINT " ++ quoteName name ++ " " ++ kind ++ " (" ++ body ++ ")"

def ColumnEntry.line (e : ColumnEntry) : String :=
  "    " ++ quoteName e.name ++ String.ofList (List.replicate e.padding ' ') ++ " " ++ e.typeText
    ++ String.join (e.clauses.map (·.text))

def Entry.line : Entry → String
  | column e => e.line
  | primaryKey name columns =>
    constraintLine name "PRIMARY KEY"
      (String.intercalate ", " (columns.map fun c => quoteName c ++ " ASC"))
  | check name expression => constraintLine name "CHECK" expression
  | unique name columns =>
    constraintLine name "UNIQUE" (String.intercalate ", " (columns.map quoteName))

/-- Lines with a comma between neighbours and a line break at the end. -/
def listedLines (lines : List String) : String :=
  if lines = [] then "" else String.intercalate ",\n" lines ++ "\n"

theorem Piece.all_separated_map {α : Type} {pieces : α → List Piece} {text : α → String}
    (h : ∀ a, Piece.all (pieces a) = (text a).toList) (separator : String) (as : List α) :
    Piece.all (Piece.separated separator (as.map pieces))
      = (String.intercalate separator (as.map text)).toList := by
  rw [Piece.all_separated, String.toList_intercalate, Text.join_eq_intercalate, List.map_map,
    List.map_map]
  exact congrArg _ (List.map_congr_left fun a _ => h a)

theorem all_defaultClause (d : DefaultClause) :
    Piece.all [.code " CONSTRAINT ", .name d.name, .code " DEFAULT (", d.expression.piece, .code ")"]
      = (ColumnClause.default d.name d.expression.text).text.toList := by
  obtain ⟨name, expression⟩ := d
  rw [ColumnClause.text_default]
  cases expression <;>
    simp [Piece.all, Piece.chars, Expression.piece, Expression.text, quoteName, quote]

theorem ColumnEntry.all_pieces (e : ColumnEntry) : Piece.all e.pieces = e.line.toList := by
  have hfront : Piece.all [.code "    ", .name e.name, .padding e.padding, .code " ", .raw e.typeText]
      = "    ".toList ++ (quoteName e.name).toList ++ List.replicate e.padding ' ' ++ " ".toList
        ++ e.typeText.toList := by
    simp [Piece.all, Piece.chars, quoteName]
  have hidentity (seed increment : Int) : Piece.all [.code (identityText seed increment)]
      = (ColumnClause.identity seed increment).text.toList := by
    rw [ColumnClause.text_identity]
    simp [Piece.all, Piece.chars, toList_identityText]
  have hnull : Piece.all [.code (if e.isNullable then " NULL" else " NOT NULL")]
      = (if e.isNullable then ColumnClause.null else .notNull).text.toList := by
    cases e.isNullable <;> exact List.append_nil _
  have hunique (name : String) : Piece.all [.code " CONSTRAINT ", .name name, .code " UNIQUE"]
      = (ColumnClause.unique name).text.toList := by
    rw [ColumnClause.text_unique]
    simp [Piece.all, Piece.chars, quoteName]
  have hnil : Piece.all [] = [] := rfl
  unfold line
  simp only [pieces, clauses, Piece.all_append, hfront, hnull, String.toList_append,
    String.toList_ofList, String.toList_join, List.map_append]
  cases e.identity <;> cases e.default <;> cases e.unique <;>
    simp [hidentity, hunique, all_defaultClause, hnil]

theorem toList_constraintLine (name kind body : String) : (constraintLine name kind body).toList
    = "    CONSTRAINT ".toList ++ (nameChars name.toList ++ (" ".toList ++ (kind.toList
      ++ (" (".toList ++ (body.toList ++ ")".toList))))) := by
  unfold constraintLine
  simp [quoteName]

theorem Entry.all_pieces (e : Entry) : Piece.all e.pieces = e.line.toList := by
  cases e with
  | column e => exact e.all_pieces
  | primaryKey name columns =>
    have hcolumn (c : String) :
        Piece.all [.name c, .code " ASC"] = (quoteName c ++ " ASC").toList := by
      simp [Piece.all, Piece.chars, quoteName]
    rw [pieces, line, Piece.all_append, Piece.all_append, Piece.all_separated_map hcolumn,
      toList_constraintLine]
    simp [Piece.all, Piece.chars]
  | check name expression =>
    rw [pieces, line, toList_constraintLine]
    simp [Piece.all, Piece.chars]
  | unique name columns =>
    have hcolumn (c : String) : Piece.all [.name c] = (quoteName c).toList := by
      simp [Piece.all, Piece.chars, quoteName]
    rw [pieces, line, Piece.all_append, Piece.all_append, namePieces,
      Piece.all_separated_map hcolumn, toList_constraintLine]
    simp [Piece.all, Piece.chars]

theorem all_entries (entries : List Entry) :
    Piece.all (if entries.isEmpty then []
        else Piece.separated ",\n" (entries.map Entry.pieces) ++ [.code "\n"])
      = (listedLines (entries.map Entry.line)).toList := by
  cases entries with
  | nil => rfl
  | cons e entries =>
    rw [List.isEmpty_cons, if_neg Bool.false_ne_true, Piece.all_append,
      Piece.all_separated_map Entry.all_pieces, List.map_cons, listedLines,
      if_neg (List.cons_ne_nil _ _)]
    simp [Piece.all, Piece.chars]

/-- The text of the statement is made of its lines. -/
theorem createTable_chars (table : ObjectName) (entries : List Entry) :
    (Batch.createTable table entries).chars
      = ("CREATE TABLE " ++ table.text ++ "\n(\n" ++ listedLines (entries.map Entry.line)
        ++ ");\n").toList := by
  rw [Batch.chars, Batch.pieces, Piece.all_append, Piece.all_append, all_entries]
  simp [Piece.all, Piece.chars, ObjectName.text]

/-! ## The lines of a table -/

theorem hasClauses_columnEntry (width : Alignment) {t : Table} {c : Column} (hc : c ∈ t.columns) :
    c.HasClauses t (columnEntry width t c).clauses where
  ordered := ColumnEntry.pairwise_clauses _
  identity seed increment := by
    rw [ColumnEntry.mem_clauses, columnEntry]
    cases c.isNullable <;> cases c.isIdentity <;> simp
  null := by
    rw [ColumnEntry.mem_clauses, columnEntry]
    cases c.isNullable <;> simp
  notNull := by
    rw [ColumnEntry.mem_clauses, columnEntry]
    cases c.isNullable <;> simp
  default name expression := by
    rw [ColumnEntry.mem_clauses, columnEntry, encodeDefault]
    cases c.isNullable <;> cases defaultExpression c.defaultSql c.defaultKind <;>
      simp [and_comm, @eq_comm _ expression]
  unique name := by
    rw [ColumnEntry.mem_clauses, columnEntry, ne_eq, Table.primaryKeyColumns_eq_singleton_iff hc]
    cases c.isNullable <;> cases c.isUnique <;> cases c.isPrimaryKey <;>
      simp [@eq_comm _ name]

/-- The line of a column with some clauses, its name padded as the options want it. -/
def ScriptOptions.columnLine (o : ScriptOptions) (t : Table) (c : Column)
    (clauses : List ColumnClause) : String :=
  "    " ++ (o.alignment t).pad (quoteName c.name) ++ " " ++ c.typeText
    ++ String.join (clauses.map (·.text))

def Table.keyLine (t : Table) : String :=
  constraintLine t.keyName "PRIMARY KEY"
    (String.intercalate ", " (t.primaryKey.map fun c => quoteName c.name ++ " ASC"))

/-- The line of a unique constraint on some columns. -/
def Table.uniqueLine (t : Table) (u : UniqueConstraint) (names : List String) : String :=
  constraintLine (t.uniqueName u) "UNIQUE" (String.intercalate ", " (names.map quoteName))

theorem line_columnEntry (o : ScriptOptions) (t : Table) (c : Column) :
    (columnEntry (o.alignment t) t c).line
      = o.columnLine t c (columnEntry (o.alignment t) t c).clauses := by
  have hpad : (o.alignment t).pad (quoteName c.name) = quoteName c.name
      ++ String.ofList (List.replicate ((o.alignment t).fill (quoteName c.name)) ' ') := by
    rw [Alignment.pad, String.ofList_append, String.ofList_toList]
  unfold ColumnEntry.line ScriptOptions.columnLine
  simp only [columnEntry, hpad, String.append_assoc]

theorem lines_keyEntry (t : Table) :
    (keyEntry t).toList.map Entry.line
      = if ∃ c ∈ t.columns, c.isPrimaryKey = true then [t.keyLine] else [] := by
  have hkey : t.primaryKey.isEmpty = true ↔ ¬ ∃ c ∈ t.columns, c.isPrimaryKey = true := by
    simp [t.primaryKey_eq_nil_iff]
  rw [keyEntry]
  by_cases h : ∃ c ∈ t.columns, c.isPrimaryKey = true
  · rw [if_pos h, if_neg fun hempty => hkey.mp hempty h, Option.toList_some, List.map_singleton,
      Entry.line, List.map_map]
    rfl
  · rw [if_neg h, if_pos (hkey.mpr h)]
    rfl

theorem planUnique_made? (t : Table) (u : UniqueConstraint) :
    (planUnique t u).made? = if splitColumnList u.columnsCsv = [] then none
      else some (.unique (t.uniqueName u) (splitColumnList u.columnsCsv)) := by
  rw [planUnique]
  by_cases h : splitColumnList u.columnsCsv = []
  · simp only [h, List.isEmpty_nil]
    rfl
  · simp only [h, List.isEmpty_eq_false_iff.mpr h]
    rfl

theorem lines_planUnique (t : Table) (us : List UniqueConstraint) :
    (us.filterMap fun u => (planUnique t u).made?).map Entry.line
      = (us.filter fun u => splitColumnList u.columnsCsv ≠ []).map
          fun u => t.uniqueLine u (splitColumnList u.columnsCsv) := by
  simp only [planUnique_made?]
  induction us with
  | nil => rfl
  | cons u us ih =>
    rw [List.filterMap_cons, List.filter_cons]
    by_cases h : splitColumnList u.columnsCsv = []
    · simp only [h, if_true, ne_eq, not_true_eq_false, decide_false, ih]
      rfl
    · simp only [h, if_false, ne_eq, not_false_eq_true, decide_true, if_true, List.map_cons, ih]
      rfl

/-- The lines of a table: one for each column with its clauses, one for the primary key if there are
key columns, one for each check, and one for each unique constraint that lists columns. The statement
holds nothing else between its parentheses. -/
theorem createTable_lines (o : ScriptOptions) (t : Table) :
    ∃ columns key checks uniques : List String,
      (createTable o t).chars = ("CREATE TABLE " ++ (o.tableName t).text ++ "\n(\n"
        ++ listedLines (columns ++ key ++ checks ++ uniques) ++ ");\n").toList ∧
      List.Forall₂ (fun c line => ∃ clauses, c.HasClauses t clauses ∧
        line = o.columnLine t c clauses) t.columns columns ∧
      key = (if ∃ c ∈ t.columns, c.isPrimaryKey = true then [t.keyLine] else []) ∧
      checks = t.checkConstraints.map
        (fun c => constraintLine (t.checkName c) "CHECK" c.expression) ∧
      List.Forall₂ (fun u line => ∃ names, ListsNames u.columnsCsv names ∧
          line = t.uniqueLine u names)
        (t.uniqueConstraints.filter fun u => splitColumnList u.columnsCsv ≠ []) uniques ∧
      (columns ++ key ++ checks ++ uniques = [] ↔ t.columns = [] ∧ t.checkConstraints = [] ∧
        ∀ u ∈ t.uniqueConstraints, ListsNames u.columnsCsv []) := by
  refine ⟨t.columns.map fun c => o.columnLine t c (columnEntry (o.alignment t) t c).clauses, _, _,
    (t.uniqueConstraints.filter fun u => splitColumnList u.columnsCsv ≠ []).map
      fun u => t.uniqueLine u (splitColumnList u.columnsCsv), ?_, ?_, rfl, rfl, ?_, ?_⟩
  · rw [createTable, createTable_chars, filterMap_planEntries]
    simp only [List.map_append, List.map_map, lines_keyEntry, lines_planUnique,
      Function.comp_def, Entry.line, line_columnEntry]
  · rw [List.forall₂_map_right_iff, List.forall₂_same]
    intro c hc
    exact ⟨_, hasClauses_columnEntry _ hc, rfl⟩
  · rw [List.forall₂_map_right_iff, List.forall₂_same]
    intro u _
    exact ⟨_, listsNames_iff.mpr rfl, rfl⟩
  · have hkey : t.columns = [] → ¬ ∃ c ∈ t.columns, c.isPrimaryKey = true := by
      intro h
      simp [h]
    simp only [List.append_eq_nil_iff, List.map_eq_nil_iff, List.filter_eq_nil_iff, listsNames_iff,
      decide_eq_true_eq, ne_eq, not_not]
    constructor
    · rintro ⟨⟨⟨hcolumns, -⟩, hchecks⟩, huniques⟩
      exact ⟨hcolumns, hchecks, huniques⟩
    · rintro ⟨hcolumns, hchecks, huniques⟩
      exact ⟨⟨⟨hcolumns, if_neg (hkey hcolumns)⟩, hchecks⟩, huniques⟩

end SchemaScript
