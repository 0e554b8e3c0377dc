import SchemaScript.Proofs.Script.Layout
import SchemaScript.Proofs.Script.Pieces
import SchemaScript.Proofs.Sql.Phrase

/-!
# SchemaScript.Proofs.Script.Statements

The statements for foreign keys and indexes, read back from their text. Names may contain anything,
brackets, commas and words of the language among it, and the action on deletion is taken over as it is;
still the text says everything that the statement does.

* `ForeignKeyStatement.ofChars?`, `IndexStatement.ofChars?`: the statement that a text says.
* `ForeignKeyStatement.ofChars?_all`, `IndexStatement.ofChars?_all`: it is the one that was written.
* `statements_readable`: what the foreign keys and indexes of a table are, read in the script.
-/

namespace SchemaScript

open Sql

/-! ## Readers -/

/-- A name with its schema. -/
def takeObjectName : Reader ObjectName := fun cs => do
  let (schema, cs) ← takeName cs
  let cs ← takeWord "." cs
  let (name, cs) ← takeName cs
  return (⟨schema, name⟩, cs)

/-- A column with its direction. -/
def takeIndexColumn : Reader IndexColumn := fun cs => do
  let (name, cs) ← takeName cs
  match takeWord " DESC" cs with
  | some cs => return (⟨name, true⟩, cs)
  | none => (takeWord " ASC" cs).map fun cs => (⟨name, false⟩, cs)

/-- The words that create an index, and whether it is unique. -/
def takeCreateIndex : Reader Bool := fun cs =>
  match takeWord "CREATE UNIQUE INDEX " cs with
  | some cs => some (true, cs)
  | none => (takeWord "CREATE INDEX " cs).map fun cs => (false, cs)

/-- The columns that are included, which may be none. -/
def takeIncluded : Reader (List String) := fun cs =>
  match takeWord " INCLUDE (" cs with
  | some cs => do
    let (names, cs) ← takeList takeName cs
    let cs ← takeWord ")" cs
    return (names, cs)
  | none => some ([], cs)

/-- The end of a statement, with the action on deletion if there is one. -/
def readOnDelete (cs : List Char) : Option (Option String) := do
  let cs ← dropEnd? ";\n".toList cs
  match takeWord " ON DELETE " cs with
  | some action => return some (String.ofList action)
  | none => if cs.isEmpty then some none else none

/-- The foreign key that a text adds. -/
def ForeignKeyStatement.ofChars? (cs : List Char) : Option ForeignKeyStatement := do
  let cs ← takeWord "ALTER TABLE " cs
  let (table, cs) ← takeObjectName cs
  let cs ← takeWord " ADD CONSTRAINT " cs
  let (name, cs) ← takeName cs
  let cs ← takeWord "\n    FOREIGN KEY (" cs
  let (columns, cs) ← takeList takeName cs
  let cs ← takeWord ") REFERENCES " cs
  let (target, cs) ← takeObjectName cs
  let cs ← takeWord " (" cs
  let (refColumns, cs) ← takeList takeName cs
  let cs ← takeWord ")" cs
  let onDelete ← readOnDelete cs
  return { table, name, columns := List.zipWith .mk columns refColumns, target, onDelete }

/-- The index that a text creates. -/
def IndexStatement.ofChars? (cs : List Char) : Option IndexStatement := do
  let (isUnique, cs) ← takeCreateIndex cs
  let (name, cs) ← takeName cs
  let cs ← takeWord " ON " cs
  let (table, cs) ← takeObjectName cs
  let cs ← takeWord " (" cs
  let (columns, cs) ← takeList takeIndexColumn cs
  let cs ← takeWord ")" cs
  let (included, cs) ← takeIncluded cs
  if cs = ";\n".toList then some { table, name, isUnique, columns, included } else none

/-! ## Parts of a statement -/

theorem Piece.all_name (name : String) : Piece.all [.name name] = nameChars name.toList :=
  List.append_nil _

theorem Piece.all_separated (separator : String) (parts : List (List Piece)) :
    Piece.all (Piece.separated separator parts)
      = Text.join separator.toList (parts.map Piece.all) := by
  induction parts with
  | nil => rfl
  | cons part parts ih =>
    cases parts with
    | nil => rfl
    | cons next parts =>
      have hsep : Piece.separated separator (part :: next :: parts)
          = part ++ [.code separator] ++ Piece.separated separator (next :: parts) := by
        simp [Piece.separated]
      have hcode : Piece.all [.code separator] = separator.toList := List.append_nil _
      rw [hsep, Piece.all_append, Piece.all_append, hcode, ih]
      rfl

/-- Whether a name ends in front of a word: the word does not go on with a bracket. -/
def endsName (word : String) : Bool :=
  match word.toList with
  | [] => false
  | c :: _ => c != ']'

variable {word : String}

theorem head?_ne_of_endsName (h : endsName word = true) (rest : List Char) :
    (word.toList ++ rest).head? ≠ some ']' := by
  rw [endsName] at h
  split at h
  · cases h
  · rename_i c cs hword
    rw [hword, List.cons_append, List.head?_cons, ne_eq, Option.some.injEq]
    exact bne_iff_ne.mp h

theorem takeName_word (h : endsName word = true) (name : String) (rest : List Char) :
    takeName (nameChars name.toList ++ (word.toList ++ rest)) = some (name, word.toList ++ rest) :=
  takeName_append name (head?_ne_of_endsName h rest)

theorem takeObjectName_word (h : endsName word = true) (n : ObjectName) (rest : List Char) :
    takeObjectName (Piece.all n.pieces ++ (word.toList ++ rest)) = some (n, word.toList ++ rest) := by
  have hall : Piece.all n.pieces ++ (word.toList ++ rest)
      = nameChars n.schema.toList ++ (".".toList ++ (nameChars n.name.toList
        ++ (word.toList ++ rest))) := by
    simp [ObjectName.pieces, Piece.all, Piece.chars]
  have hpoint : endsName "." = true := by decide
  rw [takeObjectName, hall, takeName_word hpoint]
  simp only [Option.bind_eq_bind, Option.bind_some, takeWord_append, takeName_word h]
  rfl

theorem takeNames_word (h : word.toList.head? = some ')') {names : List String} (hnames : names ≠ [])
    (rest : List Char) :
    takeList takeName (Piece.all (namePieces names) ++ (word.toList ++ rest))
      = some (names, word.toList ++ rest) := by
  have hwrite : (names.map fun n => [Piece.name n]).map Piece.all
      = names.map fun n => nameChars n.toList := by
    rw [List.map_map]
    exact List.map_congr_left fun n _ => Piece.all_name n
  rw [namePieces, Piece.all_separated, hwrite]
  exact takeList_join (fun n rest => takeName_append n) hnames (head?_append_of_head? h rest)

theorem takeIndexColumn_append (c : IndexColumn) (rest : List Char) :
    takeIndexColumn (Piece.all [.name c.columnName, .code (if c.descending then " DESC" else " ASC")]
      ++ rest) = some (c, rest) := by
  have hall : ∀ direction, Piece.all [.name c.columnName, .code direction] ++ rest
      = nameChars c.columnName.toList ++ (direction.toList ++ rest) := by
    intro direction
    simp [Piece.all, Piece.chars]
  obtain ⟨name, descending⟩ := c
  cases descending with
  | true =>
    rw [hall, takeIndexColumn, if_pos rfl, takeName_word (by decide)]
    simp only [Option.bind_eq_bind, Option.bind_some, takeWord_append]
    rfl
  | false =>
    have hother : takeWord " DESC" (" ASC".toList ++ rest) = none := takeWord_other (by decide) rest
    rw [hall, takeIndexColumn, if_neg Bool.false_ne_true, takeName_word (by decide)]
    simp only [Option.bind_eq_bind, Option.bind_some, takeWord_append, hother]
    rfl

theorem takeIndexColumns_word (h : word.toList.head? = some ')') {columns : List IndexColumn}
    (hcolumns : columns ≠ []) (rest : List Char) :
    takeList takeIndexColumn (Piece.all (Piece.separated ", " (columns.map fun c =>
        [.name c.columnName, .code (if c.descending then " DESC" else " ASC")]))
        ++ (word.toList ++ rest))
      = some (columns, word.toList ++ rest) := by
  rw [Piece.all_separated, List.map_map]
  exact takeList_join (fun c rest _ => takeIndexColumn_append c rest) hcolumns
    (head?_append_of_head? h rest)

/-! ## Foreign keys -/

/-- The pieces behind the list of columns that a foreign key refers to. -/
def ForeignKeyStatement.ending (s : ForeignKeyStatement) : List Piece :=
  (match s.onDelete with
    | some action => [.code " ON DELETE ", .raw action]
    | none => [])
    ++ [.code ";\n"]

theorem ForeignKeyStatement.readOnDelete_ending (s : ForeignKeyStatement) :
    readOnDelete (Piece.all s.ending) = some s.onDelete := by
  cases h : s.onDelete with
  | none =>
    have hall : Piece.all s.ending = [] ++ ";\n".toList := by
      simp [ending, h, Piece.all, Piece.chars]
    rw [hall, readOnDelete, dropEnd?_append]
    rfl
  | some action =>
    have hall : Piece.all s.ending = " ON DELETE ".toList ++ action.toList ++ ";\n".toList := by
      simp [ending, h, Piece.all, Piece.chars]
    rw [hall, readOnDelete, dropEnd?_append]
    simp only [Option.bind_eq_bind, Option.bind_some, takeWord_append, String.ofList_toList]
    rfl

theorem ForeignKeyStatement.all_pieces (s : ForeignKeyStatement) :
    Piece.all s.pieces = "ALTER TABLE ".toList ++ (Piece.all s.table.pieces
      ++ (" ADD CONSTRAINT ".toList ++ (nameChars s.name.toList
      ++ ("\n    FOREIGN KEY (".toList ++ (Piece.all (namePieces (s.columns.map (·.columnName)))
      ++ (") REFERENCES ".toList ++ (Piece.all s.target.pieces
      ++ (" (".toList ++ (Piece.all (namePieces (s.columns.map (·.refColumnName)))
      ++ (")".toList ++ Piece.all s.ending)))))))))) := by
  cases h : s.onDelete <;> simp [pieces, ending, h, Piece.all, Piece.chars]

theorem zipWith_columns (columns : List ForeignKeyColumn) :
    List.zipWith .mk (columns.map (·.columnName)) (columns.map (·.refColumnName)) = columns := by
  rw [List.zipWith_map, List.zipWith_self]
  exact List.map_id' columns

/-- A foreign key is read back from its statement. -/
theorem ForeignKeyStatement.ofChars?_all {s : ForeignKeyStatement} (h : s.columns ≠ []) :
    ofChars? (Piece.all s.pieces) = some s := by
  have hcolumns : s.columns.map (·.columnName) ≠ [] := by simpa using h
  have hrefColumns : s.columns.map (·.refColumnName) ≠ [] := by simpa using h
  rw [ofChars?, s.all_pieces]
  -- From the front, each reader takes its part and leaves the next.
  refine Option.bind_eq_some_iff.mpr ⟨_, takeWord_append _ _, ?_⟩
  refine Option.bind_eq_some_iff.mpr ⟨_, takeObjectName_word (by decide) _ _, ?_⟩
  refine Option.bind_eq_some_iff.mpr ⟨_, takeWord_append _ _, ?_⟩
  refine Option.bind_eq_some_iff.mpr ⟨_, takeName_word (by decide) _ _, ?_⟩
  refine Option.bind_eq_some_iff.mpr ⟨_, takeWord_append _ _, ?_⟩
  refine Option.bind_eq_some_iff.mpr ⟨_, takeNames_word (by decide) hcolumns _, ?_⟩
  refine Option.bind_eq_some_iff.mpr ⟨_, takeWord_append _ _, ?_⟩
  refine Option.bind_eq_some_iff.mpr ⟨_, takeObjectName_word (by decide) _ _, ?_⟩
  refine Option.bind_eq_some_iff.mpr ⟨_, takeWord_append _ _, ?_⟩
  refine Option.bind_eq_some_iff.mpr ⟨_, takeNames_word (by decide) hrefColumns _, ?_⟩
  refine Option.bind_eq_some_iff.mpr ⟨_, takeWord_append _ _, ?_⟩
  refine Option.bind_eq_some_iff.mpr ⟨_, s.readOnDelete_ending, ?_⟩
  exact congrArg (fun columns => some { s with columns }) (zipWith_columns s.columns)

/-! ## Indexes -/

/-- The pieces behind the list of columns of an index. -/
def IndexStatement.ending (s : IndexStatement) : List Piece :=
  (if s.included.isEmpty then []
    else [.code " INCLUDE ("] ++ namePieces s.included ++ [.code ")"])
    ++ [.code ";\n"]

theorem IndexStatement.takeIncluded_ending (s : IndexStatement) :
    takeIncluded (Piece.all s.ending) = some (s.included, ";\n".toList) := by
  cases h : s.included with
  | nil =>
    have hall : Piece.all s.ending = ";\n".toList := by
      simp [ending, h, Piece.all, Piece.chars]
    rw [hall]
    decide
  | cons name names =>
    have hall : Piece.all s.ending = " INCLUDE (".toList
        ++ (Piece.all (namePieces s.included) ++ (")".toList ++ ";\n".toList)) := by
      simp [ending, h, Piece.all, Piece.chars]
    rw [hall, takeIncluded, takeWord_append]
    simp (disch := first | decide | simp [h]) only [takeNames_word, Option.bind_eq_bind,
      Option.bind_some, takeWord_append]
    rw [h]
    rfl

theorem takeCreateIndex_append (isUnique : Bool) (rest : List Char) :
    takeCreateIndex ((if isUnique then "CREATE UNIQUE INDEX " else "CREATE INDEX ").toList ++ rest)
      = some (isUnique, rest) := by
  cases isUnique with
  | true => rw [if_pos rfl, takeCreateIndex, takeWord_append]
  | false =>
    rw [if_neg Bool.false_ne_true, takeCreateIndex, takeWord_other (by decide), takeWord_append]
    rfl

theorem IndexStatement.all_pieces (s : IndexStatement) :
    Piece.all s.pieces = (if s.isUnique then "CREATE UNIQUE INDEX " else "CREATE INDEX ").toList
      ++ (nameChars s.name.toList ++ (" ON ".toList ++ (Piece.all s.table.pieces
      ++ (" (".toList ++ (Piece.all (Piece.separated ", " (s.columns.map fun c =>
        [.name c.columnName, .code (if c.descending then " DESC" else " ASC")]))
      ++ (")".toList ++ Piece.all s.ending)))))) := by
  simp [pieces, ending, Piece.all, Piece.chars]

/-- An index is read back from its statement. -/
theorem IndexStatement.ofChars?_all {s : IndexStatement} (h : s.columns ≠ []) :
    ofChars? (Piece.all s.pieces) = some s := by
  rw [ofChars?, s.all_pieces]
  refine Option.bind_eq_some_iff.mpr ⟨_, takeCreateIndex_append _ _, ?_⟩
  refine Option.bind_eq_some_iff.mpr ⟨_, takeName_word (by decide) _ _, ?_⟩
  refine Option.bind_eq_some_iff.mpr ⟨_, takeWord_append _ _, ?_⟩
  refine Option.bind_eq_some_iff.mpr ⟨_, takeObjectName_word (by decide) _ _, ?_⟩
  refine Option.bind_eq_some_iff.mpr ⟨_, takeWord_append _ _, ?_⟩
  refine Option.bind_eq_some_iff.mpr ⟨_, takeIndexColumns_word (by decide) h _, ?_⟩
  refine Option.bind_eq_some_iff.mpr ⟨_, takeWord_append _ _, ?_⟩
  refine Option.bind_eq_some_iff.mpr ⟨_, s.takeIncluded_ending, ?_⟩
  exact if_pos rfl

/-! ## Texts in a script -/

/-- The foreign key that a batch adds, read from its text with the separator. -/
def readForeignKey (separator : String) (cs : List Char) : Option ForeignKeyStatement :=
  (dropEnd? (separator.toList ++ ['\n', '\n']) cs).bind ForeignKeyStatement.ofChars?

/-- The index that a batch creates, read from its text with the separator. -/
def readIndex (separator : String) (cs : List Char) : Option IndexStatement :=
  (dropEnd? (separator.toList ++ ['\n', '\n']) cs).bind IndexStatement.ofChars?

theorem dropEnd?_closed (separator : String) (b : Batch) :
    dropEnd? (separator.toList ++ ['\n', '\n']) (b.closed separator) = some b.chars := by
  rw [Batch.closed, List.append_assoc, dropEnd?_append]

theorem readForeignKey_text (o : ScriptOptions) (t : Table) (k : ForeignKey) (name : String) :
    readForeignKey o.batchSeparator (o.foreignKeyText t k name)
      = ForeignKeyStatement.ofChars? (Batch.addForeignKey (foreignKeyStatement o t k name)).chars := by
  rw [readForeignKey, ScriptOptions.foreignKeyText, dropEnd?_closed, Option.bind_some]

theorem readIndex_text (o : ScriptOptions) (t : Table) (i : Index) :
    readIndex o.batchSeparator (o.indexText t i)
      = IndexStatement.ofChars? (Batch.createIndex (indexStatement o t i)).chars := by
  rw [readIndex, ScriptOptions.indexText, dropEnd?_closed, Option.bind_some]

/-- A text that is given is taken without white space around it, and not at all if nothing is left. -/
theorem givenName_eq (text : Option String) :
    givenName text = (text.map Unicode.trim).filter (· ≠ "") := by
  cases text with
  | none => rfl
  | some text =>
    rw [givenName, Option.map_some, Option.filter_some]
    by_cases h : Unicode.isBlank text = true
    · simp [h, Unicode.isBlank_iff_trim_eq.mp h]
    · have htrim : Unicode.trim text ≠ "" := fun he => h (Unicode.isBlank_iff_trim_eq.mpr he)
      simp [h, htrim]

/-- From the text of a foreign key with columns one can read its table in the schema that it is in, its
name, its columns with those that they refer to, the table that is referred to, and the action on
deletion without white space around it, if there is one. From the text of an index with columns one can
read whether it is unique, its name, its table, its columns with their directions, and the columns that
are included. Where the separator is known it can stand behind the text. So keys or indexes that differ
in any of this have different texts. -/
theorem statements_readable :
    (∀ (o : ScriptOptions) (t : Table) (k : ForeignKey) (name : String), k.columns ≠ [] →
      ForeignKeyStatement.ofChars? (Batch.addForeignKey (foreignKeyStatement o t k name)).chars
        = some
          { table := ⟨resolveSchema o.defaultSchema t.schema, t.name⟩
            name := name
            columns := k.columns
            target := ⟨resolveSchema o.defaultSchema k.refSchema, k.refTable⟩
            onDelete := (k.onDeleteAction.map Unicode.trim).filter (· ≠ "") }) ∧
    (∀ (o : ScriptOptions) (t : Table) (i : Index), i.columns ≠ [] →
      IndexStatement.ofChars? (Batch.createIndex (indexStatement o t i)).chars
        = some
          { table := ⟨resolveSchema o.defaultSchema t.schema, t.name⟩
            name := t.indexName i
            isUnique := i.isUnique
            columns := i.columns
            included := (i.includeColumnsCsv.map splitColumnList).getD [] }) ∧
    (∀ (o : ScriptOptions) (t : Table),
      (∀ (k : ForeignKey) (name : String), readForeignKey o.batchSeparator (o.foreignKeyText t k name)
        = ForeignKeyStatement.ofChars?
          (Batch.addForeignKey (foreignKeyStatement o t k name)).chars) ∧
      ∀ i : Index, readIndex o.batchSeparator (o.indexText t i)
        = IndexStatement.ofChars? (Batch.createIndex (indexStatement o t i)).chars) ∧
    (∀ (o o' : ScriptOptions) (t t' : Table) (k k' : ForeignKey) (name name' : String),
      k.columns ≠ [] → k'.columns ≠ [] →
      (Batch.addForeignKey (foreignKeyStatement o t k name)).chars
        = (Batch.addForeignKey (foreignKeyStatement o' t' k' name')).chars →
      foreignKeyStatement o t k name = foreignKeyStatement o' t' k' name') ∧
    ∀ (o o' : ScriptOptions) (t t' : Table) (i i' : Index), i.columns ≠ [] → i'.columns ≠ [] →
      (Batch.createIndex (indexStatement o t i)).chars
        = (Batch.createIndex (indexStatement o' t' i')).chars →
      indexStatement o t i = indexStatement o' t' i' := by
  have hkey (o : ScriptOptions) (t : Table) (k : ForeignKey) (name : String) (hk : k.columns ≠ []) :
      ForeignKeyStatement.ofChars? (Batch.addForeignKey (foreignKeyStatement o t k name)).chars
        = some (foreignKeyStatement o t k name) :=
    ForeignKeyStatement.ofChars?_all hk
  have hindex (o : ScriptOptions) (t : Table) (i : Index) (hi : i.columns ≠ []) :
      IndexStatement.ofChars? (Batch.createIndex (indexStatement o t i)).chars
        = some (indexStatement o t i) :=
    IndexStatement.ofChars?_all hi
  refine ⟨fun o t k name hk => ?_, hindex, fun o t => ⟨readForeignKey_text o t, readIndex_text o t⟩,
    fun o o' t t' k k' name name' hk hk' htext => ?_, fun o o' t t' i i' hi hi' htext => ?_⟩
  · rw [hkey o t k name hk, foreignKeyStatement, givenName_eq]
    rfl
  · have hread := hkey o t k name hk
    rw [htext, hkey o' t' k' name' hk'] at hread
    exact (Option.some.inj hread).symm
  · have hread := hindex o t i hi
    rw [htext, hindex o' t' i' hi'] at hread
    exact (Option.some.inj hread).symm

/-- A foreign key whose names look like parts of its statement. -/
def bracketedKey : ForeignKey where
  name := none
  refSchema := "s]"
  refTable := "] (["
  onDeleteAction := some " CASCADE;\n"
  columns := [⟨"a], [b", ") REFERENCES ["⟩, ⟨"c] ASC", ""⟩]

/-- An index whose names look like parts of its statement. -/
def bracketedIndex : Index where
  name := some "x] ON ["
  isUnique := true
  columns := [⟨"a] DESC, [b", false⟩, ⟨"c", true⟩]
  includeColumnsCsv := some "d], ,e) INCLUDE (["

/-- The table that they are on. -/
def bracketedTable : Table where
  schema := " "
  name := "t] ADD CONSTRAINT ["
  primaryKeyName := none
  columns := []
  foreignKeys := [bracketedKey]
  indexes := [bracketedIndex]
  checkConstraints := []
  uniqueConstraints := []

theorem statements_readable_bracketed :
    readForeignKey "GO" (ScriptOptions.standard.foreignKeyText bracketedTable bracketedKey "FK]")
        = some
          { table := ⟨"dbo", "t] ADD CONSTRAINT ["⟩
            name := "FK]"
            columns := [⟨"a], [b", ") REFERENCES ["⟩, ⟨"c] ASC", ""⟩]
            target := ⟨"s]", "] (["⟩
            onDelete := some "CASCADE;" } ∧
      readIndex "GO" (ScriptOptions.standard.indexText bracketedTable bracketedIndex)
        = some
          { table := ⟨"dbo", "t] ADD CONSTRAINT ["⟩
            name := "x] ON ["
            isUnique := true
            columns := [⟨"a] DESC, [b", false⟩, ⟨"c", true⟩]
            included := ["d]", "e) INCLUDE (["] } := by
  obtain ⟨hkey, hindex, htexts, -⟩ := statements_readable
  obtain ⟨hkeyText, hindexText⟩ := htexts .standard bracketedTable
  refine ⟨(hkeyText bracketedKey "FK]").trans ?_, (hindexText bracketedIndex).trans ?_⟩
  · rw [hkey .standard bracketedTable bracketedKey "FK]" (by decide)]
    decide +kernel
  · rw [hindex .standard bracketedTable bracketedIndex (by decide)]
    decide +kernel

end SchemaScript
