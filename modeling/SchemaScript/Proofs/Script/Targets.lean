import SchemaScript.Proofs.Schema.Lookup
import SchemaScript.Proofs.Schema.Resolution
import SchemaScript.Proofs.Script.Reading
import SchemaScript.Proofs.Unicode.Casing
import SchemaScript.Snapshot.Validation

/-!
# SchemaScript.Proofs.Script.Targets

Whether the table that a foreign key refers to is created, as it can be read in the script. The
lookup passes over white space around the names of tables, and the script does not: a key that is
reported has no target in the script, but a key that is not reported may lack one as well.

* `createdTable`, `referencedTable`: the names of tables, read from the text of a statement.
* `createdTable_chars`, `referencedTable_chars`: what is read is what the statement is about. Nothing
  is asked of the texts that are taken over, since they stand behind the names.
* `dangling_iff_script`: the report and the script.
-/

namespace SchemaScript

open Sql

/-! ## Reading the names of tables -/

/-- The tokens behind a word of the language. -/
def afterWord (word : String) (ts : List Token) : Option (List Token) :=
  if (word.toList.map Token.code).isPrefixOf ts then some (ts.drop word.toList.length) else none

theorem afterWord_append (word : String) (ts : List Token) :
    afterWord word (word.toList.map .code ++ ts) = some ts := by
  have hprefix : (word.toList.map Token.code).isPrefixOf (word.toList.map .code ++ ts) = true :=
    List.isPrefixOf_iff_prefix.mpr (List.prefix_append _ _)
  rw [afterWord, if_pos hprefix, List.drop_left' (List.length_map _)]

/-- A name with its schema at the start of some tokens. -/
def readObjectName : List Token → Option ObjectName
  | .name schema :: .code '.' :: .name name :: _ => some ⟨schema, name⟩
  | _ => none

/-- The table that a statement creates, if it creates one. -/
def createdTable (cs : List Char) : Option ObjectName :=
  (afterWord "CREATE TABLE " (lex cs)).bind readObjectName

/-- The table that a statement refers to behind its first list in parentheses. -/
def referencedTable (cs : List Char) : Option ObjectName :=
  (afterWord ") REFERENCES " ((lex cs).dropWhile (· != .code ')'))).bind readObjectName

/-- The table that a batch creates, if it creates one. -/
def Batch.created? : Batch → Option ObjectName
  | createTable table _ => some table
  | session _ | createSchema _ | dropTable _ | addForeignKey _ | createIndex _ => none

theorem createdTable_front (front : List Piece) (h : Placed true front true) (ps : List Piece) :
    createdTable (Piece.all (front ++ ps))
      = (afterWord "CREATE TABLE " (front.flatMap Piece.tokens ++ lex (Piece.all ps))).bind
          readObjectName := by
  rw [createdTable, Piece.all_append, h.lex_append]

/-- Every other statement starts with another word or with a comment. -/
theorem createdTable_chars (b : Batch) : createdTable b.chars = b.created? := by
  rw [Batch.chars]
  cases b with
  | session heading =>
    cases heading with
    | none => exact createdTable_front [_] (.single (by decide)) _
    | some h =>
      have hproject : '\n' ∉ ("SQL generated for project: " ++ commentText h.project).toList :=
        lineFeed_not_mem_labelled (by decide) (lineFeed_not_mem_commentText _)
      exact createdTable_front [_] (.comment hproject .done) _
  | createSchema schema => exact createdTable_front [_] (.single (by decide)) _
  | dropTable table =>
    have hcomment : '\n' ∉ ("Table " ++ commentText table.text).toList :=
      lineFeed_not_mem_labelled (by decide) (lineFeed_not_mem_commentText _)
    exact createdTable_front [_] (.comment hcomment .done) _
  | createTable table entries =>
    have hfront : Placed true
        [.code "CREATE TABLE ", .name table.schema, .code ".", .name table.name, .code "\n(\n"]
        true :=
      .code (by decide) (.name (.code (by decide) (.name (.single (by decide)))))
    simp only [Batch.pieces, List.append_assoc]
    exact createdTable_front _ hfront _
  | addForeignKey statement =>
    simp only [Batch.pieces, ForeignKeyStatement.pieces, List.append_assoc]
    exact createdTable_front [_] (.single (by decide)) _
  | createIndex statement =>
    simp only [Batch.pieces, IndexStatement.pieces, List.append_assoc]
    cases statement.isUnique with
    | true => exact createdTable_front [_] (.single (by decide)) _
    | false => exact createdTable_front [_] (.single (by decide)) _

theorem mem_separated {separator : String} {parts : List (List Piece)} {p : Piece}
    (h : p ∈ Piece.separated separator parts) :
    p = .code separator ∨ ∃ part ∈ parts, p ∈ part := by
  induction parts with
  | nil => cases h
  | cons part parts ih =>
    cases parts with
    | nil => exact .inr ⟨part, by simp, h⟩
    | cons next parts =>
      rcases List.mem_append.mp h with h | h
      · exact .inr ⟨part, by simp, h⟩
      · rcases List.mem_cons.mp h with rfl | h
        · exact .inl rfl
        · rcases ih h with hp | ⟨other, hother, hp⟩
          · exact .inl hp
          · exact .inr ⟨other, by simp [hother], hp⟩

/-- The statement up to the end of its first list. -/
def ForeignKeyStatement.columnsHead (s : ForeignKeyStatement) : List Piece :=
  [.code "ALTER TABLE "] ++ s.table.pieces ++ [.code " ADD CONSTRAINT ", .name s.name,
      .code "\n    FOREIGN KEY ("]
    ++ namePieces (s.columns.map (·.columnName))

theorem ForeignKeyStatement.not_close_mem_columnsHead (s : ForeignKeyStatement) :
    Token.code ')' ∉ s.columnsHead.flatMap Piece.tokens := by
  intro h
  obtain ⟨p, hp, hclose⟩ := List.mem_flatMap.mp h
  have hcode : ∀ text ∈ ["ALTER TABLE ", ".", " ADD CONSTRAINT ", "\n    FOREIGN KEY (", ", "],
      Token.code ')' ∉ (Piece.code text).tokens := by decide
  have hname : ∀ name, Token.code ')' ∉ (Piece.name name).tokens := by
    simp [Piece.tokens]
  simp only [columnsHead, ObjectName.pieces, List.mem_append, List.mem_cons, List.not_mem_nil,
    or_false] at hp
  rcases hp with ((rfl | rfl | rfl | rfl) | rfl | rfl | rfl) | hp
  · exact hcode _ (by simp) hclose
  · exact hname _ hclose
  · exact hcode _ (by simp) hclose
  · exact hname _ hclose
  · exact hcode _ (by simp) hclose
  · exact hname _ hclose
  · exact hcode _ (by simp) hclose
  · rcases mem_separated hp with rfl | ⟨part, hpart, hp⟩
    · exact hcode _ (by simp) hclose
    · obtain ⟨name, -, rfl⟩ := List.mem_map.mp hpart
      obtain rfl := List.mem_singleton.mp hp
      exact hname _ hclose

/-- The first parenthesis that is closed in code ends the columns of the foreign key. -/
theorem referencedTable_chars (s : ForeignKeyStatement) :
    referencedTable (Batch.addForeignKey s).chars = some s.target := by
  have hpieces : ∃ ps, (Batch.addForeignKey s).pieces = s.head ++ ps := by
    simp only [Batch.pieces, ForeignKeyStatement.pieces, ForeignKeyStatement.head,
      List.append_assoc]
    exact ⟨_, rfl⟩
  have hhead : s.head = s.columnsHead ++ ([.code ") REFERENCES "] ++ s.target.pieces
      ++ [.code " ("]) := by
    simp only [ForeignKeyStatement.head, ForeignKeyStatement.columnsHead, List.append_assoc]
  have hcolumns : ∀ t ∈ s.columnsHead.flatMap Piece.tokens, (t != .code ')') = true := by
    intro t ht
    rw [bne_iff_ne]
    rintro rfl
    exact s.not_close_mem_columnsHead ht
  obtain ⟨ps, hps⟩ := hpieces
  rw [referencedTable, Batch.chars, hps, Piece.all_append, s.placed_head.mono.lex_append, hhead,
    List.flatMap_append, List.append_assoc, List.dropWhile_append_of_pos hcolumns]
  rfl

/-! ## The report and the script -/

/-- The foreign keys of a project that are reported, its schemas filled in. -/
def ScriptOptions.reported (o : ScriptOptions) (p : Project) : List (Table × ForeignKey) :=
  (TableLookup.ofProject o.defaultSchema (p.resolveSchemas o.defaultSchema)).dangling
    (p.resolveSchemas o.defaultSchema)

/-- Two tables have the same name up to case. -/
def ObjectName.Matches (n m : ObjectName) : Prop :=
  Unicode.lower n.schema = Unicode.lower m.schema ∧ Unicode.lower n.name = Unicode.lower m.name

/-- Two tables have the same name up to case and white space around the part without schema. -/
def ObjectName.Resembles (n m : ObjectName) : Prop :=
  Unicode.lower n.schema = Unicode.lower m.schema ∧
    Unicode.lower (Unicode.trim n.name) = Unicode.lower (Unicode.trim m.name)

instance (n m : ObjectName) : Decidable (n.Matches m) :=
  inferInstanceAs (Decidable (_ ∧ _))

theorem ObjectName.Matches.resembles {n m : ObjectName} (h : n.Matches m) : n.Resembles m := by
  refine ⟨h.1, ?_⟩
  rw [Unicode.lower_trim, Unicode.lower_trim, h.2]

/-- Some statement of the script creates the table. -/
def Generated.Creates (g : Generated) (n : ObjectName) : Prop :=
  ∃ b ∈ g.batches, createdTable b.chars = some n

theorem creates_iff {o : ScriptOptions} {p : Project} {time : Instant} {words : WordSource}
    {g : Generated} (h : generate o p time words = some g) (n : ObjectName) :
    g.Creates n ↔ ∃ t ∈ (p.resolveSchemas o.defaultSchema).tables, o.tableName t = n := by
  obtain ⟨issued, -, hbatches, -⟩ := generate_batches h
  rw [Generated.Creates, hbatches]
  constructor
  · rintro ⟨b, hb, hn⟩
    rw [createdTable_chars] at hn
    simp only [scriptBatches, List.cons_append, List.mem_cons, List.mem_append] at hb
    rcases hb with rfl | ((hb | hb) | hb) | hb
    · cases hn
    · obtain ⟨schema, -, rfl⟩ := List.mem_map.mp hb
      cases hn
    · obtain ⟨t, ht, hb⟩ := List.mem_flatMap.mp hb
      simp only [tableBatches, List.mem_cons, List.not_mem_nil, or_false] at hb
      rcases hb with rfl | rfl
      · cases hn
      · exact ⟨t, ht, Option.some.inj hn⟩
    · obtain ⟨k, -, rfl⟩ := List.mem_map.mp hb
      cases hn
    · obtain ⟨index, -, rfl⟩ := List.mem_map.mp hb
      cases hn
  · rintro ⟨t, ht, rfl⟩
    refine ⟨createTable o t, ?_, createdTable_chars _⟩
    have hmem : createTable o t
        ∈ (p.resolveSchemas o.defaultSchema).tables.flatMap (tableBatches o) :=
      List.mem_flatMap.mpr ⟨t, ht, by simp [tableBatches]⟩
    simp [scriptBatches, hmem]

theorem exists_creates_iff {o : ScriptOptions} {p : Project} {time : Instant} {words : WordSource}
    {g : Generated} (h : generate o p time words = some g) (P : ObjectName → Prop) :
    (∃ n, g.Creates n ∧ P n)
      ↔ ∃ t ∈ (p.resolveSchemas o.defaultSchema).tables, P (o.tableName t) := by
  constructor
  · rintro ⟨n, hn, hP⟩
    obtain ⟨t, ht, rfl⟩ := (creates_iff h n).mp hn
    exact ⟨t, ht, hP⟩
  · rintro ⟨t, ht, hP⟩
    exact ⟨o.tableName t, (creates_iff h _).mpr ⟨t, ht, rfl⟩, hP⟩

theorem key_eq_target_iff {o : ScriptOptions} {t : Table} {k : ForeignKey} :
    t.key o.defaultSchema = k.target o.defaultSchema
      ↔ (o.tableName t).Resembles (o.objectName k.refSchema k.refTable) := by
  rw [Table.key, ForeignKey.target, TableKey.make, TableKey.make, TableKey.mk.injEq]
  rfl

theorem addForeignKey_mem {o : ScriptOptions} {p : Project} {time : Instant} {words : WordSource}
    {g : Generated} (h : generate o p time words = some g) {key : Table × ForeignKey}
    (hkey : key ∈ (p.resolveSchemas o.defaultSchema).writtenForeignKeys) :
    ∃ name, .addForeignKey (foreignKeyStatement o key.1 key.2 name) ∈ g.batches := by
  obtain ⟨issued, hissued, hbatches, -⟩ := generate_batches h
  rw [← hissued] at hkey
  obtain ⟨k, hk, rfl⟩ := List.mem_map.mp hkey
  refine ⟨k.name, ?_⟩
  have hmem : k.batch o ∈ issued.map (·.batch o) := List.mem_map_of_mem hk
  rw [hbatches]
  simp only [scriptBatches, List.mem_append]
  exact .inl (.inr hmem)

/-- A foreign key is not reported if and only if a table is created whose name resembles the one that
its statement refers to. Such a table need not have the same name up to case: the script agrees with
the report unless the names of all such tables differ from the target in white space. -/
theorem dangling_iff_script {o : ScriptOptions} {p : Project} {time : Instant} {words : WordSource}
    {g : Generated} (h : generate o p time words = some g) {key : Table × ForeignKey}
    (hkey : key ∈ (p.resolveSchemas o.defaultSchema).writtenForeignKeys) :
    (∃ name, .addForeignKey (foreignKeyStatement o key.1 key.2 name) ∈ g.batches) ∧
      ∃ target,
        (∀ name, referencedTable
          (Batch.addForeignKey (foreignKeyStatement o key.1 key.2 name)).chars = some target) ∧
        (key ∉ o.reported p ↔ ∃ n, g.Creates n ∧ n.Resembles target) ∧
        ((∃ n, g.Creates n ∧ n.Matches target) → key ∉ o.reported p) ∧
        ((key ∉ o.reported p ↔ ∃ n, g.Creates n ∧ n.Matches target)
          ↔ ((∃ t ∈ (p.resolveSchemas o.defaultSchema).tables, (o.tableName t).Resembles target) →
              ∃ t ∈ (p.resolveSchemas o.defaultSchema).tables,
                (o.tableName t).Matches target)) := by
  have hmem : key ∈ (p.resolveSchemas o.defaultSchema).foreignKeys := (List.mem_filter.mp hkey).1
  -- What the script creates is a fact about the tables of the project, like the report.
  have hresembles :=
    exists_creates_iff h (·.Resembles (o.objectName key.2.refSchema key.2.refTable))
  have hmatches := exists_creates_iff h (·.Matches (o.objectName key.2.refSchema key.2.refTable))
  have hreport : key ∉ o.reported p ↔ ∃ t ∈ (p.resolveSchemas o.defaultSchema).tables,
      (o.tableName t).Resembles (o.objectName key.2.refSchema key.2.refTable) := by
    rw [ScriptOptions.reported, TableLookup.mem_dangling_iff]
    constructor
    · intro hnot
      obtain ⟨t, ht, hkeys⟩ : ∃ t ∈ (p.resolveSchemas o.defaultSchema).tables,
          t.key o.defaultSchema = key.2.target o.defaultSchema := by
        simpa [hmem] using hnot
      exact ⟨t, ht, key_eq_target_iff.mp hkeys⟩
    · rintro ⟨t, ht, ht'⟩ ⟨-, hnone⟩
      exact hnone t ht (key_eq_target_iff.mpr ht')
  have hweaken : (∃ t ∈ (p.resolveSchemas o.defaultSchema).tables,
        (o.tableName t).Matches (o.objectName key.2.refSchema key.2.refTable))
      → ∃ t ∈ (p.resolveSchemas o.defaultSchema).tables,
        (o.tableName t).Resembles (o.objectName key.2.refSchema key.2.refTable) := by
    rintro ⟨t, ht, ht'⟩
    exact ⟨t, ht, ht'.resembles⟩
  refine ⟨addForeignKey_mem h hkey, o.objectName key.2.refSchema key.2.refTable,
    fun name => referencedTable_chars _, ?_, ?_, ?_⟩
  · rw [hreport, hresembles]
  · rw [hreport, hmatches]
    exact hweaken
  · rw [hreport, hmatches]
    exact ⟨fun hiff => hiff.mp, fun hstrengthen => ⟨hstrengthen, hweaken⟩⟩

theorem dangling_iff_script_awkwardProject :
    ∃ g target, generate .standard awkwardProject ⟨0, 0⟩ (.ofList []) = some g ∧
      ∃ key ∈ (awkwardProject.resolveSchemas
          ScriptOptions.standard.defaultSchema).writtenForeignKeys,
        (∀ name, referencedTable (Batch.addForeignKey
          (foreignKeyStatement .standard key.1 key.2 name)).chars = some target) ∧
        ∃ n, g.Creates n ∧ n.Resembles target := by
  obtain ⟨g, hg⟩ := generate_awkwardProject
  have hkeys : (awkwardProject.resolveSchemas
      ScriptOptions.standard.defaultSchema).writtenForeignKeys ≠ [] := by decide +kernel
  have hreport : ∀ key ∈ (awkwardProject.resolveSchemas
      ScriptOptions.standard.defaultSchema).writtenForeignKeys,
        key ∉ ScriptOptions.standard.reported awkwardProject := by decide +kernel
  obtain ⟨key, hkey⟩ := List.exists_mem_of_ne_nil _ hkeys
  obtain ⟨-, target, htarget, hiff, -⟩ := dangling_iff_script hg hkey
  exact ⟨g, target, hg, key, hkey, htarget, hiff.mp (hreport key hkey)⟩

/-- A reference with a space before the name of the table. -/
def spacedProject : Project where
  name := "Shop"
  description := none
  tables := [
    { schema := "", name := "Customers", primaryKeyName := none, columns := [], foreignKeys := []
      indexes := [], checkConstraints := [], uniqueConstraints := [] },
    { schema := "", name := "Orders", primaryKeyName := none, columns := []
      foreignKeys := [{ name := some "FK_Orders", refSchema := "", refTable := " Customers"
                        onDeleteAction := none, columns := [⟨"CustomerId", "Id"⟩] }]
      indexes := [], checkConstraints := [], uniqueConstraints := [] }]

/-- Nothing is reported, and the table that the foreign key refers to is not created. -/
theorem spacedProject_not_created :
    spacedProject.violation? = none ∧
      ∃ g, generate .standard spacedProject ⟨0, 0⟩ (.ofList []) = some g ∧
        ∃ key ∈ (spacedProject.resolveSchemas
            ScriptOptions.standard.defaultSchema).writtenForeignKeys,
          key ∉ ScriptOptions.standard.reported spacedProject ∧
            ∃ target, (∀ name, referencedTable (Batch.addForeignKey
                (foreignKeyStatement .standard key.1 key.2 name)).chars = some target) ∧
              ¬ ∃ n, g.Creates n ∧ n.Matches target := by
  obtain ⟨g, hg⟩ : ∃ g, generate .standard spacedProject ⟨0, 0⟩ (.ofList []) = some g :=
    Option.isSome_iff_exists.mp (by decide +kernel)
  have hkeys : (spacedProject.resolveSchemas
      ScriptOptions.standard.defaultSchema).writtenForeignKeys ≠ [] := by decide +kernel
  have hreport : ScriptOptions.standard.reported spacedProject = [] := by decide +kernel
  have hunmatched : ∀ key ∈ (spacedProject.resolveSchemas
        ScriptOptions.standard.defaultSchema).writtenForeignKeys,
      ∀ t ∈ (spacedProject.resolveSchemas ScriptOptions.standard.defaultSchema).tables,
        ¬ (ScriptOptions.standard.tableName t).Matches
          (ScriptOptions.standard.objectName key.2.refSchema key.2.refTable) := by
    decide +kernel
  obtain ⟨key, hkey⟩ := List.exists_mem_of_ne_nil _ hkeys
  refine ⟨by decide +kernel, g, hg, key, hkey, ?_, _, fun name => referencedTable_chars _, ?_⟩
  · rw [hreport]
    exact List.not_mem_nil
  · rintro ⟨n, hn, hmatches⟩
    obtain ⟨t, ht, rfl⟩ := (creates_iff hg n).mp hn
    exact hunmatched key hkey t ht hmatches

end SchemaScript
