import SchemaScript.Proofs.Script.Schemas
import SchemaScript.Proofs.Script.Targets

/-!
# SchemaScript.Proofs.Script.Guards

What the conditions in front of DROP TABLE and CREATE SCHEMA ask about. There a name is quoted twice,
in brackets and then as a part of a string; taken apart again it is the name in the statements.

* `readDrop`, `readCreateSchema`: the strings and the names of such a batch, read from its text.
* `lex_objectName`, `lex_createSchema`: the strings, read once more as text of their own.
* `generate_guards`: conditions and statements of a script are about the same tables and schemas.
-/

namespace SchemaScript

open Sql

/-! ## Reading a batch -/

/-- A string at the start of some tokens, and the tokens behind it. -/
def readString : List Token → Option (String × List Token)
  | .string value :: ts => some (value, ts)
  | _ => none

/-- The tokens behind a comment. -/
def afterComment : List Token → Option (List Token)
  | .comment _ :: ts => some ts
  | _ => none

/-- The text that is asked about and the table that is dropped, if it is asked about as a table. -/
def readDrop (cs : List Char) : Option (String × ObjectName) := do
  let ts ← afterComment (lex cs)
  let ts ← afterWord "IF OBJECT_ID(N" ts
  let (object, ts) ← readString ts
  let ts ← afterWord ", N" ts
  let (kind, ts) ← readString ts
  let ts ← afterWord ") IS NOT NULL DROP TABLE " ts
  let table ← readObjectName ts
  if kind = "U" then some (object, table) else none

/-- The schema that is asked about and the statement that is executed if there is no such schema. -/
def readCreateSchema (cs : List Char) : Option (String × String) := do
  let ts ← afterWord "IF NOT EXISTS (SELECT * FROM sys.schemas WHERE name = N" (lex cs)
  let (schema, ts) ← readString ts
  let ts ← afterWord ")\n    EXEC(" ts
  let (command, _) ← readString ts
  return (schema, command)

theorem readString_append (value : String) (ts : List Token) :
    readString ((Piece.string value).tokens ++ ts) = some (value, ts) :=
  rfl

theorem afterComment_append (text : String) (ts : List Token) :
    afterComment ((Piece.comment text).tokens ++ ts) = some ts :=
  rfl

theorem readObjectName_append (n : ObjectName) (ts : List Token) :
    readObjectName (n.pieces.flatMap Piece.tokens ++ ts) = some n :=
  rfl

theorem readDrop_chars (n : ObjectName) :
    readDrop (Batch.dropTable n).chars = some (n.text, n) := by
  have hplaced : Placed true (Batch.dropTable n).pieces true := Batch.placed trivial
  have hcondition : (Piece.code "IF OBJECT_ID(N").tokens = "IF OBJECT_ID(N".toList.map .code :=
    Piece.tokens_code (by decide)
  -- This piece has a string in it, so it is scanned as it stands.
  have hdrop : (Piece.code ", N'U') IS NOT NULL DROP TABLE ").tokens
      = ", N".toList.map .code ++ ((Piece.string "U").tokens
        ++ ") IS NOT NULL DROP TABLE ".toList.map .code) := by
    decide +kernel
  rw [readDrop, Batch.chars, hplaced.lex_all, Batch.pieces]
  simp only [List.flatMap_append, List.flatMap_cons, List.flatMap_nil, hcondition, hdrop,
    List.append_assoc, List.nil_append, afterComment_append, afterWord_append, readString_append,
    readObjectName_append, Option.bind_eq_bind, Option.bind_some, if_true]

theorem readCreateSchema_chars (s : String) :
    readCreateSchema (Batch.createSchema s).chars = some (s, "CREATE SCHEMA " ++ quoteName s) := by
  have hplaced : Placed true (Batch.createSchema s).pieces true := Batch.placed trivial
  have hcondition : (Piece.code "IF NOT EXISTS (SELECT * FROM sys.schemas WHERE name = N").tokens
      = "IF NOT EXISTS (SELECT * FROM sys.schemas WHERE name = N".toList.map .code :=
    Piece.tokens_code (by decide +kernel)
  have hexecute : (Piece.code ")\n    EXEC(").tokens = ")\n    EXEC(".toList.map .code :=
    Piece.tokens_code (by decide)
  rw [readCreateSchema, Batch.chars, hplaced.lex_all, Batch.pieces]
  simp only [List.flatMap_cons, hcondition, hexecute, afterWord_append, readString_append,
    Option.bind_eq_bind, Option.bind_some, pure]

/-! ## Reading the strings in it -/

theorem lex_objectName (n : ObjectName) :
    lex n.text.toList = [.name n.schema, .code '.', .name n.name] := by
  rw [ObjectName.text, String.toList_ofList, n.placed.mono.lex_all]
  rfl

theorem lex_createSchema (s : String) :
    lex ("CREATE SCHEMA " ++ quoteName s).toList
      = "CREATE SCHEMA ".toList.map .code ++ [.name s] := by
  have hplaced : Placed true [.code "CREATE SCHEMA ", .name s] false :=
    .code (by decide) (.name .empty)
  have hall : Piece.all [.code "CREATE SCHEMA ", .name s]
      = ("CREATE SCHEMA " ++ quoteName s).toList := by
    simp [Piece.all, Piece.chars, quoteName]
  rw [← hall, hplaced.lex_all, List.flatMap_cons, Piece.tokens_code (by decide)]
  rfl

/-! ## Scripts -/

/-- Behind its schemas a script drops and creates its tables. -/
theorem generate_tableBatches {o : ScriptOptions} {p : Project} {time : Instant} {words : WordSource}
    {g : Generated} (h : generate o p time words = some g) :
    g.script = renderScript o.batchSeparator g.batches ∧
      ∃ rest, g.batches = .session (heading o (p.resolveSchemas o.defaultSchema) time)
        :: g.createdSchemas.map .createSchema
        ++ (p.resolveSchemas o.defaultSchema).tables.flatMap (tableBatches o) ++ rest := by
  obtain ⟨issued, -, hbatches, hscript⟩ := generate_batches h
  obtain ⟨-, -, -, hcreated⟩ := generate_schemaBatches h
  refine ⟨hscript, ?_⟩
  rw [hbatches, hcreated, scriptBatches, List.append_assoc _ (issued.map _)]
  exact ⟨_, rfl⟩

/-- Every table of a script is dropped by a batch and created by the next. The string that is asked
about in the first is read as a schema and a name with a point between them: the schema that the table
is in and its name, which are also those behind DROP TABLE and behind CREATE TABLE. Every schema of a
script is asked about by its name, and the string that is executed is read as CREATE SCHEMA with that
name. -/
theorem generate_guards {o : ScriptOptions} {p : Project} {time : Instant} {words : WordSource}
    {g : Generated} (h : generate o p time words = some g) :
    g.script = renderScript o.batchSeparator g.batches ∧
    (∃ rest, g.batches = .session (heading o (p.resolveSchemas o.defaultSchema) time)
        :: g.createdSchemas.map .createSchema
        ++ (p.resolveSchemas o.defaultSchema).tables.flatMap (tableBatches o) ++ rest) ∧
    (∀ t : Table, ∃ drop create object, tableBatches o t = [drop, create] ∧
        readDrop drop.chars = some (object, ⟨resolveSchema o.defaultSchema t.schema, t.name⟩) ∧
        lex object.toList
          = [.name (resolveSchema o.defaultSchema t.schema), .code '.', .name t.name] ∧
        createdTable create.chars = some ⟨resolveSchema o.defaultSchema t.schema, t.name⟩) ∧
    ∀ schema, ∃ command,
      readCreateSchema (Batch.createSchema schema).chars = some (schema, command) ∧
        lex command.toList = "CREATE SCHEMA ".toList.map .code ++ [.name schema] := by
  obtain ⟨hscript, hbatches⟩ := generate_tableBatches h
  refine ⟨hscript, hbatches, fun t => ?_, fun schema => ?_⟩
  · exact ⟨.dropTable (o.tableName t), createTable o t, (o.tableName t).text, rfl,
      readDrop_chars _, lex_objectName _, createdTable_chars _⟩
  · exact ⟨_, readCreateSchema_chars schema, lex_createSchema schema⟩

theorem generate_guards_awkwardProject :
    ∃ g drop object, generate .standard awkwardProject ⟨0, 0⟩ (.ofList []) = some g ∧
      drop ∈ g.batches ∧
      readDrop drop.chars = some (object, ⟨"sa]les", "Or'der--s"⟩) ∧
      lex object.toList = [.name "sa]les", .code '.', .name "Or'der--s"] := by
  obtain ⟨g, hg⟩ := generate_awkwardProject
  obtain ⟨-, ⟨rest, hbatches⟩, htables, -⟩ := generate_guards hg
  have hfirst : ∃ t ∈ (awkwardProject.resolveSchemas ScriptOptions.standard.defaultSchema).tables,
      t.name = "Or'der--s" ∧
        resolveSchema ScriptOptions.standard.defaultSchema t.schema = "sa]les" := by
    decide +kernel
  obtain ⟨t, ht, hname, hschema⟩ := hfirst
  obtain ⟨drop, create, object, hdrop, hread, hlex, -⟩ := htables t
  rw [hname, hschema] at hread hlex
  refine ⟨g, drop, object, hg, ?_, hread, hlex⟩
  have hmem : drop ∈ (awkwardProject.resolveSchemas
      ScriptOptions.standard.defaultSchema).tables.flatMap (tableBatches .standard) :=
    List.mem_flatMap.mpr ⟨t, ht, by rw [hdrop]; exact List.mem_cons_self⟩
  rw [hbatches]
  exact List.mem_append_left _ (List.mem_append_right _ hmem)

end SchemaScript
