import SchemaScript.Proofs.Script.Layout
import SchemaScript.Proofs.Script.Pieces
import SchemaScript.Proofs.Sql.Comment
import SchemaScript.Proofs.Sql.DataType

/-!
# SchemaScript.Proofs.Script.Mentions

What a batch mentions: its names, its values and the texts that it takes over, in order. They are
what is quoted among the pieces of the batch.
-/

namespace SchemaScript

open Sql

/-- What a statement mentions: a name, a value, or a text that is taken over as it is. -/
inductive Mention where
  | name (text : String)
  | string (value : String)
  | raw (text : String)
deriving DecidableEq

/-- The names and strings that a mention is read as. -/
def Mention.tokens : Mention → List Token
  | name text => [.name text]
  | string value => [.string value]
  | raw text => quoted (lex text.toList)

/-! ## What statements mention -/

def ObjectName.mentions (n : ObjectName) : List Mention :=
  [.name n.schema, .name n.name]

def Sql.Expression.mention : Sql.Expression → Mention
  | raw text => .raw text
  | string value => .string value

def ColumnEntry.mentions (e : ColumnEntry) : List Mention :=
  [.name e.name, .raw e.typeText]
    ++ (match e.default with
      | some d => [.name d.name, d.expression.mention]
      | none => [])
    ++ (match e.unique with
      | some name => [.name name]
      | none => [])

def Entry.mentions : Entry → List Mention
  | column e => e.mentions
  | primaryKey name columns => .name name :: columns.map .name
  | check name expression => [.name name, .raw expression]
  | unique name columns => .name name :: columns.map .name

def ForeignKeyStatement.mentions (s : ForeignKeyStatement) : List Mention :=
  s.table.mentions ++ .name s.name :: s.columns.map (fun c => .name c.columnName)
    ++ s.target.mentions ++ s.columns.map (fun c => .name c.refColumnName)
    ++ (match s.onDelete with
      | some action => [.raw action]
      | none => [])

def IndexStatement.mentions (s : IndexStatement) : List Mention :=
  .name s.name :: s.table.mentions ++ s.columns.map (fun c => .name c.columnName)
    ++ s.included.map .name

/-- What a batch mentions. The type letter in the condition of DROP TABLE is a string as well. -/
def Batch.mentions : Batch → List Mention
  | session _ => []
  | createSchema schema => [.string schema, .string ("CREATE SCHEMA " ++ quoteName schema)]
  | dropTable table => [.string table.text, .string "U"] ++ table.mentions
  | createTable table entries => table.mentions ++ entries.flatMap Entry.mentions
  | addForeignKey statement => statement.mentions
  | createIndex statement => statement.mentions

/-! ## Names and strings among pieces -/

/-- The names and strings that a piece is read as. -/
def Piece.quoted (p : Piece) : List Token :=
  Sql.quoted p.tokens

@[simp] theorem Piece.quoted_name (text : String) : (Piece.name text).quoted = [.name text] := rfl

@[simp] theorem Piece.quoted_string (value : String) :
    (Piece.string value).quoted = [.string value] := rfl

@[simp] theorem Piece.quoted_comment (text : String) : (Piece.comment text).quoted = [] := rfl

@[simp] theorem Piece.quoted_raw (text : String) :
    (Piece.raw text).quoted = (Mention.raw text).tokens := rfl

@[simp] theorem Piece.quoted_padding (count : Nat) : (Piece.padding count).quoted = [] := by
  induction count with
  | zero => rfl
  | succ count ih => exact ih

theorem Piece.quoted_code {text : String} (h : isPlainText text = true) :
    (Piece.code text).quoted = [] :=
  (isQuiet_of_isPlain (isPlain_of_mem h)).quoted_lex

theorem Piece.quoted_separated {separator : String} (hs : isPlainText separator = true)
    (parts : List (List Piece)) :
    (Piece.separated separator parts).flatMap Piece.quoted
      = parts.flatMap fun part => part.flatMap Piece.quoted := by
  induction parts with
  | nil => rfl
  | cons part parts ih =>
    cases parts with
    | nil => simp [Piece.separated]
    | cons next parts =>
      have hsep : Piece.separated separator (part :: next :: parts)
          = part ++ .code separator :: Piece.separated separator (next :: parts) := rfl
      rw [hsep, List.flatMap_append, List.flatMap_cons, ih, quoted_code hs]
      rfl

theorem namePieces_quoted (names : List String) :
    (namePieces names).flatMap Piece.quoted = (names.map Mention.name).flatMap Mention.tokens := by
  rw [namePieces, Piece.quoted_separated (by decide), List.flatMap_map, List.flatMap_map]
  simp [Mention.tokens]

theorem ObjectName.quoted_pieces (n : ObjectName) :
    n.pieces.flatMap Piece.quoted = n.mentions.flatMap Mention.tokens := by
  simp (disch := decide) [pieces, mentions, Piece.quoted_code, Mention.tokens]

theorem toList_identityText (seed increment : Int) :
    (identityText seed increment).toList
      = " IDENTITY(".toList ++ Text.signedDecimal seed ++ ',' :: Text.signedDecimal increment
        ++ [')'] :=
  String.toList_ofList

theorem isQuiet_identityText (seed increment : Int) :
    IsQuiet (identityText seed increment).toList := by
  have hword : ∀ c ∈ " IDENTITY".toList, isPlain c = true := isPlain_of_mem (by decide)
  have hopen : " IDENTITY(".toList = " IDENTITY".toList ++ ['('] := by decide
  rw [toList_identityText, hopen, ← List.append_cons]
  exact isQuiet_sizes hword seed increment

theorem ColumnEntry.quoted_pieces (e : ColumnEntry) :
    e.pieces.flatMap Piece.quoted = e.mentions.flatMap Mention.tokens := by
  have hidentity : ∀ seed increment : Int,
      (Piece.code (identityText seed increment)).quoted = [] :=
    fun seed increment => (isQuiet_identityText seed increment).quoted_lex
  have hnull : (Piece.code (if e.isNullable then " NULL" else " NOT NULL")).quoted = [] := by
    split <;> exact Piece.quoted_code (by decide)
  have hexpression : ∀ d : DefaultClause,
      d.expression.piece.quoted = d.expression.mention.tokens := by
    intro d
    cases d.expression <;> rfl
  simp only [pieces, mentions, List.flatMap_append, List.flatMap_cons, List.flatMap_nil, hnull]
  cases e.identity <;> cases e.default <;> cases e.unique <;>
    simp (disch := decide) [hidentity, hexpression, Piece.quoted_code, Mention.tokens]

theorem Entry.quoted_pieces (e : Entry) :
    e.pieces.flatMap Piece.quoted = e.mentions.flatMap Mention.tokens := by
  cases e with
  | column e => exact e.quoted_pieces
  | primaryKey name columns =>
    simp (disch := decide) [pieces, mentions, Piece.quoted_code, Piece.quoted_separated,
      Mention.tokens, List.flatMap_map]
  | check name expression =>
    simp (disch := decide) [pieces, mentions, Piece.quoted_code, Mention.tokens]
  | unique name columns =>
    simp (disch := decide) [pieces, mentions, Piece.quoted_code, namePieces_quoted, Mention.tokens]

theorem ForeignKeyStatement.quoted_pieces (s : ForeignKeyStatement) :
    s.pieces.flatMap Piece.quoted = s.mentions.flatMap Mention.tokens := by
  cases h : s.onDelete <;>
    simp (disch := decide) [pieces, mentions, h, Piece.quoted_code, namePieces_quoted,
      ObjectName.quoted_pieces, Mention.tokens, List.map_map, Function.comp_def]

theorem IndexStatement.quoted_pieces (s : IndexStatement) :
    s.pieces.flatMap Piece.quoted = s.mentions.flatMap Mention.tokens := by
  have hword : (Piece.code (if s.isUnique then "CREATE UNIQUE INDEX " else "CREATE INDEX ")).quoted
      = [] := by
    split <;> exact Piece.quoted_code (by decide)
  have hdirection : ∀ c : IndexColumn,
      (Piece.code (if c.descending then " DESC" else " ASC")).quoted = [] := by
    intro c
    split <;> exact Piece.quoted_code (by decide)
  have hincluded : (if s.included.isEmpty then []
        else [.code " INCLUDE ("] ++ namePieces s.included ++ [.code ")"]).flatMap Piece.quoted
      = (s.included.map Mention.name).flatMap Mention.tokens := by
    cases hi : s.included with
    | nil => rfl
    | cons name names =>
      simp (disch := decide) [Piece.quoted_code, namePieces_quoted, Mention.tokens]
  simp only [pieces, List.flatMap_append, List.flatMap_cons, List.flatMap_nil, hword, hincluded,
    ObjectName.quoted_pieces]
  simp (disch := decide) [mentions, hdirection, Piece.quoted_code, Piece.quoted_separated,
    Mention.tokens, List.flatMap_map]

/-- The names and strings of a batch are those that it mentions. -/
theorem Batch.quoted_pieces (b : Batch) :
    b.pieces.flatMap Piece.quoted = b.mentions.flatMap Mention.tokens := by
  cases b with
  | session heading =>
    cases heading with
    | none => simp (disch := decide) [pieces, mentions, Piece.quoted_code]
    | some h =>
      cases hd : h.description <;>
        simp (disch := decide) [pieces, mentions, Heading.pieces, hd, Piece.quoted_code]
  | createSchema schema =>
    simp (disch := decide) [pieces, mentions, Piece.quoted_code, Mention.tokens]
  | dropTable table =>
    have hletter : (Piece.code ", N'U') IS NOT NULL DROP TABLE ").quoted = [.string "U"] := by
      decide
    simp (disch := decide) [pieces, mentions, hletter, Piece.quoted_code, ObjectName.quoted_pieces,
      Mention.tokens]
  | createTable table entries =>
    have hentries : (if entries.isEmpty then []
          else Piece.separated ",\n" (entries.map Entry.pieces) ++ [.code "\n"]).flatMap Piece.quoted
        = (entries.flatMap Entry.mentions).flatMap Mention.tokens := by
      cases entries with
      | nil => rfl
      | cons entry entries =>
        simp (disch := decide) [Piece.quoted_code, Piece.quoted_separated, List.flatMap_map,
          Entry.quoted_pieces, List.flatMap_assoc]
    simp only [pieces, List.flatMap_append, hentries]
    simp (disch := decide) [mentions, Piece.quoted_code, ObjectName.quoted_pieces]
  | addForeignKey statement => exact statement.quoted_pieces
  | createIndex statement => exact statement.quoted_pieces

end SchemaScript
