import SchemaScript.Calendar.Instant
import SchemaScript.Sql.Comment
import SchemaScript.Sql.Default
import SchemaScript.Sql.Quoting

/-!
# SchemaScript.Script.Batch

The batches of a script and their text. A batch is described by the names and values in it; its text
is put together from pieces, each of which is quoted in its own way.

* `ObjectName`: the name of a table together with its schema.
* `Entry`: an entry in the body of CREATE TABLE.
* `Batch`: a batch of the script.
* `Piece`: a part of the text of a batch.
* `Batch.pieces`, `Batch.chars`: the text of a batch without its separator.
-/

namespace SchemaScript

/-- A table name with its schema. -/
structure ObjectName where
  schema : String
  name : String
deriving DecidableEq

structure DefaultClause where
  name : String
  expression : Sql.Expression
deriving DecidableEq

/-- The entry of a column in the body of CREATE TABLE. -/
structure ColumnEntry where
  name : String
  /-- Spaces between the name and the type besides the one that is always there. -/
  padding : Nat
  typeText : String
  identity : Option (Int × Int)
  isNullable : Bool
  default : Option DefaultClause
  /-- The name of the constraint that makes the column unique. -/
  unique : Option String
deriving DecidableEq

inductive Entry where
  | column (entry : ColumnEntry)
  | primaryKey (name : String) (columns : List String)
  | check (name expression : String)
  | unique (name : String) (columns : List String)
deriving DecidableEq

/-- The comments at the top of a script. -/
structure Heading where
  project : String
  description : Option String
  time : Instant
deriving DecidableEq

structure ForeignKeyStatement where
  table : ObjectName
  name : String
  columns : List ForeignKeyColumn
  target : ObjectName
  onDelete : Option String
deriving DecidableEq

structure IndexStatement where
  table : ObjectName
  name : String
  isUnique : Bool
  columns : List IndexColumn
  included : List String
deriving DecidableEq

inductive Batch where
  | session (heading : Option Heading)
  | createSchema (schema : String)
  | dropTable (table : ObjectName)
  | createTable (table : ObjectName) (entries : List Entry)
  | addForeignKey (statement : ForeignKeyStatement)
  | createIndex (statement : IndexStatement)
deriving DecidableEq

/-- A part of the text of a batch. -/
inductive Piece where
  /-- Words and marks of the language. -/
  | code (text : String)
  /-- A name in brackets. -/
  | name (text : String)
  /-- A string literal. -/
  | string (value : String)
  /-- Text of the project that is taken over as it is. -/
  | raw (text : String)
  /-- A comment with the line break that ends it. -/
  | comment (text : String)
  /-- Spaces that only serve the layout. -/
  | padding (count : Nat)
deriving DecidableEq

def Piece.chars : Piece → List Char
  | code text => text.toList
  | name text => Sql.nameChars text.toList
  | string value => Sql.literalChars value.toList
  | raw text => text.toList
  | comment text => '-' :: '-' :: ' ' :: text.toList ++ ['\n']
  | padding count => List.replicate count ' '

def Piece.all (pieces : List Piece) : List Char :=
  pieces.flatMap Piece.chars

/-- Lists of pieces with `separator` between neighbours. -/
def Piece.separated (separator : String) : List (List Piece) → List Piece
  | [] => []
  | [part] => part
  | part :: parts => part ++ .code separator :: Piece.separated separator parts

/-- Schema and name in brackets, with a point between them. -/
def ObjectName.pieces (n : ObjectName) : List Piece :=
  [.name n.schema, .code ".", .name n.name]

/-- Schema and name in brackets as one text. -/
def ObjectName.text (n : ObjectName) : String :=
  String.ofList (Piece.all n.pieces)

/-- Names in brackets between commas. -/
def namePieces (names : List String) : List Piece :=
  Piece.separated ", " (names.map fun n => [.name n])

def Sql.Expression.piece : Sql.Expression → Piece
  | raw text => .raw text
  | string value => .string value

/-- The clause of a column whose values are numbered. -/
def identityText (seed increment : Int) : String :=
  String.ofList (" IDENTITY(".toList ++ Text.signedDecimal seed ++ ','
    :: Text.signedDecimal increment ++ [')'])

/-- The entry of a column: name, type, identity, nullability, default and uniqueness. -/
def ColumnEntry.pieces (e : ColumnEntry) : List Piece :=
  [.code "    ", .name e.name, .padding e.padding, .code " ", .raw e.typeText]
    ++ (match e.identity with
      | some (seed, increment) => [.code (identityText seed increment)]
      | none => [])
    ++ [.code (if e.isNullable then " NULL" else " NOT NULL")]
    ++ (match e.default with
      | some d =>
        [.code " CONSTRAINT ", .name d.name, .code " DEFAULT (", d.expression.piece, .code ")"]
      | none => [])
    ++ (match e.unique with
      | some name => [.code " CONSTRAINT ", .name name, .code " UNIQUE"]
      | none => [])

/-- An entry on its line. -/
def Entry.pieces : Entry → List Piece
  | column e => e.pieces
  | primaryKey name columns =>
    [.code "    CONSTRAINT ", .name name, .code " PRIMARY KEY ("]
      ++ Piece.separated ", " (columns.map fun c => [.name c, .code " ASC"]) ++ [.code ")"]
  | check name expression =>
    [.code "    CONSTRAINT ", .name name, .code " CHECK (", .raw expression, .code ")"]
  | unique name columns =>
    [.code "    CONSTRAINT ", .name name, .code " UNIQUE ("] ++ namePieces columns ++ [.code ")"]

/-- The comment lines at the top. -/
def Heading.pieces (h : Heading) : List Piece :=
  [.comment ("SQL generated for project: " ++ Sql.commentText h.project)]
    ++ (match h.description with
      | some d => [.comment ("Description: " ++ Sql.commentText d)]
      | none => [])
    ++ [.comment ("Generated at: " ++ h.time.rfc3339)]

/-- ALTER TABLE with the columns of both tables. -/
def ForeignKeyStatement.pieces (s : ForeignKeyStatement) : List Piece :=
  [.code "ALTER TABLE "] ++ s.table.pieces ++ [.code " ADD CONSTRAINT ", .name s.name,
      .code "\n    FOREIGN KEY ("]
    ++ namePieces (s.columns.map (·.columnName)) ++ [.code ") REFERENCES "] ++ s.target.pieces
    ++ [.code " ("] ++ namePieces (s.columns.map (·.refColumnName)) ++ [.code ")"]
    ++ (match s.onDelete with
      | some action => [.code " ON DELETE ", .raw action]
      | none => [])
    ++ [.code ";\n"]

/-- CREATE INDEX with the direction of every column. -/
def IndexStatement.pieces (s : IndexStatement) : List Piece :=
  [.code (if s.isUnique then "CREATE UNIQUE INDEX " else "CREATE INDEX "), .name s.name,
      .code " ON "]
    ++ s.table.pieces ++ [.code " ("]
    ++ Piece.separated ", " (s.columns.map fun c =>
      [.name c.columnName, .code (if c.descending then " DESC" else " ASC")])
    ++ [.code ")"]
    ++ (if s.included.isEmpty then []
      else [.code " INCLUDE ("] ++ namePieces s.included ++ [.code ")"])
    ++ [.code ";\n"]

namespace Batch

/-- The pieces of a batch without its separator. -/
def pieces : Batch → List Piece
  | session heading =>
    (heading.map Heading.pieces).getD []
      ++ [.code "SET ANSI_NULLS ON;\n", .code "SET QUOTED_IDENTIFIER ON;\n"]
  | createSchema schema =>
    [.code "IF NOT EXISTS (SELECT * FROM sys.schemas WHERE name = N", .string schema,
      .code ")\n    EXEC(",
      .string ("CREATE SCHEMA " ++ Sql.quoteName schema), .code ");\n"]
  | dropTable table =>
    [.comment ("Table " ++ Sql.commentText table.text),
      .code "IF OBJECT_ID(N", .string table.text, .code ", N'U') IS NOT NULL DROP TABLE "]
      ++ table.pieces ++ [.code ";\n"]
  | createTable table entries =>
    [.code "CREATE TABLE "] ++ table.pieces ++ [.code "\n(\n"]
      ++ (if entries.isEmpty then []
        else Piece.separated ",\n" (entries.map Entry.pieces) ++ [.code "\n"])
      ++ [.code ");\n"]
  | addForeignKey statement => statement.pieces
  | createIndex statement => statement.pieces

/-- The characters of a batch without its separator. -/
def chars (b : Batch) : List Char :=
  Piece.all b.pieces

/-- The characters of a batch with its separator and an empty line. -/
def closed (separator : String) (b : Batch) : List Char :=
  b.chars ++ separator.toList ++ ['\n', '\n']

end Batch

def renderScript (separator : String) (batches : List Batch) : String :=
  String.ofList (batches.flatMap (·.closed separator))

end SchemaScript
