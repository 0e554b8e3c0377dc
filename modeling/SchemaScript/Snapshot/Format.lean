import SchemaScript.Json.Record
import SchemaScript.Schema.Project

/-!
# SchemaScript.Snapshot.Format

The stored form of a project: the members of every record, in the order in which they are written,
and what becomes of members that are absent.
-/

namespace SchemaScript
namespace Snapshot

open Json (Codec Field Record)

/-- The kinds of defaults and how they are spelled. -/
def defaultKinds : List (String × DefaultKind) :=
  [("none", .none), ("rawExpression", .rawExpression), ("literal", .literal)]

def kindName : DefaultKind → String
  | .none => "none"
  | .rawExpression => "rawExpression"
  | .literal => "literal"

/-- A kind of default as its spelling. -/
def kindCodec : Codec DefaultKind where
  read := Json.variant defaultKinds
  write := fun k => Json.string (kindName k)

def foreignKeyColumn : Record ForeignKeyColumn where
  title := "ForeignKeyColumn"
  blank := ⟨"", ""⟩
  fields := [
    .mandatory "columnName" .string (·.columnName) ({ · with columnName := · }),
    .mandatory "refColumnName" .string (·.refColumnName) ({ · with refColumnName := · })]

def foreignKey : Record ForeignKey where
  title := "ForeignKey"
  blank := ⟨none, "", "", none, []⟩
  fields := [
    .possible "name" .string (·.name) ({ · with name := · }),
    .defaulted "refSchema" .string (·.refSchema) ({ · with refSchema := · }),
    .mandatory "refTable" .string (·.refTable) ({ · with refTable := · }),
    .possible "onDeleteAction" .string (·.onDeleteAction) ({ · with onDeleteAction := · }),
    .defaulted "columns" foreignKeyColumn.codec.listOf (·.columns) ({ · with columns := · })]

def indexColumn : Record IndexColumn where
  title := "IndexColumn"
  blank := ⟨"", false⟩
  fields := [
    .mandatory "columnName" .string (·.columnName) ({ · with columnName := · }),
    .defaulted "descending" .bool (·.descending) ({ · with descending := · })]

def index : Record Index where
  title := "Index"
  blank := ⟨none, false, [], none⟩
  fields := [
    .possible "name" .string (·.name) ({ · with name := · }),
    .defaulted "isUnique" .bool (·.isUnique) ({ · with isUnique := · }),
    .defaulted "columns" indexColumn.codec.listOf (·.columns) ({ · with columns := · }),
    .possible "includeColumnsCsv" .string (·.includeColumnsCsv)
      ({ · with includeColumnsCsv := · })]

def checkConstraint : Record CheckConstraint where
  title := "CheckConstraint"
  blank := ⟨none, ""⟩
  fields := [
    .possible "name" .string (·.name) ({ · with name := · }),
    .mandatory "expression" .string (·.expression) ({ · with expression := · })]

def uniqueConstraint : Record UniqueConstraint where
  title := "UniqueConstraint"
  blank := ⟨none, ""⟩
  fields := [
    .possible "name" .string (·.name) ({ · with name := · }),
    .mandatory "columnsCsv" .string (·.columnsCsv) ({ · with columnsCsv := · })]

/-- A column with every member at its default. Identity columns start at one and go up by one. -/
def blankColumn : Column where
  name := ""
  dataType := ""
  length := none
  precision := none
  scale := none
  isNullable := false
  isPrimaryKey := false
  primaryKeyOrder := none
  isIdentity := false
  identitySeed := 1
  identityIncrement := 1
  defaultSql := none
  defaultKind := .none
  isUnique := false

/-- The members of a column. Only its name and its type have to be there. -/
def column : Record Column where
  title := "Column"
  blank := blankColumn
  fields := [
    .mandatory "name" .string (·.name) ({ · with name := · }),
    .mandatory "dataType" .string (·.dataType) ({ · with dataType := · }),
    .possible "length" .int32 (·.length) ({ · with length := · }),
    .possible "precision" .int32 (·.precision) ({ · with precision := · }),
    .possible "scale" .int32 (·.scale) ({ · with scale := · }),
    .defaulted "isNullable" .bool (·.isNullable) ({ · with isNullable := · }),
    .defaulted "isPrimaryKey" .bool (·.isPrimaryKey) ({ · with isPrimaryKey := · }),
    .possible "primaryKeyOrder" .int32 (·.primaryKeyOrder) ({ · with primaryKeyOrder := · }),
    .defaulted "isIdentity" .bool (·.isIdentity) ({ · with isIdentity := · }),
    .defaulted "identitySeed" .int32 (·.identitySeed) ({ · with identitySeed := · }),
    .defaulted "identityIncrement" .int32 (·.identityIncrement)
      ({ · with identityIncrement := · }),
    .possible "defaultSql" .string (·.defaultSql) ({ · with defaultSql := · }),
    .defaulted "defaultKind" kindCodec (·.defaultKind) ({ · with defaultKind := · }),
    .defaulted "isUnique" .bool (·.isUnique) ({ · with isUnique := · })]

/-- The members of a table. Only its name has to be there. -/
def table : Record Table where
  title := "Table"
  blank := ⟨"", "", none, [], [], [], [], []⟩
  fields := [
    .defaulted "schema" .string (·.schema) ({ · with schema := · }),
    .mandatory "name" .string (·.name) ({ · with name := · }),
    .possible "primaryKeyName" .string (·.primaryKeyName) ({ · with primaryKeyName := · }),
    .defaulted "columns" column.codec.listOf (·.columns) ({ · with columns := · }),
    .defaulted "foreignKeys" foreignKey.codec.listOf (·.foreignKeys) ({ · with foreignKeys := · }),
    .defaulted "indexes" index.codec.listOf (·.indexes) ({ · with indexes := · }),
    .defaulted "checkConstraints" checkConstraint.codec.listOf (·.checkConstraints)
      ({ · with checkConstraints := · }),
    .defaulted "uniqueConstraints" uniqueConstraint.codec.listOf (·.uniqueConstraints)
      ({ · with uniqueConstraints := · })]

/-- The members of a project. Only its name has to be there. -/
def project : Record Project where
  title := "Project"
  blank := ⟨"", none, []⟩
  fields := [
    .mandatory "name" .string (·.name) ({ · with name := · }),
    .possible "description" .string (·.description) ({ · with description := · }),
    .defaulted "tables" table.codec.listOf (·.tables) ({ · with tables := · })]

end Snapshot
end SchemaScript
