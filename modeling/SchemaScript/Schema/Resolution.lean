import SchemaScript.Schema.Project
import SchemaScript.Unicode.WhiteSpace

/-!
# SchemaScript.Schema.Resolution

Schemas that are left blank stand for the default schema.

* `resolveSchema`: the schema meant by a text.
* `Project.resolveSchemas`: a project with every schema filled in.
-/

namespace SchemaScript

/-- The schema in a database server that is always there. -/
def builtInSchema : String := "dbo"

/-- The schema meant by `schema`: the text without surrounding white space, or `defaultSchema` as it
is when the text is blank. -/
def resolveSchema (defaultSchema schema : String) : String :=
  if Unicode.isBlank schema then defaultSchema else Unicode.trim schema

/-- The foreign key with the schema of its target filled in. -/
def ForeignKey.resolveSchema (defaultSchema : String) (k : ForeignKey) : ForeignKey :=
  { k with refSchema := SchemaScript.resolveSchema defaultSchema k.refSchema }

/-- The table with its schema and those of its references filled in. -/
def Table.resolveSchemas (defaultSchema : String) (t : Table) : Table :=
  { t with
    schema := resolveSchema defaultSchema t.schema
    foreignKeys := t.foreignKeys.map (·.resolveSchema defaultSchema) }

/-- The project with every schema filled in. -/
def Project.resolveSchemas (defaultSchema : String) (p : Project) : Project :=
  { p with tables := p.tables.map (·.resolveSchemas defaultSchema) }

end SchemaScript
