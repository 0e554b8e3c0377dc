import SchemaScript.Schema.Project
import SchemaScript.Text.Digits
import SchemaScript.Unicode.Casing
import SchemaScript.Unicode.WhiteSpace

/-!
# SchemaScript.Sql.DataType

Data types of columns. The family of a type tells which sizes it takes; a size out of range is
replaced and never refused.

* `TypeFamily`: the families and the limits of their sizes.
* `TypeClause`: a type with its sizes, and its text.
* `resolveType`: the text for a type and the sizes given with it.
-/

namespace SchemaScript
namespace Sql

/-- How a type takes its sizes. -/
inductive TypeFamily where
  /-- A length up to `cap`, and `max` above it. -/
  | variableLength (cap : Int)
  /-- A length up to `cap`. -/
  | fixedLength (cap : Int)
  /-- Precision and scale. -/
  | decimal
  /-- A known type without sizes. -/
  | scalar
  /-- Any other type. -/
  | custom
deriving DecidableEq

def scalarTypes : List String :=
  ["datetime", "smalldatetime", "date", "time", "datetime2", "datetimeoffset",
    "bit", "int", "bigint", "smallint", "tinyint", "uniqueidentifier",
    "text", "ntext", "image", "float", "real", "money", "smallmoney",
    "xml", "geography", "geometry"]

/-- The family of a type name in lower case. -/
def TypeFamily.of (token : String) : TypeFamily :=
  if token = "varchar" ∨ token = "varbinary" then .variableLength 8000
  else if token = "nvarchar" then .variableLength 4000
  else if token = "char" then .fixedLength 8000
  else if token = "nchar" then .fixedLength 4000
  else if token = "decimal" ∨ token = "numeric" then .decimal
  else if token ∈ scalarTypes then .scalar
  else .custom

inductive TypeClause where
  | sized (token : String) (length : Int)
  | unbounded (token : String)
  | numeric (token : String) (precision scale : Int)
  | plain (text : String)
deriving DecidableEq

def TypeClause.text : TypeClause → String
  | sized token length =>
    String.ofList (token.toList ++ '(' :: Text.signedDecimal length ++ [')'])
  | unbounded token => token ++ "(max)"
  | numeric token precision scale =>
    String.ofList (token.toList ++ '(' :: Text.signedDecimal precision ++ ','
      :: Text.signedDecimal scale ++ [')'])
  | plain text => text

/-- The length of a fixed-length type that is given none. -/
def defaultLength : Int := 50

/-- The precision of a decimal type that is given none in range. -/
def defaultPrecision : Int := 18

/-- The greatest precision of a decimal type. -/
def maxPrecision : Int := 38

/-- The length of a fixed-length type: one where the given length is out of range. -/
def fixedLength (cap : Int) : Option Int → Int
  | none => defaultLength
  | some n => if 1 ≤ n ∧ n ≤ cap then n else 1

/-- The type named `dataType` with the sizes it takes among those given. A custom type is kept as it
is written. -/
def typeClause (dataType : String) (length precision scale : Option Int) : TypeClause :=
  let token := Unicode.lower (Unicode.trim dataType)
  match TypeFamily.of token with
  | .variableLength cap =>
    match length.filter fun n => 1 ≤ n ∧ n ≤ cap with
    | some n => .sized token n
    | none => .unbounded token
  | .fixedLength cap => .sized token (fixedLength cap length)
  | .decimal =>
    let p := (precision.filter fun p => 1 ≤ p ∧ p ≤ maxPrecision).getD defaultPrecision
    let s := (scale.filter fun s => 0 ≤ s ∧ s ≤ p).getD (min p 2)
    .numeric token p s
  | .scalar => .plain token
  | .custom => .plain dataType

/-- The text of the type named `dataType` with the sizes it takes. -/
def resolveType (dataType : String) (length precision scale : Option Int32) : String :=
  (typeClause dataType (length.map Int32.toInt) (precision.map Int32.toInt)
    (scale.map Int32.toInt)).text

end Sql

def Column.typeText (c : Column) : String :=
  Sql.resolveType c.dataType c.length c.precision c.scale

end SchemaScript
