import SchemaScript.Schema.Project
import SchemaScript.Sql.Quoting
import SchemaScript.Unicode.Casing
import SchemaScript.Unicode.WhiteSpace

/-!
# SchemaScript.Sql.Default

Default values of columns. A text that is a value is quoted, unless it is a number, stands in
parentheses, or is one of a few calls.

* `isNumber`, `isParenthesized`, `isGeneratorCall`: the texts that are not quoted.
* `encodeLiteral`: the expression for a value.
* `encodeDefault`: the expression of a default, or nothing where there is none.
-/

namespace SchemaScript
namespace Sql

/-- A text without one sign in front. -/
def dropSign : List Char → List Char
  | '-' :: cs => cs
  | '+' :: cs => cs
  | cs => cs

/-- Whether the rest of a text ends a number; `digit` and `point` say what has been seen of it. -/
def scanNumber (digit point : Bool) : List Char → Bool
  | [] => digit
  | c :: cs =>
    if c.isDigit then scanNumber true point cs
    else if c = '.' ∧ point = false then scanNumber digit true cs
    else false

/-- Digits with at most one point among them and at least one digit, perhaps with a sign and white
space around. -/
def isNumber (text : String) : Bool :=
  scanNumber false false (dropSign (Unicode.trimChars text.toList))

/-- A text that starts with an opening parenthesis and ends with a closing one. -/
def isParenthesized (text : String) : Bool :=
  text.toList.head? == some '(' && text.toList.getLast? == some ')'

/-- Calls without arguments that give a value of their own for every row. -/
def generatorCalls : List String :=
  ["GETDATE()", "GETUTCDATE()", "SYSDATETIME()", "SYSUTCDATETIME()", "SYSDATETIMEOFFSET()",
    "NEWID()", "NEWSEQUENTIALID()", "CURRENT_TIMESTAMP"]

/-- One of the generator calls, in any case. -/
def isGeneratorCall (text : String) : Bool :=
  generatorCalls.any (Unicode.equalsIgnoringAsciiCase · text)

/-- An expression in a script: taken over as it is, or a string literal. -/
inductive Expression where
  | raw (text : String)
  | string (value : String)
deriving DecidableEq

def Expression.text : Expression → String
  | raw text => text
  | string value => quote value

/-- The expression for a value given as text. -/
def literalExpression (text : String) : Expression :=
  if isNumber text || isParenthesized text || isGeneratorCall text then .raw text
  else .string text

/-- The text of the expression for a value. -/
def encodeLiteral (text : String) : String :=
  (literalExpression text).text

/-- The expression of a default of the given kind, if there is one. A blank text is no default. -/
def defaultExpression (text : Option String) (kind : DefaultKind) : Option Expression :=
  match text with
  | none => none
  | some text =>
    if Unicode.isBlank text then none
    else
      match kind with
      | .none => none
      | .rawExpression => some (.raw text)
      | .literal => some (literalExpression text)

/-- The text of the expression of a default. -/
def encodeDefault (text : Option String) (kind : DefaultKind) : Option String :=
  (defaultExpression text kind).map Expression.text

end Sql
end SchemaScript
