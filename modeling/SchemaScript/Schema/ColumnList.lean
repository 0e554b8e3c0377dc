import SchemaScript.Text.Split
import SchemaScript.Unicode.WhiteSpace

/-!
# SchemaScript.Schema.ColumnList

Lists of column names written in one text, such as `A, B,,C`: the names stand between commas, white
space around them does not count, and empty places are passed over.
-/

namespace SchemaScript

/-- The names in a text that lists them between commas. -/
def splitColumnList (csv : String) : List String :=
  ((Text.split (· == ',') csv.toList).map Unicode.trimChars).filterMap fun part =>
    if part.isEmpty then none else some (String.ofList part)

end SchemaScript
