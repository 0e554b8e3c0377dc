import SchemaScript.Text.Split
import SchemaScript.Unicode.WhiteSpace

/-!
# SchemaScript.Sql.Comment

Text for a comment that ends with its line. Control characters, line breaks among them, separate the
text into parts, and the parts that are not blank are joined by single spaces.
-/

namespace SchemaScript
namespace Sql

/-- A text on one line, without control characters and surrounding white space. -/
def commentChars (cs : List Char) : List Char :=
  Text.join [' '] (((Text.split Unicode.isControl cs).map Unicode.trimChars).filter (!·.isEmpty))

/-- A text on one line, without control characters and surrounding white space. -/
def commentText (text : String) : String :=
  String.ofList (commentChars text.toList)

end Sql
end SchemaScript
