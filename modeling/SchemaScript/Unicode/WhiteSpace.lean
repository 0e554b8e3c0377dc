import SchemaScript.Unicode.CodePointSet

/-!
# SchemaScript.Unicode.WhiteSpace

The White_Space property, trimming by it, and control characters.

* `isWhiteSpace`: the White_Space property of the Unicode character database.
* `trim`: a text without the white space at its two ends.
* `isControl`: general category Cc.
-/

namespace SchemaScript
namespace Unicode

/-- Tab to carriage return, space, next line, no-break space, the spaces of general punctuation
and the ideographic space. -/
def whiteSpace : CodePointSet where
  boundaries := [
    0x9, 0xE, 0x20, 0x21, 0x85, 0x86, 0xA0, 0xA1, 0x1680, 0x1681, 0x2000, 0x200B,
    0x2028, 0x202A, 0x202F, 0x2030, 0x205F, 0x2060, 0x3000, 0x3001]

def isWhiteSpace (c : Char) : Bool :=
  whiteSpace.contains c

/-- General category Cc: U+0000 to U+001F and U+007F to U+009F. -/
def isControl (c : Char) : Bool :=
  c.toNat < 0x20 || (0x7F ≤ c.toNat && c.toNat < 0xA0)

def trimLeft (cs : List Char) : List Char :=
  cs.dropWhile isWhiteSpace

def trimRight (cs : List Char) : List Char :=
  (trimLeft cs.reverse).reverse

/-- `cs` without the white space at its two ends. -/
def trimChars (cs : List Char) : List Char :=
  trimRight (trimLeft cs)

def trim (s : String) : String :=
  String.ofList (trimChars s.toList)

/-- A text of nothing but white space, the empty text included. -/
def isBlank (s : String) : Bool :=
  s.toList.all isWhiteSpace

end Unicode
end SchemaScript
