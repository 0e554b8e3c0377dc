/-!
# SchemaScript.Sql.Quoting

The two ways of quoting in SQL text. A name stands in brackets, a value in single quotes, and in
both the closing character is written twice where it belongs to the text.

* `quoteName`: a name in brackets.
* `quote`, `decodeLiteral`: a string literal and its value.
-/

namespace SchemaScript
namespace Sql

/-- `cs` with every `q` written twice. -/
def double (q : Char) (cs : List Char) : List Char :=
  cs.flatMap fun c => if c = q then [q, q] else [c]

/-- `cs` with every pair of neighbouring `q` made one, from the left. -/
def halve (q : Char) : List Char → List Char
  | [] => []
  | [c] => [c]
  | c :: d :: cs => if c = q ∧ d = q then q :: halve q cs else c :: halve q (d :: cs)

def nameChars (cs : List Char) : List Char :=
  '[' :: double ']' cs ++ [']']

def literalChars (cs : List Char) : List Char :=
  '\'' :: double '\'' cs ++ ['\'']

def quoteName (name : String) : String :=
  String.ofList (nameChars name.toList)

def quote (value : String) : String :=
  String.ofList (literalChars value.toList)

/-- What stands between a quote at the start of a text and another at its end. -/
def unwrap (q : Char) : List Char → Option (List Char)
  | [] => none
  | c :: cs => if c = q ∧ cs.getLast? = some q then some cs.dropLast else none

/-- The value of a text between single quotes, or nothing for another text. Pairs of quotes inside
stand for one; a quote without a partner stays. -/
def decodeLiteral (text : String) : Option String :=
  (unwrap '\'' text.toList).map fun inner => String.ofList (halve '\'' inner)

end Sql
end SchemaScript
