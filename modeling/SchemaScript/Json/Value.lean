import SchemaScript.Json.Literal

/-!
# SchemaScript.Json.Value

JSON values as they are written out: `compact` without any white space, and `pretty` with one member
or element per line, indented by two spaces per level.
-/

namespace SchemaScript

/-- A JSON value. Objects keep the order of their members. -/
inductive Json where
  | null
  | bool (value : Bool)
  | number (value : Int)
  | string (value : String)
  | list (items : List Json)
  | object (members : List (String × Json))

namespace Json

def literal (s : String) : List Char :=
  '"' :: encode s.toList ++ ['"']

/-- A line break followed by the indentation of level `depth`. -/
def lineBreak (depth : Nat) : List Char :=
  '\n' :: List.replicate (2 * depth) ' '

mutual

/-- The text of a value without white space. -/
def compact : Json → List Char
  | null => ['n', 'u', 'l', 'l']
  | bool true => ['t', 'r', 'u', 'e']
  | bool false => ['f', 'a', 'l', 's', 'e']
  | number i => Text.signedDecimal i
  | string s => literal s
  | list [] => ['[', ']']
  | list (v :: vs) => '[' :: compact v ++ compactItems vs ++ [']']
  | object [] => ['{', '}']
  | object ((k, v) :: ms) => '{' :: literal k ++ ':' :: compact v ++ compactMembers ms ++ ['}']

/-- The elements after the first, each after a comma. -/
def compactItems : List Json → List Char
  | [] => []
  | v :: vs => ',' :: compact v ++ compactItems vs

/-- The members after the first, each after a comma. -/
def compactMembers : List (String × Json) → List Char
  | [] => []
  | (k, v) :: ms => ',' :: literal k ++ ':' :: compact v ++ compactMembers ms

end

mutual

/-- The text of a value at level `depth`, over several lines. -/
def pretty (depth : Nat) : Json → List Char
  | null => ['n', 'u', 'l', 'l']
  | bool true => ['t', 'r', 'u', 'e']
  | bool false => ['f', 'a', 'l', 's', 'e']
  | number i => Text.signedDecimal i
  | string s => literal s
  | list [] => ['[', ']']
  | list (v :: vs) =>
    '[' :: lineBreak (depth + 1) ++ pretty (depth + 1) v ++ prettyItems (depth + 1) vs
      ++ lineBreak depth ++ [']']
  | object [] => ['{', '}']
  | object ((k, v) :: ms) =>
    '{' :: lineBreak (depth + 1) ++ literal k ++ ':' :: ' ' :: pretty (depth + 1) v
      ++ prettyMembers (depth + 1) ms ++ lineBreak depth ++ ['}']

/-- The elements after the first, each on a line of its own. -/
def prettyItems (depth : Nat) : List Json → List Char
  | [] => []
  | v :: vs => ',' :: lineBreak depth ++ pretty depth v ++ prettyItems depth vs

/-- The members after the first, each on a line of its own. -/
def prettyMembers (depth : Nat) : List (String × Json) → List Char
  | [] => []
  | (k, v) :: ms =>
    ',' :: lineBreak depth ++ literal k ++ ':' :: ' ' :: pretty depth v ++ prettyMembers depth ms

end

end Json
end SchemaScript
