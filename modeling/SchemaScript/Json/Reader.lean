import SchemaScript.Json.Literal
import SchemaScript.Json.Numeral

/-!
# SchemaScript.Json.Reader

Readers for JSON texts of a known shape. A reader takes a value off the head of a text, white space
before it included, and gives the value and the rest, or the first fault.

* `readString`, `readBool`, `readInt32`, `readNull`, `readOptional`, `readList`: scalars and lists.
* `skip`: passes over a value of any shape.
* `readAll`: a text that holds one value and nothing else.
-/

namespace SchemaScript
namespace Json

/-- Takes a value off the head of a text. -/
abbrev Reader (α : Type) := List Char → Except Error (α × List Char)

/-- Space, tab, line feed and carriage return. -/
def isSpace (c : Char) : Bool :=
  c = ' ' || c = '\t' || c = '\n' || c = '\r'

/-- The text after its leading white space. -/
def skipSpace (input : List Char) : List Char :=
  input.dropWhile isSpace

/-- The text after the letters `word`. -/
def readWord : List Char → List Char → Except Error (List Char)
  | [], input => .ok input
  | _ :: _, [] => .error .endInValue
  | w :: ws, c :: rest => if c = w then readWord ws rest else .error .expectedWord

/-- Reads a number whose first character, a minus sign or a digit, is still there. -/
def readNumber (input : List Char) : Except Error (Number × List Char) := do
  let (numeral, rest) ←
    match input with
    | '-' :: rest => Numeral.read .endInValue true rest
    | _ => Numeral.read .endInValue false input
  return (← numeral.value, rest)

def startsNumber (c : Char) : Bool :=
  c = '-' || c.isDigit

/-- What stands at the head of a text without leading white space. -/
def findValue (input : List Char) : Except Error Found :=
  match input with
  | [] => .error .expectedValue
  | c :: rest =>
    if c = 'n' then (readWord ['u', 'l', 'l'] rest).map fun _ => .null
    else if c = 't' then (readWord ['r', 'u', 'e'] rest).map fun _ => .bool true
    else if c = 'f' then (readWord ['a', 'l', 's', 'e'] rest).map fun _ => .bool false
    else if startsNumber c then (readNumber input).map (·.1.found)
    else if c = '"' then (decode rest).map fun p => .string (String.ofList p.1)
    else if c = '[' then .ok .sequence
    else if c = '{' then .ok .map
    else .error .expectedValue

/-- The fault of a text whose head is not the value that was expected. A fault inside that other
value comes first. -/
def mismatch (expected : String) (input : List Char) : Error :=
  match findValue input with
  | .ok found => .wrongType found expected
  | .error e => e

/-- A reader that has found the wrong kind of value. -/
def refuse {α : Type} (expected : String) : Reader α :=
  fun input => .error (mismatch expected input)

/-- Reads a string; another value is not `expected`. -/
def readStringAs (expected : String) : Reader String := fun input =>
  match skipSpace input with
  | [] => .error .endInValue
  | '"' :: rest => (decode rest).map fun (cs, rest) => (String.ofList cs, rest)
  | rest => refuse expected rest

def readString : Reader String :=
  readStringAs "a string"

def readBool : Reader Bool := fun input =>
  match skipSpace input with
  | [] => .error .endInValue
  | 't' :: rest => (readWord ['r', 'u', 'e'] rest).map fun rest => (true, rest)
  | 'f' :: rest => (readWord ['a', 'l', 's', 'e'] rest).map fun rest => (false, rest)
  | rest => refuse "a boolean" rest

/-- Reads an integer between `-2 ^ 31` and `2 ^ 31 - 1`. -/
def readInt32 : Reader Int32 := fun input =>
  match skipSpace input with
  | [] => .error .endInValue
  | c :: rest =>
    if startsNumber c then do
      match ← readNumber (c :: rest) with
      | (.integer i, rest) =>
        if Int32.minValue.toInt ≤ i ∧ i ≤ Int32.maxValue.toInt then .ok (Int32.ofInt i, rest)
        else .error (.outOfRange i "i32")
      | (n, _) => .error (.wrongType n.found "i32")
    else refuse "i32" (c :: rest)

def readNull : Reader Unit := fun input =>
  match skipSpace input with
  | [] => .error .endInValue
  | 'n' :: rest => (readWord ['u', 'l', 'l'] rest).map fun rest => ((), rest)
  | rest => refuse "unit" rest

/-- Reads `null` as nothing, and anything else by `inner`. -/
def readOptional {α : Type} (inner : Reader α) : Reader (Option α) := fun input =>
  match skipSpace input with
  | 'n' :: rest => (readWord ['u', 'l', 'l'] rest).map fun rest => (none, rest)
  | rest => (inner rest).map fun (a, rest) => (some a, rest)

/-- The text at the next element of a list, or `none` and the text at the closing bracket. Before
the first element there is no comma. -/
def nextElement (first : Bool) (input : List Char) : Except Error (Option (List Char)) :=
  match skipSpace input with
  | [] => .error .endInList
  | c :: rest =>
    if c = ']' then .ok none
    else if first then .ok (some (c :: rest))
    else if c = ',' then
      match skipSpace rest with
      | [] => .error .endInValue
      | ']' :: _ => .error .trailingComma
      | rest => .ok (some rest)
    else .error .expectedCommaOrBracket

/-- The text after a closing bracket that has to come next. -/
def closeList (input : List Char) : Except Error (List Char) :=
  match skipSpace input with
  | [] => .error .endInList
  | ']' :: rest => .ok rest
  | ',' :: rest =>
    match skipSpace rest with
    | ']' :: _ => .error .trailingComma
    | _ => .error .trailingCharacters
  | _ => .error .trailingCharacters

/-- Reads elements up to the closing bracket; `done` holds those read so far, last first. Every
element takes a character, so there are no more of them than `bound`, the text after the opening
bracket, has characters. -/
def readElements {α : Type} (element : Reader α) (done : List α) : List Char → Reader (List α)
  | [], _ => .error .endInList
  | _ :: bound, input => do
    match ← nextElement done.isEmpty input with
    | none => return (done.reverse, ← closeList input)
    | some rest =>
      let (a, rest) ← element rest
      readElements element (a :: done) bound rest

def readList {α : Type} (element : Reader α) : Reader (List α) := fun input =>
  match skipSpace input with
  | [] => .error .endInValue
  | '[' :: rest => readElements element [] rest rest
  | rest => refuse "a sequence" rest

/-- The key of the next member of an object and the text after it, or `none` and the text after the
closing brace. Before the first member there is no comma. -/
def nextKey (first : Bool) (input : List Char) : Except Error (Option String × List Char) :=
  match skipSpace input with
  | [] => .error .endInObject
  | c :: rest =>
    if c = '}' then .ok (none, rest)
    else if first then
      if c = '"' then key rest else .error .keyNotString
    else if c = ',' then
      match skipSpace rest with
      | [] => .error .endInValue
      | '"' :: rest => key rest
      | '}' :: _ => .error .trailingComma
      | _ => .error .keyNotString
    else .error .expectedCommaOrBrace
where
  /-- The key after its opening quote. -/
  key (rest : List Char) : Except Error (Option String × List Char) :=
    (decode rest).map fun (cs, rest) => (some (String.ofList cs), rest)

/-- The text after the colon that has to come next. -/
def colon (input : List Char) : Except Error (List Char) :=
  match skipSpace input with
  | [] => .error .endInObject
  | ':' :: rest => .ok rest
  | _ => .error .expectedColon

/-! ## Passing over a value -/

/-- The two kinds of values that hold others. -/
inductive Bracket where
  | list
  | object
deriving DecidableEq

/-- Passes over the colon after a key whose opening quote has been read. -/
def skipKey (input : List Char) : Except Error (List Char) := do
  colon (← skipLiteral input)

/-- Passes over the key that has to open the next member. -/
def openMember (input : List Char) : Except Error (List Char) :=
  match skipSpace input with
  | [] => .error .endInObject
  | '"' :: rest => skipKey rest
  | _ => .error .keyNotString

/-- Passes over a value that holds no others, from its first character. -/
def skipScalar (c : Char) (rest : List Char) : Except Error (List Char) :=
  if c = 'n' then readWord ['u', 'l', 'l'] rest
  else if c = 't' then readWord ['r', 'u', 'e'] rest
  else if c = 'f' then readWord ['a', 'l', 's', 'e'] rest
  else if c = '-' then (Numeral.read .invalidNumber true rest).map (·.2)
  else if c.isDigit then (Numeral.read .invalidNumber false (c :: rest)).map (·.2)
  else if c = '"' then skipLiteral rest
  else .error .expectedValue

/-- The places in a text that holds a value: before a value, just inside an opening bracket, and
after a value. -/
inductive Place where
  | value
  | inside
  | after
deriving DecidableEq

/-- Passes over what is left of a value inside the open brackets `brackets`, innermost first. Every
two steps take a character. -/
def skipFrom : Nat → Place → List Bracket → List Char → Except Error (List Char)
  | 0, _, _, _ => .error .endInValue
  | fuel + 1, place, brackets, input =>
    match place, brackets with
    | .value, _ =>
      match skipSpace input with
      | [] => .error .endInValue
      | c :: rest =>
        if c = '[' then skipFrom fuel .inside (.list :: brackets) rest
        else if c = '{' then skipFrom fuel .inside (.object :: brackets) rest
        else
          match skipScalar c rest with
          | .error e => .error e
          | .ok rest => skipFrom fuel .after brackets rest
    | .inside, .list :: outer =>
      match skipSpace input with
      | [] => .error .endInList
      | ']' :: rest => skipFrom fuel .after outer rest
      | rest => skipFrom fuel .value brackets rest
    | .inside, .object :: outer =>
      match skipSpace input with
      | [] => .error .endInObject
      | '}' :: rest => skipFrom fuel .after outer rest
      | rest =>
        match openMember rest with
        | .error e => .error e
        | .ok rest => skipFrom fuel .value brackets rest
    | .after, .list :: outer =>
      match skipSpace input with
      | [] => .error .endInList
      | ']' :: rest => skipFrom fuel .after outer rest
      | ',' :: rest => skipFrom fuel .value brackets rest
      | _ => .error .expectedCommaOrBracket
    | .after, .object :: outer =>
      match skipSpace input with
      | [] => .error .endInObject
      | '}' :: rest => skipFrom fuel .after outer rest
      | ',' :: rest =>
        match openMember rest with
        | .error e => .error e
        | .ok rest => skipFrom fuel .value brackets rest
      | _ => .error .expectedCommaOrBrace
    | _, [] => .ok input

/-- Passes over a value of any shape, however deep. -/
def skip (input : List Char) : Except Error (List Char) :=
  skipFrom (2 * input.length + 2) .value [] input

/-- Reads a text that holds one value, with white space around it and nothing else. -/
def readAll {α : Type} (reader : Reader α) (text : String) : Except Error α := do
  let (a, rest) ← reader text.toList
  match skipSpace rest with
  | [] => return a
  | _ => throw .trailingCharacters

end Json
end SchemaScript
