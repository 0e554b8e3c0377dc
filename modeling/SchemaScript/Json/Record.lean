import SchemaScript.Json.Reader
import SchemaScript.Json.Value

/-!
# SchemaScript.Json.Record

Formats that read and write. A record is written as an object whose members are its fields; it is
read from such an object, with members in any order and unknown members passed over, or from the
list of its fields in order.

* `Codec`: a reader and a writer for one type.
* `Field`: a field of a record, with its member name, its format and what becomes of it when absent.
* `Record`: all fields of a record type and the record on which they are filled in.
-/

namespace SchemaScript
namespace Json

/-- How values of a type are read and written. -/
structure Codec (α : Type) where
  read : Reader α
  write : α → Json

namespace Codec

def string : Codec String := ⟨readString, Json.string⟩

def bool : Codec Bool := ⟨readBool, Json.bool⟩

/-- Numbers of 32 bits as integers. -/
def int32 : Codec Int32 := ⟨readInt32, fun i => Json.number i.toInt⟩

def optional {α : Type} (inner : Codec α) : Codec (Option α) where
  read := readOptional inner.read
  write
    | some a => inner.write a
    | none => Json.null

def listOf {α : Type} (inner : Codec α) : Codec (List α) where
  read := readList inner.read
  write := fun as => Json.list (as.map inner.write)

end Codec

/-- A field of the record type `R`. -/
structure Field (R : Type) where
  {Value : Type}
  name : String
  codec : Codec Value
  get : R → Value
  set : R → Value → R
  /-- Whether a text without this field is at fault. -/
  required : Bool
  /-- Whether a value is written at all. -/
  written : Value → Bool

namespace Field

/-- A field that has to be there. -/
def mandatory {R α : Type} (name : String) (codec : Codec α) (get : R → α) (set : R → α → R) :
    Field R :=
  ⟨name, codec, get, set, true, fun _ => true⟩

/-- A field that keeps its value on the blank record when it is absent, and is always written. -/
def defaulted {R α : Type} (name : String) (codec : Codec α) (get : R → α) (set : R → α → R) :
    Field R :=
  ⟨name, codec, get, set, false, fun _ => true⟩

/-- A field that may be absent or `null`, and is written only when it has a value. -/
def possible {R α : Type} (name : String) (codec : Codec α) (get : R → Option α)
    (set : R → Option α → R) : Field R :=
  ⟨name, codec.optional, get, set, false, Option.isSome⟩

/-- Reads the value of the field into `r`. -/
def fill {R : Type} (f : Field R) (r : R) : Reader R := fun input =>
  (f.codec.read input).map fun (a, rest) => (f.set r a, rest)

/-- The member for the field of `r`, if it is written. -/
def member? {R : Type} (f : Field R) (r : R) : Option (String × Json) :=
  if f.written (f.get r) then some (f.name, f.codec.write (f.get r)) else none

end Field

/-- The format of the record type `R`: what it is called in messages, the record with every field at
its default, and the fields in order. -/
structure Record (R : Type) where
  title : String
  blank : R
  fields : List (Field R)

namespace Record

variable {R : Type}

def field? (format : Record R) (name : String) : Option (Field R) :=
  format.fields.find? (·.name == name)

/-- The first required field that has not been seen. -/
def firstMissing (format : Record R) (seen : List String) : Option String :=
  (format.fields.find? fun f => f.required && !seen.contains f.name).map (·.name)

/-- Reads members up to the closing brace into `r`; `seen` holds the names of the fields read so
far and `first` tells that no member has been read. There are no more members than `bound`, the text
after the opening brace, has characters. -/
def members (format : Record R) : List Char → Bool → List String → R → Reader R
  | [], _, _, _, _ => .error .endInObject
  | _ :: bound, first, seen, r, input => do
    match ← nextKey first input with
    | (none, rest) =>
      match format.firstMissing seen with
      | some name => throw (.missingField name)
      | none => return (r, rest)
    | (some key, rest) =>
      match format.field? key with
      | some f =>
        if seen.contains key then throw (.duplicateField key)
        else
          let (r, rest) ← f.fill r (← colon rest)
          members format bound false (key :: seen) r rest
      | none =>
        let rest ← skip (← colon rest)
        members format bound false seen r rest

/-- How the record is announced where its list is too short. -/
def lengthExpected (format : Record R) : String :=
  "struct " ++ format.title ++ " with " ++ Text.decimalText format.fields.length
    ++ (if format.fields.length = 1 then " element" else " elements")

/-- Reads the fields `fields`, the first of which is number `index`, from the elements of a list
into `r`. When the list ends the fields left over keep their defaults. -/
def items (format : Record R) : List (Field R) → Nat → R → Reader R
  | [], _, r, input => do return (r, ← closeList input)
  | f :: fields, index, r, input => do
    match ← nextElement (index == 0) input with
    | some rest =>
      let (r, rest) ← f.fill r rest
      items format fields (index + 1) r rest
    | none =>
      match (f :: fields).findIdx? (·.required) with
      | some k => throw (.tooShort (index + k) format.lengthExpected)
      | none => return (r, ← closeList input)

/-- Reads a record from an object or from a list. -/
def read (format : Record R) : Reader R := fun input =>
  match skipSpace input with
  | [] => .error .endInValue
  | '[' :: rest => format.items format.fields 0 format.blank rest
  | '{' :: rest => format.members rest true [] format.blank rest
  | rest => refuse ("struct " ++ format.title) rest

/-- The object of a record: its written fields in order. -/
def write (format : Record R) (r : R) : Json :=
  Json.object (format.fields.filterMap (·.member? r))

/-- Reading and writing of a record type. -/
def codec (format : Record R) : Codec R :=
  ⟨format.read, format.write⟩

end Record

/-! ## Enumerations -/

/-- Reads one of a list of named values: its name as a string, or an object with the name as its only
key and `null` as the value. -/
def variant {α : Type} (known : List (String × α)) : Reader α := fun input =>
  match skipSpace input with
  | [] => .error .endInValue
  | '"' :: rest => pick ('"' :: rest)
  | '{' :: rest => do
    let (a, rest) ← pick rest
    let (_, rest) ← readNull (← colon rest)
    match skipSpace rest with
    | [] => throw .endInObject
    | '}' :: rest => return (a, rest)
    | _ => throw .expectedValue
  | _ => .error .expectedValue
where
  /-- The value named by the string at the head of a text. -/
  pick (input : List Char) : Except Error (α × List Char) := do
    let (name, rest) ← readStringAs "variant identifier" input
    match known.lookup name with
    | some a => return (a, rest)
    | none => throw (.unknownVariant name (known.map (·.1)))

end Json
end SchemaScript
