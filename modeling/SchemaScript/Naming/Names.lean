import SchemaScript.Digest.Md5
import SchemaScript.Naming.Scope
import SchemaScript.Naming.WordSource
import SchemaScript.Schema.Project
import SchemaScript.Text.Digits
import SchemaScript.Unicode.WhiteSpace

/-!
# SchemaScript.Naming.Names

Names of constraints and indexes. A name that is given and not blank is used without the white space
around it; other names are derived from the table and its parts. Constraint names share a name space
per schema, index names per table.

Derived names are the same in every script, except those of foreign keys: they end in a random word,
so that several keys between the same tables stay apart. A word whose name is taken is drawn again.

* `Table.keyName`, `Table.defaultName`, …: the names that need no random word.
* `freshName`: the first name with a drawn word that is not taken.
* `nameForeignKey`: the name of a foreign key.
-/

namespace SchemaScript

/-- The most characters of a name. -/
def maxNameLength : Nat := 128

/-- The name given by a text, if it is not blank. -/
def givenName (name : Option String) : Option String :=
  match name with
  | none => none
  | some name => if Unicode.isBlank name then none else some (Unicode.trim name)

namespace Table

/-- The name space of the constraints of a table. -/
def constraintSpace (t : Table) : String :=
  Unicode.trim t.schema

/-- The name space of the indexes of a table. -/
def indexSpace (t : Table) : String :=
  Unicode.trim t.schema ++ "." ++ t.name

def keyName (t : Table) : String :=
  (givenName t.primaryKeyName).getD ("PK_" ++ t.name)

def defaultName (t : Table) (c : Column) : String :=
  "DF_" ++ t.name ++ "_" ++ c.name

/-- The name of the constraint that makes a column unique. -/
def columnUniqueName (t : Table) (c : Column) : String :=
  "UQ_" ++ t.name ++ "_" ++ c.name

def checkName (t : Table) (c : CheckConstraint) : String :=
  (givenName c.name).getD
    ("CK_" ++ t.name ++ "_" ++ Text.decimalText (Md5.tag c.expression).toNat)

def uniqueName (t : Table) (u : UniqueConstraint) : String :=
  (givenName u.name).getD
    ("UQ_" ++ t.name ++ "_" ++ Text.decimalText (Md5.tag u.columnsCsv).toNat)

def indexName (t : Table) (i : Index) : String :=
  (givenName i.name).getD
    ("IX_" ++ t.name ++ "_" ++ String.intercalate "_" (i.columns.map (·.columnName)))

/-- The part of a foreign key's name before its random word, cut so that the whole name is not too
long. -/
def foreignKeyStem (t : Table) (k : ForeignKey) : String :=
  String.ofList (("FK_" ++ t.name ++ "_" ++ k.refTable).toList.take (maxNameLength - 9))

end Table

/-- A stem, an underscore and the eight digits of a word. -/
def suffixed (stem : String) (w : UInt32) : String :=
  String.ofList (stem.toList ++ '_' :: Text.hexWord w)

/-- A name that has been issued: the scope and the words after it, and what happened. -/
structure Issued where
  name : String
  scope : NameScope
  words : WordSource
  events : List Event

/-- The first name with a drawn word that is not taken in `space`. There is none if every word that
can be drawn within `fuel` draws is taken. -/
def freshName (space stem : String) (scope : NameScope) : Nat → WordSource → Option Issued
  | 0, _ => none
  | fuel + 1, words =>
    let (w, words) := words.draw
    let name := suffixed stem w
    if scope.contains ⟨space, name⟩ then
      (freshName space stem scope fuel words).map fun i =>
        { i with events := .suffixCollided name :: i.events }
    else
      some ⟨name, scope.insert ⟨space, name⟩, words, []⟩

/-- Issues the name of a foreign key. Once the listed words are used up the words drawn are
consecutive numbers, so there is no name only if the scope holds a name for every word. -/
def nameForeignKey (scope : NameScope) (words : WordSource) (t : Table) (k : ForeignKey) :
    Option Issued :=
  match givenName k.name with
  | some name =>
    let c := ⟨t.constraintSpace, name⟩
    some ⟨name, scope.insert c, words, scope.clashes c⟩
  | none =>
    freshName t.constraintSpace (t.foreignKeyStem k) scope
      (words.pending.length + scope.size + 1) words

end SchemaScript
