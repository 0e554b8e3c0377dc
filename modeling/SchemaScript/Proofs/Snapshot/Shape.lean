import SchemaScript.Proofs.Json.Record
import SchemaScript.Snapshot.Format

/-!
# SchemaScript.Proofs.Snapshot.Shape

The stored form of a project as it is described: the members of every record, with their names, and
what is assumed when one is absent. Every format follows its description.

* `tableShape`, …, `projectShape`: the descriptions.
* `lawful_kindCodec`, `lawful_table`, …, `lawful_project`: the formats.
-/

namespace SchemaScript
namespace Snapshot

open Json (Codec Field Rule Shape)

/-! ## Descriptions -/

/-- The members of a record. -/
abbrev Members := List (String × Rule × Shape)

/-- A list that is empty when it is absent. -/
def listMember (name : String) (element : Shape) : String × Rule × Shape :=
  (name, .default (Json.list []).tree, .list element)

/-- A flag that is not set when it is absent. -/
def flagMember (name : String) : String × Rule × Shape :=
  (name, .default (Json.bool false).tree, .plain)

/-- A text that is empty when it is absent. -/
def schemaMember (name : String) : String × Rule × Shape :=
  (name, .default (Json.string "").tree, .plain)

/-- A number that is one when it is absent. -/
def stepMember (name : String) : String × Rule × Shape :=
  (name, .default (Json.number 1).tree, .plain)

def requiredMember (name : String) : String × Rule × Shape :=
  (name, .required, .plain)

def optionalMember (name : String) : String × Rule × Shape :=
  (name, .optional, .plain)

def foreignKeyColumnMembers : Members :=
  [requiredMember "columnName", requiredMember "refColumnName"]

def foreignKeyMembers : Members :=
  [optionalMember "name", schemaMember "refSchema", requiredMember "refTable",
    optionalMember "onDeleteAction", listMember "columns" (.object foreignKeyColumnMembers)]

def indexColumnMembers : Members :=
  [requiredMember "columnName", flagMember "descending"]

def indexMembers : Members :=
  [optionalMember "name", flagMember "isUnique", listMember "columns" (.object indexColumnMembers),
    optionalMember "includeColumnsCsv"]

def checkConstraintMembers : Members :=
  [optionalMember "name", requiredMember "expression"]

def uniqueConstraintMembers : Members :=
  [optionalMember "name", requiredMember "columnsCsv"]

def columnMembers : Members :=
  [requiredMember "name", requiredMember "dataType", optionalMember "length",
    optionalMember "precision", optionalMember "scale", flagMember "isNullable",
    flagMember "isPrimaryKey", optionalMember "primaryKeyOrder", flagMember "isIdentity",
    stepMember "identitySeed", stepMember "identityIncrement", optionalMember "defaultSql",
    ("defaultKind", .default (Json.string "none").tree, .plain), flagMember "isUnique"]

def tableMembers : Members :=
  [schemaMember "schema", requiredMember "name", optionalMember "primaryKeyName",
    listMember "columns" (.object columnMembers),
    listMember "foreignKeys" (.object foreignKeyMembers),
    listMember "indexes" (.object indexMembers),
    listMember "checkConstraints" (.object checkConstraintMembers),
    listMember "uniqueConstraints" (.object uniqueConstraintMembers)]

def projectMembers : Members :=
  [requiredMember "name", optionalMember "description", listMember "tables" (.object tableMembers)]

/-! ## Formats -/

theorem lookup_kindName (k : DefaultKind) : defaultKinds.lookup (kindName k) = some k := by
  cases k <;> rfl

theorem lawful_kindCodec : kindCodec.Lawful .plain := by
  refine Codec.lawful_plain fun k cs input rest hcs _ hinput => ?_
  rw [Json.Writes.eq_of_scalar hcs] at hinput
  have hquote : Json.skipSpace input = '"' :: (Json.encode (kindName k).toList ++ ['"'] ++ rest) :=
    hinput
  have hname : Json.readStringAs "variant identifier"
      ('"' :: (Json.encode (kindName k).toList ++ ['"'] ++ rest)) = .ok (kindName k, rest) :=
    Json.readStringAs_literal _ (Json.skipSpace_of_not_isSpace (by decide) _)
  simp only [kindCodec, Json.variant, hquote, Json.variant.pick, hname, lookup_kindName, bind,
    Except.bind]
  rfl

section Fields

variable {R : Type} {name : String} {blank : R}

theorem lawful_possibleText {get : R → Option String} {set : R → Option String → R}
    (hblank : get blank = none) :
    (Field.possible name .string get set).Lawful blank (optionalMember name) :=
  .possible Codec.lawful_string Codec.tree_write_string_ne_null hblank

theorem lawful_possibleNumber {get : R → Option Int32} {set : R → Option Int32 → R}
    (hblank : get blank = none) :
    (Field.possible name .int32 get set).Lawful blank (optionalMember name) :=
  .possible Codec.lawful_int32 Codec.tree_write_int32_ne_null hblank

end Fields

attribute [local simp] Field.mandatory Field.defaulted Field.possible Json.Record.Independent

theorem lawful_foreignKeyColumn : foreignKeyColumn.Lawful foreignKeyColumnMembers where
  distinct := by decide
  fields := by
    simp only [foreignKeyColumn, foreignKeyColumnMembers, List.forall₂_cons]
    exact ⟨.mandatory Codec.lawful_string, .mandatory Codec.lawful_string, .nil⟩
  get_set := by simp [foreignKeyColumn]
  independent := by simp [foreignKeyColumn]
  ext := by
    rintro ⟨⟩ ⟨⟩ h
    simpa [foreignKeyColumn] using h

theorem lawful_foreignKey : foreignKey.Lawful foreignKeyMembers where
  distinct := by decide
  fields := by
    simp only [foreignKey, foreignKeyMembers, List.forall₂_cons]
    exact ⟨lawful_possibleText rfl, .defaulted Codec.lawful_string rfl,
      .mandatory Codec.lawful_string, lawful_possibleText rfl,
      .defaulted lawful_foreignKeyColumn.codec.listOf rfl, .nil⟩
  get_set := by simp [foreignKey]
  independent := by simp [foreignKey]
  ext := by
    rintro ⟨⟩ ⟨⟩ h
    simpa [foreignKey] using h

theorem lawful_indexColumn : indexColumn.Lawful indexColumnMembers where
  distinct := by decide
  fields := by
    simp only [indexColumn, indexColumnMembers, List.forall₂_cons]
    exact ⟨.mandatory Codec.lawful_string, .defaulted Codec.lawful_bool rfl, .nil⟩
  get_set := by simp [indexColumn]
  independent := by simp [indexColumn]
  ext := by
    rintro ⟨⟩ ⟨⟩ h
    simpa [indexColumn] using h

theorem lawful_index : index.Lawful indexMembers where
  distinct := by decide
  fields := by
    simp only [index, indexMembers, List.forall₂_cons]
    exact ⟨lawful_possibleText rfl, .defaulted Codec.lawful_bool rfl,
      .defaulted lawful_indexColumn.codec.listOf rfl, lawful_possibleText rfl, .nil⟩
  get_set := by simp [index]
  independent := by simp [index]
  ext := by
    rintro ⟨⟩ ⟨⟩ h
    simpa [index] using h

theorem lawful_checkConstraint : checkConstraint.Lawful checkConstraintMembers where
  distinct := by decide
  fields := by
    simp only [checkConstraint, checkConstraintMembers, List.forall₂_cons]
    exact ⟨lawful_possibleText rfl, .mandatory Codec.lawful_string, .nil⟩
  get_set := by simp [checkConstraint]
  independent := by simp [checkConstraint]
  ext := by
    rintro ⟨⟩ ⟨⟩ h
    simpa [checkConstraint] using h

theorem lawful_uniqueConstraint : uniqueConstraint.Lawful uniqueConstraintMembers where
  distinct := by decide
  fields := by
    simp only [uniqueConstraint, uniqueConstraintMembers, List.forall₂_cons]
    exact ⟨lawful_possibleText rfl, .mandatory Codec.lawful_string, .nil⟩
  get_set := by simp [uniqueConstraint]
  independent := by simp [uniqueConstraint]
  ext := by
    rintro ⟨⟩ ⟨⟩ h
    simpa [uniqueConstraint] using h

theorem lawful_column : column.Lawful columnMembers where
  distinct := by decide
  fields := by
    simp only [column, columnMembers, List.forall₂_cons]
    exact ⟨.mandatory Codec.lawful_string, .mandatory Codec.lawful_string,
      lawful_possibleNumber rfl, lawful_possibleNumber rfl, lawful_possibleNumber rfl,
      .defaulted Codec.lawful_bool rfl, .defaulted Codec.lawful_bool rfl,
      lawful_possibleNumber rfl, .defaulted Codec.lawful_bool rfl,
      .defaulted Codec.lawful_int32 rfl, .defaulted Codec.lawful_int32 rfl,
      lawful_possibleText rfl, .defaulted lawful_kindCodec rfl, .defaulted Codec.lawful_bool rfl,
      .nil⟩
  get_set := by simp [column]
  independent := by simp [column]
  ext := by
    rintro ⟨⟩ ⟨⟩ h
    simpa [column] using h

theorem lawful_table : table.Lawful tableMembers where
  distinct := by decide
  fields := by
    simp only [table, tableMembers, List.forall₂_cons]
    exact ⟨.defaulted Codec.lawful_string rfl, .mandatory Codec.lawful_string,
      lawful_possibleText rfl, .defaulted lawful_column.codec.listOf rfl,
      .defaulted lawful_foreignKey.codec.listOf rfl, .defaulted lawful_index.codec.listOf rfl,
      .defaulted lawful_checkConstraint.codec.listOf rfl,
      .defaulted lawful_uniqueConstraint.codec.listOf rfl, .nil⟩
  get_set := by simp [table]
  independent := by simp [table]
  ext := by
    rintro ⟨⟩ ⟨⟩ h
    simpa [table] using h

theorem lawful_project : project.Lawful projectMembers where
  distinct := by decide
  fields := by
    simp only [project, projectMembers, List.forall₂_cons]
    exact ⟨.mandatory Codec.lawful_string, lawful_possibleText rfl,
      .defaulted lawful_table.codec.listOf rfl, .nil⟩
  get_set := by simp [project]
  independent := by simp [project]
  ext := by
    rintro ⟨⟩ ⟨⟩ h
    simpa [project] using h

end Snapshot
end SchemaScript
