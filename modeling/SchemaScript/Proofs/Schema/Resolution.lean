import SchemaScript.Proofs.Unicode.WhiteSpace
import SchemaScript.Schema.Resolution

/-!
# SchemaScript.Proofs.Schema.Resolution

Filling in the schemas of a project changes nothing else. The tables and foreign keys keep their
places, and a schema that is filled in stays the same up to white space when it is filled in again.
-/

namespace SchemaScript

variable {d s : String}

theorem resolveSchema_of_blank (h : Unicode.isBlank s = true) : resolveSchema d s = d :=
  if_pos h

theorem resolveSchema_of_given (h : Unicode.isBlank s = false) :
    resolveSchema d s = Unicode.trim s :=
  if_neg (Bool.eq_false_iff.mp h)

/-- A schema that is blank after filling in is the default schema. -/
theorem resolveSchema_of_isBlank (h : Unicode.isBlank (resolveSchema d s) = true) :
    resolveSchema d s = d := by
  cases hb : Unicode.isBlank s with
  | true => exact resolveSchema_of_blank hb
  | false =>
    rw [resolveSchema_of_given hb] at h
    exact absurd (Unicode.isBlank_of_isBlank_trim h) (Bool.eq_false_iff.mp hb)

/-- Filling in a schema that is filled in changes at most the white space around it. -/
theorem trim_resolveSchema_resolveSchema (d schema : String) :
    Unicode.trim (resolveSchema d (resolveSchema d schema))
      = Unicode.trim (resolveSchema d schema) := by
  cases hb : Unicode.isBlank (resolveSchema d schema) with
  | false => rw [resolveSchema_of_given hb, Unicode.trim_trim]
  | true => rw [resolveSchema_of_blank hb, resolveSchema_of_isBlank hb]

theorem resolveSchema_trim (h : Unicode.isBlank s = false) :
    resolveSchema d (Unicode.trim s) = Unicode.trim s := by
  have htrim : Unicode.isBlank (Unicode.trim s) = false :=
    Bool.eq_false_iff.mpr fun ht => Bool.eq_false_iff.mp h (Unicode.isBlank_of_isBlank_trim ht)
  rw [resolveSchema_of_given htrim, Unicode.trim_trim]

/-- A default schema with white space around it is trimmed when it is filled in a second time. From
then on it stays as it is. -/
theorem resolveSchema_settled (d schema : String) :
    resolveSchema d (resolveSchema d (resolveSchema d schema))
      = resolveSchema d (resolveSchema d schema) := by
  cases hb : Unicode.isBlank (resolveSchema d schema) with
  | false => rw [resolveSchema_of_given hb, resolveSchema_trim hb]
  | true =>
    have hsecond : resolveSchema d (resolveSchema d schema) = resolveSchema d schema := by
      rw [resolveSchema_of_blank hb, resolveSchema_of_isBlank hb]
    rw [hsecond, hsecond]

theorem Project.mem_tables_resolveSchemas {d : String} {p : Project} {t : Table} :
    t ∈ (p.resolveSchemas d).tables ↔ ∃ s ∈ p.tables, s.resolveSchemas d = t :=
  List.mem_map

theorem Project.foreignKeys_resolveSchemas (d : String) (p : Project) :
    (p.resolveSchemas d).foreignKeys
      = p.foreignKeys.map fun key => (key.1.resolveSchemas d, key.2.resolveSchema d) := by
  simp only [foreignKeys, resolveSchemas, List.flatMap_map, List.map_flatMap,
    Table.resolveSchemas, List.map_map, Function.comp_def]

end SchemaScript
