import Mathlib.Data.List.Nodup
import SchemaScript.Proofs.Script.Layout

/-!
# SchemaScript.Proofs.Script.Schemas

The schemas that a script creates. A table needs its schema created unless that is the default schema
or the one that is always there, where only the case of A to Z makes no difference. Of the tables that
need schemas which are the same in lower case, the first one decides when the schema is created and
how it is spelled.

* `Generated.createdSchemas`: the schemas that a script creates.
* `ScriptOptions.NeedsSchema`, `ScriptOptions.CreatedFor`: which tables need their schemas created,
  and on account of which one a schema is.
* `mem_missingSchemas_iff`: what is created.
* `missingSchemas_nodup`, `missingSchemas_inOrder`: no schema is created twice, and they are created
  in the order in which they are needed.
* `generate_createdSchemas`: the same of a script.
-/

namespace SchemaScript

open Unicode

/-- The schema that is created if it is missing. -/
def Batch.createdSchema? : Batch → Option String
  | .createSchema schema => some schema
  | _ => none

/-- The schemas that a script creates if they are missing, in order. -/
def Generated.createdSchemas (g : Generated) : List String :=
  g.batches.filterMap Batch.createdSchema?

namespace ScriptOptions

variable (o : ScriptOptions)

/-- The schema that a table is written in. -/
def schemaOf (t : Table) : String :=
  (o.tableName t).schema

/-- The schema of a table is neither the default schema nor the one that is always there, whatever the
case of the letters A to Z. -/
def NeedsSchema (t : Table) : Prop :=
  equalsIgnoringAsciiCase (o.schemaOf t) o.defaultSchema = false ∧
    equalsIgnoringAsciiCase (o.schemaOf t) builtInSchema = false
deriving Decidable

/-- A table needs its schema created, and this is `schema` in lower case. -/
def Needs (schema : String) (t : Table) : Prop :=
  o.NeedsSchema t ∧ lower (o.schemaOf t) = lower schema
deriving Decidable

/-- How many tables stand before the first one that needs a schema. -/
def firstUse (tables : List Table) (schema : String) : Nat :=
  tables.findIdx (o.Needs schema)

/-- A schema is created on account of a table: it is spelled as in this table, and no table before
needs that schema. -/
structure CreatedFor (tables : List Table) (schema : String) (t : Table) : Prop where
  first : tables.find? (o.Needs schema) = some t
  spelling : o.schemaOf t = schema

end ScriptOptions

variable {o : ScriptOptions} {seen : List String} {s : String} {t : Table} {ts : List Table}

/-! ## One table -/

theorem ScriptOptions.createdFor_cons_of_needs {u : Table} (h : o.Needs s t) :
    o.CreatedFor (t :: ts) s u ↔ u = t ∧ o.schemaOf t = s := by
  have hfirst : (t :: ts).find? (o.Needs s) = some t :=
    List.find?_cons_of_pos (decide_eq_true h)
  constructor
  · rintro ⟨hu, hspelling⟩
    rw [hfirst, Option.some.injEq] at hu
    exact ⟨hu.symm, hu ▸ hspelling⟩
  · rintro ⟨rfl, hspelling⟩
    exact ⟨hfirst, hspelling⟩

theorem ScriptOptions.createdFor_cons_of_not_needs {u : Table} (h : ¬ o.Needs s t) :
    o.CreatedFor (t :: ts) s u ↔ o.CreatedFor ts s u := by
  have hrest : (t :: ts).find? (o.Needs s) = ts.find? (o.Needs s) :=
    List.find?_cons_of_neg (by simpa using h)
  constructor
  · rintro ⟨hu, hspelling⟩
    exact ⟨hrest ▸ hu, hspelling⟩
  · rintro ⟨hu, hspelling⟩
    exact ⟨hrest ▸ hu, hspelling⟩

/-- The two things that can become of a table: its schema is needed and not created yet, or nothing is
created for it. -/
theorem missingSchemas_cons (o : ScriptOptions) (seen : List String) (t : Table) (ts : List Table) :
    (o.NeedsSchema t ∧ lower (o.schemaOf t) ∉ seen ∧
      missingSchemas o seen (t :: ts)
        = o.schemaOf t :: missingSchemas o (lower (o.schemaOf t) :: seen) ts) ∨
    ((o.NeedsSchema t → lower (o.schemaOf t) ∈ seen) ∧
      missingSchemas o seen (t :: ts) = missingSchemas o seen ts) := by
  by_cases hskipped : (equalsIgnoringAsciiCase (o.schemaOf t) o.defaultSchema
      || equalsIgnoringAsciiCase (o.schemaOf t) builtInSchema
      || seen.contains (lower (o.schemaOf t))) = true
  · refine .inr ⟨fun hneeds => ?_, if_pos hskipped⟩
    rw [hneeds.1, hneeds.2, Bool.or_self, Bool.false_or, List.contains_iff_mem] at hskipped
    exact hskipped
  · have hfresh := Bool.eq_false_iff.mpr hskipped
    rw [Bool.or_eq_false_iff, Bool.or_eq_false_iff] at hfresh
    obtain ⟨hneeds, hseen⟩ := hfresh
    refine .inl ⟨hneeds, ?_, if_neg hskipped⟩
    rw [← List.contains_iff_mem, hseen]
    exact Bool.false_ne_true

/-- What is created for the tables that are left: the schemas they need, as the first of them spells
each, that are not created yet. -/
theorem mem_missingSchemas_iff :
    s ∈ missingSchemas o seen ts ↔ lower s ∉ seen ∧ ∃ t, o.CreatedFor ts s t := by
  induction ts generalizing seen with
  | nil =>
    constructor
    · intro h
      cases h
    · rintro ⟨-, t, ⟨⟩, -⟩
  | cons t ts ih =>
    rcases missingSchemas_cons o seen t ts with ⟨hneeds, hseen, hcons⟩ | ⟨hskipped, hcons⟩
    · rw [hcons, List.mem_cons, ih]
      by_cases hsame : lower (o.schemaOf t) = lower s
      · simp only [ScriptOptions.createdFor_cons_of_needs ⟨hneeds, hsame⟩, exists_eq_left]
        rw [← hsame]
        simp [hseen, eq_comm]
      · have hne : s ≠ o.schemaOf t := fun h => hsame (h ▸ rfl)
        have hother : ¬ o.Needs s t := fun h => hsame h.2
        simp only [ScriptOptions.createdFor_cons_of_not_needs hother]
        simp [hne, Ne.symm hsame]
    · rw [hcons, ih]
      refine and_congr_right fun hs => ?_
      have hother : ¬ o.Needs s t := fun h => hs (h.2 ▸ hskipped h.1)
      simp only [ScriptOptions.createdFor_cons_of_not_needs hother]

theorem not_needs_of_mem (hs : s ∈ missingSchemas o seen ts)
    (ht : o.NeedsSchema t → lower (o.schemaOf t) ∈ seen) : ¬ o.Needs s t :=
  fun h => (mem_missingSchemas_iff.mp hs).1 (h.2 ▸ ht h.1)

/-! ## All tables -/

/-- No two of the schemas are the same in lower case. -/
theorem missingSchemas_nodup : ((missingSchemas o seen ts).map lower).Nodup := by
  induction ts generalizing seen with
  | nil => exact List.nodup_nil
  | cons t ts ih =>
    rcases missingSchemas_cons o seen t ts with ⟨-, -, hcons⟩ | ⟨-, hcons⟩
    · rw [hcons, List.map_cons, List.nodup_cons]
      refine ⟨fun hmem => ?_, ih⟩
      obtain ⟨s, hs, hsame⟩ := List.mem_map.mp hmem
      exact (mem_missingSchemas_iff.mp hs).1 (hsame ▸ List.mem_cons_self)
    · rw [hcons]
      exact ih

theorem firstUse_cons_of_not_needs (h : ¬ o.Needs s t) :
    o.firstUse (t :: ts) s = o.firstUse ts s + 1 := by
  simp [ScriptOptions.firstUse, List.findIdx_cons, h]

/-- The schemas are created in the order of their first uses. -/
theorem missingSchemas_inOrder :
    (missingSchemas o seen ts).Pairwise fun s s' => o.firstUse ts s < o.firstUse ts s' := by
  induction ts generalizing seen with
  | nil => exact List.Pairwise.nil
  | cons t ts ih =>
    -- None of the schemas behind is needed by this table, so all their first uses move by one.
    have hlater : ∀ {seen}, (o.NeedsSchema t → lower (o.schemaOf t) ∈ seen) →
        (missingSchemas o seen ts).Pairwise fun s s' =>
          o.firstUse (t :: ts) s < o.firstUse (t :: ts) s' := by
      intro seen hseen
      refine List.Pairwise.imp_of_mem (fun hs hs' hlt => ?_) ih
      rw [firstUse_cons_of_not_needs (not_needs_of_mem hs hseen),
        firstUse_cons_of_not_needs (not_needs_of_mem hs' hseen)]
      exact Nat.succ_lt_succ hlt
    rcases missingSchemas_cons o seen t ts with ⟨hneeds, -, hcons⟩ | ⟨hskipped, hcons⟩
    · rw [hcons, List.pairwise_cons]
      refine ⟨fun s hs => ?_, hlater fun _ => List.mem_cons_self⟩
      have hfirst : o.firstUse (t :: ts) (o.schemaOf t) = 0 := by
        simp [ScriptOptions.firstUse, List.findIdx_cons, ScriptOptions.Needs, hneeds]
      rw [hfirst, firstUse_cons_of_not_needs (not_needs_of_mem hs fun _ => List.mem_cons_self)]
      exact Nat.zero_lt_succ _
    · rw [hcons]
      exact hlater hskipped

/-- The first of the tables that need a schema is the one that it is created for. -/
theorem exists_createdFor (ht : t ∈ ts) (hneeds : o.NeedsSchema t) :
    ∃ s u, lower s = lower (o.schemaOf t) ∧ o.CreatedFor ts s u := by
  have hsome : (ts.find? (o.Needs (o.schemaOf t))).isSome = true :=
    List.find?_isSome.mpr ⟨t, ht, decide_eq_true ⟨hneeds, rfl⟩⟩
  obtain ⟨u, hu⟩ := Option.isSome_iff_exists.mp hsome
  have hu' := List.find?_some hu
  have hsame : lower (o.schemaOf u) = lower (o.schemaOf t) := (of_decide_eq_true hu').2
  have htest : (fun v => decide (o.Needs (o.schemaOf u) v)) = fun v => o.Needs (o.schemaOf t) v := by
    funext v
    refine decide_eq_decide.mpr ?_
    simp only [ScriptOptions.Needs, hsame]
  exact ⟨o.schemaOf u, u, hsame, by rw [htest, hu], rfl⟩

/-! ## Scripts -/

/-- The schemas are created behind the session settings and in front of everything else. -/
theorem generate_schemaBatches {p : Project} {time : Instant} {words : WordSource} {g : Generated}
    (h : generate o p time words = some g) :
    ∃ rest, g.batches = .session (heading o (p.resolveSchemas o.defaultSchema) time)
        :: g.createdSchemas.map .createSchema ++ rest ∧
      (∀ b ∈ rest, b.createdSchema? = none) ∧
      g.createdSchemas = missingSchemas o [] (p.resolveSchemas o.defaultSchema).tables := by
  obtain ⟨issued, -, hbatches, -⟩ := generate_batches h
  rw [scriptBatches, List.append_assoc, List.append_assoc] at hbatches
  have hrest : ∀ b ∈ (p.resolveSchemas o.defaultSchema).tables.flatMap (tableBatches o)
      ++ (issued.map (·.batch o)
        ++ (p.resolveSchemas o.defaultSchema).writtenIndexes.map fun index =>
          Batch.createIndex (indexStatement o index.1 index.2)), b.createdSchema? = none := by
    intro b hb
    simp only [List.mem_append, List.mem_flatMap, List.mem_map, tableBatches, List.mem_cons,
      List.not_mem_nil, or_false] at hb
    rcases hb with ⟨t, -, rfl | rfl⟩ | ⟨k, -, rfl⟩ | ⟨i, -, rfl⟩
    · rfl
    · rfl
    · rfl
    · rfl
  have hmissing : g.createdSchemas
      = missingSchemas o [] (p.resolveSchemas o.defaultSchema).tables := by
    have hcreated : Batch.createdSchema? ∘ Batch.createSchema = some := rfl
    rw [Generated.createdSchemas, hbatches, List.filterMap_append, List.filterMap_cons_none rfl,
      List.filterMap_map, hcreated, List.filterMap_some, List.filterMap_eq_nil_iff.mpr hrest,
      List.append_nil]
  refine ⟨_, ?_, hrest, hmissing⟩
  rw [hbatches, hmissing]

theorem mem_createdSchemas_iff {p : Project} {time : Instant} {words : WordSource} {g : Generated}
    (h : generate o p time words = some g) :
    s ∈ g.createdSchemas ↔ ∃ t, o.CreatedFor (p.resolveSchemas o.defaultSchema).tables s t := by
  obtain ⟨-, -, -, hmissing⟩ := generate_schemaBatches h
  rw [hmissing, mem_missingSchemas_iff, and_iff_right List.not_mem_nil]

/-- A script creates schemas before it does anything about tables, and exactly those that tables need.
For every table that needs one it creates one schema which is the same in lower case, as the first
such table spells it; no two are the same in lower case, and they come in the order in which such
tables do. -/
theorem generate_createdSchemas {p : Project} {time : Instant} {words : WordSource} {g : Generated}
    (h : generate o p time words = some g) :
    (∃ rest, g.batches = .session (heading o (p.resolveSchemas o.defaultSchema) time)
        :: g.createdSchemas.map .createSchema ++ rest ∧ ∀ b ∈ rest, b.createdSchema? = none) ∧
      g.script = renderScript o.batchSeparator g.batches ∧
      (∀ t ∈ (p.resolveSchemas o.defaultSchema).tables, o.NeedsSchema t →
        (g.createdSchemas.map lower).count (lower (o.schemaOf t)) = 1) ∧
      (∀ s, s ∈ g.createdSchemas ↔
        ∃ t, o.CreatedFor (p.resolveSchemas o.defaultSchema).tables s t) ∧
      (g.createdSchemas.map lower).Nodup ∧
      g.createdSchemas.Pairwise fun s s' =>
        o.firstUse (p.resolveSchemas o.defaultSchema).tables s
          < o.firstUse (p.resolveSchemas o.defaultSchema).tables s' := by
  obtain ⟨issued, -, -, hscript⟩ := generate_batches h
  obtain ⟨rest, hbatches, hrest, hmissing⟩ := generate_schemaBatches h
  have hnodup : (g.createdSchemas.map lower).Nodup := by
    rw [hmissing]
    exact missingSchemas_nodup
  refine ⟨⟨rest, hbatches, hrest⟩, hscript, fun t ht hneeds => ?_,
    fun s => mem_createdSchemas_iff h, hnodup, ?_⟩
  · obtain ⟨s, u, hsame, hu⟩ := exists_createdFor ht hneeds
    have hs := (mem_createdSchemas_iff h).mpr ⟨u, hu⟩
    rw [← hsame]
    exact List.count_eq_one_of_mem hnodup (List.mem_map_of_mem hs)
  · rw [hmissing]
    exact missingSchemas_inOrder

/-- A table in a schema, and nothing else. -/
def plainTable (schema name : String) : Table where
  schema := schema
  name := name
  primaryKeyName := none
  columns := []
  foreignKeys := []
  indexes := []
  checkConstraints := []
  uniqueConstraints := []

/-- Tables in two schemas, each of them spelled in two ways. -/
def umlautProject : Project where
  name := "Umlauts"
  description := none
  tables := [plainTable "ÄPP" "A", plainTable "sales" "B", plainTable "äpp" "C",
    plainTable "SALES" "D"]

/-- The first spelling of one of the schemas is the default one, but for the case of A to Z. -/
def umlautOptions : ScriptOptions :=
  { ScriptOptions.standard with defaultSchema := "Äpp" }

theorem generate_umlautProject :
    ∃ g, generate umlautOptions umlautProject ⟨0, 0⟩ (.ofList []) = some g ∧
      g.createdSchemas = ["sales", "äpp"] := by
  have hcreated : (generate umlautOptions umlautProject ⟨0, 0⟩ (.ofList [])).map
      (·.createdSchemas) = some ["sales", "äpp"] := by decide +kernel
  exact Option.map_eq_some_iff.mp hcreated

theorem generate_createdSchemas_umlautProject :
    ∃ g, generate umlautOptions umlautProject ⟨0, 0⟩ (.ofList []) = some g ∧
      umlautOptions.NeedsSchema (plainTable "SALES" "D") ∧
      (g.createdSchemas.map lower).count "sales" = 1 ∧
      ∃ t, umlautOptions.CreatedFor (umlautProject.resolveSchemas "Äpp").tables "äpp" t := by
  obtain ⟨g, hg, hcreated⟩ := generate_umlautProject
  obtain ⟨-, -, hcount, hmem, -, -⟩ := generate_createdSchemas hg
  have htable : plainTable "SALES" "D" ∈ (umlautProject.resolveSchemas "Äpp").tables := by
    decide +kernel
  have hneeds : umlautOptions.NeedsSchema (plainTable "SALES" "D") := by decide +kernel
  have hlower : lower (umlautOptions.schemaOf (plainTable "SALES" "D")) = "sales" := by
    decide +kernel
  have hsales := hcount _ htable hneeds
  rw [hlower] at hsales
  exact ⟨g, hg, hneeds, hsales, (hmem "äpp").mp (by rw [hcreated]; decide)⟩

/-- A table whose schema is the default one up to the case of A to Z counts for nothing, although its
schema may be the same in lower case as one that is created: here the first table in that schema
spells it in another way, and it stands before the table that the other schema is created for. -/
theorem umlautProject_spelling :
    ∃ g, generate umlautOptions umlautProject ⟨0, 0⟩ (.ofList []) = some g ∧
      g.createdSchemas = ["sales", "äpp"] ∧
      ¬ (∀ s ∈ g.createdSchemas, ((umlautProject.resolveSchemas "Äpp").tables.find? fun t =>
          lower (umlautOptions.schemaOf t) == lower s).map umlautOptions.schemaOf = some s) ∧
      ¬ (g.createdSchemas.Pairwise fun s s' =>
        (umlautProject.resolveSchemas "Äpp").tables.findIdx (fun t =>
            lower (umlautOptions.schemaOf t) == lower s)
          < (umlautProject.resolveSchemas "Äpp").tables.findIdx fun t =>
            lower (umlautOptions.schemaOf t) == lower s') := by
  obtain ⟨g, hg, hcreated⟩ := generate_umlautProject
  refine ⟨g, hg, hcreated, ?_, ?_⟩
  · rw [hcreated]
    decide +kernel
  · rw [hcreated]
    decide +kernel

end SchemaScript
