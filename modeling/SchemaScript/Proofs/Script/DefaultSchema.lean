import SchemaScript.Proofs.Schema.Agreement
import SchemaScript.Proofs.Script.Schemas
import SchemaScript.Proofs.Unicode.AsciiCase

/-!
# SchemaScript.Proofs.Script.DefaultSchema

Whether the default schema is created. A table means it if its schema is blank, or the same in lower
case and without white space around it; but whether a schema is created is decided by the case of A to
Z alone, and with the default schema as it was chosen. So a table that means the default schema gets it
created if it spells it in another way than that, or leaves it blank where there is white space around
the default.

* `Table.MeansDefault`, `Table.SpellsDefault`: what a table means, and what is taken for it.
* `needsSchema_iff`: which tables that mean the default schema need it created.
* `createdSchemas_default_iff`: when no schema is created on account of such a table.
-/

namespace SchemaScript

open Unicode

/-- The schema of a table is blank, or it is the default schema up to case and white space around. -/
def Table.MeansDefault (d : String) (t : Table) : Prop :=
  isBlank t.schema = true ∨ lower (trim t.schema) = lower (trim d)
deriving Decidable

/-- The schema of a table is blank and the default stays as it is when it is filled in, or it is the
default schema up to the case of the letters A to Z. -/
def Table.SpellsDefault (d : String) (t : Table) : Prop :=
  isBlank t.schema = true ∧ IsSettledDefault d ∨ equalsIgnoringAsciiCase (trim t.schema) d = true

variable {o : ScriptOptions} {t u : Table}

/-! ## The schema of a table -/

theorem schemaOf_of_isBlank (h : isBlank t.schema = true) :
    o.schemaOf (t.resolveSchemas o.defaultSchema)
      = resolveSchema o.defaultSchema o.defaultSchema :=
  congrArg (resolveSchema o.defaultSchema) (resolveSchema_of_blank h)

theorem schemaOf_of_given (h : isBlank t.schema = false) :
    o.schemaOf (t.resolveSchemas o.defaultSchema) = trim t.schema :=
  (congrArg (resolveSchema o.defaultSchema) (resolveSchema_of_given h)).trans
    (resolveSchema_trim h)

theorem resolveSchema_self_of_unsettled {d : String} (h : ¬ IsSettledDefault d) :
    resolveSchema d d = trim d :=
  if_neg fun hblank => h (.inl hblank)

theorem plainImages_builtInSchema : PlainImages (builtInSchema.toList.map Char.toNat) :=
  ⟨by decide +kernel, by decide⟩

/-- Of the schema that is always there, no letters but A to Z make another spelling. -/
theorem equalsIgnoringAsciiCase_builtInSchema {s : String} :
    equalsIgnoringAsciiCase s builtInSchema = true ↔ lower s = builtInSchema :=
  equalsIgnoringAsciiCase_iff_lower plainImages_builtInSchema
    (fun _ hc => List.mem_map_of_mem hc) (by decide +kernel)

/-- White space around the default schema sets it apart from every schema without. -/
theorem equalsIgnoringAsciiCase_trim_of_unsettled {d : String} (h : ¬ IsSettledDefault d)
    (s : String) : equalsIgnoringAsciiCase (trim s) d = false := by
  rw [Bool.eq_false_iff]
  intro hequal
  exact lower_ne_lower_trim (fun htrim => h (.inr htrim)) s
    (lower_eq_of_equalsIgnoringAsciiCase hequal).symm

/-- A table that means the default schema needs it created, unless that is the schema that is always
there or the table spells it as the default. -/
theorem needsSchema_iff (ht : t.MeansDefault o.defaultSchema) :
    o.NeedsSchema (t.resolveSchemas o.defaultSchema) ↔
      lower (trim o.defaultSchema) ≠ builtInSchema ∧ ¬ t.SpellsDefault o.defaultSchema := by
  rw [ScriptOptions.NeedsSchema, Table.SpellsDefault, ← Bool.not_eq_true, ← Bool.not_eq_true,
    equalsIgnoringAsciiCase_builtInSchema]
  cases hb : isBlank t.schema with
  | true =>
    rw [schemaOf_of_isBlank hb]
    by_cases hd : IsSettledDefault o.defaultSchema
    · rw [resolveSchema_self_iff.mpr hd]
      simp [hd, equalsIgnoringAsciiCase]
    · rw [resolveSchema_self_of_unsettled hd]
      simp [hd, equalsIgnoringAsciiCase_trim_of_unsettled hd]
  | false =>
    have hlower : lower (trim t.schema) = lower (trim o.defaultSchema) :=
      ht.resolve_left (Bool.eq_false_iff.mp hb)
    rw [schemaOf_of_given hb, hlower]
    simp [and_comm]

/-- Where its schema is needed, a table that means the default schema is written in it. -/
theorem lower_schemaOf_of_meansDefault (ht : t.MeansDefault o.defaultSchema)
    (hneeds : o.NeedsSchema (t.resolveSchemas o.defaultSchema)) :
    lower (o.schemaOf (t.resolveSchemas o.defaultSchema)) = lower (trim o.defaultSchema) := by
  cases hb : isBlank t.schema with
  | true =>
    have hd : ¬ IsSettledDefault o.defaultSchema :=
      fun hd => ((needsSchema_iff ht).mp hneeds).2 (.inl ⟨hb, hd⟩)
    rw [schemaOf_of_isBlank hb, resolveSchema_self_of_unsettled hd]
  | false =>
    rw [schemaOf_of_given hb]
    exact ht.resolve_left (Bool.eq_false_iff.mp hb)

theorem meansDefault_of_lower_schemaOf
    (h : lower (o.schemaOf (t.resolveSchemas o.defaultSchema)) = lower (trim o.defaultSchema)) :
    t.MeansDefault o.defaultSchema := by
  cases hb : isBlank t.schema with
  | true => exact .inl hb
  | false =>
    rw [schemaOf_of_given hb] at h
    exact .inr h

/-! ## Scripts -/

/-- The first table that needs a schema, among the tables as they are given. -/
theorem find?_needs_resolveSchemas (o : ScriptOptions) (p : Project) (s : String) :
    (p.resolveSchemas o.defaultSchema).tables.find? (o.Needs s)
      = (p.tables.find? fun t => o.Needs s (t.resolveSchemas o.defaultSchema)).map
          (·.resolveSchemas o.defaultSchema) := by
  simp only [Project.resolveSchemas, List.find?_map, Function.comp_def]

/-- Every schema that a script creates is created on account of the first table that needs it, in its
spelling. None of these tables means the default schema if and only if that is the schema which is
always there, or every table that means it spells it as the default. -/
theorem createdSchemas_default_iff {p : Project} {time : Instant} {words : WordSource}
    {g : Generated} (h : generate o p time words = some g) :
    (∀ s ∈ g.createdSchemas,
      ∃ t ∈ p.tables.find? fun t => o.Needs s (t.resolveSchemas o.defaultSchema),
        o.schemaOf (t.resolveSchemas o.defaultSchema) = s) ∧
    ((∀ s ∈ g.createdSchemas,
      ∀ t ∈ p.tables.find? fun t => o.Needs s (t.resolveSchemas o.defaultSchema),
        ¬ t.MeansDefault o.defaultSchema) ↔
      lower (trim o.defaultSchema) = builtInSchema ∨
        ∀ t ∈ p.tables, t.MeansDefault o.defaultSchema → t.SpellsDefault o.defaultSchema) := by
  refine ⟨fun s hs => ?_, fun hnone => ?_, fun hspelled s hs t ht hmeans => ?_⟩
  · obtain ⟨u, hfirst, hspelling⟩ := (mem_createdSchemas_iff h).mp hs
    rw [find?_needs_resolveSchemas] at hfirst
    obtain ⟨t, ht, rfl⟩ := Option.map_eq_some_iff.mp hfirst
    exact ⟨t, ht, hspelling⟩
  · by_contra hnot
    simp only [not_or, not_forall] at hnot
    obtain ⟨hbuiltIn, t, ht, hmeans, hother⟩ := hnot
    have hneeds := (needsSchema_iff hmeans).mpr ⟨hbuiltIn, hother⟩
    -- The first table that needs the schema of this one means the default schema as well.
    obtain ⟨s, u, hsame, hu⟩ := exists_createdFor
      (Project.mem_tables_resolveSchemas.mpr ⟨t, ht, rfl⟩) hneeds
    have hfirst := hu.first
    rw [find?_needs_resolveSchemas] at hfirst
    obtain ⟨v, hv, rfl⟩ := Option.map_eq_some_iff.mp hfirst
    refine hnone s ((mem_createdSchemas_iff h).mpr ⟨_, hu⟩) v hv (meansDefault_of_lower_schemaOf ?_)
    rw [hu.spelling, hsame, lower_schemaOf_of_meansDefault hmeans hneeds]
  · have hfound := List.find?_some (Option.mem_def.mp ht)
    obtain ⟨hbuiltIn, hother⟩ := (needsSchema_iff hmeans).mp (of_decide_eq_true hfound).1
    rcases hspelled with hspelled | hspelled
    · exact hbuiltIn hspelled
    · exact hother (hspelled t (List.mem_of_find?_eq_some ht) hmeans)

/-- Options with a default schema that two of the tables spell in other ways, by the case of A to Z. -/
def salesOptions : ScriptOptions :=
  { ScriptOptions.standard with defaultSchema := "Sales" }

theorem createdSchemas_default_iff_umlautProject :
    ∃ g, generate salesOptions umlautProject ⟨0, 0⟩ (.ofList []) = some g ∧
      g.createdSchemas = ["ÄPP"] ∧
      ∀ s ∈ g.createdSchemas,
        ∀ t ∈ umlautProject.tables.find? fun t => salesOptions.Needs s (t.resolveSchemas "Sales"),
          ¬ t.MeansDefault "Sales" := by
  have hcreated : (generate salesOptions umlautProject ⟨0, 0⟩ (.ofList [])).map
      (·.createdSchemas) = some ["ÄPP"] := by decide +kernel
  obtain ⟨g, hg, hcreated⟩ := Option.map_eq_some_iff.mp hcreated
  have hspelled : ∀ t ∈ umlautProject.tables, t.MeansDefault "Sales" →
      equalsIgnoringAsciiCase (trim t.schema) "Sales" = true := by decide +kernel
  exact ⟨g, hg, hcreated, (createdSchemas_default_iff hg).2.mpr
    (.inr fun t ht hmeans => .inr (hspelled t ht hmeans))⟩

/-- Options with white space around the default schema. -/
def paddedOptions : ScriptOptions :=
  { ScriptOptions.standard with defaultSchema := " app " }

/-- Two schemas that are created although the table means the default schema: one differs from it by
the case of a letter that is none of A to Z; the other is left blank, and there is white space around
the default. -/
theorem default_created :
    (∃ g t, generate umlautOptions umlautProject ⟨0, 0⟩ (.ofList []) = some g ∧
      "äpp" ∈ g.createdSchemas ∧
      (umlautProject.tables.find? fun t => umlautOptions.Needs "äpp" (t.resolveSchemas "Äpp"))
        = some t ∧
      lower (trim t.schema) = lower (trim "Äpp")) ∧
    ∃ g t, generate paddedOptions paddedProject ⟨0, 0⟩ (.ofList []) = some g ∧
      "app" ∈ g.createdSchemas ∧
      (paddedProject.tables.find? fun t => paddedOptions.Needs "app" (t.resolveSchemas " app "))
        = some t ∧
      isBlank t.schema = true := by
  refine ⟨?_, ?_⟩
  · obtain ⟨g, hg, hcreated⟩ := generate_umlautProject
    refine ⟨g, plainTable "äpp" "C", hg, ?_, ?_, ?_⟩
    · rw [hcreated]
      decide
    · decide +kernel
    · decide +kernel
  · have hcreated : (generate paddedOptions paddedProject ⟨0, 0⟩ (.ofList [])).map
        (·.createdSchemas) = some ["app"] := by decide +kernel
    have hfound : (paddedProject.tables.find? fun t =>
        paddedOptions.Needs "app" (t.resolveSchemas " app ")).map (isBlank ·.schema)
          = some true := by decide +kernel
    obtain ⟨g, hg, hcreated⟩ := Option.map_eq_some_iff.mp hcreated
    obtain ⟨t, ht, hblank⟩ := Option.map_eq_some_iff.mp hfound
    exact ⟨g, t, hg, by rw [hcreated]; decide, ht, hblank⟩

end SchemaScript
