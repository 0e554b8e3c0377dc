import Mathlib.Data.List.Basic
import SchemaScript.Proofs.Naming.Separation
import SchemaScript.Proofs.Script.Accounting

/-!
# SchemaScript.Proofs.Script.Duplicates

Which names of a script are reported as duplicates: those that meet a name before them. As long as the
name spaces of the tables stay apart, that name is of the same kind and in the same place.

* `Project.declarations`: the names of a script with the tables that they belong to.
* `claims_declarations`: they are the names that the batches declare.
* `duplicateName_iff`: the reports of a script, and when they are about one kind and one place.
-/

namespace SchemaScript

/-! ## The names of a script -/

/-- The names that the tables, the foreign keys and the indexes of a project declare, in the order of
the script. -/
def Project.declarations (o : ScriptOptions) (p : Project) (issued : List IssuedKey) :
    List Declaration :=
  p.tables.flatMap (fun t => (entryNames o t).map fun name => ⟨.constraint, t, name⟩)
    ++ issued.map (fun k => ⟨.constraint, k.table, k.name⟩)
    ++ p.writtenIndexes.map fun index => ⟨.index, index.1, index.1.indexName index.2⟩

theorem claims_declarations {o : ScriptOptions} {p : Project} {issued : List IssuedKey}
    (hp : ∀ t ∈ p.tables, o.Places t) (hissued : ∀ k ∈ issued, k.table ∈ p.tables)
    (time : Instant) :
    (p.declarations o issued).map Declaration.claim
      = (scriptBatches o p time issued).flatMap Batch.claims := by
  have htables : (p.tables.flatMap (tableBatches o)).flatMap Batch.claims
      = (p.tables.flatMap fun t => (entryNames o t).map fun name =>
          (⟨.constraint, t, name⟩ : Declaration)).map Declaration.claim := by
    rw [List.flatMap_assoc, List.map_flatMap]
    refine List.flatMap_congr fun t ht => ?_
    rw [claims_tableBatches (hp t ht), List.map_map]
    rfl
  have hindexes : (p.writtenIndexes.map fun index =>
        Batch.createIndex (indexStatement o index.1 index.2)).flatMap Batch.claims
      = (p.writtenIndexes.map fun index =>
          (⟨.index, index.1, index.1.indexName index.2⟩ : Declaration)).map Declaration.claim := by
    rw [List.flatMap_map, List.map_map, List.map_eq_flatMap]
    refine List.flatMap_congr fun index hindex => ?_
    have hmem := Project.table_mem_of_index (List.mem_filter.mp hindex).1
    exact claims_createIndex (hp _ hmem) index.2
  rw [claims_scriptBatches, htables, hindexes, claims_keys fun k hk => hp _ (hissued k hk),
    Project.declarations, List.map_append, List.map_append, List.map_map]
  rfl

theorem table_mem_of_declaration {o : ScriptOptions} {p : Project} {issued : List IssuedKey}
    (hissued : ∀ k ∈ issued, k.table ∈ p.tables) {e : Declaration}
    (he : e ∈ p.declarations o issued) : e.table ∈ p.tables := by
  rw [Project.declarations, List.mem_append, List.mem_append] at he
  rcases he with (he | he) | he
  · obtain ⟨t, ht, he⟩ := List.mem_flatMap.mp he
    obtain ⟨name, -, rfl⟩ := List.mem_map.mp he
    exact ht
  · obtain ⟨k, hk, rfl⟩ := List.mem_map.mp he
    exact hissued k hk
  · obtain ⟨index, hindex, rfl⟩ := List.mem_map.mp he
    exact Project.table_mem_of_index (List.mem_filter.mp hindex).1

/-! ## Reports -/

theorem Event.mem_duplicate?_iff {events : List Event} {c : Claim} :
    c ∈ events.filterMap Event.duplicate? ↔ .duplicateName c.space c.name ∈ events := by
  rw [List.mem_filterMap]
  constructor
  · rintro ⟨e, he, hc⟩
    cases e with
    | duplicateName space name => cases hc; exact he
    | _ => cases hc
  · exact fun h => ⟨_, h, rfl⟩

/-- The reports of a project are all about one kind and one place: a reported name repeats one before
it. -/
theorem repeats_of_duplicateName {o : ScriptOptions} {p : Project} {issued : List IssuedKey}
    (hissued : ∀ k ∈ issued, k.table ∈ p.tables)
    (h : SpacesSeparate o.defaultSchema p.tables) {earlier later : List Declaration}
    {e f : Declaration} (hsplit : p.declarations o issued = earlier ++ f :: later)
    (he : e ∈ earlier) (hmeet : e.claim.folded = f.claim.folded) : e.Repeats o.defaultSchema f := by
  refine spacesSeparate_iff.mp h e f ?_ ?_ hmeet
  · exact table_mem_of_declaration hissued (hsplit ▸ List.mem_append_left _ he)
  · exact table_mem_of_declaration hissued
      (hsplit ▸ List.mem_append_right _ List.mem_cons_self)

/-- A name of a script is reported as a duplicate if and only if it meets a name before it. The two
are of one kind, in one schema or on one table, and the same up to case, if the name spaces of the
tables stay apart; and they stay apart exactly if no two names that the tables may declare meet
otherwise. They do so if no schema has a point in it and no schema or table a capital sigma. -/
theorem duplicateName_iff {o : ScriptOptions} {p : Project} {time : Instant} {words : WordSource}
    {g : Generated} (h : generate o p time words = some g) :
    ∃ issued : List IssuedKey,
      issued.map (·.unnamed) = (p.resolveSchemas o.defaultSchema).writtenForeignKeys ∧
      ((p.resolveSchemas o.defaultSchema).declarations o issued).map Declaration.claim
        = g.batches.flatMap Batch.claims ∧
      (∀ space name, .duplicateName space name ∈ g.events ↔
        ∃ earlier f later,
          (p.resolveSchemas o.defaultSchema).declarations o issued = earlier ++ f :: later ∧
          f.claim = ⟨space, name⟩ ∧ ∃ e ∈ earlier, e.claim.folded = f.claim.folded) ∧
      (SpacesSeparate o.defaultSchema (p.resolveSchemas o.defaultSchema).tables →
        ∀ space name, .duplicateName space name ∈ g.events →
          ∃ earlier f later,
            (p.resolveSchemas o.defaultSchema).declarations o issued = earlier ++ f :: later ∧
            f.claim = ⟨space, name⟩ ∧ ∃ e ∈ earlier, e.Repeats o.defaultSchema f) ∧
      (SpacesSeparate o.defaultSchema (p.resolveSchemas o.defaultSchema).tables ↔
        ∀ e f : Declaration, e.table ∈ (p.resolveSchemas o.defaultSchema).tables →
          f.table ∈ (p.resolveSchemas o.defaultSchema).tables →
          e.claim.folded = f.claim.folded → e.Repeats o.defaultSchema f) ∧
      ((∀ t ∈ (p.resolveSchemas o.defaultSchema).tables, t.IsPlain) →
        SpacesSeparate o.defaultSchema (p.resolveSchemas o.defaultSchema).tables) := by
  obtain ⟨issued, left, keyEvents, hrun⟩ := generate_run h
  have hplaces : ∀ t ∈ (p.resolveSchemas o.defaultSchema).tables, o.Places t :=
    fun t ht => places_resolveSchemas ht
  have hissued : ∀ k ∈ issued, k.table ∈ (p.resolveSchemas o.defaultSchema).tables :=
    fun k hk => hrun.table_mem hk
  have hclaims := claims_declarations hplaces hissued time
  rw [← hrun.batches] at hclaims
  have hreported : ∀ space name, .duplicateName space name ∈ g.events ↔
      ∃ earlier f later,
        (p.resolveSchemas o.defaultSchema).declarations o issued = earlier ++ f :: later ∧
        f.claim = ⟨space, name⟩ ∧ ∃ e ∈ earlier, e.claim.folded = f.claim.folded := by
    intro space name
    rw [← Event.mem_duplicate?_iff (c := ⟨space, name⟩), (hrun.issues hplaces).reported, ← hclaims,
      NameScope.mem_taken_iff]
    constructor
    · rintro ⟨claims, rest, hsplit, hmeet⟩
      obtain ⟨earlier, more, hdeclarations, rfl, hmore⟩ := List.map_eq_append_iff.mp hsplit
      obtain ⟨f, later, rfl, hf, -⟩ := List.map_eq_cons_iff.mp hmore
      obtain ⟨c, hc, hmeet⟩ := hmeet.resolve_left List.not_mem_nil
      obtain ⟨e, he, rfl⟩ := List.mem_map.mp hc
      exact ⟨earlier, f, later, hdeclarations, hf, e, he, by rw [hmeet, hf]⟩
    · rintro ⟨earlier, f, later, hdeclarations, hf, e, he, hmeet⟩
      refine ⟨earlier.map Declaration.claim, later.map Declaration.claim, ?_, .inr ⟨e.claim, ?_, ?_⟩⟩
      · rw [hdeclarations, List.map_append, List.map_cons, hf]
      · exact List.mem_map_of_mem he
      · rw [hmeet, hf]
  refine ⟨issued, hrun.unnamed, hclaims, hreported, fun hseparate space name hreport => ?_,
    spacesSeparate_iff, spacesSeparate_of_plain⟩
  obtain ⟨earlier, f, later, hsplit, hf, e, he, hmeet⟩ := (hreported space name).mp hreport
  exact ⟨earlier, f, later, hsplit, hf, e, he, repeats_of_duplicateName hissued hseparate hsplit he
    hmeet⟩

theorem duplicateName_iff_awkwardProject :
    ∃ g issued, generate .standard awkwardProject ⟨0, 0⟩ (.ofList []) = some g ∧
      SpacesSeparate "dbo" (awkwardProject.resolveSchemas "dbo").tables ∧
      ∀ space name, .duplicateName space name ∈ g.events →
        ∃ earlier f later,
          (awkwardProject.resolveSchemas "dbo").declarations .standard issued
            = earlier ++ f :: later ∧
          f.claim = ⟨space, name⟩ ∧ ∃ e ∈ earlier, e.Repeats "dbo" f := by
  obtain ⟨g, hg⟩ := generate_awkwardProject
  obtain ⟨issued, -, -, -, hrepeats, -, hplain⟩ := duplicateName_iff hg
  have htables : ∀ t ∈ (awkwardProject.resolveSchemas "dbo").tables,
      '.' ∉ t.schema.toList ∧ 'Σ' ∉ t.schema.toList ∧ 'Σ' ∉ t.name.toList := by decide +kernel
  have hseparate := hplain fun t ht =>
    ⟨(htables t ht).1, (htables t ht).2.1, (htables t ht).2.2⟩
  exact ⟨g, issued, hg, hseparate, hrepeats hseparate⟩

/-- A table in a schema with a point in it, and a table whose schema and name are the parts of that
schema. The one has a check and the other an index, and the names of the two differ in case. -/
def dottedProject : Project where
  name := "Shop"
  description := none
  tables := [
    { schema := "sales.eu", name := "Orders", primaryKeyName := none, columns := []
      foreignKeys := [], indexes := [], checkConstraints := [⟨some "ix_id", "1=1"⟩]
      uniqueConstraints := [] },
    { schema := "sales", name := "eu", primaryKeyName := none, columns := [], foreignKeys := []
      indexes := [{ name := some "IX_Id", isUnique := false, columns := [⟨"Id", false⟩]
                    includeColumnsCsv := none }]
      checkConstraints := [], uniqueConstraints := [] }]

/-- The index is reported as a duplicate, although it is the only one of its project. -/
theorem dottedProject_reports :
    ((generate .standard dottedProject ⟨0, 0⟩ (.ofList [])).map fun g =>
        g.events.filter Event.isDuplicateName) = some [.duplicateName "sales.eu" "IX_Id"] ∧
      (dottedProject.resolveSchemas "dbo").writtenIndexes.length = 1 ∧
      ∃ t ∈ (dottedProject.resolveSchemas "dbo").tables,
        ∃ u ∈ (dottedProject.resolveSchemas "dbo").tables,
          (⟨.index, t, "IX_Id"⟩ : Declaration).claim.folded
            = (⟨.constraint, u, "ix_id"⟩ : Declaration).claim.folded := by
  decide +kernel

end SchemaScript
