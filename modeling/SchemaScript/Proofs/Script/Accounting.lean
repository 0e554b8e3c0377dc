import SchemaScript.Proofs.Naming.Accounts
import SchemaScript.Proofs.Script.Declarations
import SchemaScript.Proofs.Script.Issuing

/-!
# SchemaScript.Proofs.Script.Accounting

The scope at the end of a script holds the names that are written into the script, and no others.

* `account_issues`, `KeyRun.issues`, `ScriptRun.issues`: the steps of tables and indexes, the run of
  the foreign keys and the whole script issue their names one after the other.
* `claims_tables`, `claims_keys`, `claims_indexes`: the names issued in each part are those that its
  batches declare.
* `generate_accounts`: names in the script, names in the scope and reports of duplicates add up.
-/

namespace SchemaScript

/-! ## Steps -/

def Step.claim? : Step → Option Claim
  | claim c => some c
  | note _ => none

/-- No event among the steps belongs to the issuing of a name. -/
def QuietSteps (steps : List Step) : Prop :=
  ∀ e, .note e ∈ steps → e.isNaming = false

theorem account_issues {steps : List Step} (h : QuietSteps steps) (scope : NameScope) :
    Issues scope (steps.filterMap Step.claim?) (scope.account steps).1 (scope.account steps).2 := by
  induction steps generalizing scope with
  | nil => exact .refl scope
  | cons step steps ih =>
    have hrest := ih fun e he => h e (List.mem_cons_of_mem _ he)
    cases step with
    | note e => exact (hrest scope).note (Event.not_isDuplicateName (h e List.mem_cons_self))
    | claim c => exact (Issues.issue scope c).append (hrest (scope.insert c))

theorem claims_steps {α : Type} (claims : α → List Claim) (ps : List (Planned α)) :
    (ps.flatMap (Planned.steps claims)).filterMap Step.claim?
      = (ps.filterMap Planned.made?).flatMap claims := by
  induction ps with
  | nil => rfl
  | cons p ps ih =>
    rw [List.flatMap_cons, List.filterMap_append, ih]
    cases p with
    | made a =>
      have hclaims : ((claims a).map Step.claim).filterMap Step.claim? = claims a := by
        rw [List.filterMap_map]
        exact List.filterMap_some
      rw [Planned.steps, hclaims]
      rfl
    | skipped e => rfl

/-- The only events among the steps of what is planned are those of what is skipped. -/
theorem note_mem_planned {α : Type} {claims : α → List Claim} {ps : List (Planned α)} {e : Event}
    (h : .note e ∈ ps.flatMap (Planned.steps claims)) : .skipped e ∈ ps := by
  obtain ⟨p, hp, he⟩ := List.mem_flatMap.mp h
  cases p with
  | made a =>
    obtain ⟨c, -, hc⟩ := List.mem_map.mp he
    cases hc
  | skipped e' =>
    cases List.mem_singleton.mp he
    exact hp

/-- A table is announced, and its unique constraints may be skipped. -/
theorem note_mem_tableSteps {o : ScriptOptions} {t : Table} {e : Event}
    (h : .note e ∈ tableSteps o t) :
    e = .renderingTable t.name t.columns.length t.checkConstraints.length
        t.uniqueConstraints.length ∨
      e = .skippedUnique t.name := by
  rcases List.mem_cons.mp h with h | h
  · cases h
    exact .inl rfl
  · have hskipped := note_mem_planned h
    simp only [planEntries, List.mem_append, List.mem_map, reduceCtorEq, and_false, exists_false,
      false_or] at hskipped
    obtain ⟨u, -, hu⟩ := hskipped
    simp only [planUnique] at hu
    split at hu
    · cases hu
      exact .inr rfl
    · cases hu

theorem note_mem_indexSteps {o : ScriptOptions} {t : Table} {i : Index} {e : Event}
    (h : .note e ∈ indexSteps o t i) : e = .skippedIndex t.name := by
  unfold indexSteps planIndex at h
  split at h
  · cases List.mem_singleton.mp h
    rfl
  · cases List.mem_singleton.mp h

theorem quietSteps_tableSteps (o : ScriptOptions) (t : Table) : QuietSteps (tableSteps o t) := by
  intro e he
  rcases note_mem_tableSteps he with rfl | rfl <;> rfl

theorem quietSteps_indexSteps (o : ScriptOptions) (t : Table) (i : Index) :
    QuietSteps (indexSteps o t i) := by
  intro e he
  rw [note_mem_indexSteps he]
  rfl

theorem QuietSteps.flatMap {α : Type} {as : List α} {steps : α → List Step}
    (h : ∀ a, QuietSteps (steps a)) : QuietSteps (as.flatMap steps) := by
  intro e he
  obtain ⟨a, -, he⟩ := List.mem_flatMap.mp he
  exact h a e he

theorem quietSteps_tables (o : ScriptOptions) (tables : List Table) :
    QuietSteps (tables.flatMap (tableSteps o)) :=
  .flatMap (quietSteps_tableSteps o)

theorem quietSteps_indexes (o : ScriptOptions) (indexes : List (Table × Index)) :
    QuietSteps (indexes.flatMap fun (t, i) => indexSteps o t i) :=
  .flatMap fun _ => quietSteps_indexSteps o _ _

/-! ## Names issued and names declared -/

/-- The name space of the constraints of a table is the schema that the script writes. -/
def ScriptOptions.Places (o : ScriptOptions) (t : Table) : Prop :=
  Unicode.trim (o.tableName t).schema = t.constraintSpace

theorem places_resolveSchemas {o : ScriptOptions} {p : Project} {t : Table}
    (h : t ∈ (p.resolveSchemas o.defaultSchema).tables) : o.Places t := by
  obtain ⟨s, -, rfl⟩ := Project.mem_tables_resolveSchemas.mp h
  exact trim_resolveSchema_resolveSchema o.defaultSchema s.schema

/-- The names that stand in the body of a table. -/
def entryNames (o : ScriptOptions) (t : Table) : List String :=
  ((planEntries o t).filterMap Planned.made?).flatMap Entry.names

theorem claims_tableBatches {o : ScriptOptions} {t : Table} (h : o.Places t) :
    (tableBatches o t).flatMap Batch.claims
      = (entryNames o t).map fun n => ⟨t.constraintSpace, n⟩ := by
  rw [tableBatches, List.flatMap_cons, List.flatMap_singleton, Batch.claims_dropTable, createTable,
    Batch.claims_createTable, h, List.nil_append, entryNames]

theorem claims_tableSteps {o : ScriptOptions} {t : Table} (h : o.Places t) :
    (tableSteps o t).filterMap Step.claim? = (tableBatches o t).flatMap Batch.claims := by
  have hentries : (tableSteps o t).filterMap Step.claim?
      = ((planEntries o t).filterMap Planned.made?).flatMap fun e =>
          e.names.map fun n => ⟨t.constraintSpace, n⟩ :=
    claims_steps _ _
  rw [hentries, claims_tableBatches h, entryNames, List.map_flatMap]

theorem claims_tables {o : ScriptOptions} {tables : List Table} (h : ∀ t ∈ tables, o.Places t) :
    (tables.flatMap (tableSteps o)).filterMap Step.claim?
      = (tables.flatMap (tableBatches o)).flatMap Batch.claims := by
  induction tables with
  | nil => rfl
  | cons t ts ih =>
    rw [List.flatMap_cons, List.flatMap_cons, List.filterMap_append, List.flatMap_append,
      claims_tableSteps (h t List.mem_cons_self), ih fun u hu => h u (List.mem_cons_of_mem _ hu)]

theorem claims_createIndex {o : ScriptOptions} {t : Table} (h : o.Places t) (i : Index) :
    (Batch.createIndex (indexStatement o t i)).claims = [⟨t.indexSpace, t.indexName i⟩] := by
  have hspace : Unicode.trim (o.tableName t).schema ++ "." ++ t.name = t.indexSpace := by
    rw [h]
    rfl
  rw [Batch.claims_createIndex]
  exact congrArg (fun space => [(⟨space, t.indexName i⟩ : Claim)]) hspace

theorem claims_indexSteps {o : ScriptOptions} {t : Table} {i : Index} (h : o.Places t)
    (hi : i.columns.isEmpty = false) :
    (indexSteps o t i).filterMap Step.claim?
      = (Batch.createIndex (indexStatement o t i)).claims := by
  rw [claims_createIndex h, indexSteps, planIndex, hi]
  rfl

theorem claims_indexes {o : ScriptOptions} {indexes : List (Table × Index)}
    (h : ∀ index ∈ indexes, o.Places index.1) :
    (indexes.flatMap fun (t, i) => indexSteps o t i).filterMap Step.claim?
      = ((indexes.filter fun index => !index.2.columns.isEmpty).map fun index =>
          Batch.createIndex (indexStatement o index.1 index.2)).flatMap Batch.claims := by
  induction indexes with
  | nil => rfl
  | cons index indexes ih =>
    obtain ⟨t, i⟩ := index
    have hrest := ih fun j hj => h j (List.mem_cons_of_mem _ hj)
    rw [List.flatMap_cons, List.filterMap_append, hrest, List.filter_cons]
    cases hi : i.columns.isEmpty with
    | true =>
      have hskipped : (indexSteps o t i).filterMap Step.claim? = [] := by
        rw [indexSteps, planIndex, hi]
        rfl
      rw [hskipped]
      rfl
    | false =>
      rw [claims_indexSteps (h (t, i) List.mem_cons_self) hi]
      rfl

/-! ## Foreign keys -/

/-- The name issued for a foreign key, in its name space. -/
def IssuedKey.claim (k : IssuedKey) : Claim :=
  ⟨k.table.constraintSpace, k.name⟩

theorem claims_key {o : ScriptOptions} {k : IssuedKey} (h : o.Places k.table) :
    (k.batch o).claims = [k.claim] := by
  rw [IssuedKey.batch, Batch.claims_addForeignKey]
  exact congrArg (fun space => [(⟨space, k.name⟩ : Claim)]) h

theorem claims_keys {o : ScriptOptions} {issued : List IssuedKey}
    (h : ∀ k ∈ issued, o.Places k.table) :
    (issued.map (·.batch o)).flatMap Batch.claims = issued.map IssuedKey.claim := by
  induction issued with
  | nil => rfl
  | cons k ks ih =>
    rw [List.map_cons, List.flatMap_cons, claims_key (h k List.mem_cons_self),
      ih fun l hl => h l (List.mem_cons_of_mem _ hl)]
    rfl

theorem foreignKeyNotes_quiet (lookup : TableLookup) (t : Table) (k : ForeignKey) {a b : NameScope}
    {claims : List Claim} {events : List Event} (h : Issues a claims b events) :
    Issues a claims b (foreignKeyNotes lookup t k ++ events) := by
  unfold foreignKeyNotes
  split
  · exact h.note rfl
  · exact h

section

variable {lookup : TableLookup} {scope after : NameScope} {words rest : WordSource}
  {keys : List (Table × ForeignKey)} {issued : List IssuedKey} {events : List Event}

theorem KeyRun.issues (h : KeyRun lookup scope words keys issued after rest events) :
    Issues scope (issued.map IssuedKey.claim) after events := by
  induction h with
  | done => exact .refl _
  | skipped _ _ ih => exact ih.note rfl
  | written hi _ _ ih =>
    rw [List.append_assoc]
    exact foreignKeyNotes_quiet _ _ _ ((nameForeignKey_issues hi).append ih)

/-- A name with a drawn word differs from all names that were issued before. -/
theorem KeyRun.fresh (h : KeyRun lookup scope words keys issued after rest events) :
    ∀ {earlier later : List IssuedKey} {k : IssuedKey}, issued = earlier ++ k :: later →
      givenName k.key.name = none →
      k.claim.folded ∉ scope.issued ∧
        k.claim.folded ∉ (earlier.map IssuedKey.claim).map Claim.folded := by
  induction h with
  | done => intro earlier later k hsplit; simp at hsplit
  | skipped _ _ ih => exact ih
  | @written t key scope after words rest keys issued events i hi _ hrun ih =>
    intro earlier later k hsplit hk
    cases earlier with
    | nil =>
      obtain ⟨rfl, rfl⟩ := List.cons.inj hsplit
      have hfresh := nameForeignKey_fresh hi hk
      exact ⟨fun h => Bool.false_ne_true (hfresh.symm.trans (NameScope.contains_iff.mpr h)),
        List.not_mem_nil⟩
    | cons first earlier =>
      obtain ⟨rfl, hrest⟩ := List.cons.inj hsplit
      obtain ⟨hscope, hearlier⟩ := ih hrest hk
      have hmem := (nameForeignKey_issues hi).accounts.mem_iff
      refine ⟨fun h => hscope ((hmem _).mpr (.inl h)), fun h => ?_⟩
      rcases List.mem_cons.mp h with h | h
      · exact hscope ((hmem _).mpr (.inr (List.mem_singleton.mpr h)))
      · exact hearlier h

end

/-! ## The whole script -/

theorem claims_scriptBatches (o : ScriptOptions) (p : Project) (time : Instant)
    (issued : List IssuedKey) :
    (scriptBatches o p time issued).flatMap Batch.claims
      = (p.tables.flatMap (tableBatches o)).flatMap Batch.claims
        ++ (issued.map (·.batch o)).flatMap Batch.claims
        ++ (p.writtenIndexes.map fun index =>
            Batch.createIndex (indexStatement o index.1 index.2)).flatMap Batch.claims := by
  have hschemas :
      ((missingSchemas o [] p.tables).map Batch.createSchema).flatMap Batch.claims = [] := by
    rw [List.flatMap_map]
    exact List.flatMap_eq_nil_iff.mpr fun schema _ => Batch.claims_createSchema schema
  rw [scriptBatches, List.flatMap_append, List.flatMap_append, List.flatMap_append,
    List.flatMap_cons, hschemas, Batch.claims_session]
  rfl

theorem Project.table_mem_of_foreignKey {p : Project} {key : Table × ForeignKey}
    (h : key ∈ p.foreignKeys) : key.1 ∈ p.tables := by
  obtain ⟨t, ht, hkey⟩ := List.mem_flatMap.mp h
  obtain ⟨k, -, rfl⟩ := List.mem_map.mp hkey
  exact ht

theorem Project.table_mem_of_index {p : Project} {index : Table × Index}
    (h : index ∈ p.indexes) : index.1 ∈ p.tables := by
  obtain ⟨t, ht, hindex⟩ := List.mem_flatMap.mp h
  obtain ⟨i, -, rfl⟩ := List.mem_map.mp hindex
  exact ht

theorem issues_tables {o : ScriptOptions} {tables : List Table} (h : ∀ t ∈ tables, o.Places t)
    (scope : NameScope) :
    Issues scope ((tables.flatMap (tableBatches o)).flatMap Batch.claims)
      (scope.account (tables.flatMap (tableSteps o))).1
      (scope.account (tables.flatMap (tableSteps o))).2 := by
  rw [← claims_tables h]
  exact account_issues (quietSteps_tables o tables) scope

theorem issues_indexes {o : ScriptOptions} {indexes : List (Table × Index)}
    (h : ∀ index ∈ indexes, o.Places index.1) (scope : NameScope) :
    Issues scope (((indexes.filter fun index => !index.2.columns.isEmpty).map fun index =>
        Batch.createIndex (indexStatement o index.1 index.2)).flatMap Batch.claims)
      (scope.account (indexes.flatMap fun (t, i) => indexSteps o t i)).1
      (scope.account (indexes.flatMap fun (t, i) => indexSteps o t i)).2 := by
  rw [← claims_indexes h]
  exact account_issues (quietSteps_indexes o indexes) scope

section

variable {o : ScriptOptions} {p : Project} {time : Instant} {words : WordSource} {g : Generated}
  {issued : List IssuedKey} {left : NameScope} {keyEvents : List Event}

theorem ScriptRun.table_mem (h : ScriptRun o p time words g issued left keyEvents) {k : IssuedKey}
    (hk : k ∈ issued) : k.table ∈ p.tables := by
  have hmem : k.unnamed ∈ p.writtenForeignKeys := h.unnamed ▸ List.mem_map_of_mem hk
  exact Project.table_mem_of_foreignKey (List.mem_filter.mp hmem).1

theorem ScriptRun.issues (h : ScriptRun o p time words g issued left keyEvents)
    (hp : ∀ t ∈ p.tables, o.Places t) :
    Issues .empty (g.batches.flatMap Batch.claims) g.scope g.events := by
  have hindexes := issues_indexes
    (fun index hindex => hp _ (Project.table_mem_of_index (p := p) hindex)) left
  have hkeys := h.keys.issues
  rw [← claims_keys fun k hk => hp _ (h.table_mem hk)] at hkeys
  have hreport := (Issues.refl g.scope).note
    (e := .scriptGenerated p.tables.length g.scope.size g.script.utf8ByteSize) rfl
  rw [← h.scope] at hindexes
  rw [h.batches, claims_scriptBatches, h.events]
  have hall := (((issues_tables hp .empty).append hkeys).append hindexes).append hreport
  rwa [List.append_nil] at hall

/-- A name with a drawn word differs from all that the tables and the foreign keys before it
declare. -/
theorem ScriptRun.fresh (h : ScriptRun o p time words g issued left keyEvents)
    (hp : ∀ t ∈ p.tables, o.Places t) {earlier later : List IssuedKey} {k : IssuedKey}
    (hsplit : issued = earlier ++ k :: later) (hk : givenName k.key.name = none) :
    k.claim.folded ∉ ((p.tables.flatMap (tableBatches o) ++ earlier.map (·.batch o)).flatMap
      Batch.claims).map Claim.folded := by
  have hearlier : ∀ l ∈ earlier, o.Places l.table := fun l hl =>
    hp _ (h.table_mem (hsplit ▸ List.mem_append_left _ hl))
  obtain ⟨hscope, hkeys⟩ := h.keys.fresh hsplit hk
  rw [(issues_tables hp .empty).accounts.mem_iff] at hscope
  rw [List.flatMap_append, claims_keys hearlier, List.map_append, List.mem_append]
  exact fun hmem => hmem.elim (fun hmem => hscope (.inr hmem)) hkeys

end

theorem mem_folded_claims {batches : List Batch} {c : Claim} :
    c ∈ (batches.flatMap Batch.claims).map Claim.folded
      ↔ ∃ b ∈ batches, ∃ d ∈ b.claims, d.folded = c := by
  simp only [List.mem_map, List.mem_flatMap]
  constructor
  · rintro ⟨d, ⟨b, hb, hd⟩, hc⟩
    exact ⟨b, hb, d, hd, hc⟩
  · rintro ⟨b, hb, d, hd, hc⟩
    exact ⟨d, ⟨b, hb, hd⟩, hc⟩

theorem no_duplicateName_iff {events : List Event} :
    (∀ space name, .duplicateName space name ∉ events)
      ↔ events.countP Event.isDuplicateName = 0 := by
  rw [List.countP_eq_zero]
  constructor
  · intro h e he
    cases e with
    | duplicateName space name => exact absurd he (h space name)
    | _ => exact Bool.false_ne_true
  · exact fun h space name he => h _ he rfl

/-- The scope at the end of a script holds, each once, exactly the names of constraints and indexes
that the script declares, folded. As many names are declared as the scope holds and duplicates are
reported; so none is reported if and only if all of them differ. A foreign key without a name of its
own is given one that differs from all names in the script before it. -/
theorem generate_accounts {o : ScriptOptions} {p : Project} {time : Instant} {words : WordSource}
    {g : Generated} (h : generate o p time words = some g) :
    ∃ issued : List IssuedKey,
      issued.map (·.unnamed) = (p.resolveSchemas o.defaultSchema).writtenForeignKeys ∧
      g.batches = scriptBatches o (p.resolveSchemas o.defaultSchema) time issued ∧
      g.script = renderScript o.batchSeparator g.batches ∧
      g.scope.issued.Nodup ∧
      (∀ c, c ∈ g.scope.issued ↔ ∃ b ∈ g.batches, ∃ d ∈ b.claims, d.folded = c) ∧
      (g.batches.flatMap Batch.claims).length
        = g.scope.size + g.events.countP Event.isDuplicateName ∧
      ((∀ space name, .duplicateName space name ∉ g.events) ↔
        ((g.batches.flatMap Batch.claims).map Claim.folded).Nodup) ∧
      ∀ earlier k later, issued = earlier ++ k :: later → givenName k.key.name = none →
        ∀ c ∈ (k.batch o).claims,
        ∀ b ∈ (p.resolveSchemas o.defaultSchema).tables.flatMap (tableBatches o)
          ++ earlier.map (·.batch o),
        ∀ d ∈ b.claims, d.folded ≠ c.folded := by
  obtain ⟨issued, left, keyEvents, hrun⟩ := generate_run h
  have hplaces : ∀ t ∈ (p.resolveSchemas o.defaultSchema).tables, o.Places t :=
    fun t ht => places_resolveSchemas ht
  have haccounts := (hrun.issues hplaces).accounts
  refine ⟨issued, hrun.unnamed, hrun.batches, hrun.script, g.scope.distinct, fun c => ?_, ?_,
    ?_, ?_⟩
  · rw [haccounts.mem_iff, ← mem_folded_claims]
    exact ⟨fun hc => hc.resolve_left List.not_mem_nil, .inr⟩
  · simpa [NameScope.size, NameScope.empty] using haccounts.count
  · rw [no_duplicateName_iff, haccounts.clean_iff]
    exact ⟨And.left, fun hn => ⟨hn, fun c _ => List.not_mem_nil⟩⟩
  · intro earlier k later hsplit hk c hc b hb d hd heq
    have hplace := hplaces _ (hrun.table_mem (hsplit ▸ List.mem_append_right _ List.mem_cons_self))
    rw [claims_key hplace] at hc
    rw [List.mem_singleton.mp hc] at heq
    exact hrun.fresh hplaces hsplit hk (mem_folded_claims.mpr ⟨b, hb, d, hd, heq⟩)

theorem generate_accounts_awkwardProject :
    ∃ g, generate .standard awkwardProject ⟨0, 0⟩ (.ofList []) = some g ∧
      g.scope.issued.Nodup ∧
      (g.batches.flatMap Batch.claims).length
        = g.scope.size + g.events.countP Event.isDuplicateName := by
  obtain ⟨g, hg⟩ := generate_awkwardProject
  obtain ⟨issued, -, -, -, hnodup, -, hcount, -⟩ := generate_accounts hg
  exact ⟨g, hg, hnodup, hcount⟩

end SchemaScript
