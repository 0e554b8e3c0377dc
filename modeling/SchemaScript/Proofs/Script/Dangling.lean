import SchemaScript.Proofs.Script.Accounting
import SchemaScript.Proofs.Script.Targets

/-!
# SchemaScript.Proofs.Script.Dangling

Foreign keys whose target is not part of the project, as the lookup reports them and as the script
notes them when it writes them. The two agree on the keys that are written; those without columns are
only in the report.

* `Event.unknownTarget?`: the table and the target of a note.
* `KeyRun.unknownTargets`: the notes of a run of foreign keys.
* `generate_dangling`: lookup, report and notes.
-/

namespace SchemaScript

/-- The table and the target that an event notes as not part of the project. -/
def Event.unknownTarget? : Event → Option (String × String)
  | unknownTarget table target => some (table, target)
  | _ => none

/-- No event is a note of an unknown target. -/
def NoUnknownTarget (events : List Event) : Prop :=
  events.filterMap Event.unknownTarget? = []

/-! ## Names -/

theorem noUnknownTarget_clashes (scope : NameScope) (c : Claim) :
    NoUnknownTarget (scope.clashes c) := by
  unfold NameScope.clashes
  split <;> rfl

theorem freshName_noUnknownTarget {space stem : String} {scope : NameScope} {fuel : Nat}
    {words : WordSource} {i : Issued} (h : freshName space stem scope fuel words = some i) :
    NoUnknownTarget i.events := by
  induction fuel generalizing words i with
  | zero => cases h
  | succ fuel ih =>
    simp only [freshName] at h
    split at h
    · obtain ⟨j, hj, rfl⟩ := Option.map_eq_some_iff.mp h
      have hrest : NoUnknownTarget j.events := ih hj
      rw [NoUnknownTarget, List.filterMap_cons]
      exact hrest
    · cases h
      rfl

theorem nameForeignKey_noUnknownTarget {scope : NameScope} {words : WordSource} {t : Table}
    {k : ForeignKey} {i : Issued} (h : nameForeignKey scope words t k = some i) :
    NoUnknownTarget i.events := by
  rw [nameForeignKey] at h
  split at h
  · cases h
    exact noUnknownTarget_clashes _ _
  · exact freshName_noUnknownTarget h

theorem noUnknownTarget_account {steps : List Step}
    (h : ∀ e, .note e ∈ steps → e.unknownTarget? = none) (scope : NameScope) :
    NoUnknownTarget (scope.account steps).2 := by
  induction steps generalizing scope with
  | nil => rfl
  | cons step steps ih =>
    have hrest := fun scope => ih (fun e he => h e (List.mem_cons_of_mem _ he)) scope
    cases step with
    | note e =>
      rw [NameScope.account, NoUnknownTarget, List.filterMap_cons, h e List.mem_cons_self]
      exact hrest scope
    | claim c =>
      rw [NameScope.account, NoUnknownTarget, List.filterMap_append,
        noUnknownTarget_clashes scope c, hrest (scope.insert c)]
      rfl

theorem noUnknownTarget_tables (o : ScriptOptions) (tables : List Table) (scope : NameScope) :
    NoUnknownTarget (scope.account (tables.flatMap (tableSteps o))).2 := by
  refine noUnknownTarget_account (fun e he => ?_) scope
  obtain ⟨t, -, he⟩ := List.mem_flatMap.mp he
  rcases note_mem_tableSteps he with rfl | rfl <;> rfl

theorem noUnknownTarget_indexes (o : ScriptOptions) (indexes : List (Table × Index))
    (scope : NameScope) :
    NoUnknownTarget (scope.account (indexes.flatMap fun (t, i) => indexSteps o t i)).2 := by
  refine noUnknownTarget_account (fun e he => ?_) scope
  obtain ⟨index, -, he⟩ := List.mem_flatMap.mp he
  rw [note_mem_indexSteps he]
  rfl

/-! ## Foreign keys -/

/-- The notes of a run are those of the keys with columns whose target is not found, in order. -/
theorem KeyRun.unknownTargets {lookup : TableLookup} {scope after : NameScope}
    {words rest : WordSource} {keys : List (Table × ForeignKey)} {issued : List IssuedKey}
    {events : List Event} (h : KeyRun lookup scope words keys issued after rest events) :
    events.filterMap Event.unknownTarget?
      = ((keys.filter fun key => (lookup.target? key.2).isNone).filter
          fun key => !key.2.columns.isEmpty).map fun key => (key.1.name, key.2.refTable) := by
  induction h with
  | done => rfl
  | @skipped t k _ _ _ _ _ _ _ hk _ ih =>
    have hskip : Event.unknownTarget? (.skippedForeignKey t.name k.refTable) = none := rfl
    rw [List.filterMap_cons, hskip, ih]
    cases ht : (lookup.target? k).isNone <;> simp [ht, hk]
  | @written t k _ _ _ _ _ _ _ i hi hk _ ih =>
    have hname : i.events.filterMap Event.unknownTarget? = [] := nameForeignKey_noUnknownTarget hi
    rw [List.filterMap_append, List.filterMap_append, hname, ih, foreignKeyNotes]
    cases ht : (lookup.target? k).isNone <;> simp [ht, hk, Event.unknownTarget?]

/-! ## Scripts -/

variable {o : ScriptOptions} {p : Project} {time : Instant} {words : WordSource} {g : Generated}

theorem ScriptRun.unknownTargets {issued : List IssuedKey} {left : NameScope}
    {keyEvents : List Event} (h : ScriptRun o p time words g issued left keyEvents) :
    g.events.filterMap Event.unknownTarget?
      = (((TableLookup.ofProject o.defaultSchema p).dangling p).filter
          fun key => !key.2.columns.isEmpty).map fun key => (key.1.name, key.2.refTable) := by
  have htables : (NameScope.empty.account (p.tables.flatMap (tableSteps o))).2.filterMap
      Event.unknownTarget? = [] := noUnknownTarget_tables o _ _
  have hindexes : (left.account (p.indexes.flatMap fun (t, i) => indexSteps o t i)).2.filterMap
      Event.unknownTarget? = [] := noUnknownTarget_indexes o _ _
  rw [h.events, List.filterMap_append, List.filterMap_append, List.filterMap_append, htables,
    hindexes, h.keys.unknownTargets]
  simp [TableLookup.dangling, Event.unknownTarget?]

/-- In a project whose schemas are filled in, the table found under a key is the last one declared that
has it, and none is found only if no table has it. The report lists the foreign keys whose target key no
table has, each once, in the order of tables and of the keys in them. The script notes those among them
that have columns, in the same order. -/
theorem generate_dangling (h : generate o p time words = some g) :
    (∀ key : TableKey,
      (∀ t, (TableLookup.ofProject o.defaultSchema (p.resolveSchemas o.defaultSchema)).get? key
          = some t ↔
        ∃ front back, (p.resolveSchemas o.defaultSchema).tables = front ++ t :: back ∧
          t.key o.defaultSchema = key ∧ ∀ u ∈ back, u.key o.defaultSchema ≠ key) ∧
      ((TableLookup.ofProject o.defaultSchema (p.resolveSchemas o.defaultSchema)).get? key = none ↔
        ∀ t ∈ (p.resolveSchemas o.defaultSchema).tables, t.key o.defaultSchema ≠ key)) ∧
    (∃ listed : List (KeyPlace × Table × ForeignKey),
      listed.map (·.2) = o.reported p ∧
      (listed.Pairwise fun a b => a.1.Before b.1) ∧
      ∀ i j t k, (⟨i, j⟩, t, k) ∈ listed ↔
        (p.resolveSchemas o.defaultSchema).tables[i]? = some t ∧ t.foreignKeys[j]? = some k ∧
          ∀ u ∈ (p.resolveSchemas o.defaultSchema).tables,
            u.key o.defaultSchema ≠ k.target o.defaultSchema) ∧
    g.events.filterMap Event.unknownTarget?
      = ((o.reported p).filter fun key => !key.2.columns.isEmpty).map
          fun key => (key.1.name, key.2.refTable) := by
  obtain ⟨issued, left, keyEvents, hrun⟩ := generate_run h
  exact ⟨fun key => ⟨fun t => TableLookup.get?_eq_some_iff, TableLookup.get?_eq_none_iff⟩,
    TableLookup.dangling_eq _ _, hrun.unknownTargets⟩

/-- Two tables with one key, and foreign keys to one of them and to tables that are not there. -/
def scatteredProject : Project where
  name := "Shop"
  description := none
  tables := [
    { schema := "", name := "Customers", primaryKeyName := none, columns := [], foreignKeys := []
      indexes := [], checkConstraints := [], uniqueConstraints := [] },
    { schema := "dbo", name := "Orders", primaryKeyName := none, columns := []
      foreignKeys := [
        { name := none, refSchema := "dbo", refTable := "Depots", onDeleteAction := none
          columns := [] },
        { name := none, refSchema := "Dbo", refTable := "customers", onDeleteAction := none
          columns := [⟨"CustomerId", "Id"⟩] },
        { name := none, refSchema := "", refTable := "Carriers", onDeleteAction := none
          columns := [⟨"CarrierId", "Id"⟩] }]
      indexes := [], checkConstraints := [], uniqueConstraints := [] },
    { schema := " DBO ", name := "CUSTOMERS", primaryKeyName := none, columns := []
      foreignKeys := [], indexes := [], checkConstraints := [], uniqueConstraints := [] }]

theorem generate_dangling_scatteredProject :
    ∃ g, generate .standard scatteredProject ⟨0, 0⟩ (.ofList []) = some g ∧
      (∃ front back t, (scatteredProject.resolveSchemas "dbo").tables = front ++ t :: back ∧
        t.name = "CUSTOMERS" ∧ t.key "dbo" = ⟨"dbo", "customers"⟩ ∧
        ∀ u ∈ back, u.key "dbo" ≠ ⟨"dbo", "customers"⟩) ∧
      g.events.filterMap Event.unknownTarget? = [("Orders", "Carriers")] := by
  obtain ⟨g, hg⟩ : ∃ g, generate .standard scatteredProject ⟨0, 0⟩ (.ofList []) = some g :=
    Option.isSome_iff_exists.mp (by decide +kernel)
  obtain ⟨hlookup, -, hnotes⟩ := generate_dangling hg
  have hreported : ((ScriptOptions.standard.reported scatteredProject).filter
      fun key => !key.2.columns.isEmpty).map (fun key => (key.1.name, key.2.refTable))
        = [("Orders", "Carriers")] := by
    decide +kernel
  obtain ⟨t, hfound, hname⟩ : ∃ t, (TableLookup.ofProject "dbo"
      (scatteredProject.resolveSchemas "dbo")).get? ⟨"dbo", "customers"⟩ = some t ∧
        t.name = "CUSTOMERS" := by
    exact ⟨_, rfl, by decide +kernel⟩
  obtain ⟨front, back, htables, hkey, hback⟩ := ((hlookup _).1 t).mp hfound
  exact ⟨g, hg, ⟨front, back, t, htables, hname, hkey, hback⟩, hnotes.trans hreported⟩

end SchemaScript
