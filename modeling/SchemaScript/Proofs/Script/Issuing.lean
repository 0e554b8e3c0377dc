import SchemaScript.Proofs.Script.Layout

/-!
# SchemaScript.Proofs.Script.Issuing

How the names of foreign keys are issued in a script: one key after the other, each with the scope
and the words that the keys before it have left.

* `KeyRun`: the foreign keys of a project and the names issued for them, step by step.
* `ScriptRun`: a script, its foreign keys issued between the steps of its tables and indexes.
* `generate_run`: every script that is generated comes about in this way.
-/

namespace SchemaScript

/-- The names issued for foreign keys, from one scope and source of words to another, with the
events on the way. A key without columns is skipped and leaves everything as it is. -/
inductive KeyRun (lookup : TableLookup) : NameScope → WordSource → List (Table × ForeignKey) →
    List IssuedKey → NameScope → WordSource → List Event → Prop where
  | done {scope : NameScope} {words : WordSource} : KeyRun lookup scope words [] [] scope words []
  | skipped {t : Table} {k : ForeignKey} {scope after : NameScope} {words rest : WordSource}
      {keys : List (Table × ForeignKey)} {issued : List IssuedKey} {events : List Event} :
      k.columns.isEmpty = true →
      KeyRun lookup scope words keys issued after rest events →
      KeyRun lookup scope words ((t, k) :: keys) issued after rest
        (.skippedForeignKey t.name k.refTable :: events)
  | written {t : Table} {k : ForeignKey} {scope after : NameScope} {words rest : WordSource}
      {keys : List (Table × ForeignKey)} {issued : List IssuedKey} {events : List Event}
      {i : Issued} (hi : nameForeignKey scope words t k = some i) :
      k.columns.isEmpty = false →
      KeyRun lookup i.scope i.words keys issued after rest events →
      KeyRun lookup scope words ((t, k) :: keys)
        (⟨t, k, i.name, nameForeignKey_mayBeNamed hi⟩ :: issued) after rest
        (foreignKeyNotes lookup t k ++ i.events ++ events)

theorem addForeignKeys_run {o : ScriptOptions} {lookup : TableLookup}
    (keys : List (Table × ForeignKey)) :
    ∀ {scope : NameScope} {words : WordSource} {r : ForeignKeyBatches},
      addForeignKeys o lookup scope words keys = some r →
      ∃ issued, KeyRun lookup scope words keys issued r.scope r.words r.events ∧
        r.batches = issued.map (·.batch o) := by
  induction keys with
  | nil =>
    intro scope words r h
    cases h
    exact ⟨[], .done, rfl⟩
  | cons key keys ih =>
    obtain ⟨t, k⟩ := key
    intro scope words r h
    cases hk : k.columns.isEmpty with
    | true =>
      obtain ⟨rest, hrest, rfl⟩ := addForeignKeys_cons_skipped hk h
      obtain ⟨issued, hrun, hbatches⟩ := ih hrest
      exact ⟨issued, .skipped hk hrun, hbatches⟩
    | false =>
      obtain ⟨i, rest, hi, hrest, rfl⟩ := addForeignKeys_cons_written hk h
      obtain ⟨issued, hrun, hbatches⟩ := ih hrest
      refine ⟨_, .written hi hk hrun, ?_⟩
      rw [List.map_cons, ← hbatches]
      rfl

theorem KeyRun.unnamed {lookup : TableLookup} {scope after : NameScope} {words rest : WordSource}
    {keys : List (Table × ForeignKey)} {issued : List IssuedKey} {events : List Event}
    (h : KeyRun lookup scope words keys issued after rest events) :
    issued.map (·.unnamed) = keys.filter fun key => !key.2.columns.isEmpty := by
  induction h with
  | done => rfl
  | skipped hk _ ih => rw [ih, List.filter_cons, hk]; rfl
  | written _ hk _ ih => rw [List.map_cons, ih, List.filter_cons, hk]; rfl

/-- The names issued, and all that a run leaves, are determined by the keys and where it starts. -/
theorem KeyRun.unique {lookup : TableLookup} {scope after after' : NameScope}
    {words rest rest' : WordSource} {keys : List (Table × ForeignKey)}
    {issued issued' : List IssuedKey} {events events' : List Event}
    (h : KeyRun lookup scope words keys issued after rest events)
    (h' : KeyRun lookup scope words keys issued' after' rest' events') :
    issued = issued' ∧ after = after' ∧ rest = rest' ∧ events = events' := by
  induction h generalizing issued' after' rest' events' with
  | done =>
    cases h'
    exact ⟨rfl, rfl, rfl, rfl⟩
  | skipped hk _ ih =>
    cases h' with
    | skipped _ h' =>
      obtain ⟨rfl, rfl, rfl, rfl⟩ := ih h'
      exact ⟨rfl, rfl, rfl, rfl⟩
    | written _ hk' _ => exact absurd (hk.symm.trans hk') Bool.noConfusion
  | written hi hk _ ih =>
    cases h' with
    | skipped hk' _ => exact absurd (hk'.symm.trans hk) Bool.noConfusion
    | written hi' _ h' =>
      cases hi.symm.trans hi'
      obtain ⟨rfl, rfl, rfl, rfl⟩ := ih h'
      exact ⟨rfl, rfl, rfl, rfl⟩

/-- A script of a project whose schemas are filled in: the names of its tables are issued, then
those of its foreign keys, which leave the scope `left`, then those of its indexes. -/
structure ScriptRun (o : ScriptOptions) (p : Project) (time : Instant) (words : WordSource)
    (g : Generated) (issued : List IssuedKey) (left : NameScope) (keyEvents : List Event) :
    Prop where
  keys : KeyRun (.ofProject o.defaultSchema p)
    (NameScope.empty.account (p.tables.flatMap (tableSteps o))).1 words p.foreignKeys issued left
    g.words keyEvents
  batches : g.batches = scriptBatches o p time issued
  script : g.script = renderScript o.batchSeparator g.batches
  scope : g.scope = (left.account (p.indexes.flatMap fun (t, i) => indexSteps o t i)).1
  events : g.events = (NameScope.empty.account (p.tables.flatMap (tableSteps o))).2 ++ keyEvents
    ++ (left.account (p.indexes.flatMap fun (t, i) => indexSteps o t i)).2
    ++ [.scriptGenerated p.tables.length g.scope.size g.script.utf8ByteSize]

theorem generate_run {o : ScriptOptions} {p : Project} {time : Instant} {words : WordSource}
    {g : Generated} (h : generate o p time words = some g) :
    ∃ issued left keyEvents,
      ScriptRun o (p.resolveSchemas o.defaultSchema) time words g issued left keyEvents := by
  obtain ⟨keys, hkeys, ⟨hwords, hscope, hevents⟩, hscript, hbatches⟩ := generate_inv h
  obtain ⟨issued, hrun, hkeyBatches⟩ := addForeignKeys_run _ hkeys
  refine ⟨issued, keys.scope, keys.events, ⟨?_, ?_, hscript, hscope, hevents⟩⟩
  · rw [hwords]
    exact hrun
  · rw [hbatches, hkeyBatches, writtenIndexes_batches]
    rfl

theorem ScriptRun.unnamed {o : ScriptOptions} {p : Project} {time : Instant} {words : WordSource}
    {g : Generated} {issued : List IssuedKey} {left : NameScope} {keyEvents : List Event}
    (h : ScriptRun o p time words g issued left keyEvents) :
    issued.map (·.unnamed) = p.writtenForeignKeys :=
  h.keys.unnamed

end SchemaScript
