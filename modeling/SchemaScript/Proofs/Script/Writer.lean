import Mathlib.Data.List.Basic
import SchemaScript.Proofs.Script.Layout
import SchemaScript.Script.Writer

/-!
# SchemaScript.Proofs.Script.Writer

Writing the script in one pass gives the script that `generate` puts together. What a step writes and
issues does not depend on what was written and issued before, except for foreign keys, whose names
depend on the names issued and on the words drawn, and on nothing else.

* `Writes`: a step writes these batches and issues these names, whatever comes before it.
* `writes_claimFixed`, `writes_writeTable`, `writes_writeIndex`: the steps that do.
* `run_writeForeignKeys`: the foreign keys, by the names and words before them.
* `run_writeScript`: the whole pass.
-/

namespace SchemaScript

variable {α β : Type} {o : ScriptOptions}

theorem NameScope.account_append (scope : NameScope) (steps more : List Step) :
    scope.account (steps ++ more)
      = (((scope.account steps).1.account more).1,
        (scope.account steps).2 ++ ((scope.account steps).1.account more).2) := by
  induction steps generalizing scope with
  | nil => rfl
  | cons step steps ih =>
    cases step with
    | note e => simp only [List.cons_append, account, ih]
    | claim c => simp only [List.cons_append, account, ih, List.append_assoc]

theorem renderScript_append (separator : String) (batches more : List Batch) :
    renderScript separator (batches ++ more)
      = renderScript separator batches ++ renderScript separator more := by
  simp only [renderScript, List.flatMap_append, String.ofList_append]

/-- More of a script: batches, and the steps that issue the names in them. -/
def Generated.add (g : Generated) (o : ScriptOptions) (batches : List Batch) (steps : List Step) :
    Generated :=
  { g with
    batches := g.batches ++ batches
    script := g.script ++ renderScript o.batchSeparator batches
    scope := (g.scope.account steps).1
    events := g.events ++ (g.scope.account steps).2 }

theorem Generated.add_nil (g : Generated) : g.add o [] [] = g := by
  simp [add, renderScript, NameScope.account]

theorem Generated.add_add (g : Generated) (batches more : List Batch) (steps after : List Step) :
    (g.add o batches steps).add o more after = g.add o (batches ++ more) (steps ++ after) := by
  simp only [add, renderScript_append, NameScope.account_append, List.append_assoc,
    String.append_assoc]

/-- The script after the issuing of a name. -/
def Generated.issue (g : Generated) (i : Issued) : Generated :=
  { g with scope := i.scope, words := i.words, events := g.events ++ i.events }

/-- The script after some of its foreign keys. -/
def Generated.addKeys (g : Generated) (o : ScriptOptions) (keys : ForeignKeyBatches) :
    Generated where
  batches := g.batches ++ keys.batches
  script := g.script ++ renderScript o.batchSeparator keys.batches
  scope := keys.scope
  words := keys.words
  events := g.events ++ keys.events

namespace Writing

/-! ## Steps that do not depend on what comes before -/

/-- The step answers `a`, writes the batches and issues the names, whatever has been written. -/
def Writes (o : ScriptOptions) (m : Writing α) (a : α) (batches : List Batch)
    (steps : List Step) : Prop :=
  ∀ g : Generated, m.run g = some (a, g.add o batches steps)

theorem Writes.pure (a : α) : Writes o (pure a) a [] [] := fun g => by
  rw [Generated.add_nil]
  rfl

theorem Writes.bind {m : Writing α} {f : α → Writing β} {a : α} {b : β} {batches more : List Batch}
    {steps after : List Step} (h : Writes o m a batches steps) (hf : Writes o (f a) b more after) :
    Writes o (m >>= f) b (batches ++ more) (steps ++ after) := fun g => by
  rw [StateT.run_bind, h g]
  exact (hf _).trans (by rw [Generated.add_add])

theorem Writes.congr {m : Writing α} {a : α} {batches batches' : List Batch}
    {steps steps' : List Step} (h : Writes o m a batches steps) (hbatches : batches = batches')
    (hsteps : steps = steps') : Writes o m a batches' steps' :=
  hbatches ▸ hsteps ▸ h

/-- A step after which the answer is changed. -/
theorem Writes.map {m : Writing α} {f : α → Writing β} {a : α} {b : β} {batches : List Batch}
    {steps : List Step} (h : Writes o m a batches steps) (hf : f a = Pure.pure b) :
    Writes o (m >>= f) b batches steps := by
  have hboth := h.bind (f := f) (hf ▸ Writes.pure b)
  rwa [List.append_nil, List.append_nil] at hboth

theorem Writes.mapM {m : α → Writing β} {f : α → β} {steps : α → List Step}
    (h : ∀ a, Writes o (m a) (f a) [] (steps a)) (l : List α) :
    Writes o (l.mapM m) (l.map f) [] (l.flatMap steps) := by
  induction l with
  | nil => exact .pure []
  | cons a l ih =>
    rw [List.mapM_cons]
    exact (h a).bind (ih.map rfl)

theorem Writes.forM {m : α → Writing Unit} {batches : α → List Batch} {steps : α → List Step}
    (h : ∀ a, Writes o (m a) () (batches a) (steps a)) (l : List α) :
    Writes o (forM l m) () (l.flatMap batches) (l.flatMap steps) := by
  induction l with
  | nil => exact .pure ()
  | cons a l ih =>
    rw [List.forM_cons]
    exact (h a).bind ih

theorem writes_note (e : Event) : Writes o (note e) () [] [.note e] := fun g => by
  simp [note, Generated.add, renderScript, NameScope.account]

theorem writes_push (b : Batch) : Writes o (push o b) () [b] [] := fun g => by
  simp [push, Generated.add, renderScript, NameScope.account]

theorem run_claim (c : Claim) (g : Generated) :
    (claim c).run g = some (!g.scope.contains c, { g with scope := g.scope.insert c }) :=
  rfl

theorem run_claimFixed (space name : String) (g : Generated) :
    (claimFixed space name).run g = some (name, { g with
      scope := g.scope.insert ⟨space, name⟩
      events := g.events ++ g.scope.clashes ⟨space, name⟩ }) := by
  rw [claimFixed, StateT.run_bind, run_claim]
  cases htaken : g.scope.contains ⟨space, name⟩ with
  | true => simp [note, NameScope.clashes, htaken]
  | false => simp [NameScope.clashes, htaken]

/-- A name that cannot be chosen otherwise is the answer, whatever names have been issued. -/
theorem writes_claimFixed (space name : String) :
    Writes o (claimFixed space name) name [] [.claim ⟨space, name⟩] := fun g => by
  rw [run_claimFixed]
  simp [Generated.add, renderScript, NameScope.account]

/-! ## Tables -/

section Table

variable {t : Table}

/-- The steps that issue the names of constraints. -/
def constraintSteps (t : Table) (names : List String) : List Step :=
  names.map fun n => .claim ⟨t.constraintSpace, n⟩

theorem writes_writeDefault (width : Alignment) (c : Column) :
    Writes o (writeDefault t c) (columnEntry width t c).default []
      (constraintSteps t ((columnEntry width t c).default.map (·.name)).toList) := by
  rw [writeDefault, columnEntry]
  cases Sql.defaultExpression c.defaultSql c.defaultKind with
  | none => exact .pure none
  | some e => exact (writes_claimFixed t.constraintSpace (t.defaultName c)).map rfl

theorem writes_writeColumnUnique (width : Alignment) (c : Column) :
    Writes o (writeColumnUnique t c) (columnEntry width t c).unique []
      (constraintSteps t (columnEntry width t c).unique.toList) := by
  rw [writeColumnUnique, columnEntry]
  dsimp only
  split
  · exact (writes_claimFixed t.constraintSpace (t.columnUniqueName c)).map rfl
  · exact .pure none

theorem writes_writeColumn (c : Column) :
    Writes o (writeColumn o t c) (.column (columnEntry (o.alignment t) t c)) []
      (constraintSteps t (Entry.column (columnEntry (o.alignment t) t c)).names) := by
  have hdefault := writes_writeDefault (o := o) (t := t) (o.alignment t) c
  have hunique := writes_writeColumnUnique (o := o) (t := t) (o.alignment t) c
  rw [writeColumn, Entry.names, constraintSteps, List.map_append]
  -- what else is in the entry does not matter: it is put together again from its own two names
  generalize columnEntry (o.alignment t) t c = e at hdefault hunique ⊢
  exact hdefault.bind (hunique.map rfl)

theorem writes_writeKey :
    Writes o (writeKey t) (keyEntry t).toList []
      ((keyEntry t).toList.flatMap fun e => constraintSteps t e.names) := by
  rw [writeKey, keyEntry]
  split
  · exact .pure []
  · exact (writes_claimFixed t.constraintSpace t.keyName).map rfl

theorem writes_writeCheck (c : CheckConstraint) :
    Writes o (writeCheck t c) (.check (t.checkName c) c.expression) []
      (constraintSteps t (Entry.check (t.checkName c) c.expression).names) :=
  (writes_claimFixed t.constraintSpace (t.checkName c)).map rfl

theorem writes_writeUnique (u : UniqueConstraint) :
    Writes o (writeUnique t u) (planUnique t u).made?.toList []
      ((planUnique t u).steps fun e => e.names.map fun n => ⟨t.constraintSpace, n⟩) := by
  rw [writeUnique, planUnique]
  split
  · exact (writes_note _).map rfl
  · exact (writes_claimFixed t.constraintSpace (t.uniqueName u)).map rfl

theorem writes_writeTable (t : Table) :
    Writes o (writeTable o t) () (tableBatches o t) (tableSteps o t) := by
  have hwrites : Writes o (writeTable o t) () _ _ :=
    (writes_note _).bind ((writes_push _).bind
      ((Writes.mapM writes_writeColumn t.columns).bind (writes_writeKey.bind
        ((Writes.mapM writes_writeCheck t.checkConstraints).bind
          ((Writes.mapM writes_writeUnique t.uniqueConstraints).bind (writes_push _))))))
  refine hwrites.congr ?_ ?_
  · rw [tableBatches, createTable, filterMap_planEntries, List.filterMap_eq_flatMap_toList]
    rfl
  · simp only [tableSteps, planEntries, List.flatMap_append, List.flatMap_map, List.append_assoc,
      List.nil_append, List.append_nil, List.singleton_append, Planned.steps, List.map_map]
    rfl

end Table

/-! ## Foreign keys -/

theorem run_drawName (space stem : String) (fuel : Nat) (g : Generated) :
    (drawName space stem fuel).run g
      = (freshName space stem g.scope fuel g.words).map fun i => (i.name, g.issue i) := by
  induction fuel generalizing g with
  | zero => rfl
  | succ fuel ih =>
    have hdraw : drawWord.run g = some (g.words.draw.1, { g with words := g.words.draw.2 }) := rfl
    rw [drawName, freshName, StateT.run_bind, hdraw, Option.bind_eq_bind, Option.bind_some]
    dsimp only
    rw [StateT.run_bind, run_claim, Option.bind_eq_bind, Option.bind_some]
    dsimp only
    cases htaken : g.scope.contains ⟨space, suffixed stem g.words.draw.1⟩ with
    | true =>
      -- a name that is taken leaves the scope as it is, and the next word is drawn
      rw [NameScope.insert_of_contains htaken]
      simp only [Bool.not_true, Bool.false_eq_true, if_false, if_true, Option.map_map]
      refine (ih _).trans (congrArg (Option.map · _) (funext fun i => ?_))
      simp [Generated.issue]
    | false => simp [Generated.issue]

theorem run_foreignKeyName (t : Table) (k : ForeignKey) (g : Generated) :
    (foreignKeyName t k).run g
      = (nameForeignKey g.scope g.words t k).map fun i => (i.name, g.issue i) := by
  rw [foreignKeyName, nameForeignKey]
  cases givenName k.name with
  | none => exact run_drawName _ _ _ g
  | some name => exact run_claimFixed _ _ g

theorem run_writeForeignKey_skipped {lookup : TableLookup} {t : Table} {k : ForeignKey}
    (h : k.columns.isEmpty = true) (g : Generated) :
    (writeForeignKey o lookup t k).run g
      = some ((), { g with events := g.events ++ [.skippedForeignKey t.name k.refTable] }) := by
  rw [writeForeignKey, if_pos h]
  rfl

theorem run_noteTarget (lookup : TableLookup) (t : Table) (k : ForeignKey) (g : Generated) :
    (noteTarget lookup t k).run g
      = some ((), { g with events := g.events ++ foreignKeyNotes lookup t k }) := by
  rw [noteTarget, foreignKeyNotes]
  split <;> simp [note]

theorem run_writeForeignKey {lookup : TableLookup} {t : Table} {k : ForeignKey}
    (h : k.columns.isEmpty = false) (g : Generated) :
    (writeForeignKey o lookup t k).run g = (nameForeignKey g.scope g.words t k).map fun i =>
      ((), g.addKeys o ⟨[.addForeignKey (foreignKeyStatement o t k i.name)], i.scope, i.words,
        foreignKeyNotes lookup t k ++ i.events⟩) := by
  rw [writeForeignKey, if_neg (Bool.eq_false_iff.mp h), StateT.run_bind, run_noteTarget,
    Option.bind_eq_bind, Option.bind_some, StateT.run_bind, run_foreignKeyName]
  dsimp only
  cases nameForeignKey g.scope g.words t k with
  | none => rfl
  | some i => simp [push, Generated.addKeys, Generated.issue, renderScript]

/-- The foreign keys are written one after the other, each under the name that the names and words
before it leave. By induction on the keys, from any script so far. -/
theorem run_foreignKeys (lookup : TableLookup) (keys : List (Table × ForeignKey)) (g : Generated) :
    (forM keys fun key => writeForeignKey o lookup key.1 key.2).run g
      = (addForeignKeys o lookup g.scope g.words keys).map fun r => ((), g.addKeys o r) := by
  induction keys generalizing g with
  | nil => simp [addForeignKeys, Generated.addKeys, renderScript]
  | cons key keys ih =>
    obtain ⟨t, k⟩ := key
    rw [List.forM_cons, StateT.run_bind, addForeignKeys]
    cases hcolumns : k.columns.isEmpty with
    | true =>
      rw [run_writeForeignKey_skipped hcolumns, Option.bind_eq_bind, Option.bind_some, ih,
        if_pos rfl]
      cases addForeignKeys o lookup g.scope g.words keys with
      | none => rfl
      | some r => simp [Generated.addKeys]
    | false =>
      rw [run_writeForeignKey hcolumns, if_neg (by decide)]
      cases nameForeignKey g.scope g.words t k with
      | none => rfl
      | some i =>
        rw [Option.map_some, Option.bind_eq_bind, Option.bind_some, ih]
        dsimp only [Generated.addKeys, Option.bind_eq_bind, Option.bind_some]
        cases addForeignKeys o lookup i.scope i.words keys with
        | none => rfl
        | some r => simp [renderScript, String.append_assoc]

/-! ## The whole script -/

theorem writes_writeIndex (t : Table) (i : Index) :
    Writes o (writeIndex o t i) () ((planIndex o t i).made?.map Batch.createIndex).toList
      (indexSteps o t i) := by
  rw [writeIndex, indexSteps, planIndex]
  split
  · exact writes_note _
  · exact (writes_claimFixed _ _).bind (writes_push _)

theorem writes_writeTables (p : Project) (time : Instant) :
    Writes o (writeTables o p time) ()
      (.session (heading o p time) :: (missingSchemas o [] p.tables).map .createSchema
        ++ p.tables.flatMap (tableBatches o)) (p.tables.flatMap (tableSteps o)) := by
  have hwrites : Writes o (writeTables o p time) () _ _ :=
    (writes_push _).bind ((Writes.forM (fun schema => writes_push (.createSchema schema)) _).bind
      (Writes.forM writes_writeTable p.tables))
  refine hwrites.congr ?_ ?_
  · rw [List.map_eq_flatMap]
    rfl
  · simp

theorem writes_writeIndexes (p : Project) :
    Writes o (writeIndexes o p) ()
      (p.indexes.filterMap fun (t, i) => (planIndex o t i).made?.map .createIndex)
      (p.indexes.flatMap fun (t, i) => indexSteps o t i) := by
  have hwrites : Writes o (writeIndexes o p) () _ _ :=
    Writes.forM (fun t => Writes.forM (writes_writeIndex t) t.indexes) p.tables
  refine hwrites.congr ?_ ?_
  · rw [List.filterMap_eq_flatMap_toList, Project.indexes, List.flatMap_assoc]
    simp only [List.flatMap_map]
  · rw [Project.indexes, List.flatMap_assoc]
    simp only [List.flatMap_map]

theorem run_writeForeignKeys (p : Project) (g : Generated) :
    (writeForeignKeys o p).run g
      = (addForeignKeys o (TableLookup.ofProject o.defaultSchema p) g.scope g.words
          p.foreignKeys).map fun r => ((), g.addKeys o r) := by
  have hflat : writeForeignKeys o p = forM p.foreignKeys fun key =>
      writeForeignKey o (TableLookup.ofProject o.defaultSchema p) key.1 key.2 := by
    rw [writeForeignKeys, Project.foreignKeys]
    induction p.tables with
    | nil => rfl
    | cons t ts ih => rw [List.forM_cons, List.flatMap_cons, List.forM_append, List.forM_map, ih]
  rw [hflat]
  exact run_foreignKeys _ _ g

/-- Written in one pass with the names issued carried along, the script is the one that is put
together from batches that do not depend on them. -/
theorem run_writeScript (o : ScriptOptions) (p : Project) (time : Instant) (words : WordSource) :
    (writeScript o p time).run (.start words)
      = (generate o p time words).map fun g => ((), g) := by
  rw [writeScript, generate]
  dsimp only
  generalize p.resolveSchemas o.defaultSchema = q
  rw [StateT.run_bind, writes_writeTables, Option.bind_eq_bind, Option.bind_some, StateT.run_bind,
    run_writeForeignKeys]
  dsimp only [Generated.add, Generated.start]
  cases addForeignKeys o (TableLookup.ofProject o.defaultSchema q)
      (NameScope.empty.account (q.tables.flatMap (tableSteps o))).1 words q.foreignKeys with
  | none => rfl
  | some keys =>
    rw [Option.map_some, Option.bind_eq_bind, Option.bind_some, StateT.run_bind, writes_writeIndexes,
      Option.bind_eq_bind, Option.bind_some]
    simp only [Generated.addKeys, Generated.add, renderScript_append]
    simp [note]

end Writing
end SchemaScript
