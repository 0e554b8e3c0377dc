import SchemaScript.Proofs.Naming.FreshNames
import SchemaScript.Proofs.Script.Accounting

/-!
# SchemaScript.Proofs.Script.Draws

How many words a script draws: one for every foreign key that is written without a name of its own,
and one more for every collision. Without such keys no word is drawn, and there is a script whatever
the words are.

* `Project.unnamedForeignKeys`: the foreign keys that words are drawn for.
* `KeyRun.drawn`, `ScriptRun.drawn`: the number of words.
* `addForeignKeys_named`, `generate_named`: scripts without words.
-/

namespace SchemaScript

/-- The foreign keys that are written and not given a name. -/
def Project.unnamedForeignKeys (p : Project) : List (Table × ForeignKey) :=
  p.writtenForeignKeys.filter fun key => (givenName key.2.name).isNone

theorem Project.length_unnamedForeignKeys_resolveSchemas (d : String) (p : Project) :
    (p.resolveSchemas d).unnamedForeignKeys.length = p.unnamedForeignKeys.length := by
  rw [unnamedForeignKeys, writtenForeignKeys_resolveSchemas, List.filter_map, List.length_map]
  rfl

theorem Project.named_of_no_unnamed {p : Project} (h : p.unnamedForeignKeys = []) (d : String)
    {key : Table × ForeignKey} (hkey : key ∈ (p.resolveSchemas d).writtenForeignKeys) :
    (givenName key.2.name).isNone = false := by
  have hnone : (p.resolveSchemas d).unnamedForeignKeys = [] :=
    List.eq_nil_of_length_eq_zero (by rw [length_unnamedForeignKeys_resolveSchemas, h]; rfl)
  exact Bool.eq_false_iff.mpr fun hname => List.filter_eq_nil_iff.mp hnone key hkey hname

/-! ## Words drawn -/

theorem freshName_drawn {space stem : String} {scope : NameScope} {fuel : Nat} {words : WordSource}
    {i : Issued} (h : freshName space stem scope fuel words = some i) :
    i.words.drawn = words.drawn + 1 + i.events.countP Event.isSuffixCollided := by
  induction fuel generalizing words i with
  | zero => cases h
  | succ fuel ih =>
    simp only [freshName] at h
    split at h
    · obtain ⟨j, hj, rfl⟩ := Option.map_eq_some_iff.mp h
      have hj := ih hj
      rw [WordSource.drawn_draw] at hj
      rw [List.countP_cons, hj]
      simp only [Event.isSuffixCollided, if_true]
      omega
    · cases h
      exact words.drawn_draw

theorem NameScope.collisions_clashes (scope : NameScope) (c : Claim) :
    (scope.clashes c).countP Event.isSuffixCollided = 0 := by
  unfold clashes
  split <;> rfl

theorem nameForeignKey_drawn {scope : NameScope} {words : WordSource} {t : Table} {k : ForeignKey}
    {i : Issued} (h : nameForeignKey scope words t k = some i) :
    i.words.drawn = words.drawn + (if (givenName k.name).isNone then 1 else 0)
      + i.events.countP Event.isSuffixCollided := by
  rw [nameForeignKey] at h
  cases hk : givenName k.name with
  | some name =>
    rw [hk] at h
    cases h
    rw [NameScope.collisions_clashes]
    rfl
  | none =>
    rw [hk] at h
    exact freshName_drawn h

theorem foreignKeyNotes_collisions (lookup : TableLookup) (t : Table) (k : ForeignKey) :
    (foreignKeyNotes lookup t k).countP Event.isSuffixCollided = 0 := by
  unfold foreignKeyNotes
  split <;> rfl

theorem KeyRun.drawn {lookup : TableLookup} {scope after : NameScope} {words rest : WordSource}
    {keys : List (Table × ForeignKey)} {issued : List IssuedKey} {events : List Event}
    (h : KeyRun lookup scope words keys issued after rest events) :
    rest.drawn = words.drawn + issued.countP (fun k => (givenName k.key.name).isNone)
      + events.countP Event.isSuffixCollided := by
  induction h with
  | done => rfl
  | skipped _ _ ih => rw [ih, List.countP_cons]; rfl
  | written hi _ _ ih =>
    rw [ih, nameForeignKey_drawn hi, List.countP_cons, List.countP_append, List.countP_append,
      foreignKeyNotes_collisions]
    dsimp only
    omega

theorem NameScope.collisions_account {steps : List Step} (h : QuietSteps steps)
    (scope : NameScope) : (scope.account steps).2.countP Event.isSuffixCollided = 0 := by
  induction steps generalizing scope with
  | nil => rfl
  | cons step steps ih =>
    have hrest := ih fun e he => h e (List.mem_cons_of_mem _ he)
    cases step with
    | note e =>
      have he := Event.not_isSuffixCollided (h e List.mem_cons_self)
      rw [account, List.countP_cons, he, hrest]
      rfl
    | claim c =>
      rw [account, List.countP_append, collisions_clashes, hrest]

theorem ScriptRun.drawn {o : ScriptOptions} {p : Project} {time : Instant} {words : WordSource}
    {g : Generated} {issued : List IssuedKey} {left : NameScope} {keyEvents : List Event}
    (h : ScriptRun o p time words g issued left keyEvents) :
    g.words.drawn = words.drawn + p.unnamedForeignKeys.length
      + g.events.countP Event.isSuffixCollided := by
  have hunnamed : issued.countP (fun k => (givenName k.key.name).isNone)
      = p.unnamedForeignKeys.length := by
    rw [Project.unnamedForeignKeys, ← h.unnamed, ← List.countP_eq_length_filter, List.countP_map]
    rfl
  rw [h.keys.drawn, h.events, hunnamed]
  simp only [List.countP_append, NameScope.collisions_account (quietSteps_tables o _),
    NameScope.collisions_account (quietSteps_indexes o _)]
  simp [Event.isSuffixCollided]

/-! ## Scripts without words -/

theorem addForeignKeys_named {o : ScriptOptions} {lookup : TableLookup}
    (keys : List (Table × ForeignKey)) :
    ∀ (scope : NameScope) (words : WordSource),
      (∀ key ∈ keys, key.2.columns.isEmpty = false → (givenName key.2.name).isNone = false) →
      ∃ r, addForeignKeys o lookup scope words keys = some r ∧ r.words = words := by
  induction keys with
  | nil => exact fun scope words _ => ⟨⟨[], scope, words, []⟩, rfl, rfl⟩
  | cons key keys ih =>
    obtain ⟨t, k⟩ := key
    intro scope words hnamed
    have hkeys := fun key hkey => hnamed key (List.mem_cons_of_mem _ hkey)
    cases hk : k.columns.isEmpty with
    | true =>
      obtain ⟨r, hr, hwords⟩ := ih scope words hkeys
      simp only [addForeignKeys, hk, if_true, hr]
      exact ⟨_, rfl, hwords⟩
    | false =>
      have hsome := hnamed (t, k) List.mem_cons_self hk
      cases hname : givenName k.name with
      | none => rw [hname] at hsome; cases hsome
      | some name =>
        obtain ⟨r, hr, hwords⟩ := ih (scope.insert ⟨t.constraintSpace, name⟩) words hkeys
        simp only [addForeignKeys, hk, Bool.false_eq_true, if_false, nameForeignKey, hname, hr,
          bind, Option.bind]
        exact ⟨_, rfl, hwords⟩

theorem generate_named {o : ScriptOptions} {p : Project} (h : p.unnamedForeignKeys = [])
    (time : Instant) (words : WordSource) :
    ∃ g, generate o p time words = some g ∧ g.words = words := by
  have hnamed : ∀ key ∈ (p.resolveSchemas o.defaultSchema).foreignKeys,
      key.2.columns.isEmpty = false → (givenName key.2.name).isNone = false :=
    fun key hkey hcolumns => Project.named_of_no_unnamed h o.defaultSchema
      (List.mem_filter.mpr ⟨hkey, by rw [hcolumns]; rfl⟩)
  obtain ⟨keys, hkeys, hwords⟩ := addForeignKeys_named _ _ words hnamed
  exact ⟨_, Option.bind_eq_some_iff.mpr ⟨keys, hkeys, rfl⟩, hwords⟩

end SchemaScript
