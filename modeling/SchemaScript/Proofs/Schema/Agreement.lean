import Mathlib.Data.List.Basic
import SchemaScript.Proofs.Schema.Lookup
import SchemaScript.Proofs.Schema.Resolution
import SchemaScript.Proofs.Unicode.Casing

/-!
# SchemaScript.Proofs.Schema.Agreement

When a project answers alike before and after its schemas are filled in. Filling them in twice is
filling them in once with the default schema as it is filled in itself, without the white space around
it. So everything agrees if there is no such white space; if there is, a blank schema and one that is
given apart from each other before can mean the same afterwards.

* `IsSettledDefault`: a default schema that stays as it is.
* `Project.resolveSchemas_resolveSchemas_iff`, `key_resolveSchemas`, `target_resolveSchema`: filling
  in twice.
* `key_eq_target_iff_of_padded`: what tells the keys before from those after.
* `lookup_resolveSchemas_iff`: when the project, its lookups and its report agree.
-/

namespace SchemaScript

variable {d : String}

/-! ## Filling in twice -/

/-- A default schema that stays as it is when it is filled in itself: it is blank, or there is no white
space around it. -/
def IsSettledDefault (d : String) : Prop :=
  Unicode.isBlank d = true ∨ Unicode.trim d = d

theorem resolveSchema_self_iff : resolveSchema d d = d ↔ IsSettledDefault d := by
  rw [resolveSchema, IsSettledDefault]
  cases Unicode.isBlank d <;> simp

/-- Filling in a second time is filling in once with the default as it is filled in itself. -/
theorem resolveSchema_resolveSchema (d schema : String) :
    resolveSchema d (resolveSchema d schema) = resolveSchema (resolveSchema d d) schema := by
  cases hb : Unicode.isBlank schema with
  | true => rw [resolveSchema_of_blank hb, resolveSchema_of_blank hb]
  | false => rw [resolveSchema_of_given hb, resolveSchema_of_given hb, resolveSchema_trim hb]

/-- A schema stays as it is the second time unless it is blank and the default does not. -/
theorem resolveSchema_resolveSchema_iff (d schema : String) :
    resolveSchema d (resolveSchema d schema) = resolveSchema d schema ↔
      IsSettledDefault d ∨ Unicode.isBlank schema = false := by
  cases hb : Unicode.isBlank schema with
  | true =>
    rw [resolveSchema_of_blank hb, resolveSchema_self_iff]
    simp
  | false =>
    rw [resolveSchema_of_given hb, resolveSchema_trim hb]
    simp

/-- The schemas that are given in a project: those of its tables and those of their references. -/
def Project.schemas (p : Project) : List String :=
  p.tables.flatMap fun t => t.schema :: t.foreignKeys.map (·.refSchema)

theorem Table.resolveSchemas_resolveSchemas_iff (d : String) (t : Table) :
    (t.resolveSchemas d).resolveSchemas d = t.resolveSchemas d ↔
      ∀ s ∈ t.schema :: t.foreignKeys.map (·.refSchema),
        resolveSchema d (resolveSchema d s) = resolveSchema d s := by
  have hkeys : (t.foreignKeys.map (·.resolveSchema d)).map (·.resolveSchema d)
        = t.foreignKeys.map (·.resolveSchema d) ↔
      ∀ k ∈ t.foreignKeys,
        resolveSchema d (resolveSchema d k.refSchema) = resolveSchema d k.refSchema := by
    rw [List.map_map, List.map_inj_left]
    exact forall₂_congr fun k _ => by simp [ForeignKey.resolveSchema]
  rw [List.forall_mem_cons, List.forall_mem_map, ← hkeys]
  simp [Table.resolveSchemas]

theorem Project.resolveSchemas_resolveSchemas_iff (d : String) (p : Project) :
    (p.resolveSchemas d).resolveSchemas d = p.resolveSchemas d ↔
      IsSettledDefault d ∨ ∀ s ∈ p.schemas, Unicode.isBlank s = false := by
  have htables : (p.resolveSchemas d).resolveSchemas d = p.resolveSchemas d ↔
      ∀ t ∈ p.tables, (t.resolveSchemas d).resolveSchemas d = t.resolveSchemas d := by
    simp only [Project.resolveSchemas, Project.mk.injEq, true_and, List.map_map]
    exact List.map_inj_left
  have hschemas : (∀ t ∈ p.tables, (t.resolveSchemas d).resolveSchemas d = t.resolveSchemas d) ↔
      ∀ s ∈ p.schemas, resolveSchema d (resolveSchema d s) = resolveSchema d s := by
    simp only [Table.resolveSchemas_resolveSchemas_iff, schemas, List.mem_flatMap]
    constructor
    · rintro h s ⟨t, ht, hs⟩
      exact h t ht s hs
    · exact fun h t ht s hs => h s ⟨t, ht, hs⟩
  rw [htables, hschemas]
  simp only [resolveSchema_resolveSchema_iff]
  constructor
  · intro h
    by_cases hd : IsSettledDefault d
    · exact .inl hd
    · exact .inr fun s hs => (h s hs).resolve_left hd
  · rintro (hd | hgiven)
    · exact fun _ _ => .inl hd
    · exact fun s hs => .inr (hgiven s hs)

/-! ## Keys -/

theorem key_resolveSchemas (d : String) (t : Table) :
    (t.resolveSchemas d).key d = t.key (resolveSchema d d) :=
  congrArg (fun schema => TableKey.mk (Unicode.lower schema) (Unicode.lower (Unicode.trim t.name)))
    (resolveSchema_resolveSchema d t.schema)

theorem target_resolveSchema (d : String) (k : ForeignKey) :
    (k.resolveSchema d).target d = k.target (resolveSchema d d) :=
  congrArg
    (fun schema => TableKey.mk (Unicode.lower schema) (Unicode.lower (Unicode.trim k.refTable)))
    (resolveSchema_resolveSchema d k.refSchema)

/-- White space around the default schema sets it apart from every schema that is given. -/
theorem lower_ne_lower_trim (hd : Unicode.trim d ≠ d) (schema : String) :
    Unicode.lower d ≠ Unicode.lower (Unicode.trim schema) := by
  intro h
  refine hd (Unicode.trim_eq_of_lower_trim_eq ?_)
  rw [Unicode.lower_trim, h, ← Unicode.lower_trim, Unicode.trim_trim]

/-- With white space around the default schema, two schemas mean the same before they are filled in
if and only if they do afterwards and both are blank or both are given. -/
theorem lower_resolveSchema_eq_iff (hd : ¬ IsSettledDefault d) (s s' : String) :
    Unicode.lower (resolveSchema d s) = Unicode.lower (resolveSchema d s') ↔
      Unicode.lower (resolveSchema (resolveSchema d d) s)
          = Unicode.lower (resolveSchema (resolveSchema d d) s') ∧
        Unicode.isBlank s = Unicode.isBlank s' := by
  have hpadded : Unicode.trim d ≠ d := fun h => hd (.inr h)
  cases hs : Unicode.isBlank s with
  | true =>
    cases hs' : Unicode.isBlank s' with
    | true => simp [resolveSchema_of_blank hs, resolveSchema_of_blank hs']
    | false =>
      simp [resolveSchema_of_blank hs, resolveSchema_of_given hs', lower_ne_lower_trim hpadded]
  | false =>
    cases hs' : Unicode.isBlank s' with
    | true =>
      simp [resolveSchema_of_given hs, resolveSchema_of_blank hs',
        (lower_ne_lower_trim hpadded _).symm]
    | false => simp [resolveSchema_of_given hs, resolveSchema_of_given hs']

theorem key_eq_target_iff_of_padded (hd : ¬ IsSettledDefault d) (t : Table) (k : ForeignKey) :
    t.key d = k.target d ↔
      t.key (resolveSchema d d) = k.target (resolveSchema d d) ∧
        Unicode.isBlank t.schema = Unicode.isBlank k.refSchema := by
  simp only [Table.key, ForeignKey.target, TableKey.make, TableKey.mk.injEq,
    lower_resolveSchema_eq_iff hd]
  exact and_right_comm

/-! ## Lookups -/

namespace TableLookup

/-- A reference finds the position of the last table that has its key. -/
theorem targetPosition?_ofProject (d : String) (p : Project) (k : ForeignKey) :
    (ofProject d p).targetPosition? k
      = (p.tables.zipIdx.filter fun e => e.1.key d == k.target d).getLast?.map (·.2) := by
  rw [targetPosition?, position?, ofProject, List.zipIdx_map, List.filter_map, List.getLast?_map,
    Option.map_map]
  rfl

/-- After filling in, a reference finds what it finds before with the default as it is filled in
itself. -/
theorem targetPosition?_resolveSchemas (d : String) (p : Project) (k : ForeignKey) :
    (ofProject d (p.resolveSchemas d)).targetPosition? (k.resolveSchema d)
      = (ofProject (resolveSchema d d) p).targetPosition? k := by
  rw [targetPosition?_ofProject, targetPosition?_ofProject, Project.resolveSchemas, List.zipIdx_map,
    List.filter_map, List.getLast?_map, Option.map_map]
  simp only [target_resolveSchema, Function.comp_def, Prod.map_fst, key_resolveSchemas,
    Prod.map_snd, id_eq]

end TableLookup

/-- The last element that passes a test passes a second one as well if and only if it is also the last
that passes both. -/
theorem getLast?_filter_and_iff {α : Type} (p q : α → Bool) (l : List α) :
    (l.filter fun a => q a && p a).getLast? = (l.filter p).getLast? ↔
      ∀ a, (l.filter p).getLast? = some a → q a = true := by
  rw [← List.filter_filter]
  constructor
  · intro h a ha
    rw [ha] at h
    exact (List.mem_filter.mp (List.mem_of_getLast? h)).2
  · intro h
    rcases List.eq_nil_or_concat (l.filter p) with hnil | ⟨init, a, hinit⟩
    · rw [hnil]
      rfl
    · rw [List.concat_eq_append] at hinit
      have ha : q a = true := h a (by rw [hinit]; exact List.getLast?_concat)
      rw [hinit, List.filter_append, List.filter_cons_of_pos ha, List.filter_nil,
        List.getLast?_concat, List.getLast?_concat]

/-- Elements of a list with their positions are the same if their positions are. -/
theorem eq_of_mem_zipIdx {α : Type} {l : List α} {a b : α × Nat} (ha : a ∈ l.zipIdx)
    (hb : b ∈ l.zipIdx) (h : a.2 = b.2) : a = b := by
  have ha' := List.mem_zipIdx_iff_getElem?.mp ha
  have hb' := List.mem_zipIdx_iff_getElem?.mp hb
  rw [h, hb'] at ha'
  exact Prod.ext (Option.some.inj ha').symm h

/-- Of two tests, the first stricter than the second, as many elements pass the one as the other only
if the same do. -/
theorem map_filter_eq_iff {α β : Type} {p q : α → Bool} {l : List α} (f : α → β)
    (h : ∀ a, p a = true → q a = true) :
    (l.filter p).map f = (l.filter q).map f ↔ ∀ a ∈ l, q a = true → p a = true := by
  constructor
  · intro hmap a ha hq
    have hlength : (l.filter p).length = (l.filter q).length := by
      simpa using congrArg List.length hmap
    have hsame := (List.monotone_filter_right l h).eq_of_length hlength
    have hmem : a ∈ l.filter p := by
      rw [hsame]
      exact List.mem_filter.mpr ⟨ha, hq⟩
    exact (List.mem_filter.mp hmem).2
  · intro hback
    refine congrArg (List.map f) (List.filter_congr fun a ha => ?_)
    rw [Bool.eq_iff_iff]
    exact ⟨h a, hback a ha⟩

namespace TableLookup

/-- A reference finds the same table before and after filling in if and only if the default schema is
settled or the table found afterwards and the reference both left their schema blank, or both gave
one. -/
theorem targetPosition?_agrees_iff (d : String) (p : Project) (k : ForeignKey) :
    (ofProject d (p.resolveSchemas d)).targetPosition? (k.resolveSchema d)
        = (ofProject d p).targetPosition? k ↔
      IsSettledDefault d ∨ ∀ i t,
        (ofProject d (p.resolveSchemas d)).targetPosition? (k.resolveSchema d) = some i →
        p.tables[i]? = some t → Unicode.isBlank t.schema = Unicode.isBlank k.refSchema := by
  rw [targetPosition?_resolveSchemas]
  by_cases hd : IsSettledDefault d
  · rw [resolveSchema_self_iff.mpr hd]
    exact ⟨fun _ => .inl hd, fun _ => rfl⟩
  · have hbefore : (fun e : Table × Nat => e.1.key d == k.target d)
        = fun e => Unicode.isBlank e.1.schema == Unicode.isBlank k.refSchema
          && e.1.key (resolveSchema d d) == k.target (resolveSchema d d) := by
      funext e
      rw [Bool.eq_iff_iff, Bool.and_eq_true]
      simp only [beq_iff_eq, key_eq_target_iff_of_padded hd]
      exact and_comm
    have hlast := getLast?_filter_and_iff
      (fun e : Table × Nat => e.1.key (resolveSchema d d) == k.target (resolveSchema d d))
      (fun e => Unicode.isBlank e.1.schema == Unicode.isBlank k.refSchema) p.tables.zipIdx
    rw [targetPosition?_ofProject, targetPosition?_ofProject, hbefore, or_iff_right hd]
    constructor
    · intro h i t hi ht
      obtain ⟨e, he, rfl⟩ := Option.map_eq_some_iff.mp hi
      rw [he, Option.map_some, eq_comm, Option.map_eq_some_iff] at h
      obtain ⟨e', he', hposition⟩ := h
      -- Both positions are those of tables of the project, so the tables are the same.
      have hmem := (List.mem_filter.mp (List.mem_of_getLast? he)).1
      have hsame := eq_of_mem_zipIdx (List.mem_filter.mp (List.mem_of_getLast? he')).1 hmem hposition
      have hblank := hlast.mp (by rw [he, he', hsame]) e he
      rw [List.mem_zipIdx_iff_getElem?, ht, Option.some.injEq] at hmem
      rw [hmem]
      exact beq_iff_eq.mp hblank
    · intro h
      refine congrArg (Option.map (·.2)) (hlast.mpr fun e he => ?_).symm
      have hmem := (List.mem_filter.mp (List.mem_of_getLast? he)).1
      exact beq_iff_eq.mpr (h e.2 e.1 (by rw [he]; rfl) (List.mem_zipIdx_iff_getElem?.mp hmem))

/-! ## Reports -/

/-- A reference whose target is found before is found after filling in as well. -/
theorem target?_isNone_of_resolveSchemas {d : String} {p : Project} {k : ForeignKey}
    (h : ((ofProject d (p.resolveSchemas d)).target? (k.resolveSchema d)).isNone = true) :
    ((ofProject d p).target? k).isNone = true := by
  rw [target?_isNone_iff] at h ⊢
  intro t ht hkey
  have hafter := h _ (List.mem_map_of_mem ht)
  rw [key_resolveSchemas, target_resolveSchema] at hafter
  by_cases hd : IsSettledDefault d
  · rw [resolveSchema_self_iff.mpr hd] at hafter
    exact hafter hkey
  · exact hafter ((key_eq_target_iff_of_padded hd t k).mp hkey).1

/-- The foreign keys reported after filling in, as they are given in the project. -/
theorem dangling_resolveSchemas (d : String) (p : Project) :
    (ofProject d (p.resolveSchemas d)).dangling (p.resolveSchemas d)
      = (p.foreignKeys.filter fun key =>
          ((ofProject d (p.resolveSchemas d)).target? (key.2.resolveSchema d)).isNone).map
        fun key => (key.1.resolveSchemas d, key.2.resolveSchema d) := by
  rw [dangling, Project.foreignKeys_resolveSchemas, List.filter_map]
  rfl

/-- The same foreign keys are reported before and after filling in if and only if the default schema is
settled or every reference that means a table afterwards means one, perhaps another, that left its
schema blank if the reference did and gave one if the reference did. -/
theorem dangling_agrees_iff (d : String) (p : Project) :
    (ofProject d (p.resolveSchemas d)).dangling (p.resolveSchemas d)
        = ((ofProject d p).dangling p).map
          (fun key => (key.1.resolveSchemas d, key.2.resolveSchema d)) ↔
      IsSettledDefault d ∨ ∀ key ∈ p.foreignKeys,
        (∃ t ∈ p.tables, (t.resolveSchemas d).key d = (key.2.resolveSchema d).target d) →
        ∃ t ∈ p.tables, (t.resolveSchemas d).key d = (key.2.resolveSchema d).target d ∧
          Unicode.isBlank t.schema = Unicode.isBlank key.2.refSchema := by
  rw [dangling_resolveSchemas, dangling,
    map_filter_eq_iff _ fun _ => target?_isNone_of_resolveSchemas]
  simp only [target?_isNone_iff, Project.mem_tables_resolveSchemas, forall_exists_index, and_imp,
    forall_apply_eq_imp_iff₂, key_resolveSchemas, target_resolveSchema, ne_eq]
  by_cases hd : IsSettledDefault d
  · rw [resolveSchema_self_iff.mpr hd]
    exact ⟨fun _ => .inl hd, fun _ _ _ hnone => hnone⟩
  · rw [or_iff_right hd]
    refine forall₂_congr fun key _ => ?_
    simp only [key_eq_target_iff_of_padded hd]
    constructor
    · intro hback t ht hkey
      by_contra hnone
      exact hback (fun u hu hmeans => hnone ⟨u, hu, hmeans⟩) t ht hkey
    · intro hfound hnone t ht hkey
      obtain ⟨u, hu, hmeans⟩ := hfound t ht hkey
      exact hnone u hu hmeans

end TableLookup

/-! ## The project -/

/-- When everything about a project is the same before and after its schemas are filled in. Filling
them in twice, the table that a reference finds and the report of references without a table all agree
if there is no white space around the default schema. If there is, they agree exactly if no schema is
blank; if each reference finds a table that left its schema blank just if the reference did; and if
each reference that means a table means such a table among others. -/
theorem lookup_resolveSchemas_iff (d : String) (p : Project) :
    ((p.resolveSchemas d).resolveSchemas d = p.resolveSchemas d ↔
      IsSettledDefault d ∨ ∀ s ∈ p.schemas, Unicode.isBlank s = false) ∧
    (∀ k : ForeignKey,
      (TableLookup.ofProject d (p.resolveSchemas d)).targetPosition? (k.resolveSchema d)
          = (TableLookup.ofProject d p).targetPosition? k ↔
        IsSettledDefault d ∨ ∀ i t,
          (TableLookup.ofProject d (p.resolveSchemas d)).targetPosition? (k.resolveSchema d)
            = some i →
          p.tables[i]? = some t → Unicode.isBlank t.schema = Unicode.isBlank k.refSchema) ∧
    ((TableLookup.ofProject d (p.resolveSchemas d)).dangling (p.resolveSchemas d)
        = ((TableLookup.ofProject d p).dangling p).map
          (fun key => (key.1.resolveSchemas d, key.2.resolveSchema d)) ↔
      IsSettledDefault d ∨ ∀ key ∈ p.foreignKeys,
        (∃ t ∈ p.tables, (t.resolveSchemas d).key d = (key.2.resolveSchema d).target d) →
        ∃ t ∈ p.tables, (t.resolveSchemas d).key d = (key.2.resolveSchema d).target d ∧
          Unicode.isBlank t.schema = Unicode.isBlank key.2.refSchema) :=
  ⟨p.resolveSchemas_resolveSchemas_iff d, TableLookup.targetPosition?_agrees_iff d p,
    TableLookup.dangling_agrees_iff d p⟩

/-- A table without a schema, and a reference that gives the default schema. -/
def paddedProject : Project where
  name := "Shop"
  description := none
  tables := [
    { schema := "", name := "Customers", primaryKeyName := none, columns := [], foreignKeys := []
      indexes := [], checkConstraints := [], uniqueConstraints := [] },
    { schema := "", name := "Orders", primaryKeyName := none, columns := []
      foreignKeys := [{ name := some "FK_Orders", refSchema := "app", refTable := "Customers"
                        onDeleteAction := none, columns := [⟨"CustomerId", "Id"⟩] }]
      indexes := [], checkConstraints := [], uniqueConstraints := [] }]

/-- With white space around the default schema nothing of this agrees: filling in twice is not filling
in once, and the reference finds its table only after filling in. -/
theorem paddedProject_disagrees :
    (paddedProject.resolveSchemas " app ").resolveSchemas " app "
        ≠ paddedProject.resolveSchemas " app " ∧
      (∃ key ∈ paddedProject.foreignKeys,
        (TableLookup.ofProject " app " paddedProject).targetPosition? key.2 = none ∧
        (TableLookup.ofProject " app " (paddedProject.resolveSchemas " app ")).targetPosition?
          (key.2.resolveSchema " app ") = some 0) ∧
      (TableLookup.ofProject " app " paddedProject).dangling paddedProject ≠ [] ∧
      (TableLookup.ofProject " app " (paddedProject.resolveSchemas " app ")).dangling
        (paddedProject.resolveSchemas " app ") = [] := by
  decide +kernel

end SchemaScript
