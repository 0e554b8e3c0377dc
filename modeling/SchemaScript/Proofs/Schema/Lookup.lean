import SchemaScript.Schema.Lookup

/-!
# SchemaScript.Proofs.Schema.Lookup

Which table is found under a key, and which foreign keys are reported: those whose key is the key of
no table, in the order in which they are declared.

* `TableLookup.get?_eq_some_iff`: of two tables with one key the later one is found.
* `Project.placedForeignKeys`: the foreign keys of a project with the places where they are declared.
* `TableLookup.dangling_eq`: the report by places.
-/

namespace SchemaScript

namespace TableLookup

variable {d : String} {p : Project} {key : TableKey}

theorem get?_ofProject (d : String) (p : Project) (key : TableKey) :
    (ofProject d p).get? key = (p.tables.filter fun t => t.key d == key).getLast? := by
  rw [get?, ofProject, List.filter_map, List.getLast?_map, Option.map_map]
  exact Option.map_id'

theorem get?_eq_some_iff {t : Table} :
    (ofProject d p).get? key = some t ↔
      ∃ front back, p.tables = front ++ t :: back ∧ t.key d = key ∧ ∀ u ∈ back, u.key d ≠ key := by
  rw [get?_ofProject, List.getLast?_filter, List.find?_eq_some_iff_append]
  constructor
  · rintro ⟨hkey, later, earlier, htables, hlater⟩
    refine ⟨earlier.reverse, later.reverse, ?_, beq_iff_eq.mp hkey, fun u hu => ?_⟩
    · rw [← List.reverse_reverse p.tables, htables]
      simp
    · simpa using hlater u (List.mem_reverse.mp hu)
  · rintro ⟨front, back, htables, hkey, hback⟩
    refine ⟨beq_iff_eq.mpr hkey, back.reverse, front.reverse, ?_, fun u hu => ?_⟩
    · rw [htables]
      simp
    · simpa using hback u (List.mem_reverse.mp hu)

theorem get?_eq_none_iff : (ofProject d p).get? key = none ↔ ∀ t ∈ p.tables, t.key d ≠ key := by
  rw [get?_ofProject, List.getLast?_eq_none_iff, List.filter_eq_nil_iff]
  simp only [beq_iff_eq, ne_eq]

theorem target?_isNone_iff {k : ForeignKey} :
    ((ofProject d p).target? k).isNone = true ↔ ∀ t ∈ p.tables, t.key d ≠ k.target d := by
  rw [target?, Option.isNone_iff_eq_none, get?_eq_none_iff]
  rfl

theorem mem_dangling_iff {key : Table × ForeignKey} :
    key ∈ (ofProject d p).dangling p ↔
      key ∈ p.foreignKeys ∧ ∀ t ∈ p.tables, t.key d ≠ key.2.target d := by
  rw [dangling, List.mem_filter, target?_isNone_iff]

end TableLookup

/-! ## Places -/

/-- Where a foreign key is declared: the position of its table, and its own among the keys of the
table. -/
structure KeyPlace where
  table : Nat
  key : Nat

/-- A place stands before another if its table does, or its key does in the same table. -/
def KeyPlace.Before (a b : KeyPlace) : Prop :=
  a.table < b.table ∨ a.table = b.table ∧ a.key < b.key

/-- The foreign keys of a project, each with its place and its table. -/
def Project.placedForeignKeys (p : Project) : List (KeyPlace × Table × ForeignKey) :=
  p.tables.zipIdx.flatMap fun (t, i) => t.foreignKeys.zipIdx.map fun (k, j) => (⟨i, j⟩, t, k)

theorem pairwise_zipIdx {α : Type} (l : List α) (n : Nat) :
    (l.zipIdx n).Pairwise fun a b => a.2 < b.2 := by
  induction l generalizing n with
  | nil => exact .nil
  | cons a l ih => exact .cons (fun b hb => List.le_snd_of_mem_zipIdx hb) (ih (n + 1))

namespace Project

theorem mem_placedForeignKeys {p : Project} {i j : Nat} {t : Table} {k : ForeignKey} :
    (⟨i, j⟩, t, k) ∈ p.placedForeignKeys ↔
      p.tables[i]? = some t ∧ t.foreignKeys[j]? = some k := by
  rw [placedForeignKeys, List.mem_flatMap]
  constructor
  · rintro ⟨⟨u, n⟩, hu, hmem⟩
    obtain ⟨⟨l, m⟩, hl, heq⟩ := List.mem_map.mp hmem
    cases heq
    exact ⟨List.mem_zipIdx_iff_getElem?.mp hu, List.mem_zipIdx_iff_getElem?.mp hl⟩
  · rintro ⟨ht, hk⟩
    exact ⟨(t, i), List.mem_zipIdx_iff_getElem?.mpr ht,
      List.mem_map.mpr ⟨(k, j), List.mem_zipIdx_iff_getElem?.mpr hk, rfl⟩⟩

/-- Without their places they are the foreign keys of the project. -/
theorem map_snd_placedForeignKeys (p : Project) : p.placedForeignKeys.map (·.2) = p.foreignKeys := by
  have htable : ∀ e : Table × Nat,
      (e.1.foreignKeys.zipIdx.map fun (k, j) => (KeyPlace.mk e.2 j, e.1, k)).map (·.2)
        = e.1.foreignKeys.map fun k => (e.1, k) := by
    intro e
    calc (e.1.foreignKeys.zipIdx.map fun (k, j) => (KeyPlace.mk e.2 j, e.1, k)).map (·.2)
      _ = (e.1.foreignKeys.zipIdx.map Prod.fst).map fun k => (e.1, k) := by
        rw [List.map_map, List.map_map]
        rfl
      _ = _ := by rw [List.zipIdx_map_fst]
  calc p.placedForeignKeys.map (·.2)
    _ = p.tables.zipIdx.flatMap fun e => e.1.foreignKeys.map fun k => (e.1, k) := by
      rw [placedForeignKeys, List.map_flatMap]
      exact congrArg (p.tables.zipIdx.flatMap ·) (funext htable)
    _ = (p.tables.zipIdx.map Prod.fst).flatMap fun t => t.foreignKeys.map fun k => (t, k) := by
      rw [List.flatMap_map]
    _ = p.foreignKeys := by rw [List.zipIdx_map_fst, foreignKeys]

theorem placedForeignKeys_inOrder (p : Project) :
    p.placedForeignKeys.Pairwise fun a b => a.1.Before b.1 := by
  rw [placedForeignKeys, List.pairwise_flatMap]
  constructor
  · intro e _
    rw [List.pairwise_map]
    exact (pairwise_zipIdx e.1.foreignKeys 0).imp fun h => .inr ⟨rfl, h⟩
  · refine (pairwise_zipIdx p.tables 0).imp fun h a ha b hb => ?_
    obtain ⟨-, -, rfl⟩ := List.mem_map.mp ha
    obtain ⟨-, -, rfl⟩ := List.mem_map.mp hb
    exact .inl h

end Project

/-- The report lists foreign keys in the order of their places, and each of those without a table at
its own place. -/
theorem TableLookup.dangling_eq (d : String) (p : Project) :
    ∃ listed : List (KeyPlace × Table × ForeignKey),
      listed.map (·.2) = (ofProject d p).dangling p ∧
      (listed.Pairwise fun a b => a.1.Before b.1) ∧
      ∀ i j t k, (⟨i, j⟩, t, k) ∈ listed ↔
        p.tables[i]? = some t ∧ t.foreignKeys[j]? = some k ∧
          ∀ u ∈ p.tables, u.key d ≠ k.target d := by
  refine ⟨p.placedForeignKeys.filter fun e => ((ofProject d p).target? e.2.2).isNone, ?_,
    p.placedForeignKeys_inOrder.filter _, fun i j t k => ?_⟩
  · rw [dangling, ← p.map_snd_placedForeignKeys, List.filter_map]
    rfl
  · rw [List.mem_filter, Project.mem_placedForeignKeys, target?_isNone_iff, and_assoc]

end SchemaScript
