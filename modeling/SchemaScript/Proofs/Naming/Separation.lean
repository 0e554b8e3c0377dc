import SchemaScript.Naming.Names
import SchemaScript.Proofs.Unicode.Casing
import SchemaScript.Proofs.Text.Split
import SchemaScript.Schema.Lookup

/-!
# SchemaScript.Proofs.Naming.Separation

Whether names of different kinds, or of different tables, stay apart. The name space of a table's
indexes is one text, its schema and its name with a point between them, and a schema or a name may
have points in it as well; so this text may be a schema, or come from another table.

* `Declaration`: a name that a table declares, for a constraint or for an index.
* `Declaration.Repeats`: a name is the same as another of its kind, in the same schema or on the same
  table.
* `SpacesSeparate`: the name spaces of some tables stay apart.
* `spacesSeparate_iff`: names in those name spaces meet only if one repeats the other.
* `spacesSeparate_of_plain`: without points in schemas and without capital sigmas they stay apart.
-/

namespace SchemaScript

open Unicode

inductive NameKind where
  | constraint
  | index
deriving DecidableEq

/-- A name that is declared for a constraint or an index of a table. -/
structure Declaration where
  kind : NameKind
  table : Table
  name : String
deriving DecidableEq

namespace Declaration

def space (e : Declaration) : String :=
  match e.kind with
  | .constraint => e.table.constraintSpace
  | .index => e.table.indexSpace

def claim (e : Declaration) : Claim :=
  ⟨e.space, e.name⟩

/-- The place in which names have to differ: the schema for a constraint, the table for an index. -/
def SamePlace (d : String) (e f : Declaration) : Prop :=
  match e.kind with
  | .constraint => (e.table.key d).schema = (f.table.key d).schema
  | .index => e.table.key d = f.table.key d

/-- Both names are of one kind and in one place, and they are the same up to case. -/
def Repeats (d : String) (e f : Declaration) : Prop :=
  e.kind = f.kind ∧ SamePlace d e f ∧ lower e.name = lower f.name

end Declaration

/-- No name space of indexes is one of constraints, and no two tables that are told apart have one
name space for their indexes. -/
structure SpacesSeparate (d : String) (tables : List Table) : Prop where
  index_constraint : ∀ t ∈ tables, ∀ u ∈ tables, lower t.indexSpace ≠ lower u.constraintSpace
  index_index : ∀ t ∈ tables, ∀ u ∈ tables,
    lower t.indexSpace = lower u.indexSpace → t.key d = u.key d

/-! ## Schemas -/

theorem lower_eq_empty_iff {s : String} : lower s = "" ↔ s = "" := by
  constructor
  · intro h
    have hnil : lowerChars s.toList = [] := by simpa [lower] using congrArg String.toList h
    cases hs : s.toList with
    | nil => exact String.toList_eq_nil_iff.mp hs
    | cons c cs =>
      rw [hs, lowerChars, lowerFrom_cons] at hnil
      exact absurd (List.append_eq_nil_iff.mp hnil).1 (lowerImage_ne_nil _ _ _)
  · rintro rfl
    rfl

/-- Schemas that are the same up to case and white space around them mean the same. -/
theorem lower_resolveSchema_of_lower_trim {d s s' : String}
    (h : lower (trim s) = lower (trim s')) :
    lower (resolveSchema d s) = lower (resolveSchema d s') := by
  have hblank : isBlank s = isBlank s' := by
    rw [Bool.eq_iff_iff, isBlank_iff_trim_eq, isBlank_iff_trim_eq, ← lower_eq_empty_iff, h,
      lower_eq_empty_iff]
  rw [resolveSchema, resolveSchema, ← hblank]
  split
  · rfl
  · exact h

theorem key_schema_eq {d : String} {t u : Table}
    (h : lower t.constraintSpace = lower u.constraintSpace) : (t.key d).schema = (u.key d).schema :=
  lower_resolveSchema_of_lower_trim h

/-! ## Names that meet -/

/-- Two names meet if and only if their name spaces do and they are the same up to case. -/
theorem Declaration.folded_claim_eq_iff {e f : Declaration} :
    e.claim.folded = f.claim.folded ↔
      lower e.space = lower f.space ∧ lower e.name = lower f.name := by
  simp [Declaration.claim, Claim.folded]

/-- Name spaces stay apart if and only if no two names in them meet, except where one repeats the
other. -/
theorem spacesSeparate_iff {d : String} {tables : List Table} :
    SpacesSeparate d tables ↔ ∀ e f : Declaration, e.table ∈ tables → f.table ∈ tables →
      e.claim.folded = f.claim.folded → e.Repeats d f := by
  constructor
  · intro h e f he hf heq
    obtain ⟨hspace, hname⟩ := Declaration.folded_claim_eq_iff.mp heq
    obtain ⟨kind, t, name⟩ := e
    obtain ⟨kind', u, name'⟩ := f
    cases kind with
    | constraint =>
      cases kind' with
      | constraint => exact ⟨rfl, key_schema_eq hspace, hname⟩
      | index => exact absurd hspace.symm (h.index_constraint u hf t he)
    | index =>
      cases kind' with
      | constraint => exact absurd hspace (h.index_constraint t he u hf)
      | index => exact ⟨rfl, h.index_index t he u hf hspace, hname⟩
  · intro h
    refine ⟨fun t ht u hu heq => ?_, fun t ht u hu heq => ?_⟩
    · have hmeet := Declaration.folded_claim_eq_iff (e := ⟨.index, t, ""⟩)
        (f := ⟨.constraint, u, ""⟩)
      have hkind : NameKind.index = NameKind.constraint := (h _ _ ht hu (hmeet.mpr ⟨heq, rfl⟩)).1
      cases hkind
    · have hmeet := Declaration.folded_claim_eq_iff (e := ⟨.index, t, ""⟩) (f := ⟨.index, u, ""⟩)
      exact (h _ _ ht hu (hmeet.mpr ⟨heq, rfl⟩)).2.1

/-! ## Names without points and sigmas -/

theorem toList_lower_indexSpace (t : Table) :
    (lower t.indexSpace).toList
      = lowerFrom false (t.constraintSpace.toList ++ '.' :: t.name.toList) := by
  have hpoint : ".".toList = ['.'] := rfl
  simp [lower, lowerChars, Table.indexSpace, Table.constraintSpace, hpoint]

/-- A schema without a point is the name space of no table's indexes. -/
theorem lower_indexSpace_ne_constraintSpace (t : Table) {u : Table} (h : '.' ∉ u.schema.toList) :
    lower t.indexSpace ≠ lower u.constraintSpace := by
  intro heq
  have hindex : '.' ∈ (lower t.indexSpace).toList := by
    rw [toList_lower_indexSpace, point_mem_lowerFrom]
    simp
  rw [heq, lower, String.toList_ofList, lowerChars, point_mem_lowerFrom, Table.constraintSpace, trim,
    String.toList_ofList] at hindex
  exact h (mem_of_mem_trimChars hindex)

/-- A table whose schema has no point, and which has no capital sigma in its schema and its name. -/
structure Table.IsPlain (t : Table) : Prop where
  point : '.' ∉ t.schema.toList
  sigma_schema : 'Σ' ∉ t.schema.toList
  sigma_name : 'Σ' ∉ t.name.toList

theorem Table.IsPlain.toList_lower_indexSpace {t : Table} (h : t.IsPlain) :
    (lower t.indexSpace).toList
      = (lower t.constraintSpace).toList ++ '.' :: (lower t.name).toList := by
  have hschema : 'Σ' ∉ t.constraintSpace.toList := by
    rw [Table.constraintSpace, trim, String.toList_ofList]
    exact fun hmem => h.sigma_schema (mem_of_mem_trimChars hmem)
  have hboth : 'Σ' ∉ t.constraintSpace.toList ++ '.' :: t.name.toList := by
    simp [hschema, h.sigma_name]
  have hpoint : lowerChar '.' = ['.'] := by decide
  rw [SchemaScript.toList_lower_indexSpace, lowerFrom_of_sigma_not_mem _ hboth, List.flatMap_append,
    List.flatMap_cons, hpoint, lower, lower, String.toList_ofList, String.toList_ofList, lowerChars,
    lowerChars, lowerFrom_of_sigma_not_mem _ hschema, lowerFrom_of_sigma_not_mem _ h.sigma_name]
  rfl

/-- Index names of plain tables are apart unless the tables have one key: the first point of the name
space is the one that was put there. -/
theorem Table.IsPlain.key_eq {d : String} {t u : Table} (ht : t.IsPlain) (hu : u.IsPlain)
    (h : lower t.indexSpace = lower u.indexSpace) : t.key d = u.key d := by
  have hpoint : ∀ {t : Table}, t.IsPlain → '.' ∉ (lower t.constraintSpace).toList := by
    intro t ht hmem
    rw [lower, String.toList_ofList, lowerChars, point_mem_lowerFrom, Table.constraintSpace, trim,
      String.toList_ofList] at hmem
    exact ht.point (mem_of_mem_trimChars hmem)
  have hlists : (lower t.constraintSpace).toList ++ '.' :: (lower t.name).toList
      = (lower u.constraintSpace).toList ++ '.' :: (lower u.name).toList := by
    rw [← ht.toList_lower_indexSpace, ← hu.toList_lower_indexSpace, h]
  obtain ⟨hschemas, hnames⟩ := Text.append_cons_inj_of_not_mem (hpoint ht) (hpoint hu) hlists
  have hschema : lower (resolveSchema d t.schema) = lower (resolveSchema d u.schema) :=
    lower_resolveSchema_of_lower_trim (String.toList_inj.mp hschemas)
  have hname : lower t.name = lower u.name := String.toList_inj.mp hnames
  rw [Table.key, Table.key, TableKey.make, TableKey.make, TableKey.mk.injEq, lower_trim, lower_trim,
    hname]
  exact ⟨hschema, rfl⟩

theorem spacesSeparate_of_plain {d : String} {tables : List Table} (h : ∀ t ∈ tables, t.IsPlain) :
    SpacesSeparate d tables where
  index_constraint _ _ u hu := lower_indexSpace_ne_constraintSpace _ (h u hu).point
  index_index t ht u hu := (h t ht).key_eq (h u hu)

end SchemaScript
