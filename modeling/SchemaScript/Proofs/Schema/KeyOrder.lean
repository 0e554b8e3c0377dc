import Mathlib.Logic.Relation
import SchemaScript.Schema.Project

/-!
# SchemaScript.Proofs.Schema.KeyOrder

The order of the columns in a primary key. One stable sort puts the key columns into the order of
their places and those that have no place at the end.

* `filter_mergeSort`: a stable sort keeps the order of what it does not tell apart.
* `IsKeyOrder`: what the order of a key has to be; there is only one.
* `Table.primaryKey_eq_placedKey`: the key of a table is that of sorting the columns with a place and
  leaving the others as they are.
* `Table.isKeyOrder_primaryKey`: the key of a table is in this order.
* `NonKeyEdit`: changes to the other columns, which have no part in it.
-/

namespace SchemaScript

/-! ## Sorting -/

section Sorting

variable {α β : Type} {le : α → α → Bool} {q : α → Bool}

/-- The elements that satisfy `q` are equal for the sort: they are a sorted part of the list, which
the sort keeps. -/
theorem filter_mergeSort (trans : ∀ a b c, le a b = true → le b c = true → le a c = true)
    (total : ∀ a b, (le a b || le b a) = true)
    (hq : ∀ a b, q a = true → q b = true → le a b = true) (l : List α) :
    (l.mergeSort le).filter q = l.filter q := by
  have hsorted : (l.filter q).Pairwise (le · · = true) :=
    List.pairwise_filter.mpr (List.pairwise_of_forall fun a b => hq a b)
  have hsublist : List.Sublist ((l.filter q).filter q) ((l.mergeSort le).filter q) :=
    (List.sublist_mergeSort trans total hsorted List.filter_sublist).filter q
  have hlength : ((l.mergeSort le).filter q).length = (l.filter q).length :=
    ((List.mergeSort_perm l le).filter q).length_eq
  simp only [List.filter_filter, Bool.and_self] at hsublist
  exact (hsublist.eq_of_length hlength.symm).symm

variable [DecidableEq β] {key : α → β} {l l' : List α}

theorem mem_of_filter_eq (h : ∀ k, l.filter (key · = k) = l'.filter (key · = k)) {a : α}
    (ha : a ∈ l) : a ∈ l' := by
  have hfilter : a ∈ l.filter (key · = key a) := by simp [ha]
  rw [h] at hfilter
  exact (List.mem_filter.mp hfilter).1

/-- Two sorted lists are equal if the elements of each key stand in them in the same order. -/
theorem eq_of_pairwise_of_filter {r : β → β → Prop} (antisymm : ∀ m n, r m n → r n m → m = n)
    (hl : l.Pairwise fun a b => r (key a) (key b)) (hl' : l'.Pairwise fun a b => r (key a) (key b))
    (h : ∀ k, l.filter (key · = k) = l'.filter (key · = k)) : l = l' := by
  induction l generalizing l' with
  | nil =>
    cases l' with
    | nil => rfl
    | cons b bs =>
      exact absurd (mem_of_filter_eq (fun k => (h k).symm) List.mem_cons_self) List.not_mem_nil
  | cons a as ih =>
    cases l' with
    | nil => exact absurd (mem_of_filter_eq h List.mem_cons_self) List.not_mem_nil
    | cons b bs =>
      have hab : a ∈ b :: bs := mem_of_filter_eq h List.mem_cons_self
      have hba : b ∈ a :: as := mem_of_filter_eq (fun k => (h k).symm) List.mem_cons_self
      obtain ⟨ha, has⟩ := List.pairwise_cons.mp hl
      obtain ⟨hb, hbs⟩ := List.pairwise_cons.mp hl'
      -- Each head is in the other list, so neither key comes after the other.
      have hkey : key a = key b := by
        rcases List.mem_cons.mp hab with rfl | hab
        · rfl
        · rcases List.mem_cons.mp hba with rfl | hba
          · rfl
          · exact antisymm _ _ (ha b hba) (hb a hab)
      have hhead := h (key a)
      simp only [List.filter_cons, hkey, decide_true, if_true, List.cons.injEq] at hhead
      obtain ⟨rfl, hsame⟩ := hhead
      refine congrArg _ (ih has hbs fun k => ?_)
      by_cases hk : key a = k
      · subst hk
        exact hsame
      · simpa [List.filter_cons, hk] using h k

end Sorting

/-! ## The order of a key -/

/-- The order of a key: it has the key columns, those with a place before those without, the places
ascend, and columns of one place or of none stand as they are declared. -/
structure IsKeyOrder (columns key : List Column) : Prop where
  perm : key.Perm (columns.filter (·.isPrimaryKey))
  placedFirst : ∃ placed unplaced, key = placed ++ unplaced ∧
    (∀ c ∈ placed, c.primaryKeyOrder.isSome = true) ∧ ∀ c ∈ unplaced, c.primaryKeyOrder = none
  ascending : (key.filterMap (·.primaryKeyOrder)).Pairwise (· ≤ ·)
  stable (place : Option Int32) : key.filter (·.primaryKeyOrder = place)
    = columns.filter fun c => c.isPrimaryKey ∧ c.primaryKeyOrder = place

/-- One place does not come after another; to have none is to come last. -/
def PlaceLE : Option Int32 → Option Int32 → Prop
  | some m, some n => m ≤ n
  | some _, none => True
  | none, some _ => False
  | none, none => True

theorem PlaceLE.antisymm : ∀ m n, PlaceLE m n → PlaceLE n m → m = n
  | some _, some _, hmn, hnm => congrArg some (Int32.le_antisymm hmn hnm)
  | some _, none, _, hnm => hnm.elim
  | none, some _, hmn, _ => hmn.elim
  | none, none, _, _ => rfl

theorem keyAtMost_iff {c d : Column} :
    c.keyAtMost d = true ↔ PlaceLE c.primaryKeyOrder d.primaryKeyOrder := by
  rw [Column.keyAtMost]
  cases c.primaryKeyOrder <;> cases d.primaryKeyOrder <;> simp [placeAtMost, PlaceLE]

theorem PlaceLE.trans : ∀ {m n o}, PlaceLE m n → PlaceLE n o → PlaceLE m o
  | some _, some _, some _, hmn, hno => Int32.le_trans hmn hno
  | some _, _, none, _, _ => trivial
  | none, none, none, _, _ => trivial

theorem PlaceLE.total : ∀ m n, PlaceLE m n ∨ PlaceLE n m
  | some m, some n => Int32.le_total m n
  | some _, none => .inl trivial
  | none, some _ => .inr trivial
  | none, none => .inl trivial

theorem keyAtMost_trans (c d e : Column) (hcd : c.keyAtMost d = true) (hde : d.keyAtMost e = true) :
    c.keyAtMost e = true :=
  keyAtMost_iff.mpr ((keyAtMost_iff.mp hcd).trans (keyAtMost_iff.mp hde))

theorem keyAtMost_total (c d : Column) : (c.keyAtMost d || d.keyAtMost c) = true := by
  rw [Bool.or_eq_true, keyAtMost_iff, keyAtMost_iff]
  exact PlaceLE.total _ _

theorem IsKeyOrder.pairwise {columns key : List Column} (h : IsKeyOrder columns key) :
    key.Pairwise fun c d => PlaceLE c.primaryKeyOrder d.primaryKeyOrder := by
  obtain ⟨placed, unplaced, hkey, hplaced, hunplaced⟩ := h.placedFirst
  have hlast : key.Pairwise fun c d => c.primaryKeyOrder = none → d.primaryKeyOrder = none := by
    have hsome : ∀ c ∈ placed, c.primaryKeyOrder ≠ none :=
      fun c hc => Option.isSome_iff_ne_none.mp (hplaced c hc)
    rw [hkey, List.pairwise_append]
    exact ⟨List.pairwise_of_forall_mem_list fun c hc _ _ hnone => absurd hnone (hsome c hc),
      List.pairwise_of_forall_mem_list fun _ _ d hd _ => hunplaced d hd,
      fun _ _ d hd _ => hunplaced d hd⟩
  refine (hlast.and (List.pairwise_filterMap.mp h.ascending)).imp fun {c d} hcd => ?_
  obtain ⟨hnone, hle⟩ := hcd
  cases hc : c.primaryKeyOrder with
  | none =>
    rw [hnone hc]
    trivial
  | some m =>
    cases hd : d.primaryKeyOrder with
    | none => trivial
    | some n => exact hle m hc n hd

/-- The order of a key is determined by the columns. -/
theorem IsKeyOrder.eq {columns key key' : List Column} (h : IsKeyOrder columns key)
    (h' : IsKeyOrder columns key') : key = key' :=
  eq_of_pairwise_of_filter PlaceLE.antisymm h.pairwise h'.pairwise fun place => by
    rw [h.stable, h'.stable]

namespace Table

theorem primaryKey_perm (t : Table) : t.primaryKey.Perm t.primaryKeyColumns :=
  List.mergeSort_perm _ _

theorem primaryKey_eq_nil_iff (t : Table) :
    t.primaryKey = [] ↔ ∀ c ∈ t.columns, c.isPrimaryKey = false := by
  rw [← List.length_eq_zero_iff, t.primaryKey_perm.length_eq, List.length_eq_zero_iff,
    primaryKeyColumns, List.filter_eq_nil_iff]
  simp

/-- A key column is the only one if the key has one column. -/
theorem primaryKeyColumns_eq_singleton_iff {t : Table} {c : Column} (hc : c ∈ t.columns) :
    t.primaryKeyColumns = [c] ↔ c.isPrimaryKey = true ∧ t.primaryKeyColumns.length = 1 := by
  have hmem : c ∈ t.primaryKeyColumns ↔ c.isPrimaryKey = true := by
    simp [primaryKeyColumns, hc]
  constructor
  · intro h
    rw [← hmem, h]
    exact ⟨List.mem_singleton_self c, rfl⟩
  · rintro ⟨hkey, hlength⟩
    obtain ⟨d, hd⟩ := List.length_eq_one_iff.mp hlength
    rw [← hmem, hd, List.mem_singleton] at hkey
    rw [hd, hkey]

/-! ### Sorting the columns with a place apart -/

/-- The place of a column that has one. -/
def place (c : Column) : Int :=
  (c.primaryKeyOrder.map Int32.toInt).getD 0

/-- The key columns with a place by their places, and then those without. -/
def placedKey (t : Table) : List Column :=
  (t.primaryKeyColumns.filter (·.primaryKeyOrder.isSome)).mergeSort (fun c d => place c ≤ place d)
    ++ t.primaryKeyColumns.filter (·.primaryKeyOrder.isNone)

theorem place_trans (c d e : Column) (hcd : decide (place c ≤ place d) = true)
    (hde : decide (place d ≤ place e) = true) : decide (place c ≤ place e) = true := by
  simp only [decide_eq_true_eq] at *
  omega

theorem place_total (c d : Column) :
    (decide (place c ≤ place d) || decide (place d ≤ place c)) = true := by
  simp only [Bool.or_eq_true, decide_eq_true_eq]
  omega

theorem isKeyOrder_placedKey (t : Table) : IsKeyOrder t.columns t.placedKey where
  perm := by
    have hunplaced : (t.primaryKeyColumns.filter fun c => c.primaryKeyOrder.isNone)
        = t.primaryKeyColumns.filter fun c => !c.primaryKeyOrder.isSome := by
      simp
    rw [placedKey, hunplaced]
    exact ((List.mergeSort_perm _ _).append_right _).trans (List.filter_append_perm _ _)
  placedFirst := by
    refine ⟨_, _, rfl, fun c hc => ?_, fun c hc => ?_⟩
    · rw [List.mem_mergeSort] at hc
      exact (List.mem_filter.mp hc).2
    · exact Option.isNone_iff_eq_none.mp (List.mem_filter.mp hc).2
  ascending := by
    have hunplaced : (t.primaryKeyColumns.filter (·.primaryKeyOrder.isNone)).filterMap
        (·.primaryKeyOrder) = [] := by
      simp [List.filterMap_eq_nil_iff]
    rw [placedKey, List.filterMap_append, hunplaced, List.append_nil, List.pairwise_filterMap]
    refine (List.pairwise_mergeSort place_trans place_total _).imp fun {c d} hcd m hc n hd => ?_
    rw [decide_eq_true_eq, place, place, hc, hd] at hcd
    exact Int32.le_iff_toInt_le.mpr hcd
  stable order := by
    have hsort (cs : List Column) :
        (cs.mergeSort fun c d => place c ≤ place d).filter (·.primaryKeyOrder = order)
          = cs.filter (·.primaryKeyOrder = order) := by
      refine filter_mergeSort place_trans place_total (fun c d hc hd => ?_) cs
      have hplace : place c = place d := by
        rw [place, place, of_decide_eq_true hc, of_decide_eq_true hd]
      exact decide_eq_true (Int.le_of_eq hplace)
    rw [placedKey, List.filter_append, hsort, primaryKeyColumns]
    simp only [List.filter_filter]
    cases order with
    | none =>
      have hplaced : ∀ c ∈ t.columns, ¬ (decide (c.primaryKeyOrder = none)
          && (c.primaryKeyOrder.isSome && c.isPrimaryKey)) = true := by
        intro c _
        cases c.primaryKeyOrder <;> simp
      rw [List.filter_eq_nil_iff.mpr hplaced, List.nil_append]
      refine List.filter_congr fun c _ => ?_
      cases c.primaryKeyOrder <;> simp
    | some n =>
      have hunplaced : ∀ c ∈ t.columns, ¬ (decide (c.primaryKeyOrder = some n)
          && (c.primaryKeyOrder.isNone && c.isPrimaryKey)) = true := by
        intro c _
        cases c.primaryKeyOrder <;> simp
      rw [List.filter_eq_nil_iff.mpr hunplaced, List.append_nil]
      refine List.filter_congr fun c _ => ?_
      cases c.primaryKeyOrder <;> simp [Bool.and_comm]

/-- One sort by whether a place is missing and then by the places does what sorting the columns with a
place and leaving the others behind them does. Both are in order, and neither moves columns of one
place past each other. -/
theorem primaryKey_eq_placedKey (t : Table) : t.primaryKey = t.placedKey := by
  have hsorted := (List.pairwise_mergeSort keyAtMost_trans keyAtMost_total t.primaryKeyColumns).imp
    keyAtMost_iff.mp
  refine eq_of_pairwise_of_filter PlaceLE.antisymm hsorted t.isKeyOrder_placedKey.pairwise
    fun order => ?_
  have hstable : t.primaryKey.filter (·.primaryKeyOrder = order)
      = t.primaryKeyColumns.filter (·.primaryKeyOrder = order) := by
    refine filter_mergeSort keyAtMost_trans keyAtMost_total (fun c d hc hd => ?_) _
    rw [keyAtMost_iff, of_decide_eq_true hc, of_decide_eq_true hd]
    exact (PlaceLE.total order order).elim id id
  rw [t.isKeyOrder_placedKey.stable, hstable, primaryKeyColumns, List.filter_filter]
  refine List.filter_congr fun c _ => ?_
  simp [Bool.and_comm]

theorem isKeyOrder_primaryKey (t : Table) : IsKeyOrder t.columns t.primaryKey :=
  t.primaryKey_eq_placedKey ▸ t.isKeyOrder_placedKey

end Table

/-! ## The other columns -/

/-- A change that leaves the key columns alone: another column is put in, taken out or moved, or gets
another place, which says nothing about a column outside the key. -/
inductive NonKeyEdit : List Column → List Column → Prop
  | insert {front back : List Column} {c : Column} : c.isPrimaryKey = false →
      NonKeyEdit (front ++ back) (front ++ c :: back)
  | remove {front back : List Column} {c : Column} : c.isPrimaryKey = false →
      NonKeyEdit (front ++ c :: back) (front ++ back)
  | moveBack {front middle back : List Column} {c : Column} : c.isPrimaryKey = false →
      NonKeyEdit (front ++ c :: middle ++ back) (front ++ middle ++ c :: back)
  | moveFront {front middle back : List Column} {c : Column} : c.isPrimaryKey = false →
      NonKeyEdit (front ++ middle ++ c :: back) (front ++ c :: middle ++ back)
  | place {front back : List Column} {c : Column} (order : Option Int32) : c.isPrimaryKey = false →
      NonKeyEdit (front ++ c :: back) (front ++ { c with primaryKeyOrder := order } :: back)

theorem NonKeyEdit.filter_eq {columns columns' : List Column} (h : NonKeyEdit columns columns') :
    columns'.filter (·.isPrimaryKey) = columns.filter (·.isPrimaryKey) := by
  cases h <;> simp [*]

open Relation in
theorem filter_eq_of_nonKeyEdits {columns columns' : List Column}
    (h : ReflTransGen NonKeyEdit columns columns') :
    columns'.filter (·.isPrimaryKey) = columns.filter (·.isPrimaryKey) := by
  induction h with
  | refl => rfl
  | tail _ hedit ih => exact hedit.filter_eq.trans ih

/-- The key depends on the key columns alone. -/
theorem Table.primaryKey_of_nonKeyEdits {t : Table} {columns : List Column}
    (h : Relation.ReflTransGen NonKeyEdit t.columns columns) :
    { t with columns := columns }.primaryKey = t.primaryKey := by
  have hcolumns : { t with columns := columns }.primaryKeyColumns = t.primaryKeyColumns :=
    filter_eq_of_nonKeyEdits h
  rw [primaryKey, primaryKey, hcolumns]

end SchemaScript
