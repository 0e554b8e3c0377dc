import Mathlib.Data.List.Nodup
import Mathlib.Data.Nat.Find
import SchemaScript.Proofs.Naming.Accounts
import SchemaScript.Proofs.Text.Digits
import SchemaScript.Proofs.Unicode.Casing

/-!
# SchemaScript.Proofs.Naming.FreshNames

Names of foreign keys that are not given one. Words are drawn until one of them makes a name that is
free. The words behind the listed ones are consecutive numbers, and different words make names that
differ in lower case as well; so a free one is met unless the scope holds as many names as there are
words.

* `WordSource.after`, `WordSource.word`: a source after some draws, and the words it gives.
* `folded_suffixed_inj`: different words make names that are told apart.
* `exists_free_word`: how many draws are enough.
* `FirstFree`, `freshName_of_firstFree`: drawing ends at the first free name, however many more draws
  are allowed.
* `nameForeignKey_unnamed`: the name that is issued.
-/

namespace SchemaScript

open Unicode

/-! ## Words -/

namespace WordSource

/-- The source after `n` words have been drawn. -/
def after (s : WordSource) : Nat → WordSource
  | 0 => s
  | n + 1 => s.draw.2.after n

/-- The word that is drawn after `n` others. -/
def word (s : WordSource) (n : Nat) : UInt32 :=
  (s.after n).draw.1

theorem after_succ (s : WordSource) (n : Nat) : s.after (n + 1) = (s.after n).draw.2 := by
  induction n generalizing s with
  | zero => rfl
  | succ n ih => exact ih s.draw.2

theorem pending_draw (s : WordSource) : s.draw.2.pending = s.pending.tail := by
  unfold draw
  split <;> simp_all

theorem pending_after (s : WordSource) (n : Nat) : (s.after n).pending = s.pending.drop n := by
  induction n generalizing s with
  | zero => rfl
  | succ n ih => rw [after, ih, pending_draw, List.drop_tail]

theorem drawn_draw (s : WordSource) : s.draw.2.drawn = s.drawn + 1 := by
  unfold draw
  split <;> rfl

theorem drawn_after (s : WordSource) (n : Nat) : (s.after n).drawn = s.drawn + n := by
  induction n with
  | zero => rfl
  | succ n ih => rw [after_succ, drawn_draw, ih, Nat.add_assoc]

/-- With no word listed, the next word is followed by its successor. -/
theorem draw_draw_of_exhausted {s : WordSource} (h : s.pending = []) :
    s.draw.2.draw.1 = s.draw.1 + 1 := by
  simp only [draw, h]

/-- Behind the listed words every word is followed by its successor. -/
theorem word_exhausted (s : WordSource) (j : Nat) :
    s.word (s.pending.length + j) = s.word s.pending.length + UInt32.ofNat j := by
  induction j with
  | zero => simp
  | succ j ih =>
    have hpending : (s.after (s.pending.length + j)).pending = [] := by
      rw [pending_after, List.drop_eq_nil_of_le (Nat.le_add_right _ _)]
    have hone : UInt32.ofNat 1 = 1 := rfl
    rw [← Nat.add_assoc, word, after_succ, draw_draw_of_exhausted hpending, ← word, ih,
      UInt32.ofNat_add, hone, UInt32.add_assoc]

theorem word_exhausted_inj (s : WordSource) {j k : Nat} (hj : j < UInt32.size)
    (hk : k < UInt32.size) (h : s.word (s.pending.length + j) = s.word (s.pending.length + k)) :
    j = k := by
  rw [word_exhausted, word_exhausted, UInt32.add_right_inj] at h
  have hnat := congrArg UInt32.toNat h
  rwa [UInt32.toNat_ofNat_of_lt' hj, UInt32.toNat_ofNat_of_lt' hk] at hnat

end WordSource

/-! ## Names with words -/

theorem lowerFrom_hexWord (inWord : Bool) (w : UInt32) :
    lowerFrom inWord (Text.hexWord w) = Text.hexWord w := by
  have hdigit : ∀ d < 16, Nat.digitChar d ≠ 'Σ' ∧ lowerChar (Nat.digitChar d) = [Nat.digitChar d] := by
    decide +kernel
  refine lowerFrom_eq_self inWord fun c hc => ?_
  obtain ⟨i, -, rfl⟩ := List.mem_map.mp hc
  exact hdigit _ (Nat.mod_lt _ (by decide))

/-- No word goes over the underscore, so what becomes of the stem does not depend on the digits. -/
theorem toList_lower_suffixed (stem : String) (w : UInt32) :
    (lower (suffixed stem w)).toList = lowerFrom false stem.toList ++ '_' :: Text.hexWord w := by
  rw [lower, suffixed, String.toList_ofList, String.toList_ofList, lowerChars,
    endsWord_underscore.lowerFrom, lowerFrom_hexWord]

/-- Different words make names that are told apart. -/
theorem folded_suffixed_inj {space stem : String} {v w : UInt32}
    (h : (⟨space, suffixed stem v⟩ : Claim).folded = (⟨space, suffixed stem w⟩ : Claim).folded) :
    v = w := by
  have hlower : lower (suffixed stem v) = lower (suffixed stem w) := (Claim.mk.inj h).2
  have hlist := congrArg String.toList hlower
  rw [toList_lower_suffixed, toList_lower_suffixed, List.append_cancel_left_eq] at hlist
  exact Text.hexWord_injective (List.cons.inj hlist).2

/-- Of one more consecutive words than the scope has names, one makes a name that is free. -/
theorem exists_free_word {scope : NameScope} (space stem : String) (words : WordSource)
    (h : scope.size < UInt32.size) :
    ∃ n ≤ words.pending.length + scope.size,
      scope.contains ⟨space, suffixed stem (words.word n)⟩ = false := by
  by_contra hnone
  have htaken : ∀ j ∈ List.range (scope.size + 1),
      (⟨space, suffixed stem (words.word (words.pending.length + j))⟩ : Claim).folded
        ∈ scope.issued := by
    intro j hj
    rw [List.mem_range] at hj
    by_contra hfree
    refine hnone ⟨words.pending.length + j, by omega, Bool.eq_false_iff.mpr fun hcontains => ?_⟩
    exact hfree (NameScope.contains_iff.mp hcontains)
  have hnodup : ((List.range (scope.size + 1)).map fun j =>
      (⟨space, suffixed stem (words.word (words.pending.length + j))⟩ : Claim).folded).Nodup := by
    refine List.nodup_range.map_on fun j hj k hk heq => ?_
    exact words.word_exhausted_inj (Nat.lt_of_lt_of_le (List.mem_range.mp hj) h)
      (Nat.lt_of_lt_of_le (List.mem_range.mp hk) h) (folded_suffixed_inj heq)
  have hlength := hnodup.length_le_of_subset (List.forall_mem_map.mpr htaken)
  rw [List.length_map, List.length_range] at hlength
  exact Nat.lt_irrefl _ hlength

/-! ## Drawing -/

/-- After `n` draws whose names are taken comes a word whose name is free. -/
structure FirstFree (scope : NameScope) (space stem : String) (words : WordSource) (n : Nat) :
    Prop where
  free : scope.contains ⟨space, suffixed stem (words.word n)⟩ = false
  taken : ∀ m < n, scope.contains ⟨space, suffixed stem (words.word m)⟩ = true

theorem exists_firstFree {scope : NameScope} (space stem : String) (words : WordSource)
    (h : scope.size < UInt32.size) :
    ∃ n ≤ words.pending.length + scope.size, FirstFree scope space stem words n := by
  obtain ⟨n, hn, hfree⟩ := exists_free_word space stem words h
  have hexists : ∃ n, scope.contains ⟨space, suffixed stem (words.word n)⟩ = false := ⟨n, hfree⟩
  refine ⟨Nat.find hexists, Nat.le_trans (Nat.find_min' hexists hfree) hn, Nat.find_spec hexists,
    fun m hm => ?_⟩
  exact (Bool.not_eq_false _).mp (Nat.find_min hexists hm)

/-- By induction on the draws whose names are taken. -/
theorem freshName_of_firstFree {scope : NameScope} {space stem : String} {words : WordSource}
    {n fuel : Nat} (h : FirstFree scope space stem words n) (hfuel : n < fuel) :
    freshName space stem scope fuel words = some {
      name := suffixed stem (words.word n)
      scope := scope.insert ⟨space, suffixed stem (words.word n)⟩
      words := words.after (n + 1)
      events := (List.range n).map fun m => .suffixCollided (suffixed stem (words.word m)) } := by
  induction n generalizing words fuel with
  | zero =>
    obtain ⟨fuel, rfl⟩ := Nat.exists_eq_add_one_of_ne_zero (Nat.ne_of_gt hfuel)
    have hfree : scope.contains ⟨space, suffixed stem words.draw.1⟩ = false := h.free
    simp only [freshName, hfree]
    rfl
  | succ n ih =>
    obtain ⟨fuel, rfl⟩ := Nat.exists_eq_add_one_of_ne_zero (Nat.ne_of_gt (Nat.zero_lt_of_lt hfuel))
    have htaken : scope.contains ⟨space, suffixed stem words.draw.1⟩ = true :=
      h.taken 0 (Nat.zero_lt_succ n)
    have hrest : FirstFree scope space stem words.draw.2 n :=
      ⟨h.free, fun m hm => h.taken (m + 1) (Nat.succ_lt_succ hm)⟩
    simp only [freshName, htaken, if_true, ih hrest (Nat.lt_of_succ_lt_succ hfuel), Option.map_some]
    rw [List.range_succ_eq_map, List.map_cons, List.map_map]
    rfl

/-! ## Foreign keys -/

theorem givenName_eq_none_iff {name : Option String} :
    givenName name = none ↔ ∀ text ∈ name, isBlank text = true := by
  cases name with
  | none => simp [givenName]
  | some text => simp [givenName]

/-- The digits of the word drawn, with the underscore in front of them, complete the stem. -/
theorem toList_suffixed_foreignKeyStem (t : Table) (k : ForeignKey) (w : UInt32) :
    (suffixed (t.foreignKeyStem k) w).toList
      = ("FK_" ++ t.name ++ "_" ++ k.refTable).toList.take 119
        ++ '_' :: (Nat.toDigits 16 w.toNat).leftpad 8 '0' := by
  rw [suffixed, String.toList_ofList, Table.foreignKeyStem, String.toList_ofList,
    Text.hexWord_eq_leftpad]
  rfl

theorem length_suffixed_foreignKeyStem_le (t : Table) (k : ForeignKey) (w : UInt32) :
    (suffixed (t.foreignKeyStem k) w).length ≤ maxNameLength := by
  have htake := List.length_take_le 119 ("FK_" ++ t.name ++ "_" ++ k.refTable).toList
  rw [← String.length_toList, suffixed, String.toList_ofList, Table.foreignKeyStem,
    String.toList_ofList, List.length_append, List.length_cons, Text.length_hexWord]
  exact Nat.add_le_add_right htake 9

/-- A foreign key that is not given a name gets the first free one, with no more draws than there are
words listed and names in the scope, and one more; to allow more draws makes no difference. The name
ends in the eight digits of the word that was drawn last, it was not in the scope before, and nothing
else enters the scope. -/
theorem nameForeignKey_unnamed {scope : NameScope} {words : WordSource} {t : Table} {k : ForeignKey}
    (hname : ∀ text ∈ k.name, isBlank text = true) (hscope : scope.size < UInt32.size) :
    ∃ n ≤ words.pending.length + scope.size, ∃ i,
      nameForeignKey scope words t k = some i ∧
      (∀ fuel > n, freshName t.constraintSpace (t.foreignKeyStem k) scope fuel words = some i) ∧
      i.words = words.after (n + 1) ∧ i.words.drawn = words.drawn + (n + 1) ∧
      FirstFree scope t.constraintSpace (t.foreignKeyStem k) words n ∧
      i.name.toList = ("FK_" ++ t.name ++ "_" ++ k.refTable).toList.take 119
        ++ '_' :: (Nat.toDigits 16 (words.word n).toNat).leftpad 8 '0' ∧
      i.name.length ≤ 128 ∧
      scope.contains ⟨t.constraintSpace, i.name⟩ = false ∧
      i.scope.issued = (⟨t.constraintSpace, i.name⟩ : Claim).folded :: scope.issued := by
  obtain ⟨n, hn, hfirst⟩ := exists_firstFree t.constraintSpace (t.foreignKeyStem k) words hscope
  have hdrawing : nameForeignKey scope words t k = freshName t.constraintSpace (t.foreignKeyStem k)
      scope (words.pending.length + scope.size + 1) words := by
    rw [nameForeignKey, givenName_eq_none_iff.mpr hname]
  have hissued := freshName_of_firstFree hfirst (Nat.lt_succ_of_le hn)
  refine ⟨n, hn, _, hdrawing.trans hissued, fun fuel => freshName_of_firstFree hfirst, rfl,
    words.drawn_after (n + 1), hfirst, toList_suffixed_foreignKeyStem t k _,
    length_suffixed_foreignKeyStem_le t k _, hfirst.free, NameScope.issued_insert hfirst.free⟩

/-- A table whose name ends in a capital sigma. -/
def streetTable : Table where
  schema := " Plan "
  name := "ΟΔΟΣ"
  primaryKeyName := none
  columns := []
  foreignKeys := []
  indexes := []
  checkConstraints := []
  uniqueConstraints := []

/-- A reference whose name is blank. -/
def streetKey : ForeignKey where
  name := some " "
  refSchema := ""
  refTable := "Σ"
  onDeleteAction := none
  columns := [⟨"Id", "Id"⟩]

/-- The names with the last word and the first one are taken, each in another case. -/
def streetScope : NameScope :=
  (NameScope.empty.insert ⟨"PLAN", "fk_οδος_σ_FFFFFFFF"⟩).insert ⟨"plan", "FK_ΟΔΟΣ_Σ_00000000"⟩

theorem nameForeignKey_unnamed_street :
    (∀ text ∈ streetKey.name, isBlank text = true) ∧ streetScope.size < UInt32.size ∧
      ∃ n ≤ 3, ∃ i,
        nameForeignKey streetScope (.ofList [0xFFFFFFFF]) streetTable streetKey = some i ∧
        i.words.drawn = n + 1 ∧ i.name = "FK_ΟΔΟΣ_Σ_00000001" ∧
        i.scope.issued = (⟨"Plan", i.name⟩ : Claim).folded :: streetScope.issued := by
  have hname : ∀ text ∈ streetKey.name, isBlank text = true := by simp [streetKey]; decide
  have hscope : streetScope.size < UInt32.size := by decide +kernel
  obtain ⟨n, hn, i, hi, -, -, hdrawn, -, -, -, -, hissued⟩ :=
    @nameForeignKey_unnamed streetScope (.ofList [0xFFFFFFFF]) streetTable streetKey hname hscope
  have hresult : (nameForeignKey streetScope (.ofList [0xFFFFFFFF]) streetTable streetKey).map
      (·.name) = some "FK_ΟΔΟΣ_Σ_00000001" := by decide +kernel
  rw [hi] at hresult
  exact ⟨hname, hscope, n, hn, i, hi, by rw [hdrawn, Nat.add_comm]; rfl, Option.some.inj hresult,
    hissued⟩

end SchemaScript
