import SchemaScript.Proofs.Files.Directory
import SchemaScript.Store.Store

/-!
# SchemaScript.Proofs.Store.Names

The names of the files of a store. A valid id gives plain names of files, different projects have
different files, no draft has the name of a project, and the ids are found again in the names.
-/

namespace SchemaScript

/-- The name of the file of a project. -/
def projectFile (id : String) : String :=
  id ++ projectExtension

/-- The name of the file in which a project is written first. -/
def draftFile (id : String) : String :=
  "." ++ id ++ projectExtension ++ ".tmp"

theorem Store.path_eq (s : Store) (id : String) : s.path id = joinPath s.root (projectFile id) :=
  rfl

theorem Store.draftPath_eq (s : Store) (id : String) :
    s.draftPath id = joinPath s.root (draftFile id) :=
  rfl

/-- The longest name that a project needs, and its path, are not too long for a file system. -/
structure Store.HasRoom (s : Store) (id : String) : Prop where
  name : (draftFile id).utf8ByteSize ≤ 255
  path : (joinPath s.root (draftFile id)).utf8ByteSize < 4096

/-! ## Different names -/

theorem toList_projectFile (id : String) :
    (projectFile id).toList = id.toList ++ ['.', 'j', 's', 'o', 'n'] :=
  String.toList_append

theorem toList_draftFile (id : String) :
    (draftFile id).toList =
      '.' :: id.toList ++ ['.', 'j', 's', 'o', 'n'] ++ ['.', 't', 'm', 'p'] := by
  simp [draftFile, projectExtension]

theorem projectFile_inj {i j : String} : projectFile i = projectFile j ↔ i = j := by
  rw [← String.toList_inj, toList_projectFile, toList_projectFile, List.append_left_inj,
    String.toList_inj]

theorem draftFile_inj {i j : String} : draftFile i = draftFile j ↔ i = j := by
  rw [← String.toList_inj, toList_draftFile, toList_draftFile, List.append_left_inj,
    List.append_left_inj, List.cons_inj_right, String.toList_inj]

theorem draftFile_ne_projectFile (i j : String) : draftFile i ≠ projectFile j := by
  intro h
  have hlast : (draftFile i).toList.getLast? = (projectFile j).toList.getLast? := by rw [h]
  rw [toList_draftFile, toList_projectFile, List.getLast?_append,
    List.getLast?_append (l := j.toList)] at hlast
  cases hlast

/-! ## Ids -/

theorem validId_ne_empty {id : String} (h : isValidId id = true) : id ≠ "" := by
  rintro rfl
  cases h

theorem not_mem_validId {id : String} (h : isValidId id = true) {c : Char}
    (hc : (Unicode.isAlphanumeric c || c == '-' || c == '_') = false) : c ∉ id.toList := by
  intro hmem
  have hall := List.all_eq_true.mp (Bool.and_eq_true_iff.mp h).2 c hmem
  rw [hc] at hall
  cases hall

theorem storedId?_eq_some {entry id : String} :
    storedId? entry = some id ↔ id ≠ "" ∧ entry = projectFile id := by
  rw [storedId?, Option.ite_none_right_eq_some, Bool.and_eq_true, Bool.not_eq_true',
    List.isEmpty_eq_false_iff, beq_iff_eq, Option.some_inj]
  constructor
  · rintro ⟨⟨hne, hentry⟩, rfl⟩
    refine ⟨fun h => hne ?_, ?_⟩
    · exact String.ofList_eq_empty_iff.mp h
    · rw [← String.toList_inj, toList_projectFile, String.toList_ofList]
      exact hentry
  · rintro ⟨hne, rfl⟩
    have hstem : (projectFile id).toList.take
        ((projectFile id).toList.length - projectExtension.toList.length) = id.toList := by
      rw [toList_projectFile, List.length_append]
      exact List.take_left' (Nat.add_sub_cancel ..).symm
    rw [hstem, toList_projectFile, String.ofList_toList]
    exact ⟨⟨fun h => hne (String.toList_eq_nil_iff.mp h), rfl⟩, rfl⟩

theorem storedId?_projectFile {id : String} (h : id ≠ "") : storedId? (projectFile id) = some id :=
  storedId?_eq_some.mpr ⟨h, rfl⟩

theorem storedId?_draftFile (id : String) : storedId? (draftFile id) = none :=
  Option.eq_none_iff_forall_ne_some.mpr fun j h =>
    draftFile_ne_projectFile id j (storedId?_eq_some.mp h).2

/-! ## Ids in a directory -/

/-- The ids behind the names of a directory, in order. -/
def listedIds (names : List String) : List String :=
  (names.filterMap storedId?).mergeSort fun i j => decide (i ≤ j)

theorem mem_listedIds {names : List String} {id : String} :
    id ∈ listedIds names ↔ id ≠ "" ∧ projectFile id ∈ names := by
  rw [listedIds, (List.mergeSort_perm _ _).mem_iff, List.mem_filterMap]
  constructor
  · rintro ⟨name, hname, hid⟩
    obtain ⟨hne, rfl⟩ := storedId?_eq_some.mp hid
    exact ⟨hne, hname⟩
  · rintro ⟨hne, hname⟩
    exact ⟨projectFile id, hname, storedId?_projectFile hne⟩

/-- Different names stand for different ids. -/
theorem pairwise_listedIds {names : List String} (h : names.Nodup) :
    (listedIds names).Pairwise (· < ·) := by
  have hnodup : (listedIds names).Nodup := by
    refine (List.mergeSort_perm _ _).nodup_iff.mpr (List.Pairwise.filterMap storedId?
      (fun i j hij a ha b hb hab => hij ?_) h)
    rw [(storedId?_eq_some.mp ha).2, (storedId?_eq_some.mp hb).2, hab]
  have hsorted : (listedIds names).Pairwise (· ≤ ·) := by
    have hle : (listedIds names).Pairwise fun i j => decide (i ≤ j) = true :=
      List.pairwise_mergeSort (by simpa using fun _ _ _ => String.le_trans)
        (by simpa using String.le_total) _
    exact hle.imp of_decide_eq_true
  exact (hsorted.and hnodup).imp fun ⟨hle, hne⟩ =>
    String.not_le.mp fun hge => hne (String.le_antisymm hle hge)

/-! ## Plain names -/

theorem size_draftFile (id : String) :
    (draftFile id).utf8ByteSize = 5 + (projectFile id).utf8ByteSize := by
  have hdot : ".".utf8ByteSize = 1 := rfl
  have htmp : ".tmp".utf8ByteSize = 4 := rfl
  simp only [draftFile, projectFile, String.utf8ByteSize_append, hdot, htmp]
  omega

theorem size_joinPath_le {base i j : String} (h : i.utf8ByteSize ≤ j.utf8ByteSize) :
    (joinPath base i).utf8ByteSize ≤ (joinPath base j).utf8ByteSize := by
  unfold joinPath
  split <;> simp only [String.utf8ByteSize_append] <;> omega

variable {id : String}

theorem isEntryName_draftFile (hv : isValidId id = true) : IsEntryName (draftFile id) where
  ne_empty h := by simpa [toList_draftFile] using congrArg String.toList h
  ne_here h := by simpa [toList_draftFile] using congrArg String.toList h
  ne_parent h := by simpa [toList_draftFile] using congrArg (List.length ∘ String.toList) h
  noSlash := by simpa [toList_draftFile] using not_mem_validId hv (c := '/') (by decide)

theorem isEntryName_projectFile (hv : isValidId id = true) : IsEntryName (projectFile id) where
  ne_empty h := by simpa [toList_projectFile] using congrArg String.toList h
  ne_here h := by simpa [toList_projectFile] using congrArg (List.length ∘ String.toList) h
  ne_parent h := by simpa [toList_projectFile] using congrArg (List.length ∘ String.toList) h
  noSlash := by simpa [toList_projectFile] using not_mem_validId hv (c := '/') (by decide)

theorem isPlainName_draftFile (hv : isValidId id = true)
    (hsize : (draftFile id).utf8ByteSize ≤ 255) : IsPlainName (draftFile id) where
  toIsEntryName := isEntryName_draftFile hv
  noNul := by simpa [toList_draftFile] using not_mem_validId hv (c := '\x00') (by decide)
  short := hsize

theorem isPlainName_projectFile (hv : isValidId id = true)
    (hsize : (draftFile id).utf8ByteSize ≤ 255) : IsPlainName (projectFile id) where
  toIsEntryName := isEntryName_projectFile hv
  noNul := by simpa [toList_projectFile] using not_mem_validId hv (c := '\x00') (by decide)
  short := by
    rw [size_draftFile] at hsize
    omega

/-- Where there is room for the draft of a project, there is room for the project. -/
theorem Store.HasRoom.projectPath {s : Store} (h : s.HasRoom id) :
    (joinPath s.root (projectFile id)).utf8ByteSize < 4096 :=
  Nat.lt_of_le_of_lt (size_joinPath_le (by rw [size_draftFile]; omega)) h.path

end SchemaScript
