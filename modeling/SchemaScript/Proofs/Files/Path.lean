import SchemaScript.Files.Tree
import SchemaScript.Proofs.Text.Split

/-!
# SchemaScript.Proofs.Files.Path

Where the path of a file in a known directory leads.

* `IsEntryName`, `IsPlainName`: names of files, as opposed to what has a meaning of its own in a path.
* `pathNames_joinPath`: the path of a name below another path.
* `FileTree.origin_joinPath`: it starts where the path of the directory starts.
* `FileTree.walk_append`, `FileTree.walk_of_directories`: walking in parts, and in another tree.
* `FileTree.Opens`: a path that leads to a directory.
* `FileTree.Opens.locate_joinPath`, `FileTree.Opens.writable_joinPath`: the path of a name below
  such a directory.
-/

namespace SchemaScript

/-- The name of something in a directory: one name, and not one of those that mean a directory in a
path. -/
structure IsEntryName (name : String) : Prop where
  ne_empty : name ≠ ""
  ne_here : name ≠ "."
  ne_parent : name ≠ ".."
  noSlash : '/' ∉ name.toList

/-- The name of a file that can be followed, whatever the path before it. -/
structure IsPlainName (name : String) : Prop extends IsEntryName name where
  noNul : '\x00' ∉ name.toList
  short : name.utf8ByteSize ≤ 255

/-! ## Names of a path -/

theorem toList_joinPath_of_slash {base : String} {cs : List Char} (h : base.toList = cs ++ ['/'])
    (name : String) : (joinPath base name).toList = cs ++ '/' :: name.toList := by
  rw [joinPath, h, List.getLast?_append, List.getLast?_singleton]
  simp [h]

theorem toList_joinPath_of_ne_slash {base : String} {cs : List Char} {c : Char}
    (h : base.toList = cs ++ [c]) (hc : c ≠ '/') (name : String) :
    (joinPath base name).toList = base.toList ++ '/' :: name.toList := by
  rw [joinPath, h, List.getLast?_append, List.getLast?_singleton]
  simp [h, hc]

theorem pathNames_of_append_slash {path : String} {as bs : List Char}
    (h : path.toList = as ++ '/' :: bs) :
    pathNames path = pathNames (String.ofList as) ++ pathNames (String.ofList bs) := by
  simp only [pathNames, String.toList_ofList, h]
  rw [Text.split_append_separator (p := (· == '/')) rfl, List.map_append]

theorem pathNames_of_no_slash {name : String} (h : '/' ∉ name.toList) :
    pathNames name = [name] := by
  have hsplit : Text.split (· == '/') name.toList = [name.toList] :=
    Text.split_of_no_separator fun c hc => beq_false_of_ne fun heq => h (heq ▸ hc)
  rw [pathNames, hsplit, List.map_singleton, String.ofList_toList]

/-- The names of a path to a directory, less the empty name that a slash at its end makes. -/
def parentNames (base : String) : List String :=
  if base.toList.getLast?.getD '/' = '/' then (pathNames base).dropLast else pathNames base

theorem parentNames_of_slash {base : String} {cs : List Char} (h : base.toList = cs ++ ['/']) :
    parentNames base = pathNames (String.ofList cs) := by
  rw [parentNames, h, List.getLast?_append, List.getLast?_singleton, Option.some_or,
    Option.getD_some, if_pos rfl, pathNames_of_append_slash h]
  exact List.dropLast_concat

theorem parentNames_of_ne_slash {base : String} {cs : List Char} {c : Char}
    (h : base.toList = cs ++ [c]) (hc : c ≠ '/') : parentNames base = pathNames base := by
  rw [parentNames, h, List.getLast?_append, List.getLast?_singleton, Option.some_or,
    Option.getD_some, if_neg hc]

/-- The path of a name below `base` has the names of `base` and that one. -/
theorem pathNames_joinPath (base : String) {name : String} (hn : '/' ∉ name.toList) :
    pathNames (joinPath base name) = parentNames base ++ [name] := by
  rcases List.eq_nil_or_concat base.toList with hbase | ⟨cs, c, hbase⟩
  · obtain rfl := String.toList_eq_nil_iff.mp hbase
    have hjoin : joinPath "" name = name := by
      rw [joinPath, hbase]
      exact String.empty_append
    rw [hjoin, pathNames_of_no_slash hn]
    rfl
  · rw [List.concat_eq_append] at hbase
    by_cases hc : c = '/'
    · subst hc
      rw [pathNames_of_append_slash (toList_joinPath_of_slash hbase name), String.ofList_toList,
        pathNames_of_no_slash hn, parentNames_of_slash hbase]
    · rw [pathNames_of_append_slash (toList_joinPath_of_ne_slash hbase hc name),
        String.ofList_toList, String.ofList_toList, pathNames_of_no_slash hn,
        parentNames_of_ne_slash hbase hc]

namespace FileTree

variable {t t' : FileTree} {path : String} {place : Location} {name : String}

/-! ## Walking -/

theorem requireDirectory_of_directory (h : t.node? place = some .directory) :
    t.requireDirectory place = .ok () := by
  rw [requireDirectory, h]

theorem directory_of_requireDirectory (h : t.requireDirectory place = .ok ()) :
    t.node? place = some .directory := by
  unfold requireDirectory at h
  split at h
  · assumption
  · cases h
  · cases h

theorem walk_append (here : Location) (names more : List String) :
    t.walk here (names ++ more) = (t.walk here names).bind fun there => t.walk there more := by
  induction names generalizing here with
  | nil => rfl
  | cons name names ih =>
    rw [List.cons_append, walk, walk]
    cases t.requireDirectory here with
    | error e => rfl
    | ok _ =>
      simp only [bind, Except.bind, ih]
      split
      · rfl
      · split
        · rfl
        · split <;> rfl

/-- A walk only asks which locations are directories. -/
theorem walk_of_directories
    (h : ∀ place, t.node? place = some .directory → t'.node? place = some .directory)
    {here there : Location} {names : List String} (hw : t.walk here names = .ok there) :
    t'.walk here names = .ok there := by
  induction names generalizing here with
  | nil => exact hw
  | cons name names ih =>
    rw [walk] at hw ⊢
    cases hd : t.requireDirectory here with
    | error e => rw [hd] at hw; cases hw
    | ok _ =>
      rw [requireDirectory_of_directory (h here (directory_of_requireDirectory hd))]
      rw [hd] at hw
      simp only [bind, Except.bind] at hw ⊢
      grind

theorem walk_plain (hd : t.node? place = some .directory) (hn : IsPlainName name) :
    t.walk place [name] = .ok (place ++ [name]) := by
  have hdots : ¬(name = "" ∨ name = ".") := fun h => h.elim hn.ne_empty hn.ne_here
  rw [walk, requireDirectory_of_directory hd]
  simp only [bind, Except.bind]
  rw [if_neg hdots, if_neg hn.ne_parent, if_neg (Nat.not_lt.mpr hn.short), walk]

/-- An empty name leads nowhere else. -/
theorem walk_empty_name {here there : Location} (hw : t.walk here [""] = .ok there) :
    here = there := by
  rw [walk] at hw
  cases hd : t.requireDirectory here with
  | error e => rw [hd] at hw; cases hw
  | ok _ =>
    rw [hd] at hw
    simp only [bind, Except.bind, true_or, if_true, walk] at hw
    exact Except.ok.inj hw

/-! ## Paths below a directory -/

/-- The path leads to the place, and there is a directory. -/
structure Opens (t : FileTree) (path : String) (place : Location) : Prop where
  leads : t.locate path = .ok place
  directory : t.node? place = some .directory

theorem followable_iff {names : List String} : followable path = .ok names ↔
    ('\x00' ∉ path.toList ∧ path ≠ "" ∧ path.utf8ByteSize < 4096) ∧ names = pathNames path := by
  unfold followable
  grind

/-- A path that can be followed can be followed further, to a name below it. -/
theorem followable_joinPath {names : List String} (hf : followable path = .ok names)
    (hn : '\x00' ∉ name.toList) (hsize : (joinPath path name).utf8ByteSize < 4096) :
    followable (joinPath path name) = .ok (pathNames (joinPath path name)) := by
  obtain ⟨⟨hnul, hne, -⟩, -⟩ := followable_iff.mp hf
  obtain ⟨more, hjoin, hmore⟩ :
      ∃ more, (joinPath path name).toList = path.toList ++ more ∧ '\x00' ∉ more := by
    unfold joinPath
    split
    · exact ⟨name.toList, String.toList_append, hn⟩
    · exact ⟨'/' :: name.toList, by simp, by simpa using hn⟩
  refine followable_iff.mpr ⟨⟨?_, fun h => hne ?_, hsize⟩, rfl⟩
  · rw [hjoin]
    exact fun h => (List.mem_append.mp h).elim hnul hmore
  · rw [h] at hjoin
    exact String.toList_eq_nil_iff.mp (List.append_eq_nil_iff.mp hjoin.symm).1

/-- The path of a name below `base` starts where `base` starts. -/
theorem origin_joinPath (t : FileTree) (base : String) (hn : '/' ∉ name.toList) :
    t.origin (joinPath base name) = t.origin base := by
  cases hbase : base.toList with
  | nil =>
    have hempty := String.toList_eq_nil_iff.mp hbase
    have hhead : name.toList.head? ≠ some '/' := fun h => hn (List.mem_of_head? h)
    rw [hempty, joinPath]
    simp [origin, hhead]
  | cons c cs =>
    have hhead : (joinPath base name).toList.head? = base.toList.head? := by
      rw [joinPath]
      split <;> simp [hbase]
    rw [origin, hhead, ← origin]

theorem walk_of_locate (h : t.locate path = .ok place) :
    followable path = .ok (pathNames path) ∧
      t.walk (t.origin path) (pathNames path) = .ok place := by
  unfold locate at h
  cases hf : followable path with
  | error e => rw [hf] at h; cases h
  | ok names =>
    obtain rfl := (followable_iff.mp hf).2
    rw [hf] at h
    exact ⟨rfl, h⟩

/-- The names of a path to a place lead to it without the empty name that a slash at the end of the
path makes. -/
theorem walk_parentNames (h : t.locate path = .ok place) :
    t.walk (t.origin path) (parentNames path) = .ok place := by
  obtain ⟨hf, hw⟩ := walk_of_locate h
  have hne : path.toList ≠ [] := fun h =>
    (followable_iff.mp hf).1.2.1 (String.toList_eq_nil_iff.mp h)
  have hpath := (List.dropLast_concat_getLast hne).symm
  by_cases hc : path.toList.getLast hne = '/'
  · rw [hc] at hpath
    rw [parentNames_of_slash hpath]
    rw [pathNames_of_append_slash hpath, walk_append] at hw
    cases hp : t.walk (t.origin path) (pathNames (String.ofList path.toList.dropLast)) with
    | error e => rw [hp] at hw; cases hw
    | ok there =>
      rw [hp] at hw
      rw [walk_empty_name hw]
  · rwa [parentNames_of_ne_slash hpath hc]

namespace Opens

theorem of_directories (ho : t.Opens path place) (hworking : t'.working = t.working)
    (h : ∀ place, t.node? place = some .directory → t'.node? place = some .directory) :
    t'.Opens path place where
  leads := by
    obtain ⟨hf, hw⟩ := walk_of_locate ho.leads
    rw [locate, hf, origin, hworking]
    exact walk_of_directories h hw
  directory := h place ho.directory

variable (ho : t.Opens path place) (hn : IsPlainName name)
  (hsize : (joinPath path name).utf8ByteSize < 4096)
include ho hn hsize

theorem walk_joinPath :
    followable (joinPath path name) = .ok (pathNames (joinPath path name)) ∧
      t.walk (t.origin (joinPath path name)) (pathNames (joinPath path name))
        = .ok (place ++ [name]) := by
  refine ⟨followable_joinPath (walk_of_locate ho.leads).1 hn.noNul hsize, ?_⟩
  rw [origin_joinPath t path hn.noSlash, pathNames_joinPath path hn.noSlash, walk_append,
    walk_parentNames ho.leads]
  exact walk_plain ho.directory hn

theorem locate_joinPath : t.locate (joinPath path name) = .ok (place ++ [name]) := by
  obtain ⟨hf, hw⟩ := ho.walk_joinPath hn hsize
  simp only [locate, hf, bind, Except.bind, hw]

theorem writable_joinPath (hnode : t.node? (place ++ [name]) ≠ some .directory) :
    t.writable (joinPath path name) = .ok (place ++ [name]) := by
  obtain ⟨hf, hw⟩ := ho.walk_joinPath hn hsize
  have hlast : (pathNames (joinPath path name)).getLast? ≠ some "" := by
    rw [pathNames_joinPath path hn.noSlash, List.getLast?_concat]
    exact fun h => hn.ne_empty (Option.some.inj h)
  have hparent : t.requireDirectory (place ++ [name]).dropLast = .ok () := by
    rw [List.dropLast_concat]
    exact requireDirectory_of_directory ho.directory
  rw [writable, hf]
  simp only [bind, Except.bind, if_neg hlast, hw, hparent]
  rfl

end Opens
end FileTree
end SchemaScript
