import SchemaScript.Proofs.Files.Directory

/-!
# SchemaScript.Proofs.Files.Entry

What requests do to the names below one base path, whatever the base and whatever stands there. The
directory of the base is the same for all names below it, and a request fails, or changes the node of
its own name and no other.

* `FileTree.Reaches`: names below a base are names in a directory.
* `FileTree.admits`: whether the path of a name is one that a file system accepts.
* `FileTree.Reaches.locate`, `read`, `write`, `rename`: the requests, in terms of both.
* `FileTree.SameDirectories`: changes that leave the directories alone, and so the way to every name.
* `FileTree.Reaches.write_leaves`, `write_agrees`, `rename_leaves`, `rename_agrees`: what a request
  leaves alone, and what it depends on.
-/

namespace SchemaScript
namespace FileTree

variable {t t' : FileTree} {base name : String} {place : Location}

instance (n : Option Node) : Decidable (n = some .directory) :=
  match n with
  | none => .isFalse nofun
  | some (.file _) => .isFalse nofun
  | some .directory => .isTrue rfl

/-- The trees have the same directories, and the same of them is the working directory. -/
structure SameDirectories (t t' : FileTree) : Prop where
  working : t'.working = t.working
  directory : ∀ l, t.node? l = some .directory ↔ t'.node? l = some .directory

namespace SameDirectories

theorem refl (t : FileTree) : t.SameDirectories t :=
  ⟨rfl, fun _ => Iff.rfl⟩

theorem trans {t'' : FileTree} (h : t.SameDirectories t') (h' : t'.SameDirectories t'') :
    t.SameDirectories t'' :=
  ⟨h'.working.trans h.working, fun l => (h.directory l).trans (h'.directory l)⟩

end SameDirectories

theorem sameDirectories_put {l : Location} {content : ByteArray} (hl : l ≠ [])
    (h : t.node? l ≠ some .directory) : t.SameDirectories (t.put l (.file content)) := by
  refine ⟨rfl, fun other => ?_⟩
  rw [node?_put hl]
  split
  · rename_i heq
    exact ⟨fun hd => absurd (heq ▸ hd) h, nofun⟩
  · exact Iff.rfl

theorem sameDirectories_erase {l : Location} (hl : l ≠ []) (h : t.node? l ≠ some .directory) :
    t.SameDirectories (t.erase l) := by
  refine ⟨rfl, fun other => ?_⟩
  rw [node?_erase hl]
  split
  · rename_i heq
    exact ⟨fun hd => absurd (heq ▸ hd) h, nofun⟩
  · exact Iff.rfl

theorem sameDirectories_replace {draft target : String} {content : ByteArray}
    (hdraft : t.node? (place ++ [draft]) ≠ some .directory)
    (htarget : t.node? (place ++ [target]) ≠ some .directory) :
    t.SameDirectories (t.replace place draft target (.file content)) := by
  refine ⟨rfl, fun other => ?_⟩
  rw [node?_replace]
  split
  · rename_i heq
    exact ⟨fun hd => absurd (heq ▸ hd) htarget, nofun⟩
  · split
    · rename_i heq
      exact ⟨fun hd => absurd (heq ▸ hd) hdraft, nofun⟩
    · exact Iff.rfl

/-- The names below `base` are the names in the directory at `place`. -/
structure Reaches (t : FileTree) (base : String) (place : Location) : Prop where
  walks : t.walk (t.origin base) (parentNames base) = .ok place
  directory : t.node? place = some .directory

/-- Whether the path of a name below `base` can be followed, as far as its form goes. -/
def admits (base name : String) : Except FileError Unit :=
  (followable (joinPath base name)).bind fun _ =>
    if 255 < name.utf8ByteSize then .error .nameTooLong else .ok ()

theorem Opens.reaches (h : t.Opens base place) : t.Reaches base place where
  walks := walk_parentNames h.leads
  directory := h.directory

theorem walk_entry (hd : t.node? place = some .directory) (hn : IsEntryName name) :
    t.walk place [name] =
      if 255 < name.utf8ByteSize then .error .nameTooLong else .ok (place ++ [name]) := by
  have hdots : ¬(name = "" ∨ name = ".") := fun h => h.elim hn.ne_empty hn.ne_here
  rw [walk, requireDirectory_of_directory hd]
  simp only [bind, Except.bind]
  rw [if_neg hdots, if_neg hn.ne_parent, walk]

/-- A path that leads to a name below `base` goes through the directory of `base`. -/
theorem exists_reaches_of_locate {l : Location} (hn : IsEntryName name)
    (h : t.locate (joinPath base name) = .ok l) : ∃ place, t.Reaches base place := by
  obtain ⟨-, hw⟩ := walk_of_locate h
  rw [origin_joinPath t base hn.noSlash, pathNames_joinPath base hn.noSlash, walk_append] at hw
  cases hp : t.walk (t.origin base) (parentNames base) with
  | error e => rw [hp] at hw; cases hw
  | ok place =>
    rw [hp] at hw
    refine ⟨place, hp, directory_of_requireDirectory ?_⟩
    cases hd : t.requireDirectory place with
    | error e =>
      simp only [Except.bind, walk, hd, bind] at hw
      cases hw
    | ok _ => rfl

/-- A file can be written under a name where the path of the name leads, in a directory. -/
theorem writable_entry (hn : IsEntryName name) (t : FileTree) :
    t.writable (joinPath base name) = (t.locate (joinPath base name)).bind fun l =>
      match t.node? l with
      | some .directory => .error .isDirectory
      | _ => (t.requireDirectory l.dropLast).map fun _ => l := by
  rw [FileTree.writable, FileTree.locate]
  cases hf : followable (joinPath base name) with
  | error e => rfl
  | ok names =>
    -- the path ends in a name, and not in a slash
    have hlast : names.getLast? ≠ some "" := by
      rw [(followable_iff.mp hf).2, pathNames_joinPath base hn.noSlash, List.getLast?_concat]
      exact fun h => hn.ne_empty (Option.some.inj h)
    simp only [bind, Except.bind, if_neg hlast]
    cases t.walk (t.origin (joinPath base name)) names with
    | error e => rfl
    | ok l =>
      dsimp only
      cases t.requireDirectory l.dropLast with
      | error e => cases t.node? l with
        | none => rfl
        | some n => cases n <;> rfl
      | ok _ => cases t.node? l with
        | none => rfl
        | some n => cases n <;> rfl

/-- Where a file can be written under a name below `base`, the directory of `base` is reached. -/
theorem exists_reaches_of_writable {l : Location} (hn : IsEntryName name)
    (h : t.writable (joinPath base name) = .ok l) : ∃ place, t.Reaches base place := by
  rw [writable_entry hn] at h
  cases hl : t.locate (joinPath base name) with
  | error e => rw [hl] at h; cases h
  | ok there => exact exists_reaches_of_locate hn hl

theorem remove_cases (t : FileTree) (path : String) :
    (∃ e, t.remove path = (.error e, t)) ∨
      ∃ l content, t.locate path = .ok l ∧ t.node? l = some (.file content) ∧
        t.remove path = (.ok (), t.erase l) := by
  rw [FileTree.remove]
  cases t.locate path with
  | error e => exact .inl ⟨e, rfl⟩
  | ok l =>
    cases hnode : t.node? l with
    | none => exact .inl ⟨.notFound, by simp only [hnode]⟩
    | some n =>
      cases n with
      | directory => exact .inl ⟨.isDirectory, by simp only [hnode]⟩
      | file content => exact .inr ⟨l, content, rfl, hnode, by simp only [hnode]⟩

namespace Reaches

theorem of_sameDirectories (h : t.Reaches base place) (hd : t.SameDirectories t') :
    t'.Reaches base place where
  walks := by
    rw [origin, hd.working]
    exact walk_of_directories (fun l => (hd.directory l).mp) h.walks
  directory := (hd.directory place).mp h.directory

variable (h : t.Reaches base place) (hn : IsEntryName name)
include h hn

theorem locate :
    t.locate (joinPath base name) = (admits base name).map fun _ => place ++ [name] := by
  rw [FileTree.locate, admits]
  cases hf : followable (joinPath base name) with
  | error e => rfl
  | ok names =>
    obtain rfl := (followable_iff.mp hf).2
    simp only [bind, Except.bind]
    rw [origin_joinPath t base hn.noSlash, pathNames_joinPath base hn.noSlash, walk_append, h.walks]
    simp only [Except.bind, walk_entry h.directory hn]
    split <;> rfl

theorem writable :
    t.writable (joinPath base name) =
      match admits base name with
      | .error e => .error e
      | .ok _ =>
        if t.node? (place ++ [name]) = some .directory then .error .isDirectory
        else .ok (place ++ [name]) := by
  rw [writable_entry hn, h.locate hn]
  cases admits base name with
  | error e => rfl
  | ok _ =>
    have hparent : t.requireDirectory (place ++ [name]).dropLast = .ok () := by
      rw [List.dropLast_concat]
      exact requireDirectory_of_directory h.directory
    simp only [Except.map, Except.bind, hparent]
    cases t.node? (place ++ [name]) with
    | none => rfl
    | some n => cases n <;> rfl

theorem read :
    t.read (joinPath base name) =
      match admits base name with
      | .error e => .error e
      | .ok _ =>
        match t.node? (place ++ [name]) with
        | some (.file content) => .ok content
        | some .directory => .error .isDirectory
        | none => .error .notFound := by
  rw [FileTree.read, h.locate hn]
  cases admits base name with
  | error e => rfl
  | ok _ => rfl

theorem write (content : ByteArray) :
    t.write (joinPath base name) content =
      match admits base name with
      | .error e => (.error e, t)
      | .ok _ =>
        if t.node? (place ++ [name]) = some .directory then (.error .isDirectory, t)
        else (.ok (), t.put (place ++ [name]) (.file content)) := by
  rw [FileTree.write, h.writable hn]
  cases admits base name with
  | error e => rfl
  | ok _ =>
    by_cases hd : t.node? (place ++ [name]) = some .directory
    · simp only [if_pos hd]
    · simp only [if_neg hd]

theorem rename {target : String} (ht : IsEntryName target) (hne : target ≠ name) :
    t.rename (joinPath base name) (joinPath base target) =
      match admits base name with
      | .error e => (.error e, t)
      | .ok _ =>
        match t.node? (place ++ [name]) with
        | none => (.error .notFound, t)
        | some .directory => (.error .isDirectory, t)
        | some (.file content) =>
          match admits base target with
          | .error e => (.error e, t)
          | .ok _ =>
            if t.node? (place ++ [target]) = some .directory then (.error .isDirectory, t)
            else (.ok (), (t.erase (place ++ [name])).put (place ++ [target]) (.file content)) := by
  rw [FileTree.rename, h.locate hn, h.writable ht]
  cases admits base name with
  | error e => rfl
  | ok _ =>
    simp only [Except.map]
    cases t.node? (place ++ [name]) with
    | none => rfl
    | some n =>
      cases n with
      | directory => rfl
      | file content =>
        dsimp only
        cases admits base target with
        | error e => rfl
        | ok _ =>
          by_cases hd : t.node? (place ++ [target]) = some .directory
          · simp only [if_pos hd]
          · simp only [if_neg hd, if_neg (place_ne hne)]

/-! ## What a request leaves alone, and what it depends on -/

theorem read_congr (hd : t.SameDirectories t')
    (hnode : t'.node? (place ++ [name]) = t.node? (place ++ [name])) :
    t'.read (joinPath base name) = t.read (joinPath base name) := by
  rw [h.read hn, (h.of_sameDirectories hd).read hn, hnode]

theorem write_leaves (content : ByteArray) :
    t.SameDirectories (t.write (joinPath base name) content).2 ∧
      ∀ l ≠ place ++ [name], (t.write (joinPath base name) content).2.node? l = t.node? l := by
  rw [h.write hn]
  cases admits base name with
  | error e => exact ⟨.refl t, fun _ _ => rfl⟩
  | ok _ =>
    dsimp only
    by_cases hd : t.node? (place ++ [name]) = some .directory
    · rw [if_pos hd]
      exact ⟨.refl t, fun _ _ => rfl⟩
    · rw [if_neg hd]
      refine ⟨sameDirectories_put (by simp) hd, fun l hl => ?_⟩
      rw [node?_put (by simp), if_neg hl]

theorem write_agrees (h' : t'.Reaches base place)
    (hsame : t.node? (place ++ [name]) = t'.node? (place ++ [name])) (content : ByteArray) :
    (t.write (joinPath base name) content).1 = (t'.write (joinPath base name) content).1 ∧
      ∀ l, t.node? l = t'.node? l →
        (t.write (joinPath base name) content).2.node? l
          = (t'.write (joinPath base name) content).2.node? l := by
  rw [h.write hn, h'.write hn, hsame]
  cases admits base name with
  | error e => exact ⟨rfl, fun _ hl => hl⟩
  | ok _ =>
    dsimp only
    by_cases hd : t'.node? (place ++ [name]) = some .directory
    · rw [if_pos hd, if_pos hd]
      exact ⟨rfl, fun _ hl => hl⟩
    · rw [if_neg hd, if_neg hd]
      refine ⟨rfl, fun l hl => ?_⟩
      rw [node?_put (by simp), node?_put (by simp), hl]

theorem rename_leaves {target : String} (ht : IsEntryName target) (hne : target ≠ name) :
    t.SameDirectories (t.rename (joinPath base name) (joinPath base target)).2 ∧
      ∀ l, l ≠ place ++ [name] → l ≠ place ++ [target] →
        (t.rename (joinPath base name) (joinPath base target)).2.node? l = t.node? l := by
  have hstays : t.SameDirectories t ∧
      ∀ l, l ≠ place ++ [name] → l ≠ place ++ [target] → t.node? l = t.node? l :=
    ⟨.refl t, fun _ _ _ => rfl⟩
  rw [h.rename hn ht hne]
  cases admits base name with
  | error e => exact hstays
  | ok _ =>
    cases hnode : t.node? (place ++ [name]) with
    | none => exact hstays
    | some n =>
      cases n with
      | directory => exact hstays
      | file content =>
        cases admits base target with
        | error e => exact hstays
        | ok _ =>
          dsimp only
          by_cases hd : t.node? (place ++ [target]) = some .directory
          · rw [if_pos hd]
            exact hstays
          · rw [if_neg hd]
            have herase := sameDirectories_erase (t := t) (l := place ++ [name]) (by simp)
              (by rw [hnode]; exact nofun)
            refine ⟨herase.trans (sameDirectories_put (by simp) (mt (herase.directory _).mpr hd)),
              fun l hl hl' => ?_⟩
            rw [node?_put (by simp), if_neg hl', node?_erase (by simp), if_neg hl]

theorem rename_agrees {target : String} (ht : IsEntryName target) (hne : target ≠ name)
    (h' : t'.Reaches base place)
    (hsource : t.node? (place ++ [name]) = t'.node? (place ++ [name]))
    (htarget : t.node? (place ++ [target]) = t'.node? (place ++ [target])) :
    (t.rename (joinPath base name) (joinPath base target)).1
        = (t'.rename (joinPath base name) (joinPath base target)).1 ∧
      ∀ l, t.node? l = t'.node? l →
        (t.rename (joinPath base name) (joinPath base target)).2.node? l
          = (t'.rename (joinPath base name) (joinPath base target)).2.node? l := by
  rw [h.rename hn ht hne, h'.rename hn ht hne, hsource, htarget]
  cases admits base name with
  | error e => exact ⟨rfl, fun _ hl => hl⟩
  | ok _ =>
    cases t'.node? (place ++ [name]) with
    | none => exact ⟨rfl, fun _ hl => hl⟩
    | some n =>
      cases n with
      | directory => exact ⟨rfl, fun _ hl => hl⟩
      | file content =>
        cases admits base target with
        | error e => exact ⟨rfl, fun _ hl => hl⟩
        | ok _ =>
          dsimp only
          by_cases hd : t'.node? (place ++ [target]) = some .directory
          · rw [if_pos hd, if_pos hd]
            exact ⟨rfl, fun _ hl => hl⟩
          · rw [if_neg hd, if_neg hd]
            refine ⟨rfl, fun l hl => ?_⟩
            rw [node?_put (by simp), node?_put (by simp), node?_erase (by simp),
              node?_erase (by simp), hl]

end Reaches
end FileTree
end SchemaScript
