import SchemaScript.Proofs.Files.Path

/-!
# SchemaScript.Proofs.Files.Directory

What requests do to the files of one directory. A file of the directory is known by its name; the
directory is the place that a path opens.

* `FileTree.node?_put`, `FileTree.node?_erase`: nodes after a change.
* `FileTree.mem_names`, `FileTree.nodup_names`: names in a directory.
* `FileTree.Opens.read_file`, `write`, `rename`, `remove_file`, `entries`: what the requests answer,
  and what they change.
-/

namespace SchemaScript
namespace FileTree

variable {t : FileTree} {path : String} {place other : Location} {name : String} {n : Node}

/-! ## Nodes -/

theorem node?_eq_lookup (h : place ≠ []) : t.node? place = t.nodes.lookup place := by
  rw [node?, if_neg (by simpa using h)]

theorem lookup_node (l other : Location) (m : Node) (nodes : List (Location × Node)) :
    ((l, m) :: nodes).lookup other = if other = l then some m else nodes.lookup other := by
  by_cases h : other = l
  · rw [h, if_pos rfl, List.lookup_cons_self]
  · rw [if_neg h, List.lookup_cons, beq_eq_false_iff_ne.mpr h]

theorem lookup_replace (nodes : List (Location × Node)) (place other : Location) (n : Node) :
    (nodes.map fun (l, m) => if l == place then (l, n) else (l, m)).lookup other =
      if other = place then (nodes.lookup place).map fun _ => n else nodes.lookup other := by
  induction nodes with
  | nil => simp
  | cons node nodes ih =>
    obtain ⟨l, m⟩ := node
    by_cases hl : l = place
    · subst hl
      simp only [List.map_cons, beq_self_eq_true, if_true, lookup_node, ih, Option.map_some]
      split <;> rfl
    · have hplace : ¬(l == place) = true := by simpa using hl
      simp only [List.map_cons, if_neg hplace, lookup_node, ih, if_neg (Ne.symm hl)]
      by_cases ho : other = l
      · rw [if_pos ho, if_pos ho, if_neg (ho ▸ hl)]
      · rw [if_neg ho, if_neg ho]

theorem lookup_without (nodes : List (Location × Node)) (place other : Location) :
    (nodes.filter fun (l, _) => l != place).lookup other =
      if other = place then none else nodes.lookup other := by
  induction nodes with
  | nil => simp
  | cons node nodes ih =>
    obtain ⟨l, m⟩ := node
    by_cases hl : l = place
    · subst hl
      rw [List.filter_cons_of_neg (by simp), ih, lookup_node]
      split <;> rfl
    · rw [List.filter_cons_of_pos (by simpa using hl), lookup_node, lookup_node, ih]
      by_cases ho : other = l
      · rw [if_pos ho, if_pos ho, if_neg (ho ▸ hl)]
      · rw [if_neg ho, if_neg ho]

theorem lookup_setNode (place other : Location) (n : Node) (nodes : List (Location × Node)) :
    (setNode place n nodes).lookup other = if other = place then some n else nodes.lookup other := by
  rw [setNode]
  split
  · rename_i hsome
    rw [lookup_replace, Option.eq_some_of_isSome hsome, Option.map_some]
  · rename_i hnone
    rw [List.lookup_append, List.lookup_cons, List.lookup_nil]
    by_cases heq : other = place
    · subst heq
      rw [Option.not_isSome_iff_eq_none.mp hnone]
      simp
    · rw [beq_eq_false_iff_ne.mpr heq, if_neg heq]
      exact Option.or_none

theorem node?_put (h : place ≠ []) (other : Location) :
    (t.put place n).node? other = if other = place then some n else t.node? other := by
  by_cases ho : other = []
  · subst ho
    rw [if_neg h.symm]
    rfl
  · rw [node?_eq_lookup ho, node?_eq_lookup ho]
    exact lookup_setNode place other n t.nodes

theorem node?_erase (h : place ≠ []) (other : Location) :
    (t.erase place).node? other = if other = place then none else t.node? other := by
  by_cases ho : other = []
  · subst ho
    rw [if_neg h.symm]
    rfl
  · rw [node?_eq_lookup ho, node?_eq_lookup ho, erase, lookup_without]

/-! ## Names -/

/-- The name that a location adds to a directory. -/
theorem nameIn_eq_some {l : Location} :
    (if l.dropLast = place then l.getLast? else none) = some name ↔ l = place ++ [name] := by
  constructor
  · intro h
    obtain ⟨rfl, hlast⟩ := Option.ite_none_right_eq_some.mp h
    obtain ⟨parents, rfl⟩ := List.getLast?_eq_some_iff.mp hlast
    rw [List.dropLast_concat]
  · rintro rfl
    rw [List.dropLast_concat, if_pos rfl, List.getLast?_concat]

theorem mem_names : name ∈ t.names place ↔ (t.node? (place ++ [name])).isSome := by
  rw [node?_eq_lookup (by simp), List.lookup_isSome_iff]
  simp only [names, List.mem_filterMap, nameIn_eq_some, beq_iff_eq]
  exact exists_congr fun node => and_congr_right fun _ => eq_comm

/-- A directory has no name twice, since no location is listed twice. -/
theorem nodup_names (t : FileTree) (place : Location) : (t.names place).Nodup := by
  refine (List.pairwise_map.mp t.distinct).filterMap _ fun l m hne name hl other hm heq => hne ?_
  rw [nameIn_eq_some.mp hl, nameIn_eq_some.mp hm, heq]

/-! ## Replacing a file by way of a draft -/

/-- The tree after a file was written under one name of a directory and moved to another. -/
def replace (t : FileTree) (place : Location) (draft target : String) (n : Node) : FileTree :=
  ((t.put (place ++ [draft]) n).erase (place ++ [draft])).put (place ++ [target]) n

theorem place_ne {i j : String} (h : i ≠ j) : place ++ [i] ≠ place ++ [j] :=
  fun heq => h (List.singleton_inj.mp ((List.append_right_inj place).mp heq))

theorem node?_replace (draft target : String) (other : Location) :
    (t.replace place draft target n).node? other =
      if other = place ++ [target] then some n
      else if other = place ++ [draft] then none
      else t.node? other := by
  rw [replace, node?_put (by simp), node?_erase (by simp), node?_put (by simp)]
  split
  · rfl
  · split <;> rfl

/-! ## Requests -/

/-- A path whose entries can be read opens a directory. -/
theorem exists_opens_of_entries {names : List String} (h : t.entries path = .ok names) :
    ∃ place, t.Opens path place ∧ names = t.names place := by
  rw [entries] at h
  cases hl : t.locate path with
  | error e => rw [hl] at h; cases h
  | ok place =>
    rw [hl] at h
    cases hd : t.requireDirectory place with
    | error e =>
      simp only [bind, Except.bind, hd] at h
      cases h
    | ok _ =>
      simp only [bind, Except.bind, hd] at h
      cases h
      exact ⟨place, ⟨hl, directory_of_requireDirectory hd⟩, rfl⟩

namespace Opens

theorem entries (ho : t.Opens path place) : t.entries path = .ok (t.names place) := by
  rw [FileTree.entries, ho.leads]
  simp only [bind, Except.bind, requireDirectory_of_directory ho.directory]
  rfl

/-- Where no directory is, a file can be put and the path still opens its place. -/
theorem put (ho : t.Opens path place) {content : ByteArray}
    (hnode : t.node? (place ++ [name]) ≠ some .directory) :
    (t.put (place ++ [name]) (.file content)).Opens path place := by
  refine ho.of_directories rfl fun other hd => ?_
  have hne : other ≠ place ++ [name] := fun heq => hnode (heq ▸ hd)
  rw [node?_put (by simp), if_neg hne, hd]

theorem erase (ho : t.Opens path place) (hnode : t.node? (place ++ [name]) ≠ some .directory) :
    (t.erase (place ++ [name])).Opens path place := by
  refine ho.of_directories rfl fun other hd => ?_
  have hne : other ≠ place ++ [name] := fun heq => hnode (heq ▸ hd)
  rw [node?_erase (by simp), if_neg hne, hd]

theorem replace (ho : t.Opens path place) {draft target : String} {content : ByteArray}
    (hdraft : t.node? (place ++ [draft]) ≠ some .directory)
    (htarget : t.node? (place ++ [target]) ≠ some .directory) :
    (t.replace place draft target (.file content)).Opens path place := by
  refine ho.of_directories rfl fun other hd => ?_
  have hne : other ≠ place ++ [target] := fun heq => htarget (heq ▸ hd)
  have hne' : other ≠ place ++ [draft] := fun heq => hdraft (heq ▸ hd)
  rw [node?_replace, if_neg hne, if_neg hne', hd]

variable (ho : t.Opens path place) (hn : IsPlainName name)
  (hsize : (joinPath path name).utf8ByteSize < 4096)
include ho hn hsize

theorem read_file {content : ByteArray} (hnode : t.node? (place ++ [name]) = some (.file content)) :
    t.read (joinPath path name) = .ok content := by
  rw [read, ho.locate_joinPath hn hsize]
  simp only [bind, Except.bind, hnode]

theorem read_none (hnode : t.node? (place ++ [name]) = none) :
    t.read (joinPath path name) = .error .notFound := by
  rw [read, ho.locate_joinPath hn hsize]
  simp only [bind, Except.bind, hnode]

theorem write (content : ByteArray) (hnode : t.node? (place ++ [name]) ≠ some .directory) :
    t.write (joinPath path name) content = (.ok (), t.put (place ++ [name]) (.file content)) := by
  rw [FileTree.write, ho.writable_joinPath hn hsize hnode]

theorem remove_file {content : ByteArray}
    (hnode : t.node? (place ++ [name]) = some (.file content)) :
    t.remove (joinPath path name) = (.ok (), t.erase (place ++ [name])) := by
  rw [remove, ho.locate_joinPath hn hsize]
  simp only [hnode]

theorem remove_none (hnode : t.node? (place ++ [name]) = none) :
    t.remove (joinPath path name) = (.error .notFound, t) := by
  rw [remove, ho.locate_joinPath hn hsize]
  simp only [hnode]

omit hn hsize in
theorem rename {source target : String} {content : ByteArray}
    (hs : IsPlainName source) (hssize : (joinPath path source).utf8ByteSize < 4096)
    (ht : IsPlainName target) (htsize : (joinPath path target).utf8ByteSize < 4096)
    (hne : target ≠ source) (hsource : t.node? (place ++ [source]) = some (.file content))
    (htarget : t.node? (place ++ [target]) ≠ some .directory) :
    t.rename (joinPath path source) (joinPath path target) =
      (.ok (), (t.erase (place ++ [source])).put (place ++ [target]) (.file content)) := by
  rw [FileTree.rename, ho.locate_joinPath hs hssize]
  simp only [hsource, ho.writable_joinPath ht htsize htarget, if_neg (place_ne hne)]

omit hn hsize in
/-- A draft that was written can be moved to its place. -/
theorem rename_draft {draft target : String} (content : ByteArray)
    (hd : IsPlainName draft) (hdsize : (joinPath path draft).utf8ByteSize < 4096)
    (ht : IsPlainName target) (htsize : (joinPath path target).utf8ByteSize < 4096)
    (hne : target ≠ draft) (hdraft : t.node? (place ++ [draft]) ≠ some .directory)
    (htarget : t.node? (place ++ [target]) ≠ some .directory) :
    (t.put (place ++ [draft]) (.file content)).rename (joinPath path draft) (joinPath path target) =
      (.ok (), t.replace place draft target (.file content)) := by
  refine (ho.put hdraft).rename hd hdsize ht htsize hne ?_ ?_
  · rw [node?_put (by simp), if_pos rfl]
  · rwa [node?_put (by simp), if_neg (place_ne hne)]

end Opens
end FileTree
end SchemaScript
