import SchemaScript.Proofs.Snapshot.RoundTrip
import SchemaScript.Proofs.Store.Names

/-!
# SchemaScript.Proofs.Store.Contents

A directory that holds the projects of a map and nothing else, and what the operations of a store do
in it. Each keeps the directory in that form, for the map with the change that was made.

* `Catalog`: projects by id.
* `Store.Holds`: the directory of a store holds the projects of a catalog.
* `Store.Holds.load`, `save`, `delete`, `list`: the operations, in terms of the catalog.
-/

namespace SchemaScript

/-- Projects by id. -/
abbrev Catalog := String → Option Project

namespace Catalog

def empty : Catalog := fun _ => none

/-- The catalog with another project under an id, or without one. -/
def set (m : Catalog) (id : String) (p : Option Project) : Catalog :=
  fun i => if i = id then p else m i

theorem set_self (m : Catalog) (id : String) (p : Option Project) : m.set id p id = p :=
  if_pos rfl

theorem set_of_ne (m : Catalog) {i id : String} (h : i ≠ id) (p : Option Project) :
    m.set id p i = m i :=
  if_neg h

end Catalog

def ProjectSummary.of (id : String) (p : Project) : ProjectSummary :=
  ⟨id, p.name, p.tables.length⟩

/-- What a list shows of the project with an id. -/
def Catalog.summary? (m : Catalog) (id : String) : Option ProjectSummary :=
  (m id).map (ProjectSummary.of id)

theorem Catalog.summary?_eq_some {m : Catalog} {id : String} {x : ProjectSummary} :
    m.summary? id = some x ↔ x.id = id ∧ ∃ p, m id = some p ∧ x = .of id p := by
  rw [summary?, Option.map_eq_some_iff]
  constructor
  · rintro ⟨p, hp, rfl⟩
    exact ⟨rfl, p, hp, rfl⟩
  · rintro ⟨-, p, hp, rfl⟩
    exact ⟨p, hp, rfl⟩

/-- The file of a project. -/
def projectNode (p : Project) : Node :=
  .file (Snapshot.toText p).toUTF8

theorem decodeText_toUTF8 (text : String) : decodeText text.toUTF8 = .ok text := by
  have h : String.fromUTF8? text.toUTF8 = some text := by
    rw [String.fromUTF8?, String.toUTF8_eq_toByteArray, dif_pos text.isValidUTF8]
    rfl
  rw [decodeText, h]

namespace Store

/-- A store accepts a project if id and project are valid and there is room for its files. -/
structure Accepts (s : Store) (id : String) (p : Project) : Prop where
  validId : isValidId id = true
  room : s.HasRoom id
  validProject : Snapshot.validate p = .ok ()

/-- The root of the store is a directory in which every project of the catalog has its file, and
there is nothing else. -/
structure Holds (s : Store) (t : FileTree) (place : Location) (m : Catalog) : Prop where
  opens : t.Opens s.root place
  node : ∀ name, t.node? (place ++ [name]) = ((storedId? name).bind m).map projectNode
  accepted : ∀ {id p}, m id = some p → s.Accepts id p

namespace Holds

variable {s : Store} {t : FileTree} {place : Location} {m : Catalog} {id : String} {p : Project}

theorem node_projectFile (h : s.Holds t place m) (hne : id ≠ "") :
    t.node? (place ++ [projectFile id]) = (m id).map projectNode := by
  rw [h.node, storedId?_projectFile hne, Option.bind_some]

theorem node_draftFile (h : s.Holds t place m) (id : String) :
    t.node? (place ++ [draftFile id]) = none := by
  rw [h.node, storedId?_draftFile]
  rfl

theorem no_directory (h : s.Holds t place m) (name : String) :
    t.node? (place ++ [name]) ≠ some .directory := by
  rw [h.node]
  cases (storedId? name).bind m with
  | none => exact nofun
  | some p => exact nofun

theorem mem_names (h : s.Holds t place m) {name : String} :
    name ∈ t.names place ↔ ∃ id p, m id = some p ∧ name = projectFile id := by
  rw [FileTree.mem_names, h.node, Option.isSome_map, Option.isSome_iff_exists]
  constructor
  · rintro ⟨p, hp⟩
    obtain ⟨id, hid, hm⟩ := Option.bind_eq_some_iff.mp hp
    exact ⟨id, p, hm, (storedId?_eq_some.mp hid).2⟩
  · rintro ⟨id, p, hm, rfl⟩
    refine ⟨p, ?_⟩
    rw [storedId?_projectFile (validId_ne_empty (h.accepted hm).validId), Option.bind_some, hm]

/-- The empty directory holds no projects. -/
theorem of_empty (hroot : t.Opens s.root place) (hnames : t.names place = []) :
    s.Holds t place .empty where
  opens := hroot
  node name := by
    have hnot : name ∉ t.names place := by rw [hnames]; exact List.not_mem_nil
    rw [FileTree.mem_names, Option.not_isSome_iff_eq_none] at hnot
    rw [hnot]
    cases storedId? name <;> rfl
  accepted := nofun

/-! ## Requests for the file of a project -/

theorem read_of_some (h : s.Holds t place m) (hm : m id = some p) :
    t.read (s.path id) = .ok (Snapshot.toText p).toUTF8 := by
  obtain ⟨hv, hroom, -⟩ := h.accepted hm
  rw [path_eq]
  refine h.opens.read_file (isPlainName_projectFile hv hroom.name) hroom.projectPath ?_
  rw [h.node_projectFile (validId_ne_empty hv), hm]
  rfl

theorem read_of_none (h : s.Holds t place m) (hv : isValidId id = true) (hroom : s.HasRoom id)
    (hm : m id = none) : t.read (s.path id) = .error .notFound := by
  rw [path_eq]
  refine h.opens.read_none (isPlainName_projectFile hv hroom.name) hroom.projectPath ?_
  rw [h.node_projectFile (validId_ne_empty hv), hm]
  rfl

theorem load_of_some (h : s.Holds t place m) (hm : m id = some p) :
    (s.load id).run t = (.ok p, t) := by
  obtain ⟨hv, -, hp⟩ := h.accepted hm
  have htext : Snapshot.ofText (Snapshot.toText p) = .ok p := by
    rw [Snapshot.ofText_toText, hp]
    rfl
  simp only [load, hv, Bool.not_true, Bool.false_eq_true, if_false, readText]
  simp only [bind, Program.bind, Program.run, h.read_of_some hm, Except.bind, decodeText_toUTF8,
    htext]
  rfl

theorem load_of_none (h : s.Holds t place m) (hv : isValidId id = true) (hroom : s.HasRoom id)
    (hm : m id = none) : (s.load id).run t = (.error (.notFound id), t) := by
  simp only [load, hv, Bool.not_true, Bool.false_eq_true, if_false, readText]
  simp only [bind, Program.bind, Program.run, h.read_of_none hv hroom hm, Except.bind]
  rfl

/-- A change of the directory that leaves every node but that of one project. -/
theorem of_change {t' : FileTree} {q : Option Project} (h : s.Holds t place m) (hne : id ≠ "")
    (hopens : t'.Opens s.root place)
    (hnode : ∀ name, t'.node? (place ++ [name]) =
      if name = projectFile id then q.map projectNode else t.node? (place ++ [name]))
    (hq : ∀ p, q = some p → s.Accepts id p) : s.Holds t' place (m.set id q) where
  opens := hopens
  node name := by
    rw [hnode name]
    split
    · rename_i hname
      rw [hname, storedId?_projectFile hne, Option.bind_some, Catalog.set_self]
    · rename_i hname
      rw [h.node]
      congr 1
      refine Option.bind_congr fun i hi => (Catalog.set_of_ne m ?_ q).symm
      rintro rfl
      exact hname (storedId?_eq_some.mp hi).2
  accepted {i p} hm := by
    by_cases hi : i = id
    · subst hi
      rw [Catalog.set_self] at hm
      exact hq p hm
    · rw [Catalog.set_of_ne m hi] at hm
      exact h.accepted hm

theorem save (h : s.Holds t place m) (hp : s.Accepts id p) :
    ∃ t', (s.save id p).run t = ((.ok (), [.projectSaved id p.tables.length]), t') ∧
      s.Holds t' place (m.set id (some p)) := by
  obtain ⟨hv, hroom, hvalid⟩ := hp
  have hne := draftFile_ne_projectFile id id
  have hdraft := isPlainName_draftFile hv hroom.name
  have hwrite := h.opens.write hdraft hroom.path (Snapshot.toText p).toUTF8 (h.no_directory _)
  have hrename := h.opens.rename_draft (Snapshot.toText p).toUTF8 hdraft hroom.path
    (isPlainName_projectFile hv hroom.name) hroom.projectPath hne.symm (h.no_directory _)
    (h.no_directory _)
  refine ⟨t.replace place (draftFile id) (projectFile id) (projectNode p), ?_, ?_⟩
  · simp only [Store.save, hv, hvalid, Bool.not_true, Bool.false_eq_true, if_false, writeText]
    simp only [bind, Program.bind, Program.run, draftPath_eq, path_eq, hwrite, hrename]
    rfl
  · refine h.of_change (validId_ne_empty hv) (h.opens.replace (h.no_directory _) (h.no_directory _))
      (fun name => ?_) (fun q hq => ?_)
    · rw [FileTree.node?_replace]
      simp only [List.append_right_inj, List.singleton_inj]
      split
      · rfl
      · split
        · rename_i hname
          rw [hname, h.node_draftFile]
        · rfl
    · rw [← Option.some.inj hq]
      exact ⟨hv, hroom, hvalid⟩

theorem delete (h : s.Holds t place m) (hm : m id = some p) :
    ∃ t', (s.delete id).run t = (.ok (), t') ∧ s.Holds t' place (m.set id none) := by
  obtain ⟨hv, hroom, -⟩ := h.accepted hm
  have hremove := h.opens.remove_file (isPlainName_projectFile hv hroom.name) hroom.projectPath
    (by rw [h.node_projectFile (validId_ne_empty hv), hm]; rfl)
  refine ⟨t.erase (place ++ [projectFile id]), ?_, ?_⟩
  · simp only [Store.delete, hv, Bool.not_true, Bool.false_eq_true, if_false]
    simp only [bind, Program.bind, Program.run, path_eq, hremove]
    rfl
  · refine h.of_change (validId_ne_empty hv) (h.opens.erase (h.no_directory _))
      (fun name => ?_) nofun
    rw [FileTree.node?_erase (by simp)]
    simp only [List.append_right_inj, List.singleton_inj]
    rfl

theorem delete_of_none (h : s.Holds t place m) (hv : isValidId id = true) (hroom : s.HasRoom id)
    (hm : m id = none) : (s.delete id).run t = (.error (.notFound id), t) := by
  have hremove := h.opens.remove_none (isPlainName_projectFile hv hroom.name) hroom.projectPath
    (by rw [h.node_projectFile (validId_ne_empty hv), hm]; rfl)
  simp only [Store.delete, hv, Bool.not_true, Bool.false_eq_true, if_false]
  simp only [bind, Program.bind, Program.run, path_eq, hremove]
  rfl

/-! ## Listing -/

theorem run_summaries (h : s.Holds t place m) {ids : List String}
    (hids : ∀ id ∈ ids, (m id).isSome) :
    (s.summaries ids).run t =
      ((ids.filterMap m.summary?, []), t) := by
  induction ids with
  | nil => rfl
  | cons id ids ih =>
    obtain ⟨p, hp⟩ := Option.isSome_iff_exists.mp (hids id List.mem_cons_self)
    rw [summaries, Program.run_bind, h.load_of_some hp, Program.run_bind,
      ih fun i hi => hids i (List.mem_cons_of_mem _ hi), List.filterMap_cons, Catalog.summary?, hp]
    rfl

/-- The ids that a list goes through are those of the catalog. -/
theorem mem_listedIds (h : s.Holds t place m) :
    id ∈ listedIds (t.names place) ↔ (m id).isSome := by
  rw [SchemaScript.mem_listedIds, h.mem_names]
  constructor
  · rintro ⟨-, i, p, hm, hi⟩
    rw [projectFile_inj.mp hi, hm]
    rfl
  · intro hid
    obtain ⟨p, hm⟩ := Option.isSome_iff_exists.mp hid
    exact ⟨validId_ne_empty (h.accepted hm).validId, id, p, hm, rfl⟩

theorem list (h : s.Holds t place m) :
    ∃ found, s.list.run t = ((.ok found, []), t) ∧
      found.Pairwise (fun x y => x.id < y.id) ∧
      ∀ x, x ∈ found ↔ ∃ p, m x.id = some p ∧ x = .of x.id p := by
  have hrun := h.run_summaries fun id hid => h.mem_listedIds.mp hid
  have hascending := pairwise_listedIds (t.nodup_names place)
  refine ⟨_, ?_, hascending.filterMap m.summary? fun i j hij x hx y hy => ?_, fun x => ?_⟩
  · rw [Store.list, Program.run_bind, Program.run, h.opens.entries]
    simp only [Program.run]
    rw [Program.run_bind, ← listedIds, hrun]
    rfl
  · rw [(Catalog.summary?_eq_some.mp hx).1, (Catalog.summary?_eq_some.mp hy).1]
    exact hij
  · rw [List.mem_filterMap]
    constructor
    · rintro ⟨id, -, hx⟩
      obtain ⟨rfl, hp⟩ := Catalog.summary?_eq_some.mp hx
      exact hp
    · rintro ⟨p, hp, hx⟩
      refine ⟨x.id, h.mem_listedIds.mpr ?_, Catalog.summary?_eq_some.mpr ⟨rfl, p, hp, hx⟩⟩
      rw [hp]
      rfl

end Holds

/-- A directory for a store, with nothing in it. -/
def emptyStore : FileTree where
  nodes := [(["store"], .directory)]

end Store
end SchemaScript
