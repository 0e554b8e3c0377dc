import SchemaScript.Proofs.Store.Requests

/-!
# SchemaScript.Proofs.Store.Atomicity

What an operation of a store can leave behind, whatever stands in the directory of the store. A save
that fails, or stops on its way, leaves all but its draft; one that succeeds replaces one file. No
operation changes what can be loaded under another id.

* `Store.load_of_sameDirectories`: what is loaded depends on one node.
* `Store.save_stops_load`, `Store.save_stops_load_other`: loading after a save that stopped.
* `Store.delete_run_cases`: all that a delete can do.
* `Store.operations_atomic`: the operations of a store, succeeding, failing and stopped.
-/

namespace SchemaScript
namespace Store

variable {s : Store} {t t' : FileTree} {place : Location} {id other : String} {p : Project}

theorem load_of_sameDirectories (h : t.Reaches s.root place) (hd : t.SameDirectories t')
    (hnode : t'.node? (place ++ [projectFile id]) = t.node? (place ++ [projectFile id])) :
    ((s.load id).run t').1 = ((s.load id).run t).1 :=
  load_congr fun hv => h.read_congr (isEntryName_projectFile hv) hd hnode

/-! ## Saving -/

/-- A project that was saved can be loaded. -/
theorem CanPublish.load (h : s.CanPublish t place id) (hp : Snapshot.validate p = .ok ()) :
    ((s.load id).run (t.replace place (draftFile id) (projectFile id) (projectNode p))).1
      = .ok p := by
  have hread : (t.replace place (draftFile id) (projectFile id) (projectNode p)).read (s.path id)
      = .ok (Snapshot.toText p).toUTF8 := by
    rw [path_eq, projectNode, (h.reaches.of_sameDirectories (h.sameDirectories_replace _)).read
      (isEntryName_projectFile h.validId), h.admitted, FileTree.node?_replace, if_pos rfl]
  rw [load_run h.validId, hread, answer, Except.bind, decodeText_toUTF8]
  dsimp only
  rw [Snapshot.ofText_toText, hp]
  rfl

/-- Whenever a save stops, the project is the one it was, or the new one. -/
theorem save_stops_load (h : (s.save id p).Stops t t') :
    ((s.load id).run t').1 = ((s.load id).run t).1 ∨ ((s.load id).run t').1 = .ok p := by
  rcases save_stops_cases h with rfl | ⟨place, content, hdraft, rfl⟩ | ⟨place, hpublish, hp, rfl⟩
  · exact .inl rfl
  · refine .inl (load_of_sameDirectories hdraft.reaches (hdraft.sameDirectories_put _) ?_)
    rw [FileTree.node?_put (by simp),
      if_neg (FileTree.place_ne (draftFile_ne_projectFile id id).symm)]
  · exact .inr (hpublish.load hp)

theorem save_stops_load_other (h : (s.save id p).Stops t t') (hne : other ≠ id) :
    ((s.load other).run t').1 = ((s.load other).run t).1 := by
  rcases save_stops_cases h with rfl | ⟨place, content, hdraft, rfl⟩ | ⟨place, hpublish, hp, rfl⟩
  · rfl
  · refine load_of_sameDirectories hdraft.reaches (hdraft.sameDirectories_put _) ?_
    rw [FileTree.node?_put (by simp),
      if_neg (FileTree.place_ne (draftFile_ne_projectFile id other).symm)]
  · refine load_of_sameDirectories hpublish.reaches (hpublish.sameDirectories_replace _) ?_
    rw [FileTree.node?_replace, if_neg (FileTree.place_ne (mt projectFile_inj.mp hne)),
      if_neg (FileTree.place_ne (draftFile_ne_projectFile id other).symm)]

/-! ## Deleting -/

/-- A delete fails and changes nothing, or takes away the file of the project. -/
theorem delete_run_cases (s : Store) (id : String) (t : FileTree) :
    (∃ e, (s.delete id).run t = (.error e, t)) ∨
      ∃ place content, isValidId id = true ∧ t.Reaches s.root place ∧
        t.locate (s.path id) = .ok (place ++ [projectFile id]) ∧
        t.node? (place ++ [projectFile id]) = some (.file content) ∧
        (s.delete id).run t = (.ok (), t.erase (place ++ [projectFile id])) := by
  cases hv : isValidId id with
  | false => exact .inl ⟨.invalidId id, delete_run_of_invalidId hv t⟩
  | true =>
    have hn := isEntryName_projectFile hv
    rcases t.remove_cases (s.path id) with ⟨e, hremove⟩ | ⟨l, content, hl, hnode, hremove⟩
    · rw [delete_run hv, hremove]
      cases e with
      | notFound => exact .inl ⟨_, rfl⟩
      | _ => exact .inl ⟨_, rfl⟩
    · obtain ⟨place, hreaches⟩ := FileTree.exists_reaches_of_locate hn hl
      have hplace : l = place ++ [projectFile id] := by
        have hlocate := hreaches.locate hn
        rw [← path_eq, hl] at hlocate
        cases hadmits : FileTree.admits s.root (projectFile id) with
        | error e => rw [hadmits] at hlocate; cases hlocate
        | ok _ => rw [hadmits] at hlocate; exact Except.ok.inj hlocate
      subst hplace
      refine .inr ⟨place, content, rfl, hreaches, hl, hnode, ?_⟩
      rw [delete_run hv, hremove]

theorem delete_load_other (t : FileTree) (hne : other ≠ id) :
    ((s.load other).run ((s.delete id).run t).2).1 = ((s.load other).run t).1 := by
  rcases delete_run_cases s id t with ⟨e, hrun⟩ | ⟨place, content, -, hreaches, -, hnode, hrun⟩
  · rw [hrun]
  · rw [hrun]
    have hfile : t.node? (place ++ [projectFile id]) ≠ some .directory := by simp [hnode]
    refine load_of_sameDirectories hreaches (FileTree.sameDirectories_erase (by simp) hfile) ?_
    rw [FileTree.node?_erase (by simp), if_neg (FileTree.place_ne (mt projectFile_inj.mp hne))]

/-! ## All operations -/

/-- On any tree of files: a save that fails leaves all but its draft; one that succeeds replaces the
project and takes its draft away; one that stops leaves the project that was there, or the new one.
A delete that fails leaves all; one that succeeds takes the file of the project away. To load or to
list leaves all. And nobody who loads another project notices any of this. -/
theorem operations_atomic (s : Store) (t : FileTree) (id : String) (p : Project) :
    (∀ e events t', (s.save id p).run t = ((.error e, events), t') →
      ∀ l, t.locate (s.draftPath id) ≠ .ok l → t'.node? l = t.node? l) ∧
    (∀ events t', (s.save id p).run t = ((.ok (), events), t') →
      ∃ draft target, t.locate (s.draftPath id) = .ok draft ∧ t.locate (s.path id) = .ok target ∧
        ∀ l, t'.node? l =
          if l = target then some (.file (Snapshot.toText p).toUTF8)
          else if l = draft then none
          else t.node? l) ∧
    (∀ t', (s.save id p).Stops t t' →
      (((s.load id).run t').1 = ((s.load id).run t).1 ∨ ((s.load id).run t').1 = .ok p) ∧
      ∀ other ≠ id, ((s.load other).run t').1 = ((s.load other).run t).1) ∧
    (∀ e t', (s.delete id).run t = (.error e, t') → t' = t) ∧
    (∀ t', (s.delete id).run t = (.ok (), t') →
      ∃ target content, t.locate (s.path id) = .ok target ∧
        t.node? target = some (.file content) ∧
        ∀ l, t'.node? l = if l = target then none else t.node? l) ∧
    ((s.load id).run t).2 = t ∧
    (s.list.run t).2 = t ∧
    ∀ other ≠ id,
      ((s.load other).run ((s.save id p).run t).2).1 = ((s.load other).run t).1 ∧
      ((s.load other).run ((s.delete id).run t).2).1 = ((s.load other).run t).1 := by
  refine ⟨fun e events t' h l hl => ?failed, fun events t' h => ?saved, fun t' h => ?stopped,
    fun e t' h => ?notDeleted, fun t' h => ?deleted, load_leaves s id t, ?listed,
    fun other hne => ?others⟩
  case failed =>
    rcases save_run_cases s id p t with ⟨e, hrun⟩ | ⟨place, e, hdraft, hrun⟩ | ⟨place, -, hrun⟩
    · cases hrun.symm.trans h
      rfl
    · cases hrun.symm.trans h
      have hlocate := hdraft.reaches.locate (isEntryName_draftFile hdraft.validId)
      rw [hdraft.draftAdmitted] at hlocate
      rw [FileTree.node?_put (by simp), if_neg (fun heq : l = _ => hl (heq ▸ hlocate))]
    · cases hrun.symm.trans h
  case saved =>
    rcases save_run_cases s id p t with ⟨e, hrun⟩ | ⟨place, e, -, hrun⟩ |
      ⟨place, hpublish, hrun⟩
    · cases hrun.symm.trans h
    · cases hrun.symm.trans h
    · cases hrun.symm.trans h
      refine ⟨place ++ [draftFile id], place ++ [projectFile id], ?_, ?_,
        FileTree.node?_replace _ _⟩
      · rw [draftPath_eq, hpublish.reaches.locate (isEntryName_draftFile hpublish.validId),
          hpublish.draftAdmitted]
        rfl
      · rw [path_eq, hpublish.reaches.locate (isEntryName_projectFile hpublish.validId),
          hpublish.admitted]
        rfl
  case stopped =>
    exact ⟨save_stops_load h, fun other hne => save_stops_load_other h hne⟩
  case notDeleted =>
    rcases delete_run_cases s id t with ⟨e, hrun⟩ | ⟨place, content, -, -, -, -, hrun⟩
    · cases hrun.symm.trans h
      rfl
    · cases hrun.symm.trans h
  case deleted =>
    rcases delete_run_cases s id t with ⟨e, hrun⟩ | ⟨place, content, -, -, hl, hnode, hrun⟩
    · cases hrun.symm.trans h
    · cases hrun.symm.trans h
      exact ⟨_, content, hl, hnode, FileTree.node?_erase (by simp)⟩
  case listed => rw [list_run]
  case others =>
    have hstops := (s.save id p).stops_run t
    exact ⟨save_stops_load_other hstops hne, delete_load_other t hne⟩

/-- A directory stands where one project would be, and a draft was left behind of another. -/
def occupiedStore : FileTree where
  nodes := [(["store"], .directory), (["store", "shop.json"], .directory),
    (["store", "depot.json"], projectNode ⟨"Old depot", none, []⟩),
    (["store", ".depot.json.tmp"], .file "[".toUTF8)]

/-- The one project cannot be saved, and only its draft is left; the other can. -/
theorem operations_atomic_occupiedStore :
    ((((Store.mk "store").save "shop" ⟨"Shop", none, []⟩).run occupiedStore).1 =
        (.error (.file "store/shop.json" .isDirectory), []) ∧
      ∀ l ≠ ["store", ".shop.json.tmp"],
        (((Store.mk "store").save "shop" ⟨"Shop", none, []⟩).run occupiedStore).2.node? l =
          occupiedStore.node? l) ∧
    ((((Store.mk "store").save "depot" ⟨"Depot", none, []⟩).run occupiedStore).1 =
        (.ok (), [.projectSaved "depot" 0]) ∧
      ∀ l, (((Store.mk "store").save "depot" ⟨"Depot", none, []⟩).run occupiedStore).2.node? l =
        if l = ["store", "depot.json"] then some (projectNode ⟨"Depot", none, []⟩)
        else if l = ["store", ".depot.json.tmp"] then none
        else occupiedStore.node? l) := by
  constructor
  · have hrun : (((Store.mk "store").save "shop" ⟨"Shop", none, []⟩).run occupiedStore).1 =
        (.error (.file "store/shop.json" .isDirectory), []) := rfl
    have hdraft : occupiedStore.locate ((Store.mk "store").draftPath "shop") =
        .ok ["store", ".shop.json.tmp"] := rfl
    refine ⟨hrun, fun l hl => ?_⟩
    refine (operations_atomic ⟨"store"⟩ occupiedStore "shop" ⟨"Shop", none, []⟩).1 _ _ _
      (Prod.ext hrun rfl) l fun hlocate => hl ?_
    rw [hdraft] at hlocate
    exact (Except.ok.inj hlocate).symm
  · have hrun : (((Store.mk "store").save "depot" ⟨"Depot", none, []⟩).run occupiedStore).1 =
        (.ok (), [.projectSaved "depot" 0]) := rfl
    refine ⟨hrun, ?_⟩
    obtain ⟨draft, target, hdraft, htarget, hnode⟩ :=
      (operations_atomic ⟨"store"⟩ occupiedStore "depot" ⟨"Depot", none, []⟩).2.1 _ _
        (Prod.ext hrun rfl)
    -- both paths are followed in the tree, where the directory is
    obtain rfl : ["store", ".depot.json.tmp"] = draft := Except.ok.inj hdraft
    obtain rfl : ["store", "depot.json"] = target := Except.ok.inj htarget
    exact hnode

end Store
end SchemaScript
