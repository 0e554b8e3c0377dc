import SchemaScript.Proofs.Files.Entry
import SchemaScript.Proofs.Files.Runs
import SchemaScript.Proofs.Store.Contents

/-!
# SchemaScript.Proofs.Store.Requests

The operations of a store as the requests that they make, on any tree. A save is refused, or writes
its draft, or also publishes it; the other operations make one request for one file, or none.

* `Store.load_run`, `Store.delete_run`, `Store.list_run`: the operations in terms of requests.
* `Store.save_cases`, `Store.publish`: a save is refused, or starts with its draft and goes on.
* `Store.CanDraft`, `Store.CanPublish`, `Store.IsBlocked`: when the two requests of a save succeed.
* `Store.save_run_cases`, `Store.save_stops_cases`: all that a save can do, run or stopped.
-/

namespace SchemaScript
namespace Store

variable {s : Store} {t t' : FileTree} {place : Location} {id : String} {p : Project}

/-! ## Loading and deleting -/

/-- What loading a project answers when its file was read. -/
def answer (s : Store) (id : String) (content : Except FileError ByteArray) :
    Except StoreError Project :=
  match content.bind decodeText with
  | .error .notFound => .error (.notFound id)
  | .error e => .error (.file (s.path id) e)
  | .ok text => (Snapshot.ofText text).mapError (.snapshot id)

theorem load_run (hv : isValidId id = true) (t : FileTree) :
    (s.load id).run t = (s.answer id (t.read (s.path id)), t) := by
  simp only [load, hv, Bool.not_true, Bool.false_eq_true, if_false, readText]
  simp only [bind, Program.bind, Program.run, answer]
  cases (t.read (s.path id)).bind decodeText with
  | error e => cases e <;> rfl
  | ok text => rfl

theorem load_run_of_invalidId (hv : isValidId id = false) (t : FileTree) :
    (s.load id).run t = (.error (.invalidId id), t) := by
  rw [load, hv]
  rfl

theorem load_leaves (s : Store) (id : String) (t : FileTree) : ((s.load id).run t).2 = t := by
  cases hv : isValidId id with
  | false => rw [load_run_of_invalidId hv]
  | true => rw [load_run hv]

theorem load_congr (h : isValidId id = true → t'.read (s.path id) = t.read (s.path id)) :
    ((s.load id).run t').1 = ((s.load id).run t).1 := by
  cases hv : isValidId id with
  | false => rw [load_run_of_invalidId hv, load_run_of_invalidId hv]
  | true => rw [load_run hv, load_run hv, h hv]

theorem delete_run (hv : isValidId id = true) (t : FileTree) :
    (s.delete id).run t =
      (match (t.remove (s.path id)).1 with
        | .error .notFound => .error (.notFound id)
        | .error e => .error (.file (s.path id) e)
        | .ok _ => .ok (),
      (t.remove (s.path id)).2) := by
  simp only [delete, hv, Bool.not_true, Bool.false_eq_true, if_false]
  simp only [bind, Program.bind, Program.run]
  cases (t.remove (s.path id)).1 with
  | error e => cases e <;> rfl
  | ok _ => rfl

theorem delete_run_of_invalidId (hv : isValidId id = false) (t : FileTree) :
    (s.delete id).run t = (.error (.invalidId id), t) := by
  rw [delete, hv]
  rfl

/-! ## Saving -/

/-- What a save goes on with when its draft was written. -/
def publish (s : Store) (id : String) (p : Project) :
    Except FileError Unit → Program (Except StoreError Unit × List Event)
  | .error e => .done (.error (.file (s.draftPath id) e), [])
  | .ok _ => .rename (s.draftPath id) (s.path id) fun
    | .error e => .done (.error (.file (s.path id) e), [])
    | .ok _ => .done (.ok (), [.projectSaved id p.tables.length])

theorem save_eq (hv : isValidId id = true) (hp : Snapshot.validate p = .ok ()) :
    s.save id p = .write (s.draftPath id) (Snapshot.toText p).toUTF8 (s.publish id p) := by
  rw [save, hv, hp]
  rfl

/-- A save is refused before any request, or it starts with its draft. -/
theorem save_cases (s : Store) (id : String) (p : Project) :
    (∃ e, s.save id p = .done (.error e, [])) ∨
      isValidId id = true ∧ Snapshot.validate p = .ok () ∧
        s.save id p = .write (s.draftPath id) (Snapshot.toText p).toUTF8 (s.publish id p) := by
  cases hv : isValidId id with
  | false =>
    refine .inl ⟨.invalidId id, ?_⟩
    rw [save, hv]
    rfl
  | true =>
    cases hp : Snapshot.validate p with
    | error e =>
      refine .inl ⟨.snapshot id e, ?_⟩
      rw [save, hv, hp]
      rfl
    | ok _ => exact .inr ⟨rfl, rfl, save_eq hv hp⟩

/-- The draft of a project can be written. -/
structure CanDraft (s : Store) (t : FileTree) (place : Location) (id : String) : Prop where
  validId : isValidId id = true
  reaches : t.Reaches s.root place
  draftAdmitted : FileTree.admits s.root (draftFile id) = .ok ()
  draftFree : t.node? (place ++ [draftFile id]) ≠ some .directory

/-- The draft of a project can be written, and take the place of the project. -/
structure CanPublish (s : Store) (t : FileTree) (place : Location) (id : String) : Prop
    extends s.CanDraft t place id where
  admitted : FileTree.admits s.root (projectFile id) = .ok ()
  free : t.node? (place ++ [projectFile id]) ≠ some .directory

/-- Whether a save succeeds depends on the directories of the tree, and not on its files. -/
theorem CanDraft.of_sameDirectories (h : s.CanDraft t place id) (hd : t.SameDirectories t') :
    s.CanDraft t' place id where
  validId := h.validId
  reaches := h.reaches.of_sameDirectories hd
  draftAdmitted := h.draftAdmitted
  draftFree := mt (hd.directory _).mpr h.draftFree

theorem CanPublish.of_sameDirectories (h : s.CanPublish t place id) (hd : t.SameDirectories t') :
    s.CanPublish t' place id where
  toCanDraft := h.toCanDraft.of_sameDirectories hd
  admitted := h.admitted
  free := mt (hd.directory _).mpr h.free

theorem CanDraft.sameDirectories_put (h : s.CanDraft t place id) (content : ByteArray) :
    t.SameDirectories (t.put (place ++ [draftFile id]) (.file content)) :=
  FileTree.sameDirectories_put (by simp) h.draftFree

theorem CanPublish.sameDirectories_replace (h : s.CanPublish t place id) (content : ByteArray) :
    t.SameDirectories (t.replace place (draftFile id) (projectFile id) (.file content)) :=
  FileTree.sameDirectories_replace h.draftFree h.free

theorem CanDraft.write (h : s.CanDraft t place id) (content : ByteArray) :
    t.write (s.draftPath id) content = (.ok (), t.put (place ++ [draftFile id]) (.file content)) := by
  rw [draftPath_eq, h.reaches.write (isEntryName_draftFile h.validId), h.draftAdmitted]
  exact if_neg h.draftFree

/-- Writing a draft fails whatever the content, or the draft can be written. -/
theorem write_draft_cases (hv : isValidId id = true) (t : FileTree) :
    (∃ e, ∀ content, t.write (s.draftPath id) content = (.error e, t)) ∨
      ∃ place, s.CanDraft t place id := by
  have hn := isEntryName_draftFile hv
  by_cases hreach : ∃ place, t.Reaches s.root place
  · obtain ⟨place, hreach⟩ := hreach
    cases hadmits : FileTree.admits s.root (draftFile id) with
    | error e =>
      refine .inl ⟨e, fun content => ?_⟩
      rw [draftPath_eq, hreach.write hn, hadmits]
    | ok _ =>
      by_cases hd : t.node? (place ++ [draftFile id]) = some .directory
      · refine .inl ⟨.isDirectory, fun content => ?_⟩
        rw [draftPath_eq, hreach.write hn, hadmits]
        exact if_pos hd
      · exact .inr ⟨place, hv, hreach, hadmits, hd⟩
  · cases hw : t.writable (s.draftPath id) with
    | error e => exact .inl ⟨e, fun content => by rw [FileTree.write, hw]⟩
    | ok l => exact absurd (FileTree.exists_reaches_of_writable hn hw) hreach

theorem CanDraft.rename (h : s.CanDraft t place id) :
    t.rename (s.draftPath id) (s.path id) =
      match t.node? (place ++ [draftFile id]) with
      | none => (.error .notFound, t)
      | some .directory => (.error .isDirectory, t)
      | some (.file content) =>
        match FileTree.admits s.root (projectFile id) with
        | .error e => (.error e, t)
        | .ok _ =>
          if t.node? (place ++ [projectFile id]) = some .directory then (.error .isDirectory, t)
          else
            (.ok (), (t.erase (place ++ [draftFile id])).put (place ++ [projectFile id])
              (.file content)) := by
  have hrename := h.reaches.rename (isEntryName_draftFile h.validId)
    (isEntryName_projectFile h.validId) (draftFile_ne_projectFile id id).symm
  rw [h.draftAdmitted] at hrename
  exact hrename

/-- No draft that stands in the directory can take the place of the project, whatever else is in the
files of the tree. -/
def IsBlocked (s : Store) (t : FileTree) (place : Location) (id : String) (e : FileError) : Prop :=
  ∀ t' content, t.SameDirectories t' →
    t'.node? (place ++ [draftFile id]) = some (.file content) →
    t'.rename (s.draftPath id) (s.path id) = (.error e, t')

theorem CanDraft.publish_cases (h : s.CanDraft t place id) :
    s.CanPublish t place id ∨ ∃ e, s.IsBlocked t place id e := by
  cases hadmits : FileTree.admits s.root (projectFile id) with
  | error e =>
    refine .inr ⟨e, fun t' content hd hdraft => ?_⟩
    rw [(h.of_sameDirectories hd).rename, hdraft, hadmits]
  | ok _ =>
    by_cases hdirectory : t.node? (place ++ [projectFile id]) = some .directory
    · refine .inr ⟨.isDirectory, fun t' content hd hdraft => ?_⟩
      rw [(h.of_sameDirectories hd).rename, hdraft, hadmits]
      exact if_pos ((hd.directory _).mp hdirectory)
    · exact .inl ⟨h, hadmits, hdirectory⟩

theorem CanPublish.publish_step (h : s.CanPublish t place id) (p : Project) (content : ByteArray) :
    (s.publish id p (.ok ())).step (t.put (place ++ [draftFile id]) (.file content)) =
      (.done (.ok (), [.projectSaved id p.tables.length]),
        t.replace place (draftFile id) (projectFile id) (.file content)) := by
  have hwritten := h.of_sameDirectories (h.sameDirectories_put content)
  have hrename := hwritten.rename
  rw [FileTree.node?_put (by simp), if_pos rfl, h.admitted] at hrename
  dsimp only at hrename
  rw [if_neg hwritten.free] at hrename
  rw [publish, Program.step_rename, hrename]
  rfl

theorem IsBlocked.of_sameDirectories {e : FileError} (h : s.IsBlocked t place id e)
    (hd : t.SameDirectories t') : s.IsBlocked t' place id e :=
  fun u content hd' => h u content (hd.trans hd')

theorem IsBlocked.publish_step {e : FileError} (h : s.IsBlocked t place id e)
    (hdraft : s.CanDraft t place id) (p : Project) (content : ByteArray) :
    (s.publish id p (.ok ())).step (t.put (place ++ [draftFile id]) (.file content)) =
      (.done (.error (.file (s.path id) e), []),
        t.put (place ++ [draftFile id]) (.file content)) := by
  have hnode : (t.put (place ++ [draftFile id]) (.file content)).node? (place ++ [draftFile id])
      = some (.file content) := by
    rw [FileTree.node?_put (by simp), if_pos rfl]
  rw [publish, Program.step_rename, h _ content (hdraft.sameDirectories_put content) hnode]

/-- A draft that is gone when its save goes on. -/
theorem CanDraft.publish_step_missing (h : s.CanDraft t place id) (p : Project)
    (hdraft : t.node? (place ++ [draftFile id]) = none) :
    (s.publish id p (.ok ())).step t = (.done (.error (.file (s.path id) .notFound), []), t) := by
  rw [publish, Program.step_rename, h.rename, hdraft]

theorem CanDraft.save_step (h : s.CanDraft t place id) (hp : Snapshot.validate p = .ok ()) :
    (s.save id p).step t =
      (s.publish id p (.ok ()), t.put (place ++ [draftFile id]) (projectNode p)) := by
  rw [save_eq h.validId hp, Program.step_write, h.write]
  rfl

/-- The first request of a save fails and changes nothing, or writes the draft. -/
theorem save_step_cases (hpending : (s.save id p).isDone = false) (t : FileTree) :
    Snapshot.validate p = .ok () ∧
      ((∃ e, (s.save id p).step t = (.done (.error e, []), t)) ∨
        ∃ place, s.CanDraft t place id) := by
  rcases save_cases s id p with ⟨e, hsave⟩ | ⟨hv, hp, hsave⟩
  · rw [hsave] at hpending
    cases hpending
  rcases write_draft_cases (s := s) hv t with ⟨e, hwrite⟩ | hdraft
  · refine ⟨hp, .inl ⟨.file (s.draftPath id) e, ?_⟩⟩
    rw [hsave, Program.step_write, hwrite]
    rfl
  · exact ⟨hp, .inr hdraft⟩

theorem CanPublish.save_run (h : s.CanPublish t place id) (hp : Snapshot.validate p = .ok ()) :
    (s.save id p).run t = ((.ok (), [.projectSaved id p.tables.length]),
      t.replace place (draftFile id) (projectFile id) (projectNode p)) := by
  rw [← Program.run_step, h.save_step hp, ← Program.run_step, projectNode, h.publish_step]
  rfl

theorem IsBlocked.save_run {e : FileError} (h : s.IsBlocked t place id e)
    (hdraft : s.CanDraft t place id) (hp : Snapshot.validate p = .ok ()) :
    (s.save id p).run t = ((.error (.file (s.path id) e), []),
      t.put (place ++ [draftFile id]) (projectNode p)) := by
  rw [← Program.run_step, hdraft.save_step hp, ← Program.run_step, projectNode,
    h.publish_step hdraft]
  rfl

/-- A save fails and changes nothing, or leaves its draft behind, or replaces the project. -/
theorem save_run_cases (s : Store) (id : String) (p : Project) (t : FileTree) :
    (∃ e, (s.save id p).run t = ((.error e, []), t)) ∨
      (∃ place e, s.CanDraft t place id ∧
        (s.save id p).run t = ((.error e, []), t.put (place ++ [draftFile id]) (projectNode p))) ∨
      ∃ place, s.CanPublish t place id ∧
        (s.save id p).run t = ((.ok (), [.projectSaved id p.tables.length]),
          t.replace place (draftFile id) (projectFile id) (projectNode p)) := by
  rcases save_cases s id p with ⟨e, hsave⟩ | ⟨-, -, hsave⟩
  · exact .inl ⟨e, by rw [hsave]; rfl⟩
  have hpending : (s.save id p).isDone = false := by rw [hsave]; rfl
  obtain ⟨hp, ⟨e, hstep⟩ | ⟨place, hdraft⟩⟩ := save_step_cases hpending t
  · exact .inl ⟨e, by rw [← Program.run_step, hstep]; rfl⟩
  rcases hdraft.publish_cases with hpublish | ⟨e, hblocked⟩
  · exact .inr (.inr ⟨place, hpublish, hpublish.save_run hp⟩)
  · exact .inr (.inl ⟨place, _, hdraft, hblocked.save_run hdraft hp⟩)

/-- A save that stops on its way has changed nothing, or written a draft, or replaced the project. -/
theorem save_stops_cases (h : (s.save id p).Stops t t') :
    t' = t ∨
      (∃ place content, s.CanDraft t place id ∧
        t' = t.put (place ++ [draftFile id]) (.file content)) ∨
      ∃ place, s.CanPublish t place id ∧ Snapshot.validate p = .ok () ∧
        t' = t.replace place (draftFile id) (projectFile id) (projectNode p) := by
  rcases save_cases s id p with ⟨e, hsave⟩ | ⟨hv, hp, hsave⟩
  · rw [hsave] at h
    exact .inl h.of_done
  rw [hsave] at h
  rcases write_draft_cases (s := s) hv t with ⟨e, hwrite⟩ | ⟨place, hdraft⟩
  · -- no part of the draft can be written either
    rcases h.of_write with h | ⟨part, h⟩ | h
    · exact .inl h
    · rw [hwrite] at h
      exact .inl h
    · rw [hwrite] at h
      exact .inl h.of_done
  rcases h.of_write with h | ⟨part, h⟩ | h
  · exact .inl h
  · rw [hdraft.write] at h
    exact .inr (.inl ⟨place, part, hdraft, h⟩)
  -- the draft is complete, and the save goes on
  rw [hdraft.write] at h
  rcases h.of_step nofun with h | h
  · exact .inr (.inl ⟨place, _, hdraft, h⟩)
  rcases hdraft.publish_cases with hpublish | ⟨e, hblocked⟩
  · rw [hpublish.publish_step] at h
    exact .inr (.inr ⟨place, hpublish, hp, h.of_done⟩)
  · rw [hblocked.publish_step hdraft] at h
    exact .inr (.inl ⟨place, _, hdraft, h.of_done⟩)

/-! ## Listing -/

/-- What a list shows of the project with an id, if it can be loaded. -/
def summary? (s : Store) (t : FileTree) (id : String) : Option ProjectSummary :=
  match ((s.load id).run t).1 with
  | .ok p => some (.of id p)
  | .error _ => none

/-- What a list reports of a project that cannot be loaded. -/
def skipped? (s : Store) (t : FileTree) (id : String) : Option Event :=
  match ((s.load id).run t).1 with
  | .ok _ => none
  | .error (.invalidId _) => none
  | .error e => some (.projectSkipped id e.message)

theorem summaries_run (s : Store) (ids : List String) (t : FileTree) :
    (s.summaries ids).run t =
      ((ids.filterMap (s.summary? t), ids.filterMap (s.skipped? t)), t) := by
  induction ids with
  | nil => rfl
  | cons id ids ih =>
    rw [summaries, Program.run_bind, load_leaves, Program.run_bind, ih, List.filterMap_cons,
      List.filterMap_cons, summary?, skipped?]
    cases ((s.load id).run t).1 with
    | ok p => rfl
    | error e => cases e <;> rfl

theorem list_run (s : Store) (t : FileTree) :
    s.list.run t =
      (match t.entries s.root with
        | .error e => (.error (.file s.root e), [])
        | .ok names =>
          (.ok ((listedIds names).filterMap (s.summary? t)),
            (listedIds names).filterMap (s.skipped? t)),
      t) := by
  rw [list, Program.run_bind, Program.run]
  cases t.entries s.root with
  | error e => rfl
  | ok names =>
    simp only [Program.run]
    rw [Program.run_bind, summaries_run]
    rfl

end Store
end SchemaScript
