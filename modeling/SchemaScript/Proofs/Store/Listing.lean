import SchemaScript.Proofs.Store.Requests
import SchemaScript.Proofs.Unicode.ByteOrder

/-!
# SchemaScript.Proofs.Store.Listing

A list of the projects of a store agrees with loading them one by one, whatever else stands in the
directory.

* `Store.loaded_mem_names`: a project that can be loaded has an entry in the directory.
* `Store.summary?_eq_some`, `Store.skipped?_eq_some`: what is shown, and what is reported.
* `Store.list_agrees_with_load`: the list of any directory that can be read.
-/

namespace SchemaScript
namespace Store

variable {s : Store} {t : FileTree} {place : Location} {id : String} {p : Project}

/-! ## Loading -/

theorem validId_of_load (h : ((s.load id).run t).1 = .ok p) : isValidId id = true := by
  cases hv : isValidId id with
  | true => rfl
  | false =>
    rw [load_run_of_invalidId hv] at h
    cases h

theorem exists_read_of_load (h : ((s.load id).run t).1 = .ok p) :
    ∃ content, t.read (s.path id) = .ok content := by
  rw [load_run (validId_of_load h)] at h
  cases hread : t.read (s.path id) with
  | ok content => exact ⟨content, rfl⟩
  | error e =>
    rw [hread, answer, Except.bind] at h
    cases e <;> cases h

theorem loaded_mem_names (hreaches : t.Reaches s.root place)
    (h : ((s.load id).run t).1 = .ok p) : projectFile id ∈ t.names place := by
  obtain ⟨content, hread⟩ := exists_read_of_load h
  rw [path_eq, hreaches.read (isEntryName_projectFile (validId_of_load h))] at hread
  rw [FileTree.mem_names]
  cases hadmits : FileTree.admits s.root (projectFile id) with
  | error e =>
    rw [hadmits] at hread
    cases hread
  | ok _ =>
    cases hnode : t.node? (place ++ [projectFile id]) with
    | some n => rfl
    | none =>
      rw [hadmits, hnode] at hread
      cases hread

/-- A valid id is never refused as an invalid one. -/
theorem load_ne_invalidId (hv : isValidId id = true) (other : String) :
    ((s.load id).run t).1 ≠ .error (.invalidId other) := by
  rw [load_run hv, answer]
  intro h
  cases hread : (t.read (s.path id)).bind decodeText with
  | error e =>
    rw [hread] at h
    cases e <;> cases h
  | ok text =>
    rw [hread] at h
    cases htext : Snapshot.ofText text with
    | error e => simp only [htext, Except.mapError] at h; cases h
    | ok p => simp only [htext, Except.mapError] at h; cases h

/-! ## Summaries and warnings -/

theorem summary?_eq_some {x : ProjectSummary} :
    s.summary? t id = some x ↔ ∃ p, ((s.load id).run t).1 = .ok p ∧ x = .of id p := by
  rw [summary?]
  cases ((s.load id).run t).1 with
  | error e => simp
  | ok p =>
    constructor
    · rintro ⟨⟩
      exact ⟨p, rfl, rfl⟩
    · rintro ⟨q, ⟨⟩, rfl⟩
      rfl

theorem skipped?_eq_some {event : Event} :
    s.skipped? t id = some event ↔ isValidId id = true ∧
      ∃ fault, ((s.load id).run t).1 = .error fault ∧ event = .projectSkipped id fault.message := by
  cases hv : isValidId id with
  | false =>
    rw [skipped?, load_run_of_invalidId hv]
    simp
  | true =>
    have hne := load_ne_invalidId (s := s) (t := t) hv
    rw [skipped?]
    cases hload : ((s.load id).run t).1 with
    | ok p => simp
    | error fault =>
      cases fault with
      | invalidId other => exact absurd hload (hne other)
      | _ => simp [eq_comm]

theorem eq_of_skipped? {i j : String} {event : Event} (hi : s.skipped? t i = some event)
    (hj : s.skipped? t j = some event) : i = j := by
  obtain ⟨-, _, -, rfl⟩ := skipped?_eq_some.mp hi
  obtain ⟨-, _, -, h⟩ := skipped?_eq_some.mp hj
  exact (Event.projectSkipped.inj h).1

/-! ## Lists -/

/-- The list of a directory that can be read succeeds. It shows the projects that can be loaded,
each once and by ascending bytes of their ids; and it warns of the projects that have an entry and
cannot be loaded, each once, and of nothing else. -/
theorem list_agrees_with_load (s : Store) (t : FileTree) (names : List String)
    (hread : t.entries s.root = .ok names) :
    ∃ found events, s.list.run t = ((.ok found, events), t) ∧
      found.Pairwise (fun x y => x.id.toUTF8.data.toList < y.id.toUTF8.data.toList) ∧
      (∀ x, x ∈ found ↔ ∃ p, ((s.load x.id).run t).1 = .ok p ∧ x = .of x.id p) ∧
      events.Nodup ∧
      ∀ event, event ∈ events ↔
        ∃ id fault, isValidId id = true ∧ projectFile id ∈ names ∧
          ((s.load id).run t).1 = .error fault ∧ event = .projectSkipped id fault.message := by
  obtain ⟨place, hopens, rfl⟩ := FileTree.exists_opens_of_entries hread
  have hascending := pairwise_listedIds (t.nodup_names place)
  refine ⟨_, _, by rw [list_run, hread], ?ascending, fun x => ?shown, ?once, fun event => ?warned⟩
  case ascending =>
    refine hascending.filterMap (s.summary? t) fun i j hij x hx y hy => ?_
    obtain ⟨_, -, rfl⟩ := summary?_eq_some.mp hx
    obtain ⟨_, -, rfl⟩ := summary?_eq_some.mp hy
    exact Unicode.bytes_lt_iff.mpr hij
  case shown =>
    rw [List.mem_filterMap]
    constructor
    · rintro ⟨id, -, hx⟩
      obtain ⟨p, hload, rfl⟩ := summary?_eq_some.mp hx
      exact ⟨p, hload, rfl⟩
    · rintro ⟨p, hload, hx⟩
      have hid := validId_ne_empty (validId_of_load hload)
      exact ⟨x.id, mem_listedIds.mpr ⟨hid, loaded_mem_names hopens.reaches hload⟩,
        summary?_eq_some.mpr ⟨p, hload, hx⟩⟩
  case once =>
    refine hascending.filterMap (s.skipped? t) fun i j hij event hi other hj heq => ?_
    exact ne_of_lt hij (eq_of_skipped? hi (heq ▸ hj))
  case warned =>
    rw [List.mem_filterMap]
    constructor
    · rintro ⟨id, hid, hevent⟩
      obtain ⟨hv, fault, hload, rfl⟩ := skipped?_eq_some.mp hevent
      exact ⟨id, fault, hv, (mem_listedIds.mp hid).2, hload, rfl⟩
    · rintro ⟨id, fault, hv, hname, hload, rfl⟩
      exact ⟨id, mem_listedIds.mpr ⟨validId_ne_empty hv, hname⟩,
        skipped?_eq_some.mpr ⟨hv, fault, hload, rfl⟩⟩

/-- A directory with a project, and with much that is none. -/
def mixedStore : FileTree where
  nodes := [(["store"], .directory),
    (["store", "shop.json"], projectNode ⟨"Shop", none, []⟩),
    (["store", "broken.json"], .file "[".toUTF8),
    (["store", "bytes.json"], .file ⟨#[0xff]⟩),
    (["store", "folder.json"], .directory),
    (["store", "shop.v2.json"], projectNode ⟨"Shop", none, []⟩),
    (["store", ".shop.json.tmp"], .file .empty),
    (["store", "notes.txt"], .file .empty)]

/-- The project is shown, and the three entries are warned of that hold none under a valid id. -/
theorem list_agrees_with_load_mixedStore :
    ∃ found events, (Store.mk "store").list.run mixedStore = ((.ok found, events), mixedStore) ∧
      (∀ x, x ∈ found ↔
        ∃ p, (((Store.mk "store").load x.id).run mixedStore).1 = .ok p ∧ x = .of x.id p) ∧
      ⟨"shop", "Shop", 0⟩ ∈ found ∧
      events.Nodup ∧
      .projectSkipped "broken" (StoreError.snapshot "broken" (.json .endInList)).message ∈ events ∧
      .projectSkipped "bytes" (StoreError.file "store/bytes.json" .notUtf8).message ∈ events ∧
      .projectSkipped "folder" (StoreError.file "store/folder.json" .isDirectory).message
        ∈ events := by
  obtain ⟨found, events, hrun, -, hshown, hevents, hwarned⟩ :=
    list_agrees_with_load ⟨"store"⟩ mixedStore
      ["shop.json", "broken.json", "bytes.json", "folder.json", "shop.v2.json", ".shop.json.tmp",
        "notes.txt"] rfl
  have hshop : (((Store.mk "store").load "shop").run mixedStore).1 = .ok ⟨"Shop", none, []⟩ := by
    decide +kernel
  have hbroken : (((Store.mk "store").load "broken").run mixedStore).1 =
      .error (.snapshot "broken" (.json .endInList)) := by
    decide +kernel
  have hbytes : (((Store.mk "store").load "bytes").run mixedStore).1 =
      .error (.file "store/bytes.json" .notUtf8) := rfl
  have hfolder : (((Store.mk "store").load "folder").run mixedStore).1 =
      .error (.file "store/folder.json" .isDirectory) := rfl
  refine ⟨found, events, hrun, hshown, (hshown _).mpr ⟨_, hshop, rfl⟩, hevents, ?_, ?_, ?_⟩
  · exact (hwarned _).mpr ⟨"broken", _, by decide, by decide, hbroken, rfl⟩
  · exact (hwarned _).mpr ⟨"bytes", _, by decide, by decide, hbytes, rfl⟩
  · exact (hwarned _).mpr ⟨"folder", _, by decide, by decide, hfolder, rfl⟩

end Store
end SchemaScript
