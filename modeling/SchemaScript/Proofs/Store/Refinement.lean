import SchemaScript.Proofs.Store.Contents

/-!
# SchemaScript.Proofs.Store.Refinement

A store behaves as a map from ids to projects.

* `StoreCall`, `StoreAnswer`, `Store.calls`: histories of a store.
* `Catalog.Step`, `Catalog.Run`: what a map answers to a call, and to one call after another.
* `Store.calls_refine_catalog`: from an empty directory on, a store answers as a map does, and its
  directory holds the projects of the map.
-/

namespace SchemaScript

inductive StoreCall where
  | save (id : String) (p : Project)
  | load (id : String)
  | delete (id : String)
  | list

/-- What a call answers, with the events that it reports. -/
inductive StoreAnswer where
  | saved (result : Except StoreError Unit) (events : List Event)
  | loaded (result : Except StoreError Project)
  | deleted (result : Except StoreError Unit)
  | listed (result : Except StoreError (List ProjectSummary)) (events : List Event)

/-- The id that a call is about. -/
def StoreCall.id? : StoreCall → Option String
  | save id _ | load id | delete id => some id
  | list => none

namespace Store

def call (s : Store) : StoreCall → Program StoreAnswer
  | .save id p => do
    let (result, events) ← s.save id p
    return .saved result events
  | .load id => return .loaded (← s.load id)
  | .delete id => return .deleted (← s.delete id)
  | .list => do
    let (result, events) ← s.list
    return .listed result events

/-- One call after another. -/
def calls (s : Store) : List StoreCall → Program (List StoreAnswer)
  | [] => return []
  | c :: cs => do
    let answer ← s.call c
    return answer :: (← s.calls cs)

end Store

namespace Catalog

/-- What a map from ids to projects answers to a call, and the map after it. An invalid id is
refused before anything else, and an invalid project is not saved. -/
inductive Step (m : Catalog) : StoreCall → StoreAnswer → Catalog → Prop where
  | saveInvalidId {id : String} {p : Project} : isValidId id = false →
      Step m (.save id p) (.saved (.error (.invalidId id)) []) m
  | saveInvalidProject {id : String} {p : Project} {e : Snapshot.Error} : isValidId id = true →
      Snapshot.validate p = .error e → Step m (.save id p) (.saved (.error (.snapshot id e)) []) m
  | save {id : String} {p : Project} : isValidId id = true → Snapshot.validate p = .ok () →
      Step m (.save id p) (.saved (.ok ()) [.projectSaved id p.tables.length]) (m.set id (some p))
  | loadInvalidId {id : String} : isValidId id = false →
      Step m (.load id) (.loaded (.error (.invalidId id))) m
  | loadMissing {id : String} : isValidId id = true → m id = none →
      Step m (.load id) (.loaded (.error (.notFound id))) m
  | load {id : String} {p : Project} : m id = some p → Step m (.load id) (.loaded (.ok p)) m
  | deleteInvalidId {id : String} : isValidId id = false →
      Step m (.delete id) (.deleted (.error (.invalidId id))) m
  | deleteMissing {id : String} : isValidId id = true → m id = none →
      Step m (.delete id) (.deleted (.error (.notFound id))) m
  | delete {id : String} {p : Project} : m id = some p →
      Step m (.delete id) (.deleted (.ok ())) (m.set id none)
  | list {found : List ProjectSummary} : found.Pairwise (fun x y => x.id < y.id) →
      (∀ x, x ∈ found ↔ ∃ p, m x.id = some p ∧ x = .of x.id p) →
      Step m .list (.listed (.ok found) []) m

/-- What a map answers to one call after another, and the map after them. -/
inductive Run : Catalog → List StoreCall → List StoreAnswer → Catalog → Prop where
  | nil {m : Catalog} : Run m [] [] m
  | cons {m m' m'' : Catalog} {c : StoreCall} {a : StoreAnswer} {cs : List StoreCall}
      {as : List StoreAnswer} : Step m c a m' → Run m' cs as m'' → Run m (c :: cs) (a :: as) m''

end Catalog

namespace Store

variable {s : Store} {t : FileTree} {place : Location} {m : Catalog}

/-- A call answers as the map does whose projects the directory holds, and leaves a directory that
holds the projects of the map after the call. -/
theorem Holds.call (h : s.Holds t place m) (c : StoreCall) (hroom : ∀ id ∈ c.id?, s.HasRoom id) :
    ∃ m', m.Step c ((s.call c).run t).1 m' ∧ s.Holds ((s.call c).run t).2 place m' := by
  cases c with
  | save id p =>
    rw [Store.call, Program.run_bind]
    cases hv : isValidId id with
    | false =>
      have hrun : (s.save id p).run t = ((.error (.invalidId id), []), t) := by
        rw [Store.save, hv]
        rfl
      rw [hrun]
      exact ⟨m, .saveInvalidId hv, h⟩
    | true =>
      cases hp : Snapshot.validate p with
      | error e =>
        have hrun : (s.save id p).run t = ((.error (.snapshot id e), []), t) := by
          rw [Store.save, hv, hp]
          rfl
        rw [hrun]
        exact ⟨m, .saveInvalidProject hv hp, h⟩
      | ok _ =>
        obtain ⟨t', hrun, hholds⟩ := h.save ⟨hv, hroom id rfl, hp⟩
        rw [hrun]
        exact ⟨m.set id (some p), .save hv hp, hholds⟩
  | load id =>
    rw [Store.call, Program.run_bind]
    cases hv : isValidId id with
    | false =>
      have hrun : (s.load id).run t = (.error (.invalidId id), t) := by
        rw [Store.load, hv]
        rfl
      rw [hrun]
      exact ⟨m, .loadInvalidId hv, h⟩
    | true =>
      cases hm : m id with
      | none =>
        rw [h.load_of_none hv (hroom id rfl) hm]
        exact ⟨m, .loadMissing hv hm, h⟩
      | some p =>
        rw [h.load_of_some hm]
        exact ⟨m, .load hm, h⟩
  | delete id =>
    rw [Store.call, Program.run_bind]
    cases hv : isValidId id with
    | false =>
      have hrun : (s.delete id).run t = (.error (.invalidId id), t) := by
        rw [Store.delete, hv]
        rfl
      rw [hrun]
      exact ⟨m, .deleteInvalidId hv, h⟩
    | true =>
      cases hm : m id with
      | none =>
        rw [h.delete_of_none hv (hroom id rfl) hm]
        exact ⟨m, .deleteMissing hv hm, h⟩
      | some p =>
        obtain ⟨t', hrun, hholds⟩ := h.delete hm
        rw [hrun]
        exact ⟨m.set id none, .delete hm, hholds⟩
  | list =>
    obtain ⟨found, hrun, hascending, hmem⟩ := h.list
    rw [Store.call, Program.run_bind, hrun]
    exact ⟨m, .list hascending hmem, h⟩

theorem Holds.calls (h : s.Holds t place m) {cs : List StoreCall}
    (hroom : ∀ c ∈ cs, ∀ id ∈ c.id?, s.HasRoom id) :
    ∃ m', m.Run cs ((s.calls cs).run t).1 m' ∧ s.Holds ((s.calls cs).run t).2 place m' := by
  induction cs generalizing t m with
  | nil => exact ⟨m, .nil, h⟩
  | cons c cs ih =>
    obtain ⟨m', hstep, hholds⟩ := h.call c (hroom c List.mem_cons_self)
    obtain ⟨m'', hrun, hholds'⟩ := ih hholds fun d hd => hroom d (List.mem_cons_of_mem _ hd)
    rw [Store.calls, Program.run_bind, Program.run_bind]
    exact ⟨m'', .cons hstep hrun, hholds'⟩

/-- A store answers every sequence of calls as a map from ids to projects does that is empty at
first, if its directory is empty at first. Afterwards the directory has exactly one file for each
project of the map, with the text of the project, and no draft. -/
theorem calls_refine_catalog (s : Store) (t : FileTree) (place : Location) (cs : List StoreCall)
    (hroot : t.Opens s.root place) (hempty : t.names place = [])
    (hroom : ∀ c ∈ cs, ∀ id ∈ c.id?, s.HasRoom id) :
    ∃ m, Catalog.Run .empty cs ((s.calls cs).run t).1 m ∧
      (((s.calls cs).run t).2.names place).Nodup ∧
      (∀ name, name ∈ ((s.calls cs).run t).2.names place ↔
        ∃ id p, m id = some p ∧ name = projectFile id) ∧
      (∀ id p, m id = some p →
        ((s.calls cs).run t).2.read (s.path id) = .ok (Snapshot.toText p).toUTF8) ∧
      ∀ id, draftFile id ∉ ((s.calls cs).run t).2.names place := by
  obtain ⟨m, hrun, hholds⟩ := (Holds.of_empty hroot hempty).calls hroom
  refine ⟨m, hrun, FileTree.nodup_names _ _, fun name => hholds.mem_names,
    fun id p hm => hholds.read_of_some hm, fun id hid => ?_⟩
  obtain ⟨i, p, -, hname⟩ := hholds.mem_names.mp hid
  exact draftFile_ne_projectFile id i hname

theorem calls_refine_catalog_shop :
    ∃ m, Catalog.Run .empty
        [.save "shop" ⟨"Shop", none, []⟩, .load "shop", .load "../etc", .list, .delete "shop"]
        (((Store.mk "store").calls [.save "shop" ⟨"Shop", none, []⟩, .load "shop", .load "../etc",
          .list, .delete "shop"]).run emptyStore).1 m ∧
      ∀ name, name ∈ (((Store.mk "store").calls [.save "shop" ⟨"Shop", none, []⟩, .load "shop",
          .load "../etc", .list, .delete "shop"]).run emptyStore).2.names ["store"] ↔
        ∃ id p, m id = some p ∧ name = projectFile id := by
  have hshop : (Store.mk "store").HasRoom "shop" := ⟨by decide, by decide⟩
  have hetc : (Store.mk "store").HasRoom "../etc" := ⟨by decide, by decide⟩
  obtain ⟨m, hrun, -, hnames, -⟩ := calls_refine_catalog ⟨"store"⟩ emptyStore ["store"]
    [.save "shop" ⟨"Shop", none, []⟩, .load "shop", .load "../etc", .list, .delete "shop"]
    ⟨rfl, rfl⟩ rfl (by
      simp only [List.forall_mem_cons, StoreCall.id?, Option.mem_some, forall_eq']
      exact ⟨hshop, hshop, hetc, nofun, hshop, nofun⟩)
  exact ⟨m, hrun, hnames⟩

/-- An invalid id is refused as such, also where a valid one would only not be found. -/
theorem invalidId_ne_notFound :
    (emptyStore.Opens "store" ["store"] ∧ emptyStore.names ["store"] = [] ∧
      (Store.mk "store").HasRoom "../etc") ∧
    (((Store.mk "store").calls [.load "../etc", .delete "../etc"]).run emptyStore).1 =
      [.loaded (.error (.invalidId "../etc")), .deleted (.error (.invalidId "../etc"))] ∧
    (((Store.mk "store").calls [.load "../etc", .delete "../etc"]).run emptyStore).1 ≠
      [.loaded (.error (.notFound "../etc")), .deleted (.error (.notFound "../etc"))] :=
  ⟨⟨⟨rfl, rfl⟩, rfl, by decide, by decide⟩, rfl, nofun⟩

end Store
end SchemaScript
