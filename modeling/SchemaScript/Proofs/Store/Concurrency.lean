import SchemaScript.Proofs.Files.Locality
import SchemaScript.Proofs.Store.Atomicity

/-!
# SchemaScript.Proofs.Store.Concurrency

Two saves at the same time. Saves of different projects do not notice each other. Saves of one project
write the same draft: if both drafts are written before one of them is moved, the first to move takes
the draft of both, and the other fails.

* `Store.local_save`: the files that a save uses.
* `Store.LosesDraft`: a save that succeeds, and one that fails because its draft is gone.
* `Store.race_of_same_id`: all that can come of two saves of one project.
* `Store.saves_serialise_iff`: when two saves end as if one had been run after the other.
-/

namespace SchemaScript
namespace Store

open Program (Race Serialises IsSerial Turn)

variable {s : Store} {t t' : FileTree} {place : Location} {id : String} {p q : Project}
  {a b : Except StoreError Unit × List Event} {turns : List Turn}

/-! ## Different projects -/

/-- The files that a save uses. -/
def filesOf (place : Location) (id : String) : List Location :=
  [place ++ [draftFile id], place ++ [projectFile id]]

theorem disjoint_filesOf {i j : String} (h : i ≠ j) :
    ∀ l ∈ filesOf place i, l ∉ filesOf place j := by
  simp [filesOf, draftFile_inj, projectFile_inj, draftFile_ne_projectFile,
    (draftFile_ne_projectFile j i).symm, h]

theorem local_save (s : Store) (id : String) (p : Project) (place : Location) :
    Program.Local (·.Reaches s.root place) (filesOf place id) (s.save id p) := by
  rcases save_cases s id p with ⟨e, hsave⟩ | ⟨hv, -, hsave⟩
  · rw [hsave]
    exact .done _
  rw [hsave]
  refine .write (isEntryName_draftFile hv) List.mem_cons_self fun r => ?_
  cases r with
  | error e => exact .done _
  | ok _ =>
    refine .rename (isEntryName_draftFile hv) (isEntryName_projectFile hv)
      (draftFile_ne_projectFile id id).symm List.mem_cons_self
      (List.mem_cons_of_mem _ List.mem_cons_self) fun r => ?_
    cases r with
    | error e => exact .done _
    | ok _ => exact .done _

/-- Where no directory is reached, a save changes nothing. -/
theorem local_save_of_not_reaches (s : Store) (id : String) (p : Project)
    (h : ∀ place, ¬ t.Reaches s.root place) : Program.Local (· = t) [] (s.save id p) := by
  cases hpending : (s.save id p).isDone with
  | true =>
    rcases save_cases s id p with ⟨e, hsave⟩ | ⟨-, -, hsave⟩
    · rw [hsave]
      exact .done _
    · rw [hsave] at hpending
      cases hpending
  | false =>
    obtain ⟨-, ⟨e, hstep⟩ | ⟨place, hdraft⟩⟩ := save_step_cases hpending t
    · refine .request (fun u hu => ?_) (fun u hu l _ => ?_) (fun u u' hu hu' _ => ?_)
        fun u hu => ?_
      · rw [hu, hstep]
      · rw [hu, hstep]
      · rw [hu, hu']
        exact ⟨rfl, fun _ _ => rfl⟩
      · rw [hu, hstep]
        exact .done _
    · exact absurd hdraft.reaches (h place)

theorem race_of_ne {i j : String} (h : Race turns (s.save i p) (s.save j q) t a b t')
    (hne : i ≠ j) : Serialises (s.save i p) (s.save j q) t a b t' := by
  by_cases hreach : ∃ place, t.Reaches s.root place
  · obtain ⟨place, hreach⟩ := hreach
    exact h.serialises_of_local (local_save s i p place) (local_save s j q place)
      (disjoint_filesOf hne) hreach
  · have hnot := not_exists.mp hreach
    exact h.serialises_of_local (local_save_of_not_reaches s i p hnot)
      (local_save_of_not_reaches s j q hnot) nofun rfl

/-! ## One project -/

/-- One save succeeds, and the other does not find its draft. -/
def LosesDraft (s : Store) (id : String) (a b : Except StoreError Unit × List Event) : Prop :=
  a.1 = .ok () ∧ b.1 = .error (.file (s.path id) .notFound)

/-- Two drafts were written, the second over the first. -/
theorem CanPublish.race_publish (h : s.CanPublish t place id) {content : ByteArray}
    (hrace : Race turns (s.publish id p (.ok ())) (s.publish id q (.ok ()))
      (t.put (place ++ [draftFile id]) (.file content)) a b t') :
    (s.LosesDraft id a b ∨ s.LosesDraft id b a) ∧
      t' = t.replace place (draftFile id) (projectFile id) (.file content) := by
  have hgone : (t.replace place (draftFile id) (projectFile id) (.file content)).node?
      (place ++ [draftFile id]) = none := by
    rw [FileTree.node?_replace, if_neg (FileTree.place_ne (draftFile_ne_projectFile id id)),
      if_pos rfl]
  have hdraft := h.toCanDraft.of_sameDirectories (h.sameDirectories_replace content)
  cases turns with
  | nil => cases hrace
  | cons turn turns =>
    cases turn with
    | first =>
      obtain ⟨rfl, rfl, rfl⟩ := hrace.of_last_requests (h.publish_step p content)
        (hdraft.publish_step_missing q hgone)
      exact ⟨.inl ⟨rfl, rfl⟩, rfl⟩
    | second =>
      obtain ⟨rfl, rfl, rfl⟩ := hrace.swap.of_last_requests (h.publish_step q content)
        (hdraft.publish_step_missing p hgone)
      exact ⟨.inr ⟨rfl, rfl⟩, rfl⟩

theorem IsBlocked.race_publish {e : FileError} (h : s.IsBlocked t place id e)
    (hdraft : s.CanDraft t place id) {content : ByteArray}
    (hrace : Race turns (s.publish id p (.ok ())) (s.publish id q (.ok ()))
      (t.put (place ++ [draftFile id]) (.file content)) a b t') :
    a = (.error (.file (s.path id) e), []) ∧ b = (.error (.file (s.path id) e), []) ∧
      t' = t.put (place ++ [draftFile id]) (.file content) := by
  have hp := h.publish_step hdraft p content
  have hq := h.publish_step hdraft q content
  cases turns with
  | nil => cases hrace
  | cons turn turns =>
    cases turn with
    | first => exact hrace.of_last_requests hp hq
    | second =>
      obtain ⟨hb, ha, ht⟩ := hrace.swap.of_last_requests hq hp
      exact ⟨ha, hb, ht⟩

/-- What can come of two saves of one project: they did not overlap; or one of them lost its draft,
and one of the projects is saved; or no save of the project can succeed, and both fail as they do one
after the other. -/
inductive SameIdOutcome (s : Store) (id : String) (p q : Project) (turns : List Turn)
    (t : FileTree) (a b : Except StoreError Unit × List Event) (t' : FileTree) : Prop where
  | serial : IsSerial turns → SameIdOutcome s id p q turns t a b t'
  | overlap (place : Location) : s.CanPublish t place id → Snapshot.validate p = .ok () →
      Snapshot.validate q = .ok () → s.LosesDraft id a b ∨ s.LosesDraft id b a →
      ((s.load id).run t').1 = .ok p ∨ ((s.load id).run t').1 = .ok q →
      SameIdOutcome s id p q turns t a b t'
  | blocked (e : StoreError) : ((s.save id p).run t).1.1 = .error e →
      ((s.save id q).run t).1.1 = .error e →
      Serialises (s.save id p) (s.save id q) t a b t' → SameIdOutcome s id p q turns t a b t'

theorem SameIdOutcome.swap (h : SameIdOutcome s id q p (turns.map Turn.other) t b a t') :
    SameIdOutcome s id p q turns t a b t' := by
  cases h with
  | serial h => exact .serial (Program.isSerial_of_map_other h)
  | overlap place h hq hp hlost hsaved => exact .overlap place h hp hq hlost.symm hsaved.symm
  | blocked e hq hp h => exact .blocked e hp hq h.swap

/-- Two saves of one project, the first of which makes the first request. -/
theorem race_of_first (h : Race (.first :: turns) (s.save id p) (s.save id q) t a b t') :
    SameIdOutcome s id p q (.first :: turns) t a b t' := by
  cases h with
  | first hpending h =>
  obtain ⟨hp, ⟨e, hstep⟩ | ⟨place, hdraft⟩⟩ := save_step_cases hpending t
  · -- the draft cannot be written, and the rest is left to the second save
    rw [hstep] at h
    exact .serial ⟨.first, 1, _, congrArg (Turn.first :: ·) h.of_done.1⟩
  rw [hdraft.save_step hp] at h
  have hwritten : t.SameDirectories (t.put (place ++ [draftFile id]) (projectNode p)) :=
    hdraft.sameDirectories_put _
  have hdraft' := hdraft.of_sameDirectories hwritten
  cases h with
  | first _ h =>
    -- both requests of the first save come before any of the second
    have hdone : ∃ r u, (s.publish id p (.ok ())).step
        (t.put (place ++ [draftFile id]) (projectNode p)) = (.done r, u) := by
      rcases hdraft.publish_cases with hpublish | ⟨e, hblocked⟩
      · exact ⟨_, _, hpublish.publish_step p _⟩
      · exact ⟨_, _, hblocked.publish_step hdraft p _⟩
    obtain ⟨r, u, hdone⟩ := hdone
    rw [hdone] at h
    exact .serial ⟨.first, 2, _, congrArg (Turn.first :: Turn.first :: ·) h.of_done.1⟩
  | second hpending' h =>
    -- both drafts are written, that of the second save over that of the first
    have hq := (save_step_cases hpending' t).1
    rw [hdraft'.save_step hq] at h
    rcases hdraft.publish_cases with hpublish | ⟨e, hblocked⟩
    · have hpublish' := hpublish.of_sameDirectories hwritten
      obtain ⟨hlost, rfl⟩ := hpublish'.race_publish h
      exact .overlap place hpublish hp hq hlost (.inr (hpublish'.load hq))
    · have hblocked' := hblocked.of_sameDirectories hwritten
      obtain ⟨rfl, rfl, rfl⟩ := hblocked'.race_publish hdraft' h
      have hrun := hblocked.save_run hdraft hp
      refine .blocked (.file (s.path id) e) (by rw [hrun])
        (by rw [hblocked.save_run hdraft hq]) (.inl ⟨_, _, hrun, ?_, fun _ => rfl⟩)
      exact hblocked'.save_run hdraft' hq

theorem race_of_same_id (h : Race turns (s.save id p) (s.save id q) t a b t') :
    SameIdOutcome s id p q turns t a b t' := by
  cases turns with
  | nil => exact .serial ⟨.first, 0, 0, rfl⟩
  | cons turn turns =>
    cases turn with
    | first => exact race_of_first h
    | second => exact (race_of_first h.swap).swap

/-! ## Two saves -/

theorem CanPublish.save_run_save {t₁ t₂ : FileTree} (h : s.CanPublish t place id)
    (hp : Snapshot.validate p = .ok ()) (hq : Snapshot.validate q = .ok ())
    (hfirst : (s.save id p).run t = (a, t₁)) (hsecond : (s.save id q).run t₁ = (b, t₂)) :
    a.1 = .ok () ∧ b.1 = .ok () := by
  rw [h.save_run hp] at hfirst
  cases hfirst
  have hafter := h.of_sameDirectories (h.sameDirectories_replace (Snapshot.toText p).toUTF8)
  rw [projectNode, hafter.save_run hq] at hsecond
  cases hsecond
  exact ⟨rfl, rfl⟩

theorem CanPublish.not_losesDraft (h : s.CanPublish t place id)
    (hp : Snapshot.validate p = .ok ()) (hq : Snapshot.validate q = .ok ())
    (hserialises : Serialises (s.save id p) (s.save id q) t a b t') :
    ¬ (s.LosesDraft id a b ∨ s.LosesDraft id b a) := by
  have hboth : a.1 = .ok () ∧ b.1 = .ok () := by
    rcases hserialises with ⟨_, _, hfirst, hsecond, -⟩ | ⟨_, _, hfirst, hsecond, -⟩
    · exact h.save_run_save hp hq hfirst hsecond
    · exact (h.save_run_save hq hp hfirst hsecond).symm
  rintro (⟨-, hlost⟩ | ⟨-, hlost⟩)
  · cases hboth.2.symm.trans hlost
  · cases hboth.1.symm.trans hlost

/-- Two saves end as if one had been run after the other if and only if they are saves of different
projects, or the first could not succeed alone, or their requests did not overlap. In all other cases
one of them succeeds and the other does not find its draft, and one of the two projects is saved. -/
theorem saves_serialise_iff {i j : String}
    (h : Race turns (s.save i p) (s.save j q) t a b t') :
    (Serialises (s.save i p) (s.save j q) t a b t' ↔
      i ≠ j ∨ (∃ e, ((s.save i p).run t).1.1 = .error e) ∨ IsSerial turns) ∧
    (¬ Serialises (s.save i p) (s.save j q) t a b t' →
      (s.LosesDraft i a b ∨ s.LosesDraft i b a) ∧
      (((s.load i).run t').1 = .ok p ∨ ((s.load i).run t').1 = .ok q)) := by
  by_cases hne : i = j
  · subst hne
    cases race_of_same_id h with
    | serial hserial =>
      have hserialises := h.serialises_of_isSerial hserial
      exact ⟨⟨fun _ => .inr (.inr hserial), fun _ => hserialises⟩, absurd hserialises⟩
    | blocked e hp _ hserialises =>
      exact ⟨⟨fun _ => .inr (.inl ⟨e, hp⟩), fun _ => hserialises⟩, absurd hserialises⟩
    | overlap place hpublish hp hq hlost hsaved =>
      refine ⟨⟨fun hserialises => absurd hlost (hpublish.not_losesDraft hp hq hserialises),
        ?_⟩, fun _ => ⟨hlost, hsaved⟩⟩
      rintro (hne | ⟨e, hfails⟩ | hserial)
      · exact absurd rfl hne
      · rw [hpublish.save_run hp] at hfails
        cases hfails
      · exact h.serialises_of_isSerial hserial
  · have hserialises := race_of_ne h hne
    exact ⟨⟨fun _ => .inl hne, fun _ => hserialises⟩, absurd hserialises⟩

/-- The first of two projects was saved. -/
def firstSaved : FileTree where
  nodes := [(["store"], .directory), (["store", "shop.json"], projectNode ⟨"First", none, []⟩)]

/-- Both drafts are written before the first save goes on. -/
theorem shop_race :
    Race [.second, .first, .first, .second] ((Store.mk "store").save "shop" ⟨"First", none, []⟩)
      ((Store.mk "store").save "shop" ⟨"Second", none, []⟩) emptyStore
      (.ok (), [.projectSaved "shop" 0]) (.error (.file "store/shop.json" .notFound), [])
      firstSaved :=
  .second rfl (.first rfl (.first rfl (.second rfl .done)))

theorem saves_serialise_iff_shop :
    Serialises ((Store.mk "store").save "shop" ⟨"First", none, []⟩)
        ((Store.mk "store").save "shop" ⟨"Second", none, []⟩) emptyStore
        (.ok (), [.projectSaved "shop" 0]) (.error (.file "store/shop.json" .notFound), [])
        firstSaved ↔
      "shop" ≠ "shop" ∨
        (∃ e, (((Store.mk "store").save "shop" ⟨"First", none, []⟩).run emptyStore).1.1
          = .error e) ∨
        IsSerial [.second, .first, .first, .second] :=
  (saves_serialise_iff shop_race).1

/-- Two valid saves of one project that do not end as one after the other. -/
theorem overlapping_saves_not_serialise :
    isValidId "shop" = true ∧ Snapshot.validate ⟨"First", none, []⟩ = .ok () ∧
      Snapshot.validate ⟨"Second", none, []⟩ = .ok () ∧
      ∃ turns a b t',
        Race turns ((Store.mk "store").save "shop" ⟨"First", none, []⟩)
          ((Store.mk "store").save "shop" ⟨"Second", none, []⟩) emptyStore a b t' ∧
        ¬ Serialises ((Store.mk "store").save "shop" ⟨"First", none, []⟩)
          ((Store.mk "store").save "shop" ⟨"Second", none, []⟩) emptyStore
          a b t' := by
  have hpublish : (Store.mk "store").CanPublish emptyStore ["store"] "shop" :=
    { validId := rfl
      reaches := ⟨rfl, rfl⟩
      draftAdmitted := rfl
      draftFree := nofun
      admitted := rfl
      free := nofun }
  refine ⟨rfl, rfl, rfl, _, _, _, _, shop_race, fun hserialises => ?_⟩
  exact hpublish.not_losesDraft rfl rfl hserialises (.inl ⟨rfl, rfl⟩)

end Store
end SchemaScript
