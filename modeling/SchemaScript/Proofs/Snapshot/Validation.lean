import SchemaScript.Proofs.Snapshot.Fields
import SchemaScript.Snapshot.Snapshot

/-!
# SchemaScript.Proofs.Snapshot.Validation

What the check of a project reports. A project is accepted if no field violates what is asked of it;
otherwise the first field that does is named, with what is wrong there.

* `Project.Violates`: a field of a project, and how its text violates what is asked.
* `violation?_eq_some_iff`: what is found is the first violation.
* `Snapshot.validate_first`: the check as a whole.
-/

namespace SchemaScript

open Unicode

/-- A text violates what is asked of its field: it is blank, or it is longer than the field allows. -/
inductive Project.Violates (p : Project) (f : CheckedField) : Violation → Prop where
  | required {text : String} (htext : p.text? f = some text) (hblank : isBlank text = true) :
      p.Violates f (.required f.path)
  | tooLong {text : String} {limit : Nat} (htext : p.text? f = some text)
      (hblank : isBlank text = false) (hlimit : f.limit = some limit) (hlong : limit < text.length) :
      p.Violates f (.tooLong f.path limit)

/-- A violation that no other stands before. -/
structure Project.ViolatesFirst (p : Project) (f : CheckedField) (v : Violation) : Prop where
  violates : p.Violates f v
  first : ∀ g w, p.Violates g w → g = f ∨ f.Before g

namespace CheckedField

variable {f g : CheckedField}

theorem Before.irrefl (f : CheckedField) : ¬ f.Before f :=
  List.lex_irrefl (fun n => Nat.lt_irrefl n) f.place

theorem Before.trans {h : CheckedField} (hfg : f.Before g) (hgh : g.Before h) : f.Before h :=
  List.lex_trans (fun hxy hyz => Nat.lt_trans hxy hyz) hfg hgh

end CheckedField

/-! ## One field -/

variable {p : Project} {f : CheckedField} {text : String} {v : Violation}

theorem Project.Violates.exists_text (h : p.Violates f v) : ∃ text, p.text? f = some text := by
  cases h with
  | required htext _ => exact ⟨_, htext⟩
  | tooLong htext _ _ _ => exact ⟨_, htext⟩

theorem violation?_requirement_iff (htext : p.text? f = some text) :
    (f.requirement text).violation? = some v ↔ p.Violates f v := by
  constructor
  · intro h
    rw [Requirement.violation?] at h
    split at h
    · rename_i hblank
      cases h
      exact .required htext hblank
    · rename_i hblank
      split at h
      · rename_i limit hlimit
        split at h
        · rename_i hlong
          cases h
          exact .tooLong htext (Bool.eq_false_iff.mpr hblank) hlimit hlong
        · cases h
      · cases h
  · intro h
    cases h with
    | required htext' hblank =>
      rw [htext, Option.some.injEq] at htext'
      subst htext'
      exact if_pos hblank
    | tooLong htext' hblank hlimit hlong =>
      rw [htext, Option.some.injEq] at htext'
      subst htext'
      simp [Requirement.violation?, CheckedField.requirement, hblank, hlimit, hlong]

/-- Nothing is wrong in a field if its text is not blank and not too long. -/
theorem violation?_requirement_eq_none_iff :
    (f.requirement text).violation? = none ↔
      isBlank text = false ∧ ∀ limit ∈ f.limit, text.length ≤ limit := by
  cases hblank : isBlank text with
  | true => simp [Requirement.violation?, CheckedField.requirement, hblank]
  | false =>
    cases hlimit : f.limit with
    | none => simp [Requirement.violation?, CheckedField.requirement, hblank, hlimit]
    | some limit => simp [Requirement.violation?, CheckedField.requirement, hblank, hlimit]

/-! ## All fields -/

theorem violation?_eq_findSome? (p : Project) :
    p.violation? = p.entries.findSome? fun e => (e.1.requirement e.2).violation? := by
  rw [Project.violation?, p.requirements_eq, asked, List.findSome?_map]
  rfl

theorem violation?_eq_none_iff :
    p.violation? = none ↔ ∀ f text, p.text? f = some text →
      isBlank text = false ∧ ∀ limit ∈ f.limit, text.length ≤ limit := by
  rw [violation?_eq_findSome?, List.findSome?_eq_none_iff]
  constructor
  · intro h f text htext
    exact violation?_requirement_eq_none_iff.mp (h (f, text) (Project.mem_entries_iff.mpr htext))
  · intro h e he
    exact violation?_requirement_eq_none_iff.mpr (h e.1 e.2 (Project.mem_entries_iff.mp he))

/-- What is found is the violation that stands before all others: the fields listed before it violate
nothing, and the other fields that do are listed behind it. -/
theorem violation?_eq_some_iff : p.violation? = some v ↔ ∃ f, p.ViolatesFirst f v := by
  have horder := p.inOrder_entries
  rw [violation?_eq_findSome?, List.findSome?_eq_some_iff]
  constructor
  · rintro ⟨before, ⟨f, text⟩, behind, hentries, hv, hnone⟩
    have hmem : ∀ {e}, e ∈ p.entries ↔ e ∈ before ∨ e = (f, text) ∨ e ∈ behind := by
      intro e
      rw [hentries, List.mem_append, List.mem_cons]
    have htext := Project.mem_entries_iff.mp (hmem.mpr (.inr (.inl rfl)))
    refine ⟨f, (violation?_requirement_iff htext).mp hv, fun g w hg => ?_⟩
    obtain ⟨text', htext'⟩ := hg.exists_text
    rcases hmem.mp (Project.mem_entries_iff.mpr htext') with hbefore | hsame | hbehind
    · have hw := (violation?_requirement_iff htext').mpr hg
      rw [hnone _ hbefore] at hw
      cases hw
    · exact .inl (congrArg Prod.fst hsame)
    · rw [hentries, List.pairwise_append, List.pairwise_cons] at horder
      exact .inr (horder.2.1.1 _ hbehind)
  · rintro ⟨f, hviolates, hfirst⟩
    obtain ⟨text, htext⟩ := hviolates.exists_text
    obtain ⟨before, behind, hentries⟩ :=
      List.append_of_mem (Project.mem_entries_iff.mpr htext)
    refine ⟨before, (f, text), behind, hentries, (violation?_requirement_iff htext).mpr hviolates,
      fun e he => ?_⟩
    have hmem : e ∈ p.entries := by
      rw [hentries]
      exact List.mem_append_left _ he
    rw [hentries, List.pairwise_append] at horder
    have hbefore : e.1.Before f := horder.2.2 e he _ List.mem_cons_self
    -- A violation here would have to stand behind the first one.
    cases hw : (e.1.requirement e.2).violation? with
    | none => rfl
    | some w =>
      rcases hfirst e.1 w ((violation?_requirement_iff (Project.mem_entries_iff.mp hmem)).mp hw)
        with hsame | hbehind
      · rw [hsame] at hbefore
        exact absurd hbefore (CheckedField.Before.irrefl f)
      · exact absurd (hbefore.trans hbehind) (CheckedField.Before.irrefl e.1)

/-- Two projects with the same texts in their fields violate the same. -/
theorem violates_congr {q : Project} (h : ∀ f, q.text? f = p.text? f) :
    q.Violates f v ↔ p.Violates f v := by
  constructor
  · intro hq
    obtain ⟨text, htext⟩ := hq.exists_text
    exact (violation?_requirement_iff (h f ▸ htext)).mp ((violation?_requirement_iff htext).mpr hq)
  · intro hp
    obtain ⟨text, htext⟩ := hp.exists_text
    have htext' := (h f).trans htext
    exact (violation?_requirement_iff htext').mp ((violation?_requirement_iff htext).mpr hp)

theorem violation?_congr {q : Project} (h : ∀ f, q.text? f = p.text? f) :
    q.violation? = p.violation? := by
  refine Option.ext fun v => ?_
  have hfirst : ∀ f, q.ViolatesFirst f v ↔ p.ViolatesFirst f v := by
    intro f
    constructor
    · rintro ⟨hviolates, hfirst⟩
      exact ⟨(violates_congr h).mp hviolates, fun g w hg => hfirst g w ((violates_congr h).mpr hg)⟩
    · rintro ⟨hviolates, hfirst⟩
      exact ⟨(violates_congr h).mpr hviolates, fun g w hg => hfirst g w ((violates_congr h).mp hg)⟩
  simp only [violation?_eq_some_iff, hfirst]

namespace Snapshot

/-- A project is accepted if and only if none of its checked texts is blank, no name has more than 200
characters and no data type more than 128. Otherwise the error is that of the first field that violates
this, in the order of their places, under a path that no other field has. Nothing else in the project
makes a difference. -/
theorem validate_first (p : Project) :
    (validate p = .ok () ↔ ∀ f text, p.text? f = some text →
      isBlank text = false ∧ ∀ limit ∈ f.limit, text.length ≤ limit) ∧
    (∀ e, validate p = .error e ↔ ∃ f v, p.ViolatesFirst f v ∧ e = .invalid v) ∧
    (∀ f g : CheckedField, f.path = g.path → f = g) ∧
    ∀ q : Project, (∀ f, q.text? f = p.text? f) → validate q = validate p := by
  refine ⟨?_, fun e => ?_, fun _ _ => CheckedField.path_injective, fun q hq => ?_⟩
  · rw [← violation?_eq_none_iff, validate]
    cases p.violation? with
    | none => simp
    | some v => simp
  · have hsome : validate p = .error e ↔ ∃ v, p.violation? = some v ∧ e = .invalid v := by
      rw [validate]
      cases p.violation? with
      | none => simp
      | some v => simp [eq_comm]
    rw [hsome, exists_comm]
    simp only [violation?_eq_some_iff, exists_and_right]
  · rw [validate, validate, violation?_congr hq]

end Snapshot
end SchemaScript
