import Mathlib.Data.List.Nodup
import Mathlib.Logic.Relation
import SchemaScript.Proofs.Json.Syntax

/-!
# SchemaScript.Proofs.Json.Edit

Presentations of records. A reader of records does not care for the order of members, for members
that it does not know, for members that are left out because they hold what is assumed without them,
and for a `null` in place of nothing.

* `Shape`, `Rule`: the members of records, at every depth, and what becomes of them when absent.
* `Edit`: one change of a tree that its reader does not care for.
* `Presents`: the trees that present a value of a shape.
* `Edit.presents`, `presents_of_edits`: no edit changes what is presented, and no run of edits does.
-/

namespace SchemaScript
namespace Json

/-! ## Edits -/

/-- What becomes of a member of a record when it is absent: that is a fault, a value is assumed, or
there is none, as there is for `null`. -/
inductive Rule where
  | required
  | default (value : Tree)
  | optional

/-- The shape of a value: it is read as it stands, it is a list of values of one shape, or it is a
record with these members. -/
inductive Shape where
  | plain
  | list (element : Shape)
  | object (members : List (String × Rule × Shape))

/-- One change of a tree of the given shape. Together with the permutations, the changes of the first
member are those of any. -/
inductive Edit : Shape → Tree → Tree → Prop where
  | permute {known : List (String × Rule × Shape)} {ms ms' : List (List Char × Tree)} :
      ms.Perm ms' → Edit (.object known) (.object ms) (.object ms')
  | insert {known : List (String × Rule × Shape)} {ms : List (List Char × Tree)} {key : List Char}
      {name : String} {v : Tree} :
      Spells key name.toList → name ∉ known.map (·.1) →
      Edit (.object known) (.object ms) (.object ((key, v) :: ms))
  | leaveOut {known : List (String × Rule × Shape)} {ms : List (List Char × Tree)} {key : List Char}
      {name : String} {v : Tree} {shape : Shape} :
      (name, .default v, shape) ∈ known → Spells key name.toList →
      Edit (.object known) (.object ((key, v) :: ms)) (.object ms)
  | null {known : List (String × Rule × Shape)} {ms : List (List Char × Tree)} {key : List Char}
      {name : String} {shape : Shape} :
      (name, .optional, shape) ∈ known → Spells key name.toList →
      (∀ m ∈ ms, ¬ Spells m.1 name.toList) →
      Edit (.object known) (.object ms) (.object ((key, Json.null.tree) :: ms))
  | member {known : List (String × Rule × Shape)} {ms : List (List Char × Tree)} {key : List Char}
      {name : String} {rule : Rule} {shape : Shape} {v v' : Tree} :
      (name, rule, shape) ∈ known → Spells key name.toList → Edit shape v v' →
      Edit (.object known) (.object ((key, v) :: ms)) (.object ((key, v') :: ms))
  | element {shape : Shape} {v v' : Tree} {before after : List Tree} :
      Edit shape v v' →
      Edit (.list shape) (.list (before ++ v :: after)) (.list (before ++ v' :: after))

/-! ## What is found of a member -/

/-- The text that a key spells. -/
def keyText (key : List Char) : Option String :=
  match decode (key ++ ['"']) with
  | .ok (cs, _) => some (String.ofList cs)
  | .error _ => none

theorem keyText_of_spells {key : List Char} {name : String} (h : Spells key name.toList) :
    keyText key = some name := by
  simp only [keyText, h.decode, String.ofList_toList]

/-- The values of the members with the name `name`. -/
def found (name : String) (ms : List (List Char × Tree)) : List Tree :=
  (ms.filter fun m => keyText m.1 == some name).map (·.2)

/-- The values that are written under the name `name`. -/
def written (name : String) (ms : List (String × Json)) : List Json :=
  (ms.filter fun m => m.1 == name).map (·.2)

section

variable {key : List Char} {name other : String} {v : Tree} {ms ms' : List (List Char × Tree)}

theorem found_cons_same (h : Spells key name.toList) :
    found name ((key, v) :: ms) = v :: found name ms := by
  rw [found, List.filter_cons_of_pos (by simp [keyText_of_spells h])]
  rfl

theorem found_cons_other (h : Spells key other.toList) (hne : other ≠ name) :
    found name ((key, v) :: ms) = found name ms := by
  rw [found, List.filter_cons_of_neg (by simpa [keyText_of_spells h] using hne)]
  rfl

theorem found_perm (h : ms.Perm ms') : (found name ms).Perm (found name ms') :=
  (h.filter _).map _

theorem found_eq_nil (hspelled : ∀ m ∈ ms, ∃ other : String, Spells m.1 other.toList)
    (h : ∀ m ∈ ms, ¬ Spells m.1 name.toList) : found name ms = [] := by
  rw [found, List.map_eq_nil_iff, List.filter_eq_nil_iff]
  intro m hm hname
  obtain ⟨other, hother⟩ := hspelled m hm
  rw [keyText_of_spells hother, beq_iff_eq, Option.some.injEq] at hname
  exact h m hm (hname ▸ hother)

end

/-- In what is written, the values that are written are found. -/
theorem found_memberTrees (name : String) (ws : List (String × Json)) :
    found name (memberTrees ws) = (written name ws).map tree := by
  have hkeys : (fun m : String × Json => keyText (encode m.1.toList) == some name)
      = fun m => m.1 == name := by
    funext m
    rw [keyText_of_spells (spells_encode _), Option.some_beq_some]
  rw [memberTrees_eq_map, found, List.filter_map, written, List.map_map, List.map_map]
  exact congrArg (fun p => (ws.filter p).map fun m => m.2.tree) hkeys

/-- What may be found of a member under its rule, where `ws` is written: its value, nothing if that
is assumed or if nothing is written, or `null` if nothing is written. -/
inductive Shown (presents : Json → Tree → Prop) : Rule → List Json → List Tree → Prop where
  | value {rule : Rule} {j : Json} {v : Tree} : presents j v → Shown presents rule [j] [v]
  | default {j : Json} {v : Tree} : presents j v → Shown presents (.default v) [j] []
  | absent : Shown presents .optional [] []
  | null : Shown presents .optional [] [Json.null.tree]

/-- Members are found all at once or not at all, so their order is of no account. -/
theorem Shown.perm {presents : Json → Tree → Prop} {rule : Rule} {ws : List Json}
    {vs vs' : List Tree} (h : Shown presents rule ws vs) (hperm : vs.Perm vs') :
    Shown presents rule ws vs' := by
  cases h with
  | value hv =>
    rw [List.perm_singleton.mp hperm.symm]
    exact .value hv
  | default hv =>
    rw [List.perm_nil.mp hperm.symm]
    exact .default hv
  | absent =>
    rw [List.perm_nil.mp hperm.symm]
    exact .absent
  | null =>
    rw [List.perm_singleton.mp hperm.symm]
    exact .null

/-- A member that is assumed may be left out. -/
theorem Shown.leaveOut {presents : Json → Tree → Prop} {ws : List Json} {v : Tree} {vs : List Tree}
    (h : Shown presents (.default v) ws (v :: vs)) : Shown presents (.default v) ws vs := by
  cases h with
  | value hv => exact .default hv

/-- Where nothing is found of a member that may be absent, `null` may be found. -/
theorem Shown.insertNull {presents : Json → Tree → Prop} {ws : List Json}
    (h : Shown presents .optional ws []) : Shown presents .optional ws [Json.null.tree] := by
  cases h with
  | absent => exact .null

/-- The first value that is found may be presented otherwise, if it is more than a `null`. -/
theorem Shown.change {presents : Json → Tree → Prop} {rule : Rule} {ws : List Json} {v v' : Tree}
    {vs : List Tree} (h : Shown presents rule ws (v :: vs)) (hnull : v ≠ Json.null.tree)
    (hchange : ∀ j, presents j v → presents j v') : Shown presents rule ws (v' :: vs) := by
  cases h with
  | value hv => exact .value (hchange _ hv)
  | null => exact absurd rfl hnull

/-! ## Presentations -/

mutual

/-- The trees that present a value of a shape. -/
def Presents : Shape → Json → Tree → Prop
  | .plain, j, v => v = j.tree
  | .list shape, j, v =>
    ∃ js vs, j = .list js ∧ v = .list vs ∧ List.Forall₂ (Presents shape) js vs
  | .object known, j, v =>
    ∃ ws ms, j = .object ws ∧ v = .object ms ∧ (known.map (·.1)).Nodup ∧
      (∀ m ∈ ms, ∃ name : String, Spells m.1 name.toList) ∧ PresentsMembers known ws ms

def PresentsMembers :
    List (String × Rule × Shape) → List (String × Json) → List (List Char × Tree) → Prop
  | [], _, _ => True
  | (name, rule, shape) :: known, ws, ms =>
    Shown (Presents shape) rule (written name ws) (found name ms) ∧ PresentsMembers known ws ms

end

theorem presentsMembers_iff {known : List (String × Rule × Shape)} {ws : List (String × Json)}
    {ms : List (List Char × Tree)} :
    PresentsMembers known ws ms ↔ ∀ e ∈ known,
      Shown (Presents e.2.2) e.2.1 (written e.1 ws) (found e.1 ms) := by
  induction known with
  | nil => simp [PresentsMembers]
  | cons e known ih => rw [PresentsMembers, ih, List.forall_mem_cons]

theorem presents_object_iff {known : List (String × Rule × Shape)} {j : Json}
    {ms : List (List Char × Tree)} :
    Presents (.object known) j (.object ms) ↔ ∃ ws, j = .object ws ∧ (known.map (·.1)).Nodup ∧
      (∀ m ∈ ms, ∃ name : String, Spells m.1 name.toList) ∧
      ∀ e ∈ known, Shown (Presents e.2.2) e.2.1 (written e.1 ws) (found e.1 ms) := by
  rw [Presents]
  constructor
  · rintro ⟨ws, ms', rfl, hms, hnodup, hspelled, hmembers⟩
    cases hms
    exact ⟨ws, rfl, hnodup, hspelled, presentsMembers_iff.mp hmembers⟩
  · rintro ⟨ws, rfl, hnodup, hspelled, hmembers⟩
    exact ⟨ws, ms, rfl, rfl, hnodup, hspelled, presentsMembers_iff.mpr hmembers⟩

theorem presents_list_iff {shape : Shape} {j : Json} {vs : List Tree} :
    Presents (.list shape) j (.list vs) ↔
      ∃ js, j = .list js ∧ List.Forall₂ (Presents shape) js vs := by
  rw [Presents]
  constructor
  · rintro ⟨js, vs', rfl, hvs, hall⟩
    cases hvs
    exact ⟨js, rfl, hall⟩
  · rintro ⟨js, rfl, hall⟩
    exact ⟨js, vs, rfl, rfl, hall⟩

/-! ## Edits and what they leave alone -/

/-- What is shown for the member `name`, and for all members with other names, is shown for all. -/
theorem forall_known {known : List (String × Rule × Shape)} {name : String} {rule : Rule}
    {shape : Shape} {P : String × Rule × Shape → Prop} (hnodup : (known.map (·.1)).Nodup)
    (hknown : (name, rule, shape) ∈ known) (hthis : P (name, rule, shape))
    (hothers : ∀ e ∈ known, name ≠ e.1 → P e) : ∀ e ∈ known, P e := by
  intro e he
  by_cases hname : name = e.1
  · rw [← List.inj_on_of_nodup_map hnodup hknown he hname]
    exact hthis
  · exact hothers e he hname

theorem forall₂_change {α β : Type} {r : α → β → Prop} {b b' : β} {before after : List β}
    (hchange : ∀ a, r a b → r a b') {as : List α} (h : List.Forall₂ r as (before ++ b :: after)) :
    List.Forall₂ r as (before ++ b' :: after) := by
  induction before generalizing as with
  | nil =>
    cases h with
    | cons hb hafter => exact .cons (hchange _ hb) hafter
  | cons c before ih =>
    cases h with
    | cons hc hrest => exact .cons hc (ih hrest)

theorem Edit.ne_null {shape : Shape} {v v' : Tree} (h : Edit shape v v') :
    v ≠ Json.null.tree := by
  rintro rfl
  cases h

/-- What is presented stays the same under every edit. By induction on the edit, which goes down to
the record that is changed. -/
theorem Edit.presents {shape : Shape} {v v' : Tree} (h : Edit shape v v') {j : Json}
    (hj : Presents shape j v) : Presents shape j v' := by
  induction h generalizing j with
  | permute hperm =>
    obtain ⟨ws, rfl, hnodup, hspelled, hmembers⟩ := presents_object_iff.mp hj
    refine presents_object_iff.mpr ⟨ws, rfl, hnodup, fun m hm => ?_, fun e he => ?_⟩
    · exact hspelled m (hperm.mem_iff.mpr hm)
    · exact (hmembers e he).perm (found_perm hperm)
  | insert hkey hunknown =>
    obtain ⟨ws, rfl, hnodup, hspelled, hmembers⟩ := presents_object_iff.mp hj
    refine presents_object_iff.mpr
      ⟨ws, rfl, hnodup, List.forall_mem_cons.mpr ⟨⟨_, hkey⟩, hspelled⟩, fun e he => ?_⟩
    have hne := ne_of_mem_of_not_mem (List.mem_map_of_mem he) hunknown
    rw [found_cons_other hkey hne.symm]
    exact hmembers e he
  | leaveOut hknown hkey =>
    obtain ⟨ws, rfl, hnodup, hspelled, hmembers⟩ := presents_object_iff.mp hj
    refine presents_object_iff.mpr ⟨ws, rfl, hnodup, (List.forall_mem_cons.mp hspelled).2,
      forall_known hnodup hknown ?_ fun e he hname => ?_⟩
    · have hshown := hmembers _ hknown
      rw [found_cons_same hkey] at hshown
      exact hshown.leaveOut
    · have hshown := hmembers e he
      rwa [found_cons_other hkey hname] at hshown
  | null hknown hkey habsent =>
    obtain ⟨ws, rfl, hnodup, hspelled, hmembers⟩ := presents_object_iff.mp hj
    refine presents_object_iff.mpr ⟨ws, rfl, hnodup,
      List.forall_mem_cons.mpr ⟨⟨_, hkey⟩, hspelled⟩,
      forall_known hnodup hknown ?_ fun e he hname => ?_⟩
    · have hshown := hmembers _ hknown
      have hnone := found_eq_nil hspelled habsent
      rw [hnone] at hshown
      rw [found_cons_same hkey, hnone]
      exact hshown.insertNull
    · rw [found_cons_other hkey hname]
      exact hmembers e he
  | member hknown hkey hedit ih =>
    obtain ⟨ws, rfl, hnodup, hspelled, hmembers⟩ := presents_object_iff.mp hj
    have hrest := (List.forall_mem_cons.mp hspelled).2
    refine presents_object_iff.mpr ⟨ws, rfl, hnodup, List.forall_mem_cons.mpr ⟨⟨_, hkey⟩, hrest⟩,
      forall_known hnodup hknown ?_ fun e he hname => ?_⟩
    · have hshown := hmembers _ hknown
      rw [found_cons_same hkey] at hshown ⊢
      exact hshown.change hedit.ne_null fun j => ih
    · have hshown := hmembers e he
      rwa [found_cons_other hkey hname] at hshown ⊢
  | element _ ih =>
    obtain ⟨js, rfl, hall⟩ := presents_list_iff.mp hj
    exact presents_list_iff.mpr ⟨js, rfl, forall₂_change (fun j => ih) hall⟩

/-- What is presented stays the same under every run of edits. -/
theorem presents_of_edits {shape : Shape} {v v' : Tree}
    (h : Relation.ReflTransGen (Edit shape) v v') {j : Json} (hj : Presents shape j v) :
    Presents shape j v' := by
  induction h with
  | refl => exact hj
  | tail _ hedit ih => exact hedit.presents ih

end Json
end SchemaScript
