import SchemaScript.Proofs.Files.Entry
import SchemaScript.Proofs.Files.Runs

/-!
# SchemaScript.Proofs.Files.Locality

Programs that keep to their own part of a tree. Two of them that have no location in common do not
notice each other, however their requests alternate.

* `Program.Local`: a program with a part of its own.
* `Program.Local.run`, `Program.Local.run_agrees`: what it leaves alone, and what it depends on.
* `Program.Race.serialises_of_local`: two such programs end as if they had run one after the other.
* `Program.Local.write`, `Program.Local.rename`: requests for the names below one base.
-/

namespace SchemaScript
namespace Program

variable {α β : Type} {p : Program α} {q : Program β} {t t' : FileTree} {a : α} {b : β}
  {turns : List Turn}

/-- As long as `inv` holds of the tree, all that the program does depends on the nodes at its own
locations, and it changes no others. -/
inductive Local (inv : FileTree → Prop) (own : List Location) : Program α → Prop where
  | done (a : α) : Local inv own (.done a)
  | request {p : Program α}
      (keeps : ∀ t, inv t → inv (p.step t).2)
      (frame : ∀ t, inv t → ∀ l ∉ own, (p.step t).2.node? l = t.node? l)
      (agrees : ∀ t t', inv t → inv t' → (∀ l ∈ own, t.node? l = t'.node? l) →
        (p.step t).1 = (p.step t').1 ∧ ∀ l ∈ own, (p.step t).2.node? l = (p.step t').2.node? l)
      (next : ∀ t, inv t → Local inv own (p.step t).1) : Local inv own p

variable {inv : FileTree → Prop} {own other : List Location}

theorem Local.step (h : Local inv own p) (ht : inv t) :
    Local inv own (p.step t).1 ∧ inv (p.step t).2 ∧
      ∀ l ∉ own, (p.step t).2.node? l = t.node? l := by
  cases h with
  | done a => exact ⟨.done a, ht, fun _ _ => rfl⟩
  | request keeps frame _ next => exact ⟨next t ht, keeps t ht, frame t ht⟩

/-- What one request leaves to others, all of them do. -/
theorem Local.run (h : Local inv own p) (ht : inv t) :
    inv (p.run t).2 ∧ ∀ l ∉ own, (p.run t).2.node? l = t.node? l := by
  induction h generalizing t with
  | done a => exact ⟨ht, fun _ _ => rfl⟩
  | request keeps frame _ _ ih =>
    obtain ⟨hinv, hframe⟩ := ih t ht (keeps t ht)
    rw [run_step] at hinv hframe
    exact ⟨hinv, fun l hl => (hframe l hl).trans (frame t ht l hl)⟩

/-- On trees that agree in its part a program does the same. -/
theorem Local.run_agrees (h : Local inv own p) (ht : inv t) (ht' : inv t')
    (hagree : ∀ l ∈ own, t.node? l = t'.node? l) :
    (p.run t).1 = (p.run t').1 ∧ ∀ l ∈ own, (p.run t).2.node? l = (p.run t').2.node? l := by
  induction h generalizing t t' with
  | done a => exact ⟨rfl, hagree⟩
  | request keeps _ agrees _ ih =>
    obtain ⟨hstep, hnodes⟩ := agrees t t' ht ht' hagree
    have hrun := ih t ht (keeps t ht) (keeps t' ht') hnodes
    rw [run_step, hstep, run_step] at hrun
    exact hrun

/-- Two programs with parts of their own: each comes to the value that it has alone, and leaves its
own part as it does alone. By induction on the turns; a request of one program changes nothing in the
part of the other. -/
theorem Race.of_local (h : Race turns p q t a b t') (hp : Local inv own p) (hq : Local inv other q)
    (hdisjoint : ∀ l ∈ own, l ∉ other) (ht : inv t) :
    a = (p.run t).1 ∧ b = (q.run t).1 ∧
      (∀ l ∈ own, t'.node? l = (p.run t).2.node? l) ∧
      (∀ l ∈ other, t'.node? l = (q.run t).2.node? l) ∧
      ∀ l, l ∉ own → l ∉ other → t'.node? l = t.node? l := by
  induction h with
  | done => exact ⟨rfl, rfl, fun _ _ => rfl, fun _ _ => rfl, fun _ _ _ => rfl⟩
  | @first _ p q t t' a b _ _ ih =>
    obtain ⟨hnext, hinv, hframe⟩ := hp.step ht
    -- the second program does after this request what it does before it
    have hstays : ∀ l ∈ other, (p.step t).2.node? l = t.node? l :=
      fun l hl => hframe l fun hown => hdisjoint l hown hl
    obtain ⟨hvalue, hnodes⟩ := hq.run_agrees hinv ht hstays
    obtain ⟨ha, hb, hown, hother, hrest⟩ := ih hnext hq hinv
    rw [run_step] at ha hown
    exact ⟨ha, hb.trans hvalue, hown, fun l hl => (hother l hl).trans (hnodes l hl),
      fun l hl hl' => (hrest l hl hl').trans (hframe l hl)⟩
  | @second _ p q t t' a b _ _ ih =>
    obtain ⟨hnext, hinv, hframe⟩ := hq.step ht
    have hstays : ∀ l ∈ own, (q.step t).2.node? l = t.node? l :=
      fun l hl => hframe l (hdisjoint l hl)
    obtain ⟨hvalue, hnodes⟩ := hp.run_agrees hinv ht hstays
    obtain ⟨ha, hb, hown, hother, hrest⟩ := ih hp hnext hinv
    rw [run_step] at hb hother
    exact ⟨ha.trans hvalue, hb, fun l hl => (hown l hl).trans (hnodes l hl), hother,
      fun l hl hl' => (hrest l hl hl').trans (hframe l hl')⟩

/-- Programs with parts of their own end as if the first had been run before the second, however
their requests alternate. -/
theorem Race.serialises_of_local (h : Race turns p q t a b t') (hp : Local inv own p)
    (hq : Local inv other q) (hdisjoint : ∀ l ∈ own, l ∉ other) (ht : inv t) :
    Serialises p q t a b t' := by
  obtain ⟨ha, hb, hown, hother, hrest⟩ := h.of_local hp hq hdisjoint ht
  obtain ⟨hinv, hframe⟩ := hp.run ht
  have hstays : ∀ l ∈ other, (p.run t).2.node? l = t.node? l :=
    fun l hl => hframe l fun hown => hdisjoint l hown hl
  obtain ⟨hvalue, hnodes⟩ := hq.run_agrees hinv ht hstays
  refine .inl ⟨(p.run t).2, (q.run (p.run t).2).2, Prod.ext ha.symm rfl,
    Prod.ext (hvalue.trans hb.symm) rfl, fun l => ?_⟩
  by_cases hl : l ∈ other
  · rw [hother l hl, hnodes l hl]
  · rw [(hq.run hinv).2 l hl]
    by_cases hl' : l ∈ own
    · exact hown l hl'
    · rw [hrest l hl' hl, hframe l hl']

/-! ## Requests for names below one base -/

section Entries

variable {base name : String} {place : Location}

theorem Local.write {content : ByteArray} {next : Except FileError Unit → Program α}
    (hn : IsEntryName name) (hown : place ++ [name] ∈ own)
    (hnext : ∀ r, Local (·.Reaches base place) own (next r)) :
    Local (·.Reaches base place) own (.write (joinPath base name) content next) := by
  refine .request (fun t ht => ?keeps) (fun t ht l hl => ?frame)
    (fun t t' ht ht' hagree => ?agrees) fun t _ => ?next
  case keeps =>
    simp only [step_write]
    exact ht.of_sameDirectories (ht.write_leaves hn content).1
  case frame =>
    simp only [step_write]
    exact (ht.write_leaves hn content).2 l fun heq => hl (heq ▸ hown)
  case agrees =>
    obtain ⟨hvalue, hnodes⟩ := ht.write_agrees hn ht' (hagree _ hown) content
    simp only [step_write]
    exact ⟨congrArg next hvalue, fun l hl => hnodes l (hagree l hl)⟩
  case next =>
    simp only [step_write]
    exact hnext _

theorem Local.rename {target : String} {next : Except FileError Unit → Program α}
    (hn : IsEntryName name) (htarget : IsEntryName target) (hne : target ≠ name)
    (hown : place ++ [name] ∈ own) (hown' : place ++ [target] ∈ own)
    (hnext : ∀ r, Local (·.Reaches base place) own (next r)) :
    Local (·.Reaches base place) own
      (.rename (joinPath base name) (joinPath base target) next) := by
  refine .request (fun t ht => ?keeps) (fun t ht l hl => ?frame)
    (fun t t' ht ht' hagree => ?agrees) fun t _ => ?next
  case keeps =>
    simp only [step_rename]
    exact ht.of_sameDirectories (ht.rename_leaves hn htarget hne).1
  case frame =>
    simp only [step_rename]
    exact (ht.rename_leaves hn htarget hne).2 l (fun heq => hl (heq ▸ hown))
      fun heq => hl (heq ▸ hown')
  case agrees =>
    obtain ⟨hvalue, hnodes⟩ :=
      ht.rename_agrees hn htarget hne ht' (hagree _ hown) (hagree _ hown')
    simp only [step_rename]
    exact ⟨congrArg next hvalue, fun l hl => hnodes l (hagree l hl)⟩
  case next =>
    simp only [step_rename]
    exact hnext _

end Entries

end Program
end SchemaScript
