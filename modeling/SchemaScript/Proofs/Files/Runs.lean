import SchemaScript.Files.Program

/-!
# SchemaScript.Proofs.Files.Runs

Programs that do not run alone from their first request to their last: a program that stops on its
way, and two programs whose requests come by turns.

* `Program.run_working`: no program changes the working directory.
* `Program.Stops`: what a program leaves behind when it stops.
* `Program.Race`: two programs on one tree, one request at a time.
* `Program.Serialises`: a race that ends as if one program had been run after the other.
* `Program.Race.serialises_of_isSerial`: it does, if the requests did not alternate.
-/

namespace SchemaScript

namespace FileTree

/-- The trees have the same files and directories. -/
def Same (t t' : FileTree) : Prop :=
  ∀ l, t.node? l = t'.node? l

@[simp] theorem write_working (t : FileTree) (path : String) (content : ByteArray) :
    (t.write path content).2.working = t.working := by
  rw [write]
  split <;> rfl

@[simp] theorem rename_working (t : FileTree) (source target : String) :
    (t.rename source target).2.working = t.working := by
  rw [rename]
  repeat' split
  all_goals rfl

@[simp] theorem remove_working (t : FileTree) (path : String) :
    (t.remove path).2.working = t.working := by
  rw [remove]
  repeat' split
  all_goals rfl

end FileTree

namespace Program

variable {α β : Type} {p : Program α} {q : Program β} {t t' : FileTree} {a : α} {b : β}

theorem step_write (path : String) (content : ByteArray) (next : Except FileError Unit → Program α)
    (t : FileTree) :
    (write path content next).step t
      = (next (t.write path content).1, (t.write path content).2) :=
  rfl

theorem step_rename (source target : String) (next : Except FileError Unit → Program α)
    (t : FileTree) :
    (rename source target next).step t
      = (next (t.rename source target).1, (t.rename source target).2) :=
  rfl

theorem step_working (p : Program α) (t : FileTree) : (p.step t).2.working = t.working := by
  cases p <;> simp [step]

/-- No request changes the working directory, and so no program does. -/
theorem run_working (p : Program α) (t : FileTree) : (p.run t).2.working = t.working := by
  induction p generalizing t with
  | done a => rfl
  | read path next ih => exact (ih _ _).trans (step_working (.read path next) t)
  | write path content next ih => exact (ih _ _).trans (step_working (.write path content next) t)
  | rename source target next ih =>
    exact (ih _ _).trans (step_working (.rename source target next) t)
  | remove path next ih => exact (ih _ _).trans (step_working (.remove path next) t)
  | entries path next ih => exact (ih _ _).trans (step_working (.entries path next) t)
  | isDirectory path next ih => exact (ih _ _).trans (step_working (.isDirectory path next) t)
  | present path next ih => exact (ih _ _).trans (step_working (.present path next) t)

/-! ## Stopping on the way -/

/-- Started on `t`, the program stops and leaves `t'`. It stops between two requests, or in the middle
of a write, when only the first part of the content is in the file. -/
inductive Stops : Program α → FileTree → FileTree → Prop where
  | now {p : Program α} {t : FileTree} : Stops p t t
  | midWrite {path : String} {content part rest : ByteArray}
      {next : Except FileError Unit → Program α} {t : FileTree} : content = part ++ rest →
      Stops (.write path content next) t (t.write path part).2
  | later {p : Program α} {t t' : FileTree} : Stops (p.step t).1 (p.step t).2 t' → Stops p t t'

/-- To make all requests is one way to stop. -/
theorem stops_run (p : Program α) (t : FileTree) : p.Stops t (p.run t).2 := by
  induction p generalizing t with
  | done a => exact .now
  | read _ _ ih => exact .later (ih _ _)
  | write _ _ _ ih => exact .later (ih _ _)
  | rename _ _ _ ih => exact .later (ih _ _)
  | remove _ _ ih => exact .later (ih _ _)
  | entries _ _ ih => exact .later (ih _ _)
  | isDirectory _ _ ih => exact .later (ih _ _)
  | present _ _ ih => exact .later (ih _ _)

theorem Stops.of_done (h : (done a).Stops t t') : t' = t := by
  generalize hp : done a = p at h
  induction h with
  | now => rfl
  | midWrite _ => cases hp
  | later _ ih =>
    subst hp
    exact ih rfl

theorem Stops.of_write {path : String} {content : ByteArray}
    {next : Except FileError Unit → Program α} (h : (write path content next).Stops t t') :
    t' = t ∨ (∃ part, t' = (t.write path part).2) ∨
      (next (t.write path content).1).Stops (t.write path content).2 t' := by
  cases h with
  | now => exact .inl rfl
  | midWrite _ => exact .inr (.inl ⟨_, rfl⟩)
  | later h => exact .inr (.inr h)

/-- Where the first request is no write, a program stops before it or after it. -/
theorem Stops.of_step (h : p.Stops t t')
    (hp : ∀ path content next, p ≠ write path content next) :
    t' = t ∨ (p.step t).1.Stops (p.step t).2 t' := by
  cases h with
  | now => exact .inl rfl
  | midWrite _ => exact absurd rfl (hp _ _ _)
  | later h => exact .inr h

/-! ## Taking turns -/

/-- Which of two programs makes a request. -/
inductive Turn where
  | first
  | second
deriving DecidableEq

def Turn.other : Turn → Turn
  | first => second
  | second => first

def isDone : Program α → Bool
  | done _ => true
  | _ => false

/-- The requests of two programs are made by the given turns until both have come to their values. -/
inductive Race : List Turn → Program α → Program β → FileTree → α → β → FileTree → Prop where
  | done {a : α} {b : β} {t : FileTree} : Race [] (.done a) (.done b) t a b t
  | first {turns : List Turn} {p : Program α} {q : Program β} {t t' : FileTree} {a : α} {b : β} :
      p.isDone = false → Race turns (p.step t).1 q (p.step t).2 a b t' →
      Race (.first :: turns) p q t a b t'
  | second {turns : List Turn} {p : Program α} {q : Program β} {t t' : FileTree} {a : α} {b : β} :
      q.isDone = false → Race turns p (q.step t).1 (q.step t).2 a b t' →
      Race (.second :: turns) p q t a b t'

/-- One program makes all of its requests before the other makes its first. -/
def IsSerial (turns : List Turn) : Prop :=
  ∃ turn m n, turns = List.replicate m turn ++ List.replicate n turn.other

/-- Both values, and the files and directories in the end, are those of running one program after the
other, in one of the two orders. -/
def Serialises (p : Program α) (q : Program β) (t : FileTree) (a : α) (b : β) (t' : FileTree) :
    Prop :=
  (∃ t₁ t₂, p.run t = (a, t₁) ∧ q.run t₁ = (b, t₂) ∧ t'.Same t₂) ∨
    ∃ t₁ t₂, q.run t = (b, t₁) ∧ p.run t₁ = (a, t₂) ∧ t'.Same t₂

variable {turns : List Turn}

theorem isSerial_of_map_other (h : IsSerial (turns.map Turn.other)) : IsSerial turns := by
  obtain ⟨turn, m, n, hturns⟩ := h
  have hother : Turn.other ∘ Turn.other = id := funext fun turn => by cases turn <;> rfl
  refine ⟨turn.other, m, n, ?_⟩
  rw [← List.map_id turns, ← hother, ← List.map_map, hturns, List.map_append, List.map_replicate,
    List.map_replicate]

theorem Serialises.swap (h : Serialises p q t a b t') : Serialises q p t b a t' :=
  Or.symm h

theorem Race.swap (h : Race turns p q t a b t') : Race (turns.map Turn.other) q p t b a t' := by
  induction h with
  | done => exact .done
  | first hp _ ih => exact .second hp ih
  | second hq _ ih => exact .first hq ih

/-- A program that is done has no turn. -/
theorem Race.of_done {c : α} (h : Race turns (.done c) q t a b t') :
    turns = List.replicate turns.length .second ∧ c = a ∧ q.run t = (b, t') := by
  generalize hp : Program.done c = p at h
  induction h with
  | done =>
    cases hp
    exact ⟨rfl, rfl, rfl⟩
  | first hpending _ _ =>
    subst hp
    cases hpending
  | second _ _ ih =>
    obtain ⟨hturns, ha, hq⟩ := ih hp
    rw [run_step] at hq
    exact ⟨congrArg (Turn.second :: ·) hturns, ha, hq⟩

/-- Each program makes one more request, the first program before the second. -/
theorem Race.of_last_requests {u v : FileTree} {x : α} {y : β}
    (h : Race (.first :: turns) p q t a b t') (hp : p.step t = (.done x, u))
    (hq : q.step u = (.done y, v)) : a = x ∧ b = y ∧ t' = v := by
  cases h with
  | first _ h =>
    rw [hp] at h
    obtain ⟨-, rfl, hrun⟩ := h.of_done
    rw [← run_step, hq] at hrun
    cases hrun
    exact ⟨rfl, rfl, rfl⟩

theorem Race.of_no_first {n : Nat} (h : Race (List.replicate n .second) p q t a b t') :
    p = .done a ∧ q.run t = (b, t') := by
  induction n generalizing q t with
  | zero =>
    cases h
    exact ⟨rfl, rfl⟩
  | succ n ih =>
    cases h with
    | second _ h =>
      obtain ⟨hp, hq⟩ := ih h
      rw [run_step] at hq
      exact ⟨hp, hq⟩

theorem Race.of_first_then_second {m n : Nat}
    (h : Race (List.replicate m .first ++ List.replicate n .second) p q t a b t') :
    ∃ t₁, p.run t = (a, t₁) ∧ q.run t₁ = (b, t') := by
  induction m generalizing p t with
  | zero =>
    obtain ⟨rfl, hq⟩ := h.of_no_first
    exact ⟨t, rfl, hq⟩
  | succ m ih =>
    cases h with
    | first _ h =>
      obtain ⟨t₁, hp, hq⟩ := ih h
      rw [run_step] at hp
      exact ⟨t₁, hp, hq⟩

theorem Race.serialises_of_isSerial (hserial : IsSerial turns) (h : Race turns p q t a b t') :
    Serialises p q t a b t' := by
  obtain ⟨turn, m, n, rfl⟩ := hserial
  cases turn with
  | first =>
    obtain ⟨t₁, hp, hq⟩ := h.of_first_then_second
    exact .inl ⟨t₁, t', hp, hq, fun _ => rfl⟩
  | second =>
    have h := h.swap
    rw [List.map_append, List.map_replicate, List.map_replicate] at h
    obtain ⟨t₁, hq, hp⟩ := h.of_first_then_second
    exact .inr ⟨t₁, t', hq, hp, fun _ => rfl⟩

end Program
end SchemaScript
