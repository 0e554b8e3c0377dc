import SchemaScript.Files.Program

/-!
# SchemaScript.Proofs.Files.ReadOnly

Programs that only ask the file system and change nothing.

* `Program.IsReadOnly`: no request of the program, whatever the answers, changes a file.
* `Program.IsReadOnly.bind`: one such program after another.
* `Program.IsReadOnly.run_eq`: the tree stays as it is.
-/

namespace SchemaScript
namespace Program

variable {α β : Type}

/-- No request of the program changes a file, whatever is answered on the way. -/
inductive IsReadOnly : Program α → Prop where
  | done (a : α) : IsReadOnly (.done a)
  | read {path : String} {next : Except FileError ByteArray → Program α} :
      (∀ r, IsReadOnly (next r)) → IsReadOnly (.read path next)
  | entries {path : String} {next : Except FileError (List String) → Program α} :
      (∀ r, IsReadOnly (next r)) → IsReadOnly (.entries path next)
  | isDirectory {path : String} {next : Bool → Program α} :
      (∀ r, IsReadOnly (next r)) → IsReadOnly (.isDirectory path next)
  | present {path : String} {next : Bool → Program α} :
      (∀ r, IsReadOnly (next r)) → IsReadOnly (.present path next)

namespace IsReadOnly

variable {p : Program α} {f : α → Program β}

theorem pure (a : α) : IsReadOnly (Pure.pure a : Program α) :=
  .done a

theorem bind (hp : p.IsReadOnly) (hf : ∀ a, (f a).IsReadOnly) : (p >>= f).IsReadOnly := by
  change (p.bind f).IsReadOnly
  induction hp with
  | done a => exact hf a
  | read _ ih => exact .read ih
  | entries _ ih => exact .entries ih
  | isDirectory _ ih => exact .isDirectory ih
  | present _ ih => exact .present ih

theorem run_eq (hp : p.IsReadOnly) (t : FileTree) : p.run t = ((p.run t).1, t) := by
  induction hp with
  | done a => rfl
  | read _ ih => exact ih _
  | entries _ ih => exact ih _
  | isDirectory _ ih => exact ih _
  | present _ ih => exact ih _

theorem run_bind_eq (hp : p.IsReadOnly) (f : α → Program β) (t : FileTree) :
    (p >>= f).run t = (f (p.run t).1).run t := by
  rw [run_bind, hp.run_eq]

end IsReadOnly
end Program

theorem readText_isReadOnly (path : String) : (readText path).IsReadOnly :=
  .read fun _ => .done _

end SchemaScript
