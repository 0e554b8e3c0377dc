import SchemaScript.Files.Tree

/-!
# SchemaScript.Files.Program

Programs that make requests to the file system. A program is the tree of its requests: each is made
with what comes after every answer. So it can be run on a tree of files, one request at a time, or be
carried out by the machine.

* `Program.step`: makes the first request of a program.
* `Program.run`: makes all requests.
-/

namespace SchemaScript

/-- A computation of an `α` that makes requests to the file system. -/
inductive Program (α : Type) where
  | done (value : α)
  | read (path : String) (next : Except FileError ByteArray → Program α)
  | write (path : String) (content : ByteArray) (next : Except FileError Unit → Program α)
  | rename (source target : String) (next : Except FileError Unit → Program α)
  | remove (path : String) (next : Except FileError Unit → Program α)
  | entries (path : String) (next : Except FileError (List String) → Program α)
  | isDirectory (path : String) (next : Bool → Program α)
  | present (path : String) (next : Bool → Program α)

namespace Program

variable {α β : Type}

/-- `p`, and then what `f` makes of its value. -/
def bind (p : Program α) (f : α → Program β) : Program β :=
  match p with
  | done a => f a
  | read path next => read path fun r => (next r).bind f
  | write path content next => write path content fun r => (next r).bind f
  | rename source target next => rename source target fun r => (next r).bind f
  | remove path next => remove path fun r => (next r).bind f
  | entries path next => entries path fun r => (next r).bind f
  | isDirectory path next => isDirectory path fun r => (next r).bind f
  | present path next => present path fun r => (next r).bind f

instance : Monad Program where
  pure := done
  bind := bind

/-- The program after its first request, and the tree after it. -/
def step (p : Program α) (t : FileTree) : Program α × FileTree :=
  match p with
  | done a => (done a, t)
  | read path next => (next (t.read path), t)
  | write path content next =>
    let (r, t) := t.write path content
    (next r, t)
  | rename source target next =>
    let (r, t) := t.rename source target
    (next r, t)
  | remove path next =>
    let (r, t) := t.remove path
    (next r, t)
  | entries path next => (next (t.entries path), t)
  | isDirectory path next => (next (t.isDirectory path), t)
  | present path next => (next (t.present path), t)

/-- The value of a program and the tree after all of its requests. -/
def run (p : Program α) (t : FileTree) : α × FileTree :=
  match p with
  | done a => (a, t)
  | read path next => (next (t.read path)).run t
  | write path content next => (next (t.write path content).1).run (t.write path content).2
  | rename source target next => (next (t.rename source target).1).run (t.rename source target).2
  | remove path next => (next (t.remove path).1).run (t.remove path).2
  | entries path next => (next (t.entries path)).run t
  | isDirectory path next => (next (t.isDirectory path)).run t
  | present path next => (next (t.present path)).run t

theorem run_step (p : Program α) (t : FileTree) : (p.step t).1.run (p.step t).2 = p.run t := by
  cases p <;> rfl

theorem run_bind (p : Program α) (f : α → Program β) (t : FileTree) :
    (p >>= f).run t = (f (p.run t).1).run (p.run t).2 := by
  change (p.bind f).run t = _
  induction p generalizing t with
  | done a => rfl
  | read _ _ ih => exact ih _ t
  | write _ _ _ ih => exact ih _ _
  | rename _ _ _ ih => exact ih _ _
  | remove _ _ ih => exact ih _ _
  | entries _ _ ih => exact ih _ t
  | isDirectory _ _ ih => exact ih _ t
  | present _ _ ih => exact ih _ t

end Program

/-- The text in the bytes of a file. -/
def decodeText (content : ByteArray) : Except FileError String :=
  match String.fromUTF8? content with
  | some text => .ok text
  | none => .error .notUtf8

/-- Reads a file as text. -/
def readText (path : String) : Program (Except FileError String) :=
  .read path fun r => .done (r.bind decodeText)

/-- Writes a text to a file. -/
def writeText (path text : String) : Program (Except FileError Unit) :=
  .write path text.toUTF8 .done

end SchemaScript
