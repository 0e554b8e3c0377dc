import SchemaScript.Command.Run
import SchemaScript.Proofs.Command.Arguments
import SchemaScript.Proofs.Files.ReadOnly
import SchemaScript.Proofs.Snapshot.FileName

/-!
# SchemaScript.Proofs.Command.Trace

What a command leaves behind. Only `generate` changes a file, and only as its last request: it fails
and leaves no trace, or it has written the whole script to one place.

* `loadSnapshot_isReadOnly`, `Config.load_isReadOnly`, …: whatever comes before the last request.
* `ScriptPlace`: where the script of a project belongs.
* `Delivers`, `runGenerate_run_cases`: all that `generate` can do.
* `LeavesBehind`, `runArguments_leavesBehind`: all that may be left of a list of arguments.
* `invokes_generate_of_changes`: the lists of arguments that can change a file.
-/

namespace SchemaScript

/-! ## Programs that only ask -/

theorem loadSnapshot_isReadOnly (path : String) : (loadSnapshot path).IsReadOnly := by
  refine (readText_isReadOnly path).bind fun r => ?_
  cases r <;> exact .pure _

theorem Config.loadFrom_isReadOnly (path : String) : (loadFrom path).IsReadOnly := by
  refine (readText_isReadOnly path).bind fun r => ?_
  split <;> exact .pure _

theorem Config.load_isReadOnly (path : Option String) : (load path).IsReadOnly := by
  cases path with
  | some path => exact loadFrom_isReadOnly path
  | none =>
    refine Program.IsReadOnly.bind (.present fun found => .done found) fun found => ?_
    cases found with
    | true => exact loadFrom_isReadOnly defaultPath
    | false => exact .pure _

theorem Store.load_isReadOnly (s : Store) (id : String) : (s.load id).IsReadOnly := by
  unfold Store.load
  split
  · exact .pure _
  · refine (readText_isReadOnly _).bind fun r => ?_
    split <;> exact .pure _

theorem Store.summaries_isReadOnly (s : Store) (ids : List String) :
    (s.summaries ids).IsReadOnly := by
  induction ids with
  | nil => exact .pure _
  | cons id ids ih =>
    refine (s.load_isReadOnly id).bind fun loaded => ih.bind fun rest => ?_
    obtain ⟨found, events⟩ := rest
    cases loaded with
    | ok p => exact .pure _
    | error e => cases e <;> exact .pure _

theorem Store.list_isReadOnly (s : Store) : s.list.IsReadOnly := by
  refine Program.IsReadOnly.bind (.entries fun r => .done r) fun r => ?_
  cases r with
  | error e => exact .pure _
  | ok names => exact (s.summaries_isReadOnly _).bind fun _ => .pure _

theorem runCheck_isReadOnly (input : String) (config : Config) :
    (runCheck input config).IsReadOnly := by
  refine (loadSnapshot_isReadOnly input).bind fun r => ?_
  cases r <;> exact .pure _

theorem runList_isReadOnly (directory : String) : (runList directory).IsReadOnly := by
  refine (Store.list_isReadOnly _).bind fun r => ?_
  split <;> exact .pure _

theorem outputPath_run (path : String) (p : Project) (t : FileTree) :
    (outputPath path p).run t
      = (if t.isDirectory path then joinPath path (scriptFileName p.name) else path, t) := by
  have hasks : (Program.isDirectory path Program.done).IsReadOnly := .isDirectory .done
  rw [outputPath, hasks.run_bind_eq]
  change (if t.isDirectory path then (Pure.pure _ : Program String) else Pure.pure _).run t = _
  split <;> rfl

/-! ## The place of a script -/

/-- The script of a project that is to be written to `path` belongs at `place`: where the path leads,
or in the directory there, under the name of the script. It is not the place of a directory, and its
parent is one. -/
structure ScriptPlace (t : FileTree) (path : String) (p : Project) (place : Location) : Prop where
  leads : if t.isDirectory path then
      ∃ directory, t.Opens path directory ∧ place = directory ++ [scriptFileName p.name]
    else t.locate path = .ok place
  free : t.node? place ≠ some .directory
  parent : t.node? place.dropLast = some .directory

theorem ScriptPlace.ne_nil {t : FileTree} {path : String} {p : Project} {place : Location}
    (h : ScriptPlace t path p place) : place ≠ [] := by
  rintro rfl
  exact h.free rfl

theorem exists_opens_of_isDirectory {t : FileTree} {path : String}
    (h : t.isDirectory path = true) : ∃ place, t.Opens path place := by
  unfold FileTree.isDirectory at h
  split at h
  · rename_i place hplace
    refine ⟨place, hplace, ?_⟩
    cases hnode : t.node? place with
    | none => rw [hnode] at h; cases h
    | some n =>
      cases n with
      | directory => rfl
      | file content => rw [hnode] at h; cases h
  · cases h

/-- Where a file can be written no directory is, and above it there is one. -/
theorem locate_of_writable {t : FileTree} {path : String} {place : Location}
    (h : t.writable path = .ok place) :
    t.locate path = .ok place ∧ t.node? place ≠ some .directory ∧
      t.node? place.dropLast = some .directory := by
  rw [FileTree.writable] at h
  rw [FileTree.locate]
  cases hf : FileTree.followable path with
  | error e => rw [hf] at h; cases h
  | ok names =>
    rw [hf] at h
    simp only [bind, Except.bind] at h ⊢
    split at h
    · split at h
      · cases h
      · split at h <;> cases h
    · cases hw : t.walk (t.origin path) names with
      | error e => rw [hw] at h; cases h
      | ok there =>
        rw [hw] at h
        simp only at h
        split at h
        · cases h
        · rename_i hnode
          cases hd : t.requireDirectory there.dropLast with
          | error e => rw [hd] at h; cases h
          | ok _ =>
            rw [hd] at h
            cases h
            exact ⟨rfl, hnode, FileTree.directory_of_requireDirectory hd⟩

/-- A script that was written is in its place. -/
theorem scriptPlace_of_writable {t : FileTree} {path : String} {p : Project} {place : Location}
    (h : t.writable (if t.isDirectory path then joinPath path (scriptFileName p.name) else path)
      = .ok place) : ScriptPlace t path p place := by
  obtain ⟨hlocate, hfree, hparent⟩ := locate_of_writable h
  refine ⟨?_, hfree, hparent⟩
  split
  · rename_i hdirectory
    obtain ⟨directory, hopens⟩ := exists_opens_of_isDirectory hdirectory
    rw [if_pos hdirectory, hopens.reaches.locate (isEntryName_scriptFileName p.name)] at hlocate
    refine ⟨directory, hopens, ?_⟩
    cases hadmits : FileTree.admits path (scriptFileName p.name) with
    | error e => rw [hadmits] at hlocate; cases hlocate
    | ok _ => rw [hadmits] at hlocate; exact (Except.ok.inj hlocate).symm
  · rename_i hdirectory
    rwa [if_neg hdirectory] at hlocate

theorem writeText_run (path text : String) (t : FileTree) :
    (writeText path text).run t = t.write path text.toUTF8 :=
  rfl

/-- A file is written to its place, or nothing is changed. -/
theorem write_cases (t : FileTree) (path : String) (content : ByteArray) :
    (∃ e, t.write path content = (.error e, t)) ∨
      ∃ place, t.writable path = .ok place ∧
        t.write path content = (.ok (), t.put place (.file content)) := by
  rw [FileTree.write]
  cases hplace : t.writable path with
  | error e => exact .inl ⟨e, rfl⟩
  | ok place => exact .inr ⟨place, rfl, rfl⟩

/-! ## Commands -/

/-- The whole script has been delivered: it is printed and no file is changed, or nothing is printed
and the script is the content of the file in its place, and nothing else is changed. -/
def Delivers (t : FileTree) (p : Project) (script : String) (output : Option String)
    (printed : String) (t' : FileTree) : Prop :=
  match output with
  | none => printed = script ∧ t' = t
  | some path => printed = "" ∧ ∃ place, ScriptPlace t path p place ∧
    ∀ l, t'.node? l = if l = place then some (.file script.toUTF8) else t.node? l

/-- `generate` fails without a trace, or delivers the script of the project that was read. -/
theorem runGenerate_run_cases (a : GenerateArguments) (config : Config) (around : Surroundings)
    (t : FileTree) :
    (∃ e, (runGenerate a config around).run t = (.error e, t)) ∨
      ∃ p g printed t', (loadSnapshot a.input).run t = (.ok p, t) ∧
        generate (a.apply config.generator) p around.time around.words = some g ∧
        (runGenerate a config around).run t = (.ok (.success printed), t') ∧
        Delivers t p g.script a.output printed t' := by
  have hload := (loadSnapshot_isReadOnly a.input).run_eq t
  rw [runGenerate, (loadSnapshot_isReadOnly a.input).run_bind_eq]
  cases hread : ((loadSnapshot a.input).run t).1 with
  | error e => exact .inl ⟨e, rfl⟩
  | ok p =>
    rw [hread] at hload
    cases hscript : generate (a.apply config.generator) p around.time around.words with
    | none => exact .inl ⟨.namesExhausted, by simp only [hscript]; rfl⟩
    | some g =>
      simp only [hscript]
      cases houtput : a.output with
      | none => exact .inr ⟨p, g, _, _, hload, hscript, rfl, rfl, rfl⟩
      | some path =>
        simp only
        rw [Program.run_bind, outputPath_run, Program.run_bind, writeText_run]
        rcases write_cases t _ g.script.toUTF8 with ⟨e, he⟩ | ⟨place, hwritable, hwrite⟩
        · exact .inl ⟨_, by rw [he]; rfl⟩
        · have hplace := scriptPlace_of_writable hwritable
          refine .inr ⟨p, g, _, _, hload, hscript, by rw [hwrite]; rfl, rfl, place, hplace, ?_⟩
          exact FileTree.node?_put hplace.ne_nil

/-- A command starts when its configuration has been read and the filter in it makes sense; before
that nothing is printed or changed. -/
theorem runRequest_run_cases (path : Option String) (command : Command) (around : Surroundings)
    (t : FileTree) :
    (∃ exit errors, exit ≠ 0 ∧
      (runRequest (.run path command) around).run t = (⟨exit, "", errors⟩, t)) ∨
      ∃ config lines, (Config.load path).run t = (.ok config, t) ∧
        (runRequest (.run path command) around).run t
          = ((Outcome.ofExcept ((runCommand command config around).run t).1).warn lines,
            ((runCommand command config around).run t).2) := by
  have hload := (Config.load_isReadOnly path).run_eq t
  rw [runRequest, (Config.load_isReadOnly path).run_bind_eq]
  cases hread : ((Config.load path).run t).1 with
  | error e => exact .inl ⟨1, _, by decide, rfl⟩
  | ok config =>
    rw [hread] at hload
    cases hlines : LogFilter.report around.logFilter (config.logLevel.getD standardFilter) with
    | none => exact .inl ⟨101, _, by decide, by simp only [hlines]; rfl⟩
    | some lines =>
      refine .inr ⟨config, lines, hload, ?_⟩
      simp only [hlines]
      rw [Program.run_bind]
      rfl

/-- What may be left of a request, by its outcome and the tree after it. -/
def LeavesBehind (around : Surroundings) (t : FileTree) (o : Outcome) (t' : FileTree) :
    Except UsageError Request → Prop
  | .error _ => o.exit = 2 ∧ o.output = "" ∧ t' = t
  | .ok .help | .ok .version => o.exit = 0 ∧ t' = t
  | .ok (.run _ (.check _)) | .ok (.run _ (.list _)) => t' = t
  | .ok (.run path (.generate a)) =>
    (o.exit ≠ 0 ∧ o.output = "" ∧ t' = t) ∨
      (o.exit = 0 ∧ ∃ config p g, (Config.load path).run t = (.ok config, t) ∧
        (loadSnapshot a.input).run t = (.ok p, t) ∧
        generate (a.apply config.generator) p around.time around.words = some g ∧
        Delivers t p g.script a.output o.output t')

theorem runRequest_leavesBehind (path : Option String) (command : Command) (around : Surroundings)
    (t : FileTree) :
    LeavesBehind around t ((runRequest (.run path command) around).run t).1
      ((runRequest (.run path command) around).run t).2 (.ok (.run path command)) := by
  rcases runRequest_run_cases path command around t with
    ⟨exit, errors, hexit, hrun⟩ | ⟨config, lines, hconfig, hrun⟩
  · rw [hrun]
    cases command with
    | generate a => exact .inl ⟨hexit, rfl, rfl⟩
    | check input => exact rfl
    | list directory => exact rfl
  · rw [hrun]
    cases command with
    | generate a =>
      rw [runCommand]
      rcases runGenerate_run_cases a config around t with
        ⟨e, hfail⟩ | ⟨p, g, printed, t', hload, hscript, hdone, hdelivers⟩
      · rw [hfail]
        exact .inl ⟨Nat.one_ne_zero, rfl, rfl⟩
      · rw [hdone]
        exact .inr ⟨rfl, config, p, g, hconfig, hload, hscript, hdelivers⟩
    | check input => exact congrArg Prod.snd ((runCheck_isReadOnly input config).run_eq t)
    | list directory => exact congrArg Prod.snd ((runList_isReadOnly directory).run_eq t)

/-- A file is changed only if the arguments name `generate` and behind it one input, which is read as
a project, and a path where its script has a place. -/
theorem invokes_generate_of_changes {arguments : List String} {around : Surroundings} {t : FileTree}
    (h : ((runArguments arguments around).run t).2 ≠ t) :
    ∃ before rest after input path p, Invokes arguments before "generate" rest ∧
      SpellsAll generateFlags after rest ∧ Item.others after = [input] ∧
      (Item.options after).lookup .output = some path ∧
      (loadSnapshot input).run t = (.ok p, t) ∧ ∃ place, ScriptPlace t path p place := by
  rw [runArguments] at h
  cases hrequest : Request.ofArguments arguments with
  | error e =>
    rw [hrequest] at h
    exact absurd rfl h
  | ok request =>
    rw [hrequest] at h
    cases request with
    | help => exact absurd rfl h
    | version => exact absurd rfl h
    | run path command =>
      have hleft := runRequest_leavesBehind path command around t
      cases command with
      | check input => exact absurd hleft h
      | list directory => exact absurd hleft h
      | generate a =>
        rcases hleft with ⟨-, -, hsame⟩ | ⟨-, config, p, g, -, hload, -, hdelivers⟩
        · exact absurd hsame h
        · obtain ⟨before, name, rest, after, input, hinvokes, hspells, -, hothers, hnamed, -⟩ :=
            ofArguments_run_iff.mp hrequest
          obtain ⟨rfl, rfl, houtput⟩ := generate_of_named? hnamed
          cases hpath : a.output with
          | none =>
            rw [hpath] at hdelivers
            exact absurd hdelivers.2 h
          | some path =>
            rw [hpath] at hdelivers houtput
            obtain ⟨-, place, hplace, -⟩ := hdelivers
            exact ⟨before, rest, after, a.input, path, p, hinvokes, hspells, hothers, houtput.symm,
              hload, place, hplace⟩

/-- Arguments that make no sense, `check` and `list` change no file. If `generate` fails, it changes
no file and prints nothing. If it succeeds, it has printed the whole script and changed no file, or
printed nothing and put the whole script into one file: the one at the path given, or, if there is a
directory, the one in it that is named for the project. -/
theorem runArguments_leavesBehind (arguments : List String) (around : Surroundings) (t : FileTree) :
    LeavesBehind around t ((runArguments arguments around).run t).1
      ((runArguments arguments around).run t).2 (Request.ofArguments arguments) := by
  rw [runArguments]
  cases Request.ofArguments arguments with
  | error e => exact ⟨rfl, rfl, rfl⟩
  | ok request =>
    cases request with
    | help => exact ⟨rfl, rfl⟩
    | version => exact ⟨rfl, rfl⟩
    | run path command => exact runRequest_leavesBehind path command around t

/-- A script for a directory is put into it, under the name of its project. -/
example :
    ((runArguments ["generate", "shop.json", "-o", "/out"]
        { time := ⟨0, 0⟩, words := .ofList [] }).run
      { nodes := [(["home"], .directory), (["out"], .directory),
          (["home", "shop.json"], .file "\x7b\"name\": \"Shop\"\x7d".toUTF8)]
        working := ["home"] }).2.nodes.map (·.1)
      = [["home"], ["out"], ["home", "shop.json"], ["out", "Shop.sql"]] := by
  decide +kernel

end SchemaScript
