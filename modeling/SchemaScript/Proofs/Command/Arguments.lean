import SchemaScript.Proofs.Command.Gathering

/-!
# SchemaScript.Proofs.Command.Arguments

Which lists of arguments ask for what. The name of a command is the first argument that belongs to no
option.

* `Invokes`: options in front of the name of a command.
* `splitCommand_cases`, `splitCommand_asks_iff`: reading what stands in front of a command.
* `commandRequest_ok_iff`, `commandRequest_asks_iff`: reading what stands behind its name.
* `ofArguments_run_iff`, `ofArguments_help_iff`, `ofArguments_version_iff`: the lists of arguments
  that run a command, and those that ask for help or for the version.
-/

namespace SchemaScript

variable {known : List Flag} {limit : Nat} {f x : Flag} {g : Gathered} {a value : String}
  {items : List Item} {words rest tail arguments : List String} {e : Interruption}

/-! ## Reading the options in front of a command -/

/-- The options that may stand in front of a command. -/
def globalFlags : List Flag := [.config, .help, .version]

theorem splitCommand_cons (g : Gathered) (a : String) (rest : List String) :
    splitCommand g (a :: rest) =
      match Meaning.of globalFlags a with
      | .escape =>
        match rest with
        | [] => .error (.fault .missingCommand)
        | a :: _ => .error (.fault (.unexpected a))
      | .unknown => .error (.fault (.unexpected a))
      | .other => .ok (g, a, rest)
      | .option f value =>
        if !f.takesValue then
          match g.raise f value with
          | .error e => .error e
          | .ok g => splitCommand g rest
        else
          match value with
          | some v =>
            match g.give f v with
            | .error e => .error e
            | .ok g => splitCommand g rest
          | none =>
            match rest with
            | [] => .error (.fault (.missingValue f.text))
            | v :: rest =>
              if isValue v then
                match g.give f v with
                | .error e => .error e
                | .ok g => splitCommand g rest
              else .error (.fault (.missingValue f.text)) :=
  splitCommand.eq_def g (a :: rest)

theorem splitCommand_option (hf : f ∈ globalFlags) (h : f.Spelled value words) :
    splitCommand g (words ++ rest) = (g.give f value).bind (splitCommand · rest) := by
  cases h with
  | switch hswitch hwrites =>
    rw [List.singleton_append, splitCommand_cons, Meaning.of_writes hf hwrites]
    simp only [takesValue_switch hswitch, raise_switch hswitch, Bool.not_false, if_true]
    cases g.give f "" <;> rfl
  | attached htakes hwrites =>
    rw [List.singleton_append, splitCommand_cons, Meaning.of_writes hf hwrites]
    simp only [htakes, Bool.not_true, Bool.false_eq_true, if_false]
    cases g.give f value <;> rfl
  | separate htakes hwrites hvalue =>
    rw [List.cons_append, List.singleton_append, splitCommand_cons, Meaning.of_writes hf hwrites]
    simp only [htakes, hvalue, Bool.not_true, Bool.false_eq_true, if_false, if_true]
    cases g.give f value <;> rfl

theorem splitCommand_spelled {front : List String} (h : SpellsItems globalFlags items front)
    (hothers : Item.others items = []) (g : Gathered) (rest : List String) :
    splitCommand g (front ++ rest)
      = (items.foldlM (Gathered.take 0) g).bind (splitCommand · rest) := by
  induction h generalizing g with
  | nil => rfl
  | @option f value words more items hf hspelled _ ih =>
    rw [List.append_assoc, splitCommand_option hf hspelled, List.foldlM_cons, Gathered.take]
    cases g.give f value with
    | error e => rfl
    | ok g => exact ih hothers g
  | other _ _ _ => cases hothers

theorem splitCommand_name {name : String} (h : isValue name = true) :
    splitCommand g (name :: rest) = .ok (g, name, rest) := by
  rw [splitCommand_cons, Meaning.of_value h]

theorem splitCommand_asks (hx : x.Ends e) (hknown : x ∈ globalFlags) (hwrites : x.Writes a none) :
    splitCommand g (a :: rest) = .error e := by
  rw [splitCommand_cons, Meaning.of_writes hknown hwrites]
  simp only [takesValue_ends hx, raise_ends hx, Bool.not_false, if_true]

/-- Without the name of a command the reading fails or is asked to end. -/
theorem splitCommand_halts (h : Halts globalFlags tail) (g : Gathered) :
    (∃ x e a rest, x.Ends e ∧ x ∈ globalFlags ∧ x.Writes a none ∧ tail = a :: rest) ∨
      ∃ fault, splitCommand g tail = .error (.fault fault) := by
  cases h with
  | nil => exact .inr ⟨_, rfl⟩
  | @escape rest => cases rest <;> exact .inr ⟨_, rfl⟩
  | asks hx hknown hwrites => exact .inl ⟨_, _, _, _, hx, hknown, hwrites, rfl⟩
  | unknown hunknown => exact .inr ⟨_, by rw [splitCommand_cons, hunknown]⟩
  | @needless f a value rest hf htakes hwrites =>
    refine .inr ⟨.needlessValue f.text, ?_⟩
    rw [splitCommand_cons, Meaning.of_writes hf hwrites]
    simp only [htakes, Bool.not_false, if_true, Gathered.raise, Option.isSome_some]
  | @missing f a rest hf htakes hwrites hnext =>
    refine .inr ⟨.missingValue f.text, ?_⟩
    rw [splitCommand_cons, Meaning.of_writes hf hwrites]
    simp only [htakes, Bool.not_true, Bool.false_eq_true, if_false]
    cases rest with
    | nil => rfl
    | cons v rest => simp only [hnext v rfl, Bool.false_eq_true, if_false]

/-- The options up to the first other argument. -/
theorem SpellsItems.split {front : List String} (h : SpellsItems known items front) :
    Item.others items = [] ∨
      ∃ options before name rest, front = before ++ name :: rest ∧
        SpellsItems known options before ∧ Item.others options = [] ∧ isValue name = true := by
  induction h with
  | nil => exact .inl rfl
  | @option f value words more items hf hspelled _ ih =>
    rcases ih with hothers | ⟨options, before, name, rest, rfl, hbefore, hothers, hname⟩
    · exact .inl hothers
    · refine .inr ⟨.option f value :: options, words ++ before, name, rest, ?_,
        .option hf hspelled hbefore, hothers, hname⟩
      rw [List.append_assoc]
  | @other a more items hvalue _ _ =>
    exact .inr ⟨[], [], a, more, rfl, .nil, rfl, hvalue⟩

/-- The name of a command is the first argument that belongs to no option. -/
theorem exists_command (arguments : List String) :
    ∃ options front tail, arguments = front ++ tail ∧ SpellsItems globalFlags options front ∧
      Item.others options = [] ∧
      ((∃ name rest, tail = name :: rest ∧ isValue name = true) ∨ Halts globalFlags tail) := by
  obtain ⟨items, front, tail, rfl, hspells, htail⟩ := exists_spelled globalFlags arguments
  rcases hspells.split with hothers | ⟨options, before, name, rest, rfl, hbefore, hothers, hname⟩
  · exact ⟨items, front, tail, rfl, hspells, hothers, .inr htail⟩
  · refine ⟨options, before, name :: (rest ++ tail), ?_, hbefore, hothers, .inl ⟨_, _, rfl, hname⟩⟩
    rw [List.append_assoc, List.cons_append]

theorem Fits.others_eq_nil (h : Fits 0 items) : Item.others items = [] :=
  List.eq_nil_of_length_eq_zero (Nat.le_zero.mp h.few)

/-- The options in front of the name of a command, which go together, and the arguments behind it. -/
def Invokes (arguments : List String) (options : List Item) (name : String) (rest : List String) :
    Prop :=
  ∃ front, arguments = front ++ name :: rest ∧ SpellsItems globalFlags options front ∧
    Fits 0 options ∧ isValue name = true

theorem Invokes.fits {options : List Item} {name : String}
    (h : Invokes arguments options name rest) : Fits 0 options := by
  obtain ⟨_, -, -, hfits, -⟩ := h
  exact hfits

theorem splitCommand_of_invokes {options : List Item} {name : String}
    (h : Invokes arguments options name rest) :
    splitCommand .empty arguments = .ok (.of options, name, rest) := by
  obtain ⟨front, rfl, hspells, hfits, hname⟩ := h
  rw [splitCommand_spelled hspells hfits.others_eq_nil, foldlM_take_ok_iff.mpr ⟨hfits, rfl⟩]
  exact splitCommand_name hname

theorem splitCommand_of_asks (hx : x.Ends e) (h : AsksFor globalFlags 0 x arguments) :
    splitCommand .empty arguments = .error e := by
  obtain ⟨options, front, a, tail, rfl, hspells, hfits, hknown, hwrites⟩ := h
  rw [splitCommand_spelled hspells hfits.others_eq_nil, foldlM_take_ok_iff.mpr ⟨hfits, rfl⟩]
  exact splitCommand_asks hx hknown hwrites

/-- Whatever the arguments are, they invoke a command, or ask to end the reading, or have a fault. -/
theorem splitCommand_cases (arguments : List String) :
    (∃ options name rest, Invokes arguments options name rest) ∨
      (∃ x e, x.Ends e ∧ AsksFor globalFlags 0 x arguments) ∨
      ∃ fault, splitCommand .empty arguments = .error (.fault fault) := by
  obtain ⟨options, front, tail, rfl, hspells, hothers, htail⟩ := exists_command arguments
  have hsplit := splitCommand_spelled hspells hothers .empty tail
  cases htake : options.foldlM (Gathered.take 0) .empty with
  | error e =>
    obtain ⟨fault, rfl⟩ := foldlM_take_error htake
    rw [htake] at hsplit
    exact .inr (.inr ⟨fault, hsplit⟩)
  | ok g =>
    obtain ⟨hfits, rfl⟩ := foldlM_take_ok_iff.mp htake
    rw [htake, Except.bind] at hsplit
    rcases htail with ⟨name, rest, rfl, hname⟩ | htail
    · exact .inl ⟨options, name, rest, front, rfl, hspells, hfits, hname⟩
    · rcases splitCommand_halts htail (.of options) with
        ⟨x, e, a, rest, hx, hknown, hwrites, rfl⟩ | ⟨fault, hfault⟩
      · exact .inr (.inl ⟨x, e, hx, options, front, a, rest, rfl, hspells, hfits, hknown, hwrites⟩)
      · exact .inr (.inr ⟨fault, hsplit.trans hfault⟩)

theorem splitCommand_asks_iff (hx : x.Ends e) :
    splitCommand .empty arguments = .error e ↔ AsksFor globalFlags 0 x arguments := by
  refine ⟨fun h => ?_, splitCommand_of_asks hx⟩
  rcases splitCommand_cases arguments with
    ⟨options, name, rest, hinvokes⟩ | ⟨y, e', hy, hasks⟩ | ⟨fault, herror⟩
  · cases h.symm.trans (splitCommand_of_invokes hinvokes)
  · cases h.symm.trans (splitCommand_of_asks hy hasks)
    rwa [hx.unique hy]
  · cases h.symm.trans herror
    exact absurd rfl hx.not_fault

/-! ## The commands -/

/-- Where no key occurs twice, the order of the pairs does not matter. -/
theorem lookup_eq_some_iff_mem {l : List (Flag × String)} (h : (l.map (·.1)).Nodup) :
    l.lookup f = some value ↔ (f, value) ∈ l := by
  induction l with
  | nil => simp
  | cons o l ih =>
    obtain ⟨k, v⟩ := o
    rw [List.map_cons, List.nodup_cons] at h
    rw [List.lookup_cons, List.mem_cons]
    by_cases hk : f = k
    · subst hk
      have hnot : (f, value) ∉ l := fun hmem => h.1 (List.mem_map.mpr ⟨_, hmem, rfl⟩)
      simp [hnot, eq_comm]
    · rw [beq_false_of_ne hk, ih h.2]
      simp [hk]

theorem value?_of {f : Flag} (h : ((Item.options items).map (·.1)).Nodup) :
    (Gathered.of items).value? f = (Item.options items).lookup f := by
  have hreverse : ((Item.options items).reverse.map (·.1)).Nodup := by
    rw [List.map_reverse]
    exact List.nodup_reverse.mpr h
  ext value
  rw [Gathered.value?, Gathered.of, lookup_eq_some_iff_mem hreverse, lookup_eq_some_iff_mem h,
    List.mem_reverse]

theorem has_of {f : Flag} (h : ((Item.options items).map (·.1)).Nodup) :
    (Gathered.of items).has f = ((Item.options items).lookup f).isSome :=
  congrArg Option.isSome (value?_of h)

/-- The options a command has behind its name. -/
def flagsOf (name : String) : List Flag :=
  if name = "generate" then generateFlags else [.config, .help]

def commandNames : List String := ["generate", "check", "list"]

/-- The command of a name with its options and its argument. -/
def Command.named? (name : String) (options : List (Flag × String)) (argument : String) :
    Option Command :=
  match name with
  | "generate" => some (.generate
      { input := argument
        output := options.lookup .output
        schema := options.lookup .schema
        separator := options.lookup .separator
        noHeader := (options.lookup .noHeader).isSome
        align := (options.lookup .align).isSome })
  | "check" => some (.check argument)
  | "list" => some (.list argument)
  | _ => none

/-- A command with one argument, of what its arguments were gathered into. -/
def readCommand (known : List Flag) (label : String) (command : Gathered → String → Command)
    (config : Option String) (arguments : List String) : Except Interruption Request :=
  (gather known 1 .empty arguments).bind fun g => (soleArgument label g).bind fun input =>
    .ok (.run ((g.value? .config).orElse fun _ => config) (command g input))

section Reading

variable {label : String} {command : Gathered → String → Command} {config : Option String}
  {r : Request}

theorem soleArgument_error (h : soleArgument label g = .error e) : ∃ fault, e = .fault fault := by
  rw [soleArgument] at h
  split at h
  · cases h
  · exact ⟨_, (Except.error.inj h).symm⟩

theorem soleArgument_of (h : Item.others items = [value]) :
    soleArgument label (.of items) = .ok value := by
  rw [soleArgument, Gathered.of, h]
  rfl

theorem others_of_soleArgument (h : soleArgument label (.of items) = .ok value) :
    Item.others items = [value] := by
  rw [soleArgument] at h
  split at h
  · next a ha =>
    cases h
    rw [← List.reverse_reverse (Item.others items)]
    exact congrArg List.reverse ha
  · cases h

theorem bind_eq_ok_iff {α β : Type} {read : Except Interruption α}
    {next : α → Except Interruption β} {b : β} :
    read.bind next = .ok b ↔ ∃ a, read = .ok a ∧ next a = .ok b := by
  cases read <;> simp [Except.bind]

theorem bind_eq_error_iff {α β : Type} {read : Except Interruption α}
    {next : α → Except Interruption β} :
    read.bind next = .error e ↔ read = .error e ∨ ∃ a, read = .ok a ∧ next a = .error e := by
  cases read <;> simp [Except.bind]

theorem readCommand_ok_iff : readCommand known label command config arguments = .ok r ↔
    ∃ items input, SpellsAll known items arguments ∧ Fits 1 items ∧ Item.others items = [input] ∧
      r = .run (((Item.options items).lookup .config).orElse fun _ => config)
        (command (.of items) input) := by
  rw [readCommand, bind_eq_ok_iff]
  constructor
  · rintro ⟨g, hgather, hread⟩
    obtain ⟨items, hspells, hfits, rfl⟩ := gather_ok_iff.mp hgather
    obtain ⟨input, hsole, hr⟩ := bind_eq_ok_iff.mp hread
    rw [value?_of hfits.once] at hr
    exact ⟨items, input, hspells, hfits, others_of_soleArgument hsole, (Except.ok.inj hr).symm⟩
  · rintro ⟨items, input, hspells, hfits, hinput, rfl⟩
    refine ⟨.of items, gather_of_spells hspells hfits, ?_⟩
    rw [soleArgument_of hinput, Except.bind, value?_of hfits.once]

theorem readCommand_asks_iff (hx : x.Ends e) :
    readCommand known label command config arguments = .error e ↔ AsksFor known 1 x arguments := by
  rw [← gather_asks_iff hx, readCommand, bind_eq_error_iff]
  refine or_iff_left ?_
  rintro ⟨g, -, h⟩
  rcases bind_eq_error_iff.mp h with hsole | ⟨input, -, h⟩
  · obtain ⟨fault, rfl⟩ := soleArgument_error hsole
    exact hx.not_fault rfl
  · cases h

theorem commandRequest_generate : commandRequest config "generate" arguments
    = readCommand generateFlags "INPUT" (fun g input => .generate
      { input
        output := g.value? .output
        schema := g.value? .schema
        separator := g.value? .separator
        noHeader := g.has .noHeader
        align := g.has .align }) config arguments :=
  rfl

theorem commandRequest_check : commandRequest config "check" arguments
    = readCommand [.config, .help] "INPUT" (fun _ input => .check input) config arguments :=
  rfl

theorem commandRequest_list : commandRequest config "list" arguments
    = readCommand [.config, .help] "DIR" (fun _ input => .list input) config arguments :=
  rfl

theorem commandRequest_help_eq : commandRequest config "help" arguments =
    match arguments with
    | [] => .error .help
    | [a] =>
      if ["generate", "check", "list", "help"].contains a then .error .help
      else .error (.fault (.unknownCommand a))
    | _ :: a :: _ => .error (.fault (.unknownCommand a)) :=
  rfl

theorem commandRequest_unknown {name : String} (h : name ∉ commandNames) (hhelp : name ≠ "help") :
    commandRequest config name arguments = .error (.fault (.unknownCommand name)) := by
  simp only [commandNames, List.mem_cons, List.not_mem_nil, or_false, not_or] at h
  unfold commandRequest
  rw [if_neg h.1, if_neg h.2.1, if_neg h.2.2, if_neg hhelp]
  rfl

/-- A name is that of a command with an argument, or help, or of no command. -/
theorem name_cases (name : String) :
    name = "generate" ∨ name = "check" ∨ name = "list" ∨ name = "help" ∨
      (name ∉ commandNames ∧ name ≠ "help") := by
  simp only [commandNames, List.mem_cons, List.not_mem_nil, or_false]
  grind

theorem named?_eq_none {name : String} {options : List (Flag × String)} (h : name ∉ commandNames) :
    Command.named? name options value = none := by
  simp only [commandNames, List.mem_cons, List.not_mem_nil, or_false, not_or] at h
  unfold Command.named?
  split
  · exact absurd rfl h.1
  · exact absurd rfl h.2.1
  · exact absurd rfl h.2.2
  · rfl

/-- The command of a name is read if what its arguments spell goes together and leaves one of them. -/
theorem readCommand_named_iff {name : String} (hknown : flagsOf name = known)
    (hnamed : ∀ items input, Fits 1 items →
      Command.named? name (Item.options items) input = some (command (.of items) input)) :
    readCommand known label command config arguments = .ok r ↔
      ∃ items input command, SpellsAll (flagsOf name) items arguments ∧ Fits 1 items ∧
        Item.others items = [input] ∧
        Command.named? name (Item.options items) input = some command ∧
        r = .run (((Item.options items).lookup .config).orElse fun _ => config) command := by
  rw [readCommand_ok_iff, hknown]
  constructor
  · rintro ⟨items, input, hspells, hfits, hinput, hr⟩
    exact ⟨items, input, _, hspells, hfits, hinput, hnamed items input hfits, hr⟩
  · rintro ⟨items, input, command', hspells, hfits, hinput, hcommand, hr⟩
    obtain rfl := Option.some.inj ((hnamed items input hfits).symm.trans hcommand)
    exact ⟨items, input, hspells, hfits, hinput, hr⟩

theorem generate_of_named? {name : String} {options : List (Flag × String)} {a : GenerateArguments}
    (h : Command.named? name options value = some (.generate a)) :
    name = "generate" ∧ a.input = value ∧ a.output = options.lookup .output := by
  unfold Command.named? at h
  split at h
  · cases h
    exact ⟨rfl, rfl, rfl⟩
  · cases h
  · cases h
  · cases h

theorem commandRequest_ok_iff {name : String} : commandRequest config name arguments = .ok r ↔
    ∃ items input command, SpellsAll (flagsOf name) items arguments ∧ Fits 1 items ∧
      Item.others items = [input] ∧ Command.named? name (Item.options items) input = some command ∧
      r = .run (((Item.options items).lookup .config).orElse fun _ => config) command := by
  rcases name_cases name with rfl | rfl | rfl | rfl | ⟨hunknown, hhelp⟩
  · rw [commandRequest_generate]
    refine readCommand_named_iff rfl fun items input hfits => ?_
    simp only [Command.named?, value?_of hfits.once, has_of hfits.once]
  · rw [commandRequest_check]
    exact readCommand_named_iff rfl fun _ _ _ => rfl
  · rw [commandRequest_list]
    exact readCommand_named_iff rfl fun _ _ _ => rfl
  · rw [commandRequest_help_eq]
    constructor
    · intro h
      split at h
      · cases h
      · split at h <;> cases h
      · cases h
    · rintro ⟨_, _, _, _, _, _, hcommand, _⟩
      cases hcommand
  · rw [commandRequest_unknown hunknown hhelp]
    refine ⟨nofun, fun ⟨items, input, command, _, _, _, hcommand, _⟩ => ?_⟩
    rw [named?_eq_none hunknown] at hcommand
    cases hcommand

/-- The command `help` takes the name of a command, or of itself, or nothing. -/
def AsksTopic (arguments : List String) : Prop :=
  arguments = [] ∨ ∃ topic ∈ commandNames ++ ["help"], arguments = [topic]

theorem commandRequest_help_asks (hx : x.Ends e) :
    commandRequest config "help" arguments = .error e ↔ x = .help ∧ AsksTopic arguments := by
  have hhelp : Except.error (α := Request) .help = .error e ↔ x = .help := by
    cases hx <;> simp
  rw [commandRequest_help_eq]
  match arguments with
  | [] => simp [AsksTopic, hhelp]
  | [a] =>
    by_cases ha : a ∈ commandNames ++ ["help"]
    · have hlisted : ["generate", "check", "list", "help"].contains a = true :=
        List.contains_iff_mem.mpr ha
      simp only [hlisted, if_true]
      rw [hhelp]
      exact (and_iff_left (.inr ⟨a, ha, rfl⟩)).symm
    · have hlisted : ["generate", "check", "list", "help"].contains a = false := by
        simpa [commandNames] using ha
      simp only [hlisted, Bool.false_eq_true, if_false]
      refine ⟨fun h => absurd (Except.error.inj h).symm hx.not_fault, ?_⟩
      rintro ⟨-, h | ⟨topic, htopic, h⟩⟩
      · cases h
      · cases h
        exact absurd htopic ha
  | _ :: a :: _ =>
    refine ⟨fun h => absurd (Except.error.inj h).symm hx.not_fault, ?_⟩
    rintro ⟨-, h | ⟨topic, -, h⟩⟩
    · cases h
    · cases h

theorem commandRequest_asks_iff {name : String} (hx : x.Ends e) :
    commandRequest config name arguments = .error e ↔
      (name ∈ commandNames ∧ AsksFor (flagsOf name) 1 x arguments) ∨
        (name = "help" ∧ x = .help ∧ AsksTopic arguments) := by
  rcases name_cases name with rfl | rfl | rfl | rfl | ⟨hunknown, hhelp⟩
  · rw [commandRequest_generate, readCommand_asks_iff hx]
    simp [commandNames, flagsOf]
  · rw [commandRequest_check, readCommand_asks_iff hx]
    simp [commandNames, flagsOf]
  · rw [commandRequest_list, readCommand_asks_iff hx]
    simp [commandNames, flagsOf]
  · rw [commandRequest_help_asks hx]
    simp [commandNames]
  · rw [commandRequest_unknown hunknown hhelp]
    simp only [hunknown, hhelp, false_and, or_false, iff_false, Except.error.injEq]
    exact hx.not_fault.symm

end Reading

/-! ## Requests -/

/-- Reads what stands in front of the name of a command, and then the command. -/
def readRequest (arguments : List String) : Except Interruption Request :=
  (splitCommand .empty arguments).bind fun (g, name, rest) =>
    commandRequest (g.value? .config) name rest

theorem ofArguments_eq (arguments : List String) : Request.ofArguments arguments =
    match readRequest arguments with
    | .ok request => .ok request
    | .error .help => .ok .help
    | .error .version => .ok .version
    | .error (.fault e) => .error e :=
  rfl

theorem Invokes.readRequest {options : List Item} {name : String}
    (h : Invokes arguments options name rest) : readRequest arguments
      = commandRequest ((Item.options options).lookup .config) name rest := by
  rw [SchemaScript.readRequest, splitCommand_of_invokes h, ← value?_of h.fits.once]
  rfl

/-- A list of arguments invokes a command, or its reading ends before. -/
theorem readRequest_cases (arguments : List String) :
    (∃ options name rest, Invokes arguments options name rest) ∨
      ∃ e, splitCommand .empty arguments = .error e ∧ readRequest arguments = .error e := by
  have hends {e : Interruption} (h : splitCommand .empty arguments = .error e) :
      readRequest arguments = .error e := by
    rw [readRequest, h]
    rfl
  rcases splitCommand_cases arguments with hinvokes | ⟨x, e, hx, hasks⟩ | ⟨fault, herror⟩
  · exact .inl hinvokes
  · exact .inr ⟨e, splitCommand_of_asks hx hasks, hends (splitCommand_of_asks hx hasks)⟩
  · exact .inr ⟨.fault fault, herror, hends herror⟩

theorem readRequest_ok_iff {r : Request} : readRequest arguments = .ok r ↔
    ∃ options name rest, Invokes arguments options name rest ∧
      commandRequest ((Item.options options).lookup .config) name rest = .ok r := by
  constructor
  · intro h
    rcases readRequest_cases arguments with ⟨options, name, rest, hinvokes⟩ | ⟨e, -, he⟩
    · exact ⟨options, name, rest, hinvokes, hinvokes.readRequest.symm.trans h⟩
    · cases he.symm.trans h
  · rintro ⟨options, name, rest, hinvokes, h⟩
    exact hinvokes.readRequest.trans h

theorem readRequest_asks_iff (hx : x.Ends e) : readRequest arguments = .error e ↔
    AsksFor globalFlags 0 x arguments ∨ ∃ options name rest, Invokes arguments options name rest ∧
      commandRequest ((Item.options options).lookup .config) name rest = .error e := by
  rw [← splitCommand_asks_iff hx]
  constructor
  · intro h
    rcases readRequest_cases arguments with ⟨options, name, rest, hinvokes⟩ | ⟨e', hsplit, he⟩
    · exact .inr ⟨options, name, rest, hinvokes, hinvokes.readRequest.symm.trans h⟩
    · cases he.symm.trans h
      exact .inl hsplit
  · rintro (h | ⟨options, name, rest, hinvokes, h⟩)
    · rw [readRequest, h]
      rfl
    · exact hinvokes.readRequest.trans h

theorem exists_of_readRequest {r : Request} (h : readRequest arguments = .ok r) :
    ∃ config command, r = .run config command := by
  obtain ⟨options, name, rest, -, hrequest⟩ := readRequest_ok_iff.mp h
  obtain ⟨items, input, command, -, -, -, -, rfl⟩ := commandRequest_ok_iff.mp hrequest
  exact ⟨_, _, rfl⟩

/-- The list of arguments runs a command if and only if the command's name stands behind options that
go together, and in front of options and one argument that go together. An option of the command is
the one of that name behind it; the configuration may also be named in front. -/
theorem ofArguments_run_iff {config : Option String} {command : Command} :
    Request.ofArguments arguments = .ok (.run config command) ↔
      ∃ before name rest after input, Invokes arguments before name rest ∧
        SpellsAll (flagsOf name) after rest ∧ Fits 1 after ∧ Item.others after = [input] ∧
        Command.named? name (Item.options after) input = some command ∧
        config = ((Item.options after).lookup .config).orElse
          fun _ => (Item.options before).lookup .config := by
  have hread : Request.ofArguments arguments = .ok (.run config command) ↔
      readRequest arguments = .ok (.run config command) := by
    rw [ofArguments_eq]
    split <;> simp_all
  rw [hread, readRequest_ok_iff]
  constructor
  · rintro ⟨before, name, rest, hinvokes, hrequest⟩
    obtain ⟨after, input, _, hspells, hfits, hinput, hcommand, hrun⟩ :=
      commandRequest_ok_iff.mp hrequest
    cases hrun
    exact ⟨before, name, rest, after, input, hinvokes, hspells, hfits, hinput, hcommand, rfl⟩
  · rintro ⟨before, name, rest, after, input, hinvokes, hspells, hfits, hinput, hcommand, rfl⟩
    exact ⟨before, name, rest, hinvokes,
      commandRequest_ok_iff.mpr ⟨after, input, command, hspells, hfits, hinput, hcommand, rfl⟩⟩

/-- The configuration may be named in front of the command, and a value follows its letter at once. -/
example :
    Request.ofArguments ["--config", "a.json", "generate", "-oout.sql", "shop.json", "--align"]
      = .ok (.run (some "a.json")
        (.generate ⟨"shop.json", some "out.sql", none, none, false, true⟩)) := by
  decide +kernel

/-- The list of arguments asks for help if the option stands in front of a command or among what a
command takes, or with the command `help`. -/
theorem ofArguments_help_iff : Request.ofArguments arguments = .ok .help ↔
    AsksFor globalFlags 0 .help arguments ∨
      ∃ options name rest, Invokes arguments options name rest ∧
        ((name ∈ commandNames ∧ AsksFor (flagsOf name) 1 .help rest) ∨
          (name = "help" ∧ AsksTopic rest)) := by
  have hread : Request.ofArguments arguments = .ok .help ↔ readRequest arguments = .error .help := by
    rw [ofArguments_eq]
    split
    · next r h =>
      obtain ⟨config, command, rfl⟩ := exists_of_readRequest h
      simp [h]
    all_goals simp_all
  rw [hread, readRequest_asks_iff .help]
  simp only [commandRequest_asks_iff .help, true_and]

/-- The list of arguments asks for the version if the option stands in front of a command. -/
theorem ofArguments_version_iff : Request.ofArguments arguments = .ok .version ↔
    AsksFor globalFlags 0 .version arguments := by
  have hread : Request.ofArguments arguments = .ok .version ↔
      readRequest arguments = .error .version := by
    rw [ofArguments_eq]
    split
    · next r h =>
      obtain ⟨config, command, rfl⟩ := exists_of_readRequest h
      simp [h]
    all_goals simp_all
  rw [hread, readRequest_asks_iff .version]
  refine or_iff_left ?_
  rintro ⟨options, name, rest, -, h⟩
  rcases (commandRequest_asks_iff .version).mp h with ⟨-, _, _, _, _, -, -, -, hknown, -⟩ | ⟨-, h, -⟩
  · rw [flagsOf] at hknown
    split at hknown
    · revert hknown
      decide
    · revert hknown
      decide
  · cases h

end SchemaScript
