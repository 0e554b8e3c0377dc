import Mathlib.Data.List.Induction
import Mathlib.Data.List.Nodup
import SchemaScript.Proofs.Command.Meaning

/-!
# SchemaScript.Proofs.Command.Gathering

The arguments of a command spell its options and its other arguments one after the other, and are
read as these. No option may be given twice.

* `Flag.Spelled`, `SpellsItems`, `SpellsAll`: how options and other arguments are spelled.
* `exists_spelled`: arguments are spelled so up to a point where the reading ends.
* `Fits`, `foldlM_take_ok_iff`: which options and arguments go together.
* `gather_spelled`: what is spelled is taken, one item after the other.
* `gather_cases`, `gather_ok_iff`, `gather_asks_iff`: reading the arguments of a command.
-/

namespace SchemaScript

variable {known : List Flag} {limit : Nat} {f : Flag} {g g' : Gathered} {a value : String}
  {items : List Item} {e : Interruption}

/-! ## Options and other arguments -/

/-- An option with its value, or another argument. An option that takes no value has an empty one. -/
inductive Item where
  | option (flag : Flag) (value : String)
  | other (argument : String)
deriving DecidableEq

namespace Item

def option? : Item → Option (Flag × String)
  | option f value => some (f, value)
  | other _ => none

def other? : Item → Option String
  | option _ _ => none
  | other a => some a

def options (items : List Item) : List (Flag × String) :=
  items.filterMap option?

def others (items : List Item) : List String :=
  items.filterMap other?

@[simp]
theorem options_append (items more : List Item) :
    options (items ++ more) = options items ++ options more :=
  List.filterMap_append

@[simp]
theorem others_append (items more : List Item) :
    others (items ++ more) = others items ++ others more :=
  List.filterMap_append

@[simp]
theorem options_option (f : Flag) (value : String) : options [option f value] = [(f, value)] := rfl

@[simp]
theorem others_option (f : Flag) (value : String) : others [option f value] = [] := rfl

@[simp]
theorem options_other (a : String) : options [other a] = [] := rfl

@[simp]
theorem others_other (a : String) : others [other a] = [a] := rfl

end Item

/-- An option with a value is spelled by one argument or by two; the second is the value. -/
inductive Flag.Spelled (f : Flag) : String → List String → Prop where
  | switch {a : String} : f = .noHeader ∨ f = .align → f.Writes a none → f.Spelled "" [a]
  | attached {a value : String} : f.takesValue = true → f.Writes a (some value) →
      f.Spelled value [a]
  | separate {a value : String} : f.takesValue = true → f.Writes a none → isValue value = true →
      f.Spelled value [a, value]

/-- The arguments spell options and other arguments one after the other. -/
inductive SpellsItems (known : List Flag) : List Item → List String → Prop where
  | nil : SpellsItems known [] []
  | option {f : Flag} {value : String} {words rest : List String} {items : List Item} : f ∈ known →
      f.Spelled value words → SpellsItems known items rest →
      SpellsItems known (.option f value :: items) (words ++ rest)
  | other {a : String} {rest : List String} {items : List Item} : isValue a = true →
      SpellsItems known items rest → SpellsItems known (.other a :: items) (a :: rest)

/-- The same, where all that follows two hyphens is no option. -/
inductive SpellsAll (known : List Flag) : List Item → List String → Prop where
  | plain {items : List Item} {words : List String} : SpellsItems known items words →
      SpellsAll known items words
  | escaped {items : List Item} {front others : List String} : SpellsItems known items front →
      SpellsAll known (items ++ others.map .other) (front ++ "--" :: others)

/-- The options that end the reading of arguments. -/
inductive Flag.Ends : Flag → Interruption → Prop where
  | help : Flag.Ends .help .help
  | version : Flag.Ends .version .version

/-- Where the reading of options and other arguments ends. -/
inductive Halts (known : List Flag) : List String → Prop where
  | nil : Halts known []
  | escape {rest : List String} : Halts known ("--" :: rest)
  | unknown {a : String} {rest : List String} : Meaning.of known a = .unknown →
      Halts known (a :: rest)
  | asks {f : Flag} {e : Interruption} {a : String} {rest : List String} : f.Ends e → f ∈ known →
      f.Writes a none → Halts known (a :: rest)
  | needless {f : Flag} {a value : String} {rest : List String} : f ∈ known →
      f.takesValue = false → f.Writes a (some value) → Halts known (a :: rest)
  | missing {f : Flag} {a : String} {rest : List String} : f ∈ known → f.takesValue = true →
      f.Writes a none → (∀ v ∈ rest.head?, isValue v = false) → Halts known (a :: rest)

theorem Flag.cases_of_not_takesValue (h : f.takesValue = false) :
    (f = .noHeader ∨ f = .align) ∨ ∃ e, f.Ends e := by
  cases f with
  | noHeader => exact .inl (.inl rfl)
  | align => exact .inl (.inr rfl)
  | help => exact .inr ⟨_, .help⟩
  | version => exact .inr ⟨_, .version⟩
  | _ => cases h

/-- Whatever the arguments are, they spell options and other arguments up to a point where the reading
ends. By induction on the arguments; a step takes one of them or two. -/
theorem exists_spelled (known : List Flag) (arguments : List String) :
    ∃ items front tail, arguments = front ++ tail ∧ SpellsItems known items front ∧
      Halts known tail := by
  match arguments with
  | [] => exact ⟨[], [], [], rfl, .nil, .nil⟩
  | a :: rest =>
    have hhalts (h : Halts known (a :: rest)) : ∃ items front tail, a :: rest = front ++ tail ∧
        SpellsItems known items front ∧ Halts known tail := ⟨[], [], _, rfl, .nil, h⟩
    rcases Meaning.of_cases known a with ⟨hvalue, -⟩ | ⟨rfl, -⟩ | hunknown | ⟨f, v, hf, hwrites, -⟩
    · obtain ⟨items, front, tail, rfl, hspells, htail⟩ := exists_spelled known rest
      exact ⟨_, _, tail, rfl, .other hvalue hspells, htail⟩
    · exact hhalts .escape
    · exact hhalts (.unknown hunknown)
    · cases htakes : f.takesValue with
      | false =>
        cases v with
        | some value => exact hhalts (.needless hf htakes hwrites)
        | none =>
          rcases f.cases_of_not_takesValue htakes with hswitch | ⟨e, hends⟩
          · obtain ⟨items, front, tail, rfl, hspells, htail⟩ := exists_spelled known rest
            exact ⟨_, _, tail, rfl, .option hf (.switch hswitch hwrites) hspells, htail⟩
          · exact hhalts (.asks hends hf hwrites)
      | true =>
        cases v with
        | some value =>
          obtain ⟨items, front, tail, rfl, hspells, htail⟩ := exists_spelled known rest
          exact ⟨_, _, tail, rfl, .option hf (.attached htakes hwrites) hspells, htail⟩
        | none =>
          match rest with
          | [] => exact hhalts (.missing hf htakes hwrites nofun)
          | value :: rest =>
            cases hvalue : isValue value with
            | false => exact hhalts (.missing hf htakes hwrites (by simpa using hvalue))
            | true =>
              obtain ⟨items, front, tail, rfl, hspells, htail⟩ := exists_spelled known rest
              exact ⟨_, _, tail, rfl, .option hf (.separate htakes hwrites hvalue) hspells, htail⟩
termination_by arguments.length

/-! ## Items that go together -/

/-- Takes an option with its value, or another argument. -/
def Gathered.take (limit : Nat) (g : Gathered) : Item → Except Interruption Gathered
  | .option f value => g.give f value
  | .other a => g.other limit a

theorem Gathered.take_error {item : Item} (h : g.take limit item = .error e) :
    ∃ fault, e = .fault fault := by
  cases item with
  | option f value =>
    rw [take, give] at h
    split at h
    · exact ⟨_, (Except.error.inj h).symm⟩
    · split at h
      · exact ⟨_, (Except.error.inj h).symm⟩
      · cases h
  | other a =>
    rw [take, other] at h
    split at h
    · exact ⟨_, (Except.error.inj h).symm⟩
    · split at h
      · exact ⟨_, (Except.error.inj h).symm⟩
      · cases h

theorem foldlM_take_error (h : items.foldlM (Gathered.take limit) g = .error e) :
    ∃ fault, e = .fault fault := by
  induction items generalizing g with
  | nil => cases h
  | cons item items ih =>
    rw [List.foldlM_cons] at h
    cases hitem : g.take limit item with
    | error e' =>
      rw [hitem] at h
      cases h
      exact Gathered.take_error hitem
    | ok g' =>
      rw [hitem] at h
      exact ih h

/-- No option is given twice, no path is empty, and there are no more other arguments than the limit,
none of them empty. -/
structure Fits (limit : Nat) (items : List Item) : Prop where
  once : ((Item.options items).map (·.1)).Nodup
  paths : ∀ o ∈ Item.options items, o.1.takesPath = true → o.2 ≠ ""
  few : (Item.others items).length ≤ limit
  named : "" ∉ Item.others items

/-- What has been gathered when the items were taken. -/
def Gathered.of (items : List Item) : Gathered :=
  ⟨(Item.options items).reverse, (Item.others items).reverse⟩

theorem has_iff : g.has f = true ↔ f ∈ g.options.map (·.1) := by
  rw [Gathered.has, List.lookup_isSome_iff, List.mem_map]
  exact exists_congr fun o => and_congr_right fun _ => by rw [beq_iff_eq, eq_comm]

theorem give_ok_iff : g.give f value = .ok g' ↔
    f ∉ g.options.map (·.1) ∧ (f.takesPath = true → value ≠ "") ∧
      { g with options := (f, value) :: g.options } = g' := by
  rw [Gathered.give, ← has_iff]
  by_cases hgiven : g.has f = true
  · simp [hgiven]
  · cases hpath : f.takesPath <;> by_cases hempty : value = "" <;> simp [hgiven, hempty]

theorem other_ok_iff : g.other limit a = .ok g' ↔
    g.others.length < limit ∧ a ≠ "" ∧ { g with others := a :: g.others } = g' := by
  rw [Gathered.other]
  by_cases hfull : limit ≤ g.others.length
  · simp [hfull, Nat.not_lt.mpr hfull]
  · by_cases hempty : a = "" <;> simp [hfull, hempty, Nat.lt_of_not_le hfull]

theorem fits_nil : Fits limit [] :=
  ⟨.nil, nofun, Nat.zero_le limit, nofun⟩

theorem Fits.of_append {more : List Item} (h : Fits limit (items ++ more)) : Fits limit items := by
  obtain ⟨honce, hpaths, hfew, hnamed⟩ := h
  rw [Item.options_append] at honce hpaths
  rw [Item.others_append] at hfew hnamed
  rw [List.map_append] at honce
  rw [List.length_append] at hfew
  exact ⟨List.Nodup.of_append_left honce, fun o ho => hpaths o (List.mem_append_left _ ho),
    Nat.le_of_add_right_le hfew, fun h => hnamed (List.mem_append_left _ h)⟩

theorem fits_concat_option : Fits limit (items ++ [.option f value]) ↔
    Fits limit items ∧ f ∉ (Item.options items).map (·.1) ∧ (f.takesPath = true → value ≠ "") := by
  constructor
  · rintro ⟨honce, hpaths, hfew, hnamed⟩
    rw [Item.options_append, Item.options_option] at honce hpaths
    rw [Item.others_append, Item.others_option, List.append_nil] at hfew hnamed
    rw [List.map_append, List.nodup_append] at honce
    refine ⟨⟨honce.1, fun o ho => hpaths o (List.mem_append_left _ ho), hfew, hnamed⟩, fun hf => ?_,
      hpaths (f, value) (by simp)⟩
    exact honce.2.2 f hf f (by simp) rfl
  · rintro ⟨⟨honce, hpaths, hfew, hnamed⟩, hf, hvalue⟩
    refine ⟨?_, ?_, by simpa using hfew, by simpa using hnamed⟩
    · rw [Item.options_append, Item.options_option, List.map_append]
      exact List.Nodup.append honce (List.nodup_singleton f) (List.disjoint_singleton.mpr hf)
    · rw [Item.options_append, Item.options_option]
      intro o ho
      rcases List.mem_append.mp ho with ho | ho
      · exact hpaths o ho
      · rw [List.mem_singleton.mp ho]
        exact hvalue

theorem fits_concat_other : Fits limit (items ++ [.other a]) ↔
    Fits limit items ∧ (Item.others items).length < limit ∧ a ≠ "" := by
  constructor
  · rintro ⟨honce, hpaths, hfew, hnamed⟩
    rw [Item.options_append, Item.options_other, List.append_nil] at honce hpaths
    rw [Item.others_append, Item.others_other] at hfew hnamed
    rw [List.length_append, List.length_singleton] at hfew
    rw [List.mem_append, not_or] at hnamed
    exact ⟨⟨honce, hpaths, Nat.le_of_succ_le hfew, hnamed.1⟩, hfew,
      fun ha => hnamed.2 (by simp [ha])⟩
  · rintro ⟨⟨honce, hpaths, -, hnamed⟩, hfew, ha⟩
    refine ⟨by simpa using honce, by simpa using hpaths, ?_, ?_⟩
    · rw [Item.others_append, List.length_append]
      exact hfew
    · rw [Item.others_append, Item.others_other, List.mem_append, List.mem_singleton]
      exact fun h => h.elim hnamed fun hempty => ha hempty.symm

/-- What was gathered takes one more item exactly if they go together. -/
theorem take_ok_iff {item : Item} (h : Fits limit items) :
    (Gathered.of items).take limit item = .ok g ↔
      Fits limit (items ++ [item]) ∧ g = .of (items ++ [item]) := by
  cases item with
  | option f value =>
    have hkeys : f ∈ (Gathered.of items).options.map (·.1) ↔ f ∈ (Item.options items).map (·.1) := by
      rw [Gathered.of, List.map_reverse, List.mem_reverse]
    have hof : Gathered.of (items ++ [.option f value])
        = { Gathered.of items with options := (f, value) :: (Gathered.of items).options } := by
      simp [Gathered.of]
    rw [Gathered.take, give_ok_iff, hkeys, fits_concat_option, hof, and_assoc, and_assoc,
      and_iff_right h, @eq_comm _ g]
  | other a =>
    have hof : Gathered.of (items ++ [.other a])
        = { Gathered.of items with others := a :: (Gathered.of items).others } := by
      simp [Gathered.of]
    rw [Gathered.take, other_ok_iff, fits_concat_other, hof, and_assoc, and_assoc, and_iff_right h,
      @eq_comm _ g, Gathered.of, List.length_reverse]

/-- Items can be taken one after the other exactly if they go together. By induction on the items, the
last of them apart. -/
theorem foldlM_take_ok_iff :
    items.foldlM (Gathered.take limit) .empty = .ok g ↔ Fits limit items ∧ g = .of items := by
  induction items using List.reverseRecOn generalizing g with
  | nil =>
    constructor
    · rintro ⟨⟩
      exact ⟨fits_nil, rfl⟩
    · rintro ⟨-, rfl⟩
      rfl
  | append_singleton items item ih =>
    rw [List.foldlM_append]
    cases htake : items.foldlM (Gathered.take limit) .empty with
    | error e =>
      refine ⟨nofun, fun ⟨hfits, _⟩ => ?_⟩
      cases htake.symm.trans (ih.mpr ⟨hfits.of_append, rfl⟩)
    | ok g₁ =>
      obtain ⟨hfits, rfl⟩ := ih.mp htake
      have hone : [item].foldlM (Gathered.take limit) (.of items)
          = (Gathered.of items).take limit item := bind_pure _
      rw [← take_ok_iff hfits, ← hone]
      rfl

/-! ## Reading the arguments of a command -/

section Gathering

variable {words rest tail arguments : List String} {x : Flag}

theorem Flag.Ends.unique {y : Flag} (hx : x.Ends e) (hy : y.Ends e) : x = y := by
  cases hx <;> cases hy <;> rfl

theorem Flag.Ends.not_fault {fault : UsageError} (h : x.Ends e) : e ≠ .fault fault := by
  cases h <;> exact nofun

theorem raise_switch (h : f = .noHeader ∨ f = .align) : g.raise f none = g.give f "" := by
  rcases h with rfl | rfl <;> rfl

theorem raise_ends (h : x.Ends e) : g.raise x none = .error e := by
  cases h <;> rfl

theorem takesValue_switch (h : f = .noHeader ∨ f = .align) : f.takesValue = false := by
  rcases h with rfl | rfl <;> rfl

theorem takesValue_ends (h : x.Ends e) : x.takesValue = false := by
  cases h <;> rfl

theorem gather_value (h : isValue a = true) :
    gather known limit g (a :: rest) = (g.other limit a).bind (gather known limit · rest) := by
  rw [gather, Meaning.of_value h]
  cases g.other limit a <;> rfl

theorem gather_option (hf : f ∈ known) (h : f.Spelled value words) :
    gather known limit g (words ++ rest) = (g.give f value).bind (gather known limit · rest) := by
  cases h with
  | switch hswitch hwrites =>
    rw [List.singleton_append, gather, Meaning.of_writes hf hwrites]
    simp only [takesValue_switch hswitch, raise_switch hswitch, Bool.not_false, if_true]
    cases g.give f "" <;> rfl
  | attached htakes hwrites =>
    rw [List.singleton_append, gather, Meaning.of_writes hf hwrites]
    simp only [htakes, Bool.not_true, Bool.false_eq_true, if_false]
    cases g.give f value <;> rfl
  | separate htakes hwrites hvalue =>
    rw [List.cons_append, List.singleton_append, gather, Meaning.of_writes hf hwrites]
    simp only [htakes, hvalue, Bool.not_true, Bool.false_eq_true, if_false, if_true]
    cases g.give f value <;> rfl

/-- What is spelled is taken, one item after the other. -/
theorem gather_spelled {front : List String} (h : SpellsItems known items front) (g : Gathered)
    (rest : List String) :
    gather known limit g (front ++ rest)
      = (items.foldlM (Gathered.take limit) g).bind (gather known limit · rest) := by
  induction h generalizing g with
  | nil => rfl
  | @option f value words more items hf hspelled _ ih =>
    rw [List.append_assoc, gather_option hf hspelled, List.foldlM_cons, Gathered.take]
    cases g.give f value with
    | error e => rfl
    | ok g => exact ih g
  | @other a more items hvalue _ ih =>
    rw [List.cons_append, gather_value hvalue, List.foldlM_cons, Gathered.take]
    cases g.other limit a with
    | error e => rfl
    | ok g => exact ih g

theorem gather_escape :
    gather known limit g ("--" :: rest) = (rest.map .other).foldlM (Gathered.take limit) g := by
  rw [gather, Meaning.of_escape rfl, List.foldlM_map]
  rfl

theorem gather_asks (hx : x.Ends e) (hknown : x ∈ known) (hwrites : x.Writes a none) :
    gather known limit g (a :: rest) = .error e := by
  rw [gather, Meaning.of_writes hknown hwrites]
  simp only [takesValue_ends hx, raise_ends hx, Bool.not_false, if_true]

/-- Where the reading ends it succeeds at the end of the arguments or after two hyphens, and else it
fails or is asked to end. -/
theorem gather_halts (h : Halts known tail) (g : Gathered) :
    tail = [] ∨ (∃ others, tail = "--" :: others) ∨
      (∃ x e a rest, x.Ends e ∧ x ∈ known ∧ x.Writes a none ∧ tail = a :: rest) ∨
      ∃ fault, gather known limit g tail = .error (.fault fault) := by
  cases h with
  | nil => exact .inl rfl
  | escape => exact .inr (.inl ⟨_, rfl⟩)
  | asks hx hknown hwrites => exact .inr (.inr (.inl ⟨_, _, _, _, hx, hknown, hwrites, rfl⟩))
  | unknown hunknown => exact .inr (.inr (.inr ⟨_, by rw [gather, hunknown]⟩))
  | @needless f a value rest hf htakes hwrites =>
    refine .inr (.inr (.inr ⟨.needlessValue f.text, ?_⟩))
    rw [gather, Meaning.of_writes hf hwrites]
    simp only [htakes, Bool.not_false, if_true, Gathered.raise, Option.isSome_some]
  | @missing f a rest hf htakes hwrites hnext =>
    refine .inr (.inr (.inr ⟨.missingValue f.text, ?_⟩))
    rw [gather, Meaning.of_writes hf hwrites]
    simp only [htakes, Bool.not_true, Bool.false_eq_true, if_false]
    cases rest with
    | nil => rfl
    | cons v rest => simp only [hnext v rfl, Bool.false_eq_true, if_false]

/-- The arguments ask for the help or for the version, after options and other arguments that go
together. -/
def AsksFor (known : List Flag) (limit : Nat) (x : Flag) (arguments : List String) : Prop :=
  ∃ items front a tail, arguments = front ++ a :: tail ∧ SpellsItems known items front ∧
    Fits limit items ∧ x ∈ known ∧ x.Writes a none

theorem gather_of_spells (h : SpellsAll known items arguments) (hfits : Fits limit items) :
    gather known limit .empty arguments = .ok (.of items) := by
  have htake := foldlM_take_ok_iff.mpr ⟨hfits, rfl⟩
  cases h with
  | plain h =>
    rw [← List.append_nil arguments, gather_spelled h, htake]
    rfl
  | escaped h =>
    have hfront := foldlM_take_ok_iff.mpr ⟨hfits.of_append, rfl⟩
    rw [List.foldlM_append, hfront] at htake
    rw [gather_spelled h, hfront, Except.bind, gather_escape]
    exact htake

theorem gather_of_asks (hx : x.Ends e) (h : AsksFor known limit x arguments) :
    gather known limit .empty arguments = .error e := by
  obtain ⟨items, front, a, tail, rfl, hspells, hfits, hknown, hwrites⟩ := h
  rw [gather_spelled hspells, foldlM_take_ok_iff.mpr ⟨hfits, rfl⟩]
  exact gather_asks hx hknown hwrites

/-- Whatever the arguments of a command are, they are read, or ask to end the reading, or have a
fault. -/
theorem gather_cases (known : List Flag) (limit : Nat) (arguments : List String) :
    (∃ items, SpellsAll known items arguments ∧ Fits limit items ∧
        gather known limit .empty arguments = .ok (.of items)) ∨
      (∃ x e, x.Ends e ∧ AsksFor known limit x arguments ∧
        gather known limit .empty arguments = .error e) ∨
      ∃ fault, gather known limit .empty arguments = .error (.fault fault) := by
  obtain ⟨items, front, tail, rfl, hspells, htail⟩ := exists_spelled known arguments
  have hgather : gather known limit .empty (front ++ tail) = _ := gather_spelled hspells .empty tail
  cases htake : items.foldlM (Gathered.take limit) .empty with
  | error e =>
    obtain ⟨fault, rfl⟩ := foldlM_take_error htake
    rw [htake] at hgather
    exact .inr (.inr ⟨fault, hgather⟩)
  | ok g =>
    obtain ⟨hfits, rfl⟩ := foldlM_take_ok_iff.mp htake
    rw [htake, Except.bind] at hgather
    rcases gather_halts htail (.of items) with
      rfl | ⟨others, rfl⟩ | ⟨x, e, a, rest, hx, hknown, hwrites, rfl⟩ | ⟨fault, hfault⟩
    · rw [List.append_nil] at hgather ⊢
      exact .inl ⟨items, .plain hspells, hfits, hgather⟩
    · rw [gather_escape] at hgather
      cases hothers : (others.map Item.other).foldlM (Gathered.take limit) (.of items) with
      | error e =>
        obtain ⟨fault, rfl⟩ := foldlM_take_error hothers
        exact .inr (.inr ⟨fault, hgather.trans hothers⟩)
      | ok g =>
        have hall : (items ++ others.map Item.other).foldlM (Gathered.take limit) .empty = .ok g := by
          rw [List.foldlM_append, htake]
          exact hothers
        obtain ⟨hfits, rfl⟩ := foldlM_take_ok_iff.mp hall
        exact .inl ⟨_, .escaped hspells, hfits, hgather.trans hothers⟩
    · exact .inr (.inl ⟨x, e, hx, ⟨items, front, a, rest, rfl, hspells, hfits, hknown, hwrites⟩,
        hgather.trans (gather_asks hx hknown hwrites)⟩)
    · exact .inr (.inr ⟨fault, hgather.trans hfault⟩)

/-- The arguments of a command are read if what they spell goes together. -/
theorem gather_ok_iff : gather known limit .empty arguments = .ok g ↔
    ∃ items, SpellsAll known items arguments ∧ Fits limit items ∧ g = .of items := by
  constructor
  · intro h
    rcases gather_cases known limit arguments with
      ⟨items, hspells, hfits, hok⟩ | ⟨x, e, -, -, herror⟩ | ⟨fault, herror⟩
    · exact ⟨items, hspells, hfits, Except.ok.inj (h.symm.trans hok)⟩
    · cases h.symm.trans herror
    · cases h.symm.trans herror
  · rintro ⟨items, hspells, hfits, rfl⟩
    exact gather_of_spells hspells hfits

theorem gather_asks_iff (hx : x.Ends e) :
    gather known limit .empty arguments = .error e ↔ AsksFor known limit x arguments := by
  refine ⟨fun h => ?_, gather_of_asks hx⟩
  rcases gather_cases known limit arguments with
    ⟨items, -, -, hok⟩ | ⟨y, e', hy, hasks, herror⟩ | ⟨fault, herror⟩
  · cases h.symm.trans hok
  · cases h.symm.trans herror
    rwa [hx.unique hy]
  · cases h.symm.trans herror
    exact absurd rfl hx.not_fault

end Gathering

end SchemaScript
