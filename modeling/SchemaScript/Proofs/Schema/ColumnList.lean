import SchemaScript.Proofs.Text.Split
import SchemaScript.Proofs.Unicode.WhiteSpace
import SchemaScript.Schema.ColumnList

/-!
# SchemaScript.Proofs.Schema.ColumnList

Which names a list of columns holds, and how a list of names may be written.

* `ListsNames`: the names are what stands between the commas of a text.
* `IsListable`: the names that a list can hold.
* `SpellsNames`: a text with the names in it, between commas, with any white space around them and any
  empty places among them.
* `splitColumnList_eq_iff`: the names are read from a text if and only if it spells them.
* `splitColumnList_spelled`: no list loses a name, changes one or adds one, however it is written.
-/

namespace SchemaScript

variable {csv : String} {names : List String} {places : List (List Char)}

/-- The names are what stands between the commas of a text, in order, each without the white space
around it, and without the places where nothing is left. -/
def ListsNames (csv : String) (names : List String) : Prop :=
  ∃ places : List (List Char), csv.toList = Text.join [','] places ∧ places ≠ [] ∧
    (∀ place ∈ places, ',' ∉ place) ∧
    names.map String.toList = (places.map Unicode.trimChars).filter fun place => !place.isEmpty

theorem map_toList_splitColumnList (csv : String) :
    (splitColumnList csv).map String.toList
      = ((Text.split (· == ',') csv.toList).map Unicode.trimChars).filter
        fun place => !place.isEmpty := by
  rw [splitColumnList]
  induction (Text.split (· == ',') csv.toList).map Unicode.trimChars with
  | nil => rfl
  | cons place places ih =>
    cases place with
    | nil => exact ih
    | cons c cs => simpa using ih

theorem listsNames_iff {csv : String} {names : List String} :
    ListsNames csv names ↔ splitColumnList csv = names := by
  constructor
  · rintro ⟨places, hcsv, hne, hcomma, hnames⟩
    have hsplit := Text.split_join hne hcomma
    refine (List.map_inj_right fun _ _ => String.toList_inj.mp).mp ?_
    rw [map_toList_splitColumnList, hcsv, hsplit, hnames]
  · rintro rfl
    refine ⟨Text.split (· == ',') csv.toList, (Text.join_split ',' _).symm, Text.split_ne_nil _ _,
      fun place hplace hcomma => ?_, map_toList_splitColumnList csv⟩
    cases Text.not_separator_of_mem_split (p := (· == ',')) hplace hcomma

/-! ## Writing lists -/

/-- A name that a list can hold. -/
structure IsListable (name : String) : Prop where
  ne_empty : name ≠ ""
  trimmed : Unicode.IsTrimmed name.toList
  comma_not_mem : ',' ∉ name.toList

/-- Places that hold names, in order. At each place the next name stands between white space, or there
is nothing but white space. -/
inductive HoldNames : List (List Char) → List String → Prop where
  | nil : HoldNames [] []
  | blank {gap : List Char} {places : List (List Char)} {names : List String} :
      (∀ c ∈ gap, Unicode.isWhiteSpace c = true) → HoldNames places names →
      HoldNames (gap :: places) names
  | name {left right : List Char} {name : String} {places : List (List Char)}
      {names : List String} :
      (∀ c ∈ left, Unicode.isWhiteSpace c = true) → (∀ c ∈ right, Unicode.isWhiteSpace c = true) →
      HoldNames places names →
      HoldNames ((left ++ name.toList ++ right) :: places) (name :: names)

/-- A text that consists of places that hold the names, with commas between them. -/
def SpellsNames (csv : String) (names : List String) : Prop :=
  ∃ places : List (List Char), csv.toList = Text.join [','] places ∧ HoldNames places names

theorem comma_not_mem_of_isWhiteSpace {cs : List Char}
    (h : ∀ c ∈ cs, Unicode.isWhiteSpace c = true) : ',' ∉ cs := by
  intro hcomma
  cases h ',' hcomma

theorem HoldNames.comma_not_mem (h : HoldNames places names)
    (hnames : ∀ name ∈ names, IsListable name) : ∀ place ∈ places, ',' ∉ place := by
  induction h with
  | nil => exact fun place hplace => absurd hplace List.not_mem_nil
  | blank hgap _ ih =>
    exact List.forall_mem_cons.mpr ⟨comma_not_mem_of_isWhiteSpace hgap, ih hnames⟩
  | name hleft hright _ ih =>
    obtain ⟨hname, hnames⟩ := List.forall_mem_cons.mp hnames
    refine List.forall_mem_cons.mpr ⟨?_, ih hnames⟩
    rw [List.mem_append, List.mem_append, not_or, not_or]
    exact ⟨⟨comma_not_mem_of_isWhiteSpace hleft, hname.comma_not_mem⟩,
      comma_not_mem_of_isWhiteSpace hright⟩

/-- Trimming leaves the names at the places that hold one, and nothing at the others. -/
theorem HoldNames.filter_trimChars (h : HoldNames places names)
    (hnames : ∀ name ∈ names, IsListable name) :
    (places.map Unicode.trimChars).filter (fun place => !place.isEmpty)
      = names.map String.toList := by
  induction h with
  | nil => rfl
  | blank hgap _ ih =>
    rw [List.map_cons, Unicode.trimChars_eq_nil hgap, List.filter_cons_of_neg (by decide), ih hnames]
  | @name left right name places names hleft hright _ ih =>
    obtain ⟨hname, hnames⟩ := List.forall_mem_cons.mp hnames
    have hsome : (!name.toList.isEmpty) = true := by
      simpa [String.toList_eq_nil_iff] using hname.ne_empty
    rw [List.map_cons, Unicode.trimChars_append hleft hname.trimmed hright,
      List.filter_cons, if_pos hsome, ih hnames, List.map_cons]

/-- Whatever stands at the places, they hold the names that trimming leaves there. -/
theorem holdNames_of_filter_trimChars
    (h : names.map String.toList
      = (places.map Unicode.trimChars).filter fun place => !place.isEmpty) :
    HoldNames places names := by
  induction places generalizing names with
  | nil =>
    rw [List.map_eq_nil_iff.mp h]
    exact .nil
  | cons place places ih =>
    obtain ⟨left, right, hplace, hleft, hright⟩ := Unicode.eq_append_trimChars_append place
    cases htrim : Unicode.trimChars place with
    | nil =>
      rw [List.map_cons, htrim, List.filter_cons_of_neg (by decide)] at h
      refine .blank (fun c hc => ?_) (ih h)
      rw [hplace, htrim, List.append_nil] at hc
      exact (List.mem_append.mp hc).elim (hleft c) (hright c)
    | cons c cs =>
      rw [List.map_cons, htrim, List.filter_cons_of_pos rfl, ← htrim] at h
      obtain ⟨name, names, rfl, hname, hnames⟩ := List.map_eq_cons_iff.mp h
      rw [hplace, ← hname]
      exact .name hleft hright (ih hnames)

/-! ## Reading what is written -/

theorem isListable_of_mem {name : String} (h : name ∈ splitColumnList csv) : IsListable name := by
  have hmem := List.mem_map_of_mem (f := String.toList) h
  rw [map_toList_splitColumnList, List.mem_filter, List.mem_map] at hmem
  obtain ⟨⟨place, hplace, htrim⟩, hsome⟩ := hmem
  refine ⟨?_, htrim ▸ Unicode.isTrimmed_trimChars place, fun hcomma => ?_⟩
  · rintro rfl
    cases hsome
  · have hcomma : ',' ∈ place := Unicode.mem_of_mem_trimChars (htrim ▸ hcomma)
    cases Text.not_separator_of_mem_split (p := (· == ',')) hplace hcomma

theorem spellsNames_splitColumnList (csv : String) : SpellsNames csv (splitColumnList csv) :=
  ⟨Text.split (· == ',') csv.toList, (Text.join_split ',' _).symm,
    holdNames_of_filter_trimChars (map_toList_splitColumnList csv)⟩

theorem splitColumnList_of_spellsNames (hnames : ∀ name ∈ names, IsListable name)
    (h : SpellsNames csv names) : splitColumnList csv = names := by
  obtain ⟨places, hcsv, hplaces⟩ := h
  cases places with
  | nil =>
    -- No place at all is written like one that is blank.
    cases hplaces
    rw [String.toList_eq_nil_iff.mp hcsv]
    rfl
  | cons place places =>
    exact listsNames_iff.mp ⟨place :: places, hcsv, List.cons_ne_nil _ _,
      hplaces.comma_not_mem hnames, (hplaces.filter_trimChars hnames).symm⟩

/-- The names that a text is read as are those that it spells, and only names that a list can hold are
read. -/
theorem splitColumnList_eq_iff : splitColumnList csv = names ↔
    (∀ name ∈ names, IsListable name) ∧ SpellsNames csv names := by
  constructor
  · rintro rfl
    exact ⟨fun name => isListable_of_mem, spellsNames_splitColumnList csv⟩
  · rintro ⟨hnames, hspells⟩
    exact splitColumnList_of_spellsNames hnames hspells

/-- Names with commas between them and nothing else are a way to spell them. -/
theorem spellsNames_intercalate (names : List String) :
    SpellsNames (",".intercalate names) names := by
  refine ⟨names.map String.toList, ?_, ?_⟩
  · rw [String.toList_intercalate, Text.join_eq_intercalate]
    rfl
  · induction names with
    | nil => exact .nil
    | cons name names ih =>
      have hnone : ∀ c ∈ ([] : List Char), Unicode.isWhiteSpace c = true :=
        fun _ h => absurd h List.not_mem_nil
      have hplaces : HoldNames (([] ++ name.toList ++ []) :: names.map String.toList)
          (name :: names) := .name hnone hnone ih
      rwa [List.nil_append, List.append_nil] at hplaces

/-- Reading and writing lists of names undo each other. Only names that a list can hold are read, and
the text spells them; every other text that spells the same names is read as the same list. Names that
a list can hold are read back from the text that puts commas between them, in order and as often as
they occur. -/
theorem splitColumnList_spelled :
    (∀ csv, (∀ name ∈ splitColumnList csv, IsListable name) ∧
      SpellsNames csv (splitColumnList csv) ∧
      ∀ other, SpellsNames other (splitColumnList csv) →
        splitColumnList other = splitColumnList csv) ∧
    ∀ names, (∀ name ∈ names, IsListable name) →
      SpellsNames (",".intercalate names) names ∧
      splitColumnList (",".intercalate names) = names := by
  refine ⟨fun csv => ?_, fun names hnames => ?_⟩
  · obtain ⟨hnames, hspells⟩ := splitColumnList_eq_iff.mp (Eq.refl (splitColumnList csv))
    exact ⟨hnames, hspells, fun other => splitColumnList_of_spellsNames hnames⟩
  · have hspells := spellsNames_intercalate names
    exact ⟨hspells, splitColumnList_of_spellsNames hnames hspells⟩

/-- A name twice, another with a space in it, tabs and wide spaces around them, and empty places at the
start, in the middle and at the end. -/
theorem splitColumnList_spelled_twice :
    SpellsNames " ,Id\t,,\u3000Ship date ,Id," ["Id", "Ship date", "Id"] ∧
      splitColumnList " ,Id\t,,\u3000Ship date ,Id," = splitColumnList "Id,Ship date,Id" ∧
      (∀ name ∈ ["Id", "Ship date", "Id"], IsListable name) ∧
      splitColumnList (",".intercalate ["Id", "Ship date", "Id"]) = ["Id", "Ship date", "Id"] := by
  have hread : splitColumnList "Id,Ship date,Id" = ["Id", "Ship date", "Id"] := by decide
  have hspells : SpellsNames " ,Id\t,,\u3000Ship date ,Id," ["Id", "Ship date", "Id"] := by
    have hgap (gap : List Char) (h : gap.all Unicode.isWhiteSpace = true) :
        ∀ c ∈ gap, Unicode.isWhiteSpace c = true := List.all_eq_true.mp h
    refine ⟨[[' '], [] ++ "Id".toList ++ ['\t'], [], ['\u3000'] ++ "Ship date".toList ++ [' '],
      [] ++ "Id".toList ++ [], []], by decide, ?_⟩
    refine .blank (hgap _ (by decide)) (.name (hgap _ (by decide)) (hgap _ (by decide)) ?_)
    refine .blank (hgap _ (by decide)) (.name (hgap _ (by decide)) (hgap _ (by decide)) ?_)
    exact .name (hgap _ (by decide)) (hgap _ (by decide)) (.blank (hgap _ (by decide)) .nil)
  have hlistable : ∀ name ∈ ["Id", "Ship date", "Id"], IsListable name :=
    hread ▸ (splitColumnList_spelled.1 "Id,Ship date,Id").1
  exact ⟨hspells, (splitColumnList_spelled.1 "Id,Ship date,Id").2.2 _ (hread.symm ▸ hspells),
    hlistable, (splitColumnList_spelled.2 _ hlistable).2⟩

end SchemaScript
