import SchemaScript.Proofs.Text.Digits
import SchemaScript.Proofs.Text.Split
import SchemaScript.Snapshot.Validation

/-!
# SchemaScript.Proofs.Snapshot.Fields

The texts of a project that something is asked of, each known by where it stands. A field has a place,
the numbers on the way to it from the outside in, and a path, which is how messages name it. The fields
of a project are checked in the order of their places, and a path names one field only.

* `CheckedField`, `Project.text?`: the fields, and the text that a project has in each.
* `CheckedField.place`, `CheckedField.Before`: the order of the fields.
* `CheckedField.limit`, `CheckedField.path`: what else is known of a field.
* `Project.mem_entries_iff`, `Project.inOrder_entries`, `Project.requirements_eq`: what is asked of a
  project is asked of its fields, in order.
* `CheckedField.path_injective`: different fields have different paths.
-/

namespace SchemaScript

/-- A text that is checked: of the project, of table `t`, of its column `c`, of its foreign key `k` and
the pair `i` of columns in it, of column `i` of its index `x`, and of its constraints. -/
inductive CheckedField where
  | projectName
  | tableName (t : Nat)
  | columnName (t c : Nat)
  | columnType (t c : Nat)
  | refTable (t k : Nat)
  | pairColumn (t k i : Nat)
  | pairRefColumn (t k i : Nat)
  | indexColumn (t x i : Nat)
  | checkExpression (t c : Nat)
  | uniqueColumns (t u : Nat)
deriving DecidableEq

/-- The text of a project in a field, if it has the field. -/
def Project.text? (p : Project) : CheckedField → Option String
  | .projectName => some p.name
  | .tableName t => p.tables[t]?.map (·.name)
  | .columnName t c => do
    let table ← p.tables[t]?
    table.columns[c]?.map (·.name)
  | .columnType t c => do
    let table ← p.tables[t]?
    table.columns[c]?.map (·.dataType)
  | .refTable t k => do
    let table ← p.tables[t]?
    table.foreignKeys[k]?.map (·.refTable)
  | .pairColumn t k i => do
    let table ← p.tables[t]?
    let key ← table.foreignKeys[k]?
    key.columns[i]?.map (·.columnName)
  | .pairRefColumn t k i => do
    let table ← p.tables[t]?
    let key ← table.foreignKeys[k]?
    key.columns[i]?.map (·.refColumnName)
  | .indexColumn t x i => do
    let table ← p.tables[t]?
    let index ← table.indexes[x]?
    index.columns[i]?.map (·.columnName)
  | .checkExpression t c => do
    let table ← p.tables[t]?
    table.checkConstraints[c]?.map (·.expression)
  | .uniqueColumns t u => do
    let table ← p.tables[t]?
    table.uniqueConstraints[u]?.map (·.columnsCsv)

/-- The lists that lead to a text with the positions in them, and the name of the member. -/
structure Route where
  steps : List (String × Nat)
  member : String

/-- The route as text: `tables[1].columns[0].name`. -/
def Route.text (r : Route) : String :=
  r.steps.foldr (fun step rest => step.1 ++ "[" ++ Text.decimalText step.2 ++ "]." ++ rest) r.member

namespace CheckedField

/-- Where a field stands: the numbers of the parts and elements that it is in, from the outside in. -/
def place : CheckedField → List Nat
  | projectName => [0]
  | tableName t => [1, t, 0]
  | columnName t c => [1, t, 1, c, 0]
  | columnType t c => [1, t, 1, c, 1]
  | refTable t k => [1, t, 2, k, 0]
  | pairColumn t k i => [1, t, 2, k, 1, i, 0]
  | pairRefColumn t k i => [1, t, 2, k, 1, i, 1]
  | indexColumn t x i => [1, t, 3, x, i]
  | checkExpression t c => [1, t, 4, c]
  | uniqueColumns t u => [1, t, 5, u]

/-- A field stands before another if its place comes first, number by number. -/
def Before (f g : CheckedField) : Prop :=
  List.Lex (· < ·) f.place g.place

/-- The most characters that a name or a data type may have. -/
def limit : CheckedField → Option Nat
  | projectName => some 200
  | tableName _ => some 200
  | columnName _ _ => some 200
  | columnType _ _ => some 128
  | _ => none

def route : CheckedField → Route
  | projectName => ⟨[], "name"⟩
  | tableName t => ⟨[("tables", t)], "name"⟩
  | columnName t c => ⟨[("tables", t), ("columns", c)], "name"⟩
  | columnType t c => ⟨[("tables", t), ("columns", c)], "dataType"⟩
  | refTable t k => ⟨[("tables", t), ("foreignKeys", k)], "refTable"⟩
  | pairColumn t k i => ⟨[("tables", t), ("foreignKeys", k), ("columns", i)], "columnName"⟩
  | pairRefColumn t k i => ⟨[("tables", t), ("foreignKeys", k), ("columns", i)], "refColumnName"⟩
  | indexColumn t x i => ⟨[("tables", t), ("indexes", x), ("columns", i)], "columnName"⟩
  | checkExpression t c => ⟨[("tables", t), ("checkConstraints", c)], "expression"⟩
  | uniqueColumns t u => ⟨[("tables", t), ("uniqueConstraints", u)], "columnsCsv"⟩

/-- How messages name the field. -/
def path (f : CheckedField) : String :=
  f.route.text

/-- What is asked of a text in the field. -/
def requirement (f : CheckedField) (text : String) : Requirement :=
  ⟨f.path, text, f.limit⟩

end CheckedField

/-! ## The fields of a project -/

/-- Fields with their texts. -/
abbrev Entries : Type := List (CheckedField × String)

/-- The fields of the elements of a list, each of which knows its position. -/
def eachField {α : Type} (items : List α) (fields : Nat → α → Entries) : Entries :=
  items.zipIdx.flatMap fun (a, i) => fields i a

/-- The fields of column `c` of table `t`. -/
def Column.entries (t c : Nat) (column : Column) : Entries :=
  [(.columnName t c, column.name), (.columnType t c, column.dataType)]

def ForeignKey.entries (t k : Nat) (key : ForeignKey) : Entries :=
  [[(.refTable t k, key.refTable)],
    eachField key.columns fun i c =>
      [(.pairColumn t k i, c.columnName), (.pairRefColumn t k i, c.refColumnName)]].flatten

def Index.entries (t x : Nat) (index : Index) : Entries :=
  eachField index.columns fun i c => [(.indexColumn t x i, c.columnName)]

/-- The fields of table `t`, part by part. -/
def Table.entries (t : Nat) (table : Table) : Entries :=
  [[(.tableName t, table.name)],
    eachField table.columns (Column.entries t),
    eachField table.foreignKeys (ForeignKey.entries t),
    eachField table.indexes (Index.entries t),
    eachField table.checkConstraints fun c check => [(.checkExpression t c, check.expression)],
    eachField table.uniqueConstraints fun u unique => [(.uniqueColumns t u, unique.columnsCsv)]].flatten

/-- The fields of a project with their texts. -/
def Project.entries (p : Project) : Entries :=
  [[(.projectName, p.name)], eachField p.tables Table.entries].flatten

theorem mem_eachField {α : Type} {items : List α} {fields : Nat → α → Entries}
    {e : CheckedField × String} :
    e ∈ eachField items fields ↔ ∃ i a, items[i]? = some a ∧ e ∈ fields i a := by
  rw [eachField, List.mem_flatMap]
  constructor
  · rintro ⟨⟨a, i⟩, hmem, he⟩
    exact ⟨i, a, List.mem_zipIdx_iff_getElem?.mp hmem, he⟩
  · rintro ⟨i, a, ha, he⟩
    exact ⟨(a, i), List.mem_zipIdx_iff_getElem?.mpr ha, he⟩

/-- The fields listed are those in which the project has a text. -/
theorem Project.mem_entries_iff {p : Project} {f : CheckedField} {text : String} :
    (f, text) ∈ p.entries ↔ p.text? f = some text := by
  cases f <;> simp [entries, Table.entries, Column.entries, ForeignKey.entries, Index.entries, text?,
    mem_eachField, Option.bind_eq_some_iff]
  all_goals grind

/-! ## Their order -/

/-- Places below a common one are in the order of the numbers that follow it. -/
theorem lex_of_prefix {front x y : List Nat} {i j : Nat} (hij : i < j)
    (hx : front ++ [i] <+: x) (hy : front ++ [j] <+: y) : List.Lex (· < ·) x y := by
  obtain ⟨xs, rfl⟩ := hx
  obtain ⟨ys, rfl⟩ := hy
  rw [List.append_assoc, List.append_assoc, List.singleton_append, List.singleton_append]
  induction front with
  | nil => exact .rel hij
  | cons n front ih => exact .cons ih

/-- Fields in the order of their places, all of them below one place. -/
structure InOrderBelow (front : List Nat) (es : Entries) : Prop where
  below : ∀ e ∈ es, front <+: e.1.place
  inOrder : es.Pairwise fun e e' => e.1.Before e'.1

namespace InOrderBelow

variable {front : List Nat}

theorem single {f : CheckedField} {text : String} (hf : front <+: f.place) :
    InOrderBelow front [(f, text)] := by
  refine ⟨fun e he => ?_, List.pairwise_singleton _ _⟩
  rw [List.mem_singleton.mp he]
  exact hf

/-- Listings that stand below consecutive positions. -/
theorem flatMap_zipIdx {α : Type} {items : List α} {fields : α × Nat → Entries}
    (h : ∀ e ∈ items.zipIdx, InOrderBelow (front ++ [e.2]) (fields e)) :
    InOrderBelow front (items.zipIdx.flatMap fields) := by
  constructor
  · intro f hf
    obtain ⟨e, he, hfe⟩ := List.mem_flatMap.mp hf
    exact (List.prefix_append _ _).trans ((h e he).below f hfe)
  · rw [List.pairwise_flatMap]
    refine ⟨fun e he => (h e he).inOrder, ?_⟩
    rw [List.pairwise_iff_getElem]
    intro i j hi hj hij f hf g hg
    have hbefore := (h _ (List.getElem_mem hi)).below f hf
    have hbehind := (h _ (List.getElem_mem hj)).below g hg
    rw [List.getElem_zipIdx] at hbefore hbehind
    exact lex_of_prefix (by omega) hbefore hbehind

theorem each {α : Type} {items : List α} {fields : Nat → α → Entries}
    (h : ∀ i a, InOrderBelow (front ++ [i]) (fields i a)) :
    InOrderBelow front (eachField items fields) :=
  flatMap_zipIdx fun e _ => h e.2 e.1

/-- The parts of a listing, each below its own position. -/
theorem parts {parts : List Entries}
    (h : ∀ e ∈ parts.zipIdx, InOrderBelow (front ++ [e.2]) e.1) :
    InOrderBelow front parts.flatten := by
  have hparts : parts.zipIdx.flatMap Prod.fst = parts.flatten := by
    rw [List.flatMap_def, List.zipIdx_map_fst]
  rw [← hparts]
  exact flatMap_zipIdx h

theorem pair {f g : CheckedField} {text text' : String} (hf : front ++ [0] <+: f.place)
    (hg : front ++ [1] <+: g.place) : InOrderBelow front [(f, text), (g, text')] := by
  have hparts : InOrderBelow front [[(f, text)], [(g, text')]].flatten := by
    refine .parts ?_
    simp only [List.zipIdx_cons, List.zipIdx_nil, List.forall_mem_cons]
    exact ⟨.single hf, .single hg, nofun⟩
  exact hparts

end InOrderBelow

theorem ForeignKey.inOrderBelow_entries (t k : Nat) (key : ForeignKey) :
    InOrderBelow [1, t, 2, k] (key.entries t k) := by
  refine .parts ?_
  simp only [List.zipIdx_cons, List.zipIdx_nil, List.forall_mem_cons]
  refine ⟨.single (List.prefix_refl _), ?_, nofun⟩
  exact .each fun _ _ => .pair (List.prefix_refl _) (List.prefix_refl _)

theorem Table.inOrderBelow_entries (t : Nat) (table : Table) :
    InOrderBelow [1, t] (table.entries t) := by
  refine .parts ?_
  simp only [List.zipIdx_cons, List.zipIdx_nil, List.forall_mem_cons]
  refine ⟨?_, ?_, ?_, ?_, ?_, ?_, nofun⟩
  · exact .single (List.prefix_refl _)
  · exact .each fun _ _ => .pair (List.prefix_refl _) (List.prefix_refl _)
  · exact .each fun k key => key.inOrderBelow_entries t k
  · exact .each fun _ _ => .each fun _ _ => .single (List.prefix_refl _)
  · exact .each fun _ _ => .single (List.prefix_refl _)
  · exact .each fun _ _ => .single (List.prefix_refl _)

/-- The fields of a project are listed in the order of their places. -/
theorem Project.inOrder_entries (p : Project) :
    p.entries.Pairwise fun e e' => e.1.Before e'.1 := by
  have hparts : InOrderBelow [] p.entries := by
    refine .parts ?_
    simp only [List.zipIdx_cons, List.zipIdx_nil, List.forall_mem_cons]
    exact ⟨.single (List.prefix_refl _), .each fun t table => table.inOrderBelow_entries t, nofun⟩
  exact hparts.inOrder

/-! ## What is asked of them -/

/-- What is asked of fields. -/
def asked (es : Entries) : List Requirement :=
  es.map fun e => e.1.requirement e.2

theorem asked_cons (e : CheckedField × String) (es : Entries) :
    asked (e :: es) = e.1.requirement e.2 :: asked es :=
  rfl

theorem asked_append (es es' : Entries) : asked (es ++ es') = asked es ++ asked es' :=
  List.map_append

theorem Route.append_text (base : String) (steps : List (String × Nat)) (member : String) :
    base ++ (⟨steps, member⟩ : Route).text
      = steps.foldl (fun base step => elementPath base step.1 step.2) base ++ member := by
  induction steps generalizing base with
  | nil => rfl
  | cons step steps ih =>
    rw [List.foldl_cons, ← ih, elementPath]
    simp only [Route.text, List.foldr_cons, String.append_assoc]

/-- The path of a field is put together from the outside in. -/
theorem CheckedField.requirement_eq (f : CheckedField) (text : String) :
    f.requirement text = ⟨f.route.steps.foldl (fun base step => elementPath base step.1 step.2) ""
      ++ f.route.member, text, f.limit⟩ := by
  rw [requirement, path, ← Route.append_text, String.empty_append]

/-- What is asked of the elements of a list, if it is known of each. -/
theorem eachRequirement_eq {α : Type} {base list : String} {items : List α}
    {ask : String → α → List Requirement} {fields : Nat → α → Entries}
    (h : ∀ i a, ask (elementPath base list i) a = asked (fields i a)) :
    eachRequirement base list items ask = asked (eachField items fields) := by
  rw [eachRequirement, asked, eachField, List.map_flatMap]
  exact congrArg (items.zipIdx.flatMap ·) (funext fun e => h e.2 e.1)

theorem Column.requirements_eq (t c : Nat) (column : Column) :
    column.requirements (elementPath (elementPath "" "tables" t) "columns" c)
      = asked (column.entries t c) := by
  simp only [entries, asked, List.map_cons, List.map_nil, CheckedField.requirement_eq]
  rfl

theorem ForeignKey.requirements_eq (t k : Nat) (key : ForeignKey) :
    key.requirements (elementPath (elementPath "" "tables" t) "foreignKeys" k)
      = asked (key.entries t k) := by
  rw [requirements, entries, List.flatten_cons, List.flatten_singleton, List.singleton_append,
    asked_cons, CheckedField.requirement_eq]
  refine List.cons_eq_cons.mpr ⟨rfl, eachRequirement_eq fun i c => ?_⟩
  simp only [asked, List.map_cons, List.map_nil, CheckedField.requirement_eq]
  rfl

theorem Index.requirements_eq (t x : Nat) (index : Index) :
    index.requirements (elementPath (elementPath "" "tables" t) "indexes" x)
      = asked (index.entries t x) := by
  refine eachRequirement_eq fun i c => ?_
  simp only [asked, List.map_cons, List.map_nil, CheckedField.requirement_eq]
  rfl

theorem Table.requirements_eq (t : Nat) (table : Table) :
    table.requirements (elementPath "" "tables" t) = asked (table.entries t) := by
  have hchecks : eachRequirement (elementPath "" "tables" t) "checkConstraints"
      table.checkConstraints (fun path c => [⟨path ++ "expression", c.expression, none⟩])
        = asked (eachField table.checkConstraints fun c check =>
          [(.checkExpression t c, check.expression)]) := by
    refine eachRequirement_eq fun c check => ?_
    simp only [asked, List.map_cons, List.map_nil, CheckedField.requirement_eq]
    rfl
  have huniques : eachRequirement (elementPath "" "tables" t) "uniqueConstraints"
      table.uniqueConstraints (fun path u => [⟨path ++ "columnsCsv", u.columnsCsv, none⟩])
        = asked (eachField table.uniqueConstraints fun u unique =>
          [(.uniqueColumns t u, unique.columnsCsv)]) := by
    refine eachRequirement_eq fun u unique => ?_
    simp only [asked, List.map_cons, List.map_nil, CheckedField.requirement_eq]
    rfl
  rw [requirements, entries, hchecks, huniques, eachRequirement_eq (Column.requirements_eq t),
    eachRequirement_eq (ForeignKey.requirements_eq t), eachRequirement_eq (Index.requirements_eq t)]
  simp only [List.flatten_cons, List.flatten_nil, List.append_nil, asked_cons, asked_append,
    CheckedField.requirement_eq, List.cons_append, List.append_assoc]
  rfl

/-- What is asked of a project is asked of its fields, in the order of their places. -/
theorem Project.requirements_eq (p : Project) : p.requirements = asked p.entries := by
  rw [requirements, entries, List.flatten_cons, List.flatten_singleton, List.singleton_append,
    asked_cons, CheckedField.requirement_eq, eachRequirement_eq Table.requirements_eq]
  rfl

/-! ## Paths -/

/-- No name in the route has a bracket. -/
structure Route.IsPlain (r : Route) : Prop where
  steps : ∀ step ∈ r.steps, '[' ∉ step.1.toList
  member : '[' ∉ r.member.toList

theorem Route.toList_text_cons (step : String × Nat) (steps : List (String × Nat))
    (member : String) :
    (⟨step :: steps, member⟩ : Route).text.toList
      = step.1.toList ++ '[' :: (Text.decimal step.2 ++ ']' :: '.'
        :: (⟨steps, member⟩ : Route).text.toList) := by
  have hopen : "[".toList = ['['] := rfl
  have hclose : "].".toList = [']', '.'] := rfl
  simp [Route.text, hopen, hclose, Text.decimalText]

theorem not_mem_decimal {c : Char} (hc : c.isDigit = false) (n : Nat) : c ∉ Text.decimal n := by
  intro h
  rw [Text.isDigit_of_mem_decimal h] at hc
  cases hc

/-- The path of a plain route tells the route. What stands before the first bracket is the name of a
list, the digits behind it are a position in it, and behind the point comes the path that is left. -/
theorem Route.eq_of_text_eq {steps steps' : List (String × Nat)} {member member' : String}
    (hr : (⟨steps, member⟩ : Route).IsPlain) (hr' : (⟨steps', member'⟩ : Route).IsPlain)
    (h : (⟨steps, member⟩ : Route).text.toList = (⟨steps', member'⟩ : Route).text.toList) :
    (⟨steps, member⟩ : Route) = ⟨steps', member'⟩ := by
  induction steps generalizing steps' with
  | nil =>
    cases steps' with
    | nil =>
      have hmember : member = member' := String.toList_inj.mp h
      rw [hmember]
    | cons step' steps' =>
      rw [toList_text_cons] at h
      have hmember : member.toList = _ := h
      exact absurd (hmember ▸ by simp) hr.member
  | cons step steps ih =>
    cases steps' with
    | nil =>
      rw [toList_text_cons] at h
      have hmember : _ = member'.toList := h
      exact absurd (hmember ▸ by simp) hr'.member
    | cons step' steps' =>
      obtain ⟨hstep, hsteps⟩ := List.forall_mem_cons.mp hr.steps
      obtain ⟨hstep', hsteps'⟩ := List.forall_mem_cons.mp hr'.steps
      rw [toList_text_cons, toList_text_cons] at h
      obtain ⟨hname, hrest⟩ := Text.append_cons_inj_of_not_mem hstep hstep' h
      obtain ⟨hposition, hrest⟩ := Text.append_cons_inj_of_not_mem
        (not_mem_decimal (by decide) _) (not_mem_decimal (by decide) _) hrest
      have hsame : step = step' :=
        Prod.ext (String.toList_inj.mp hname) (Text.decimal_injective hposition)
      have hroute := ih ⟨hsteps, hr.member⟩ ⟨hsteps', hr'.member⟩ (List.cons.inj hrest).2
      rw [Route.mk.injEq] at hroute ⊢
      exact ⟨by rw [hsame, hroute.1], hroute.2⟩

theorem CheckedField.isPlain_route (f : CheckedField) : f.route.IsPlain := by
  cases f <;> exact ⟨by simp [route], by simp only [route]; decide⟩

theorem CheckedField.route_injective {f g : CheckedField} (h : f.route = g.route) : f = g := by
  cases f <;> cases g <;> simp_all [route]

/-- Different fields have different paths. -/
theorem CheckedField.path_injective {f g : CheckedField} (h : f.path = g.path) : f = g :=
  route_injective (Route.eq_of_text_eq f.isPlain_route g.isPlain_route (congrArg String.toList h))

end SchemaScript
