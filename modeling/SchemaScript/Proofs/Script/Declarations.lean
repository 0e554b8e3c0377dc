import SchemaScript.Proofs.Script.Mentions
import SchemaScript.Script.Generate

/-!
# SchemaScript.Proofs.Script.Declarations

The names of constraints and indexes in a script, read off the pieces of its batches: the names in
brackets right after the words that announce one.

* `Piece.declared`, `Batch.claims`: the names read, and their name spaces.
* `Declares`: pieces that declare some names and announce no further one, put together by appending.
* `Entry.declares`, `Batch.claims_createTable`, …: what each batch declares.
-/

namespace SchemaScript

/-! ## Reading names -/

/-- Whether the piece ends in words that the name of a constraint or an index follows. -/
def Piece.announces : Piece → Bool
  | code text =>
    "CONSTRAINT ".toList.isSuffixOf text.toList || "INDEX ".toList.isSuffixOf text.toList
  | _ => false

def Piece.name? : Piece → Option String
  | name text => some text
  | _ => none

/-- The names that are announced and follow. The flag tells whether the pieces before end in an
announcement. -/
def Piece.declared : Bool → List Piece → List String
  | _, [] => []
  | announced, p :: ps => (if announced then p.name? else none).toList ++ declared p.announces ps

namespace Batch

/-- The name space of the names that a batch declares: that of a schema for constraints, that of a
table for indexes. -/
def space : Batch → String
  | createTable table _ => Unicode.trim table.schema
  | addForeignKey statement => Unicode.trim statement.table.schema
  | createIndex statement =>
    Unicode.trim statement.table.schema ++ "." ++ statement.table.name
  | _ => ""

/-- The names that a batch declares, in their name space. -/
def claims (b : Batch) : List Claim :=
  (Piece.declared false b.pieces).map fun name => ⟨b.space, name⟩

end Batch

/-! ## Pieces side by side -/

/-- After pieces that announce no name, the pieces declare some names, and they announce none that
does not stand in them. -/
structure Declares (ps : List Piece) (names : List String) : Prop where
  append_left : ∀ qs, Piece.declared false (ps ++ qs) = names ++ Piece.declared false qs

namespace Declares

theorem nil : Declares [] [] :=
  ⟨fun _ => rfl⟩

theorem declared {ps : List Piece} {names : List String} (h : Declares ps names) :
    Piece.declared false ps = names := by
  have hnil := h.append_left []
  rwa [List.append_nil, Piece.declared, List.append_nil] at hnil

theorem append {ps qs : List Piece} {names more : List String} (hp : Declares ps names)
    (hq : Declares qs more) : Declares (ps ++ qs) (names ++ more) :=
  ⟨fun rs => by rw [List.append_assoc, hp.append_left, hq.append_left, List.append_assoc]⟩

theorem append_quiet {ps qs : List Piece} {names : List String} (hp : Declares ps names)
    (hq : Declares qs []) : Declares (ps ++ qs) names :=
  List.append_nil names ▸ hp.append hq

theorem append_code {ps : List Piece} {names : List String} (hp : Declares ps names) (text : String)
    (ht : (Piece.code text).announces = false) : Declares (ps ++ [.code text]) names :=
  hp.append_quiet ⟨fun qs => by rw [List.singleton_append, Piece.declared, ht]; rfl⟩

theorem quiet_append {ps qs : List Piece} {names : List String} (hp : Declares ps [])
    (hq : Declares qs names) : Declares (ps ++ qs) names :=
  hp.append hq

theorem cons {p : Piece} {ps : List Piece} {names : List String} (hp : p.announces = false)
    (h : Declares ps names) : Declares (p :: ps) names :=
  ⟨fun qs => by rw [List.cons_append, Piece.declared, hp, h.append_left]; rfl⟩

theorem announced {text name : String} {ps : List Piece} {names : List String}
    (ht : (Piece.code text).announces = true) (h : Declares ps names) :
    Declares (.code text :: .name name :: ps) (name :: names) :=
  ⟨fun qs => by
    rw [List.cons_append, List.cons_append, Piece.declared, ht, Piece.declared,
      show (Piece.name name).announces = false from rfl, h.append_left]
    rfl⟩

theorem separated {separator : String} (hs : (Piece.code separator).announces = false) {α : Type}
    {parts : List α} {pieces : α → List Piece} {names : α → List String}
    (h : ∀ a ∈ parts, Declares (pieces a) (names a)) :
    Declares (Piece.separated separator (parts.map pieces)) (parts.flatMap names) := by
  induction parts with
  | nil => exact nil
  | cons a parts ih =>
    have ha := h a List.mem_cons_self
    have hparts := ih fun b hb => h b (List.mem_cons_of_mem _ hb)
    cases parts with
    | nil => simpa [Piece.separated] using ha
    | cons b parts => exact ha.append (cons hs hparts)

/-- Parts between separators of which none declares anything. -/
theorem separated_quiet {separator : String} (hs : (Piece.code separator).announces = false)
    {α : Type} (parts : List α) {pieces : α → List Piece} (h : ∀ a, Declares (pieces a) []) :
    Declares (Piece.separated separator (parts.map pieces)) [] := by
  have hparts : Declares (Piece.separated separator (parts.map pieces))
      (parts.flatMap fun _ => []) := separated hs fun a _ => h a
  rwa [List.flatMap_eq_nil_iff.mpr fun _ _ => rfl] at hparts

end Declares

/-! ## Entries and batches -/

/-- Words that announce a name end in a space. -/
theorem announces_code_of_last {text : String} (h : text.toList.getLast? ≠ some ' ') :
    (Piece.code text).announces = false := by
  have hnot : ∀ {word : String}, word.toList.getLast? = some ' ' →
      word.toList.isSuffixOf text.toList = false := by
    intro word hword
    rw [← Bool.not_eq_true, List.isSuffixOf_iff_suffix]
    rintro ⟨front, hfront⟩
    rw [← hfront, List.getLast?_append, hword] at h
    exact h rfl
  rw [Piece.announces, hnot rfl, hnot rfl]
  rfl

theorem announces_identityText (seed increment : Int) :
    (Piece.code (identityText seed increment)).announces = false := by
  refine announces_code_of_last ?_
  rw [toList_identityText, List.getLast?_concat]
  decide

theorem namePieces_declares (names : List String) : Declares (namePieces names) [] :=
  .separated_quiet (by decide) names fun _ => .cons rfl .nil

theorem ObjectName.declares (n : ObjectName) : Declares n.pieces [] :=
  .cons rfl (.cons (by decide) (.cons rfl .nil))

theorem ColumnEntry.declares (e : ColumnEntry) :
    Declares e.pieces ((e.default.map (·.name)).toList ++ e.unique.toList) := by
  refine .append (.quiet_append (.append_quiet (.append_quiet ?_ ?_) ?_) ?_) ?_
  · exact .cons (by decide) (.cons rfl (.cons rfl (.cons (by decide) (.cons rfl .nil))))
  · cases e.identity with
    | none => exact .nil
    | some numbers => exact .cons (announces_identityText _ _) .nil
  · cases e.isNullable <;> exact .cons (by decide) .nil
  · cases e.default with
    | none => exact .nil
    | some d =>
      refine .announced (by decide) (.cons (by decide) (.cons ?_ (.cons (by decide) .nil)))
      cases d.expression <;> rfl
  · cases e.unique with
    | none => exact .nil
    | some name => exact .announced (by decide) (.cons (by decide) .nil)

theorem Entry.declares (e : Entry) : Declares e.pieces e.names := by
  cases e with
  | column e => exact e.declares
  | primaryKey name columns =>
    refine .append_code (.append_quiet ?_ ?_) _ (by decide)
    · exact .announced (by decide) (.cons (by decide) .nil)
    · exact .separated_quiet (by decide) columns fun _ => .cons rfl (.cons (by decide) .nil)
  | check name expression =>
    exact .announced (by decide) (.cons (by decide) (.cons rfl (.cons (by decide) .nil)))
  | unique name columns =>
    refine .append_code (.append_quiet ?_ (namePieces_declares columns)) _ (by decide)
    exact .announced (by decide) (.cons (by decide) .nil)

theorem Heading.declares (h : Heading) : Declares h.pieces [] := by
  refine .append_quiet (.append_quiet (.cons rfl .nil) ?_) (.cons rfl .nil)
  cases h.description with
  | none => exact .nil
  | some d => exact .cons rfl .nil

theorem ForeignKeyStatement.declares (s : ForeignKeyStatement) : Declares s.pieces [s.name] := by
  have htable : Declares ([.code "ALTER TABLE "] ++ s.table.pieces) [] :=
    .append_quiet (.cons (by decide) .nil) s.table.declares
  have hname : Declares [.code " ADD CONSTRAINT ", .name s.name, .code "\n    FOREIGN KEY ("]
      [s.name] :=
    .announced (by decide) (.cons (by decide) .nil)
  have hcolumns := (Declares.quiet_append htable hname).append_quiet
    (namePieces_declares (s.columns.map (·.columnName)))
  have htarget := (hcolumns.append_code ") REFERENCES " (by decide)).append_quiet s.target.declares
  have hreferenced := (htarget.append_code " (" (by decide)).append_quiet
    (namePieces_declares (s.columns.map (·.refColumnName)))
  refine ((hreferenced.append_code ")" (by decide)).append_quiet ?_).append_code ";\n" (by decide)
  cases s.onDelete with
  | none => exact .nil
  | some action => exact .cons (by decide) (.cons rfl .nil)

theorem IndexStatement.declares (s : IndexStatement) : Declares s.pieces [s.name] := by
  have hname : Declares [.code (if s.isUnique then "CREATE UNIQUE INDEX " else "CREATE INDEX "),
      .name s.name, .code " ON "] [s.name] := by
    cases s.isUnique <;> exact .announced (by decide) (.cons (by decide) .nil)
  have hcolumns : Declares (Piece.separated ", " (s.columns.map fun c =>
      [.name c.columnName, .code (if c.descending then " DESC" else " ASC")])) [] :=
    .separated_quiet (by decide) s.columns fun c => by
      cases c.descending <;> exact .cons rfl (.cons (by decide) .nil)
  have hincluded : Declares (if s.included.isEmpty then []
      else [.code " INCLUDE ("] ++ namePieces s.included ++ [.code ")"]) [] := by
    split
    · exact .nil
    · exact .append_code (.append_quiet (.cons (by decide) .nil) (namePieces_declares _)) _
        (by decide)
  have htable := (hname.append_quiet s.table.declares).append_code " (" (by decide)
  exact (((htable.append_quiet hcolumns).append_code ")" (by decide)).append_quiet
    hincluded).append_code ";\n" (by decide)

namespace Batch

theorem claims_session (heading : Option Heading) : (session heading).claims = [] := by
  have h : Declares (session heading).pieces [] := by
    refine .append_quiet ?_ (.cons (by decide) (.cons (by decide) .nil))
    cases heading with
    | none => exact .nil
    | some h => exact h.declares
  rw [claims, h.declared, List.map_nil]

theorem claims_createSchema (schema : String) : (createSchema schema).claims = [] := by
  have h : Declares (createSchema schema).pieces [] :=
    .cons (by decide) (.cons rfl (.cons (by decide) (.cons rfl (.cons (by decide) .nil))))
  rw [claims, h.declared, List.map_nil]

theorem claims_dropTable (table : ObjectName) : (dropTable table).claims = [] := by
  have h : Declares (dropTable table).pieces [] :=
    .append_code (.append_quiet
      (.cons rfl (.cons (by decide) (.cons rfl (.cons (by decide) .nil)))) table.declares) _
      (by decide)
  rw [claims, h.declared, List.map_nil]

theorem claims_createTable (table : ObjectName) (entries : List Entry) :
    (createTable table entries).claims
      = (entries.flatMap Entry.names).map fun name => ⟨Unicode.trim table.schema, name⟩ := by
  have hbody : Declares (if entries.isEmpty then []
      else Piece.separated ",\n" (entries.map Entry.pieces) ++ [.code "\n"])
      (entries.flatMap Entry.names) := by
    split
    · rename_i hempty
      rw [List.isEmpty_iff.mp hempty]
      exact .nil
    · exact .append_code (.separated (by decide) fun e _ => e.declares) _ (by decide)
  have h : Declares (createTable table entries).pieces (entries.flatMap Entry.names) :=
    .append_code (.quiet_append (.append_code (.append_quiet (.cons (by decide) .nil)
      table.declares) _ (by decide)) hbody) _ (by decide)
  rw [claims, h.declared]
  rfl

theorem claims_addForeignKey (s : ForeignKeyStatement) :
    (addForeignKey s).claims = [⟨Unicode.trim s.table.schema, s.name⟩] := by
  rw [claims, pieces, s.declares.declared]
  rfl

theorem claims_createIndex (s : IndexStatement) :
    (createIndex s).claims = [⟨Unicode.trim s.table.schema ++ "." ++ s.table.name, s.name⟩] := by
  rw [claims, pieces, s.declares.declared]
  rfl

end Batch
end SchemaScript
