import SchemaScript.Proofs.Script.Mentions

/-!
# SchemaScript.Proofs.Script.Reading

A batch read by the scanner. If the texts that are taken over into it are closed, the batch ends in
code, and its names and strings are those that it mentions.

* `Batch.RawsClosed`: what is asked of the texts that are taken over.
* `Batch.placed`: the pieces of a batch fit behind one another.
* `Batch.scan_closed`: a batch with its separator, read from code.
* `scan_batches`: batches read one after the other.
-/

namespace SchemaScript

open Sql

/-! ## Placement -/

/-- The type and the default of a column are closed. -/
structure ColumnEntry.RawsClosed (e : ColumnEntry) : Prop where
  typeText : IsClosed e.typeText.toList
  default : ∀ d text, e.default = some d → d.expression = .raw text → IsClosed text.toList

/-- Every text that is taken over into an entry is closed. -/
def Entry.RawsClosed : Entry → Prop
  | column e => e.RawsClosed
  | check _ expression => IsClosed expression.toList
  | primaryKey _ _ | unique _ _ => True

/-- Every text that is taken over into a batch is closed. -/
def Batch.RawsClosed : Batch → Prop
  | createTable _ entries => ∀ e ∈ entries, e.RawsClosed
  | addForeignKey statement => ∀ action, statement.onDelete = some action → IsClosed action.toList
  | session _ | createSchema _ | dropTable _ | createIndex _ => True

theorem isTemplate_identityText (seed increment : Int) :
    isTemplate (identityText seed increment).toList = true := by
  have hclosed := (isQuiet_identityText seed increment).closed
  rw [toList_identityText] at hclosed ⊢
  rw [isTemplate, scan_concat_of_isClosed rfl rfl hclosed]
  rfl

theorem placed_namePieces (names : List String) : Placed false (namePieces names) false := by
  refine Placed.separated (by decide) fun part hpart => ?_
  obtain ⟨name, -, rfl⟩ := List.mem_map.mp hpart
  exact .name .empty

theorem ObjectName.placed (n : ObjectName) : Placed false n.pieces false :=
  .name (.code (by decide) (.name .empty))

theorem ColumnEntry.placed {e : ColumnEntry} (h : e.RawsClosed) :
    Placed false e.pieces false := by
  refine (((Placed.append ?_ ?_).append ?_).append ?_).append ?_
  · exact .code (by decide) (.name (.padding (.code (by decide) (.raw h.typeText .empty))))
  · cases e.identity with
    | none => exact .empty
    | some numbers => exact .single (isTemplate_identityText _ _)
  · cases e.isNullable <;> exact .single (by decide)
  · cases hd : e.default with
    | none => exact .empty
    | some d =>
      refine .code (by decide) (.name (.code (by decide) ?_))
      cases he : d.expression with
      | raw text => exact .raw (h.default d text hd he) (.single (by decide))
      | string value => exact .string (.single (by decide))
  · cases e.unique with
    | none => exact .empty
    | some name => exact .code (by decide) (.name (.single (by decide)))

theorem Entry.placed {e : Entry} (h : e.RawsClosed) : Placed false e.pieces false := by
  cases e with
  | column e => exact ColumnEntry.placed h
  | primaryKey name columns =>
    have hcolumns : Placed false (Piece.separated ", "
        (columns.map fun c => [.name c, .code " ASC"])) false := by
      refine Placed.separated (by decide) fun part hpart => ?_
      obtain ⟨c, -, rfl⟩ := List.mem_map.mp hpart
      exact .name (.single (by decide))
    have hhead : Placed false [.code "    CONSTRAINT ", .name name, .code " PRIMARY KEY ("] false :=
      .code (by decide) (.name (.single (by decide)))
    exact (hhead.append hcolumns).append (.single (by decide))
  | check name expression =>
    exact .code (by decide) (.name (.code (by decide) (.raw h (.single (by decide)))))
  | unique name columns =>
    have hhead : Placed false [.code "    CONSTRAINT ", .name name, .code " UNIQUE ("] false :=
      .code (by decide) (.name (.single (by decide)))
    exact (hhead.append (placed_namePieces columns)).append (.single (by decide))

theorem lineFeed_not_mem_labelled {label text : String} (hlabel : '\n' ∉ label.toList)
    (htext : '\n' ∉ text.toList) : '\n' ∉ (label ++ text).toList := by
  rw [String.toList_append, List.mem_append, not_or]
  exact ⟨hlabel, htext⟩

theorem Heading.placed (h : Heading) : Placed true h.pieces true := by
  have hproject : '\n' ∉ ("SQL generated for project: " ++ commentText h.project).toList :=
    lineFeed_not_mem_labelled (by decide) (lineFeed_not_mem_commentText _)
  have htime : '\n' ∉ ("Generated at: " ++ h.time.rfc3339).toList :=
    lineFeed_not_mem_labelled (by decide) h.time.lineFeed_not_mem_rfc3339
  refine Placed.trans (Placed.trans (.comment hproject .done) ?_) (.comment htime .done)
  cases h.description with
  | none => exact .done
  | some d =>
    exact .comment (lineFeed_not_mem_labelled (by decide) (lineFeed_not_mem_commentText d)) .done

/-- The pieces of the statement before the columns that it refers to. -/
def ForeignKeyStatement.head (s : ForeignKeyStatement) : List Piece :=
  [.code "ALTER TABLE "] ++ s.table.pieces ++ [.code " ADD CONSTRAINT ", .name s.name,
      .code "\n    FOREIGN KEY ("]
    ++ namePieces (s.columns.map (·.columnName)) ++ [.code ") REFERENCES "] ++ s.target.pieces
    ++ [.code " ("]

theorem ForeignKeyStatement.placed_head (s : ForeignKeyStatement) {b : Bool} :
    Placed false s.head b := by
  have hname : Placed false
      [.code " ADD CONSTRAINT ", .name s.name, .code "\n    FOREIGN KEY ("] false :=
    .code (by decide) (.name (.single (by decide)))
  refine Placed.append ?_ (.single (by decide))
  refine Placed.append ?_ s.target.placed
  refine Placed.append ?_ (.single (by decide))
  refine Placed.append ?_ (placed_namePieces _)
  refine Placed.append ?_ hname
  exact .code (by decide) s.table.placed.mono

theorem ForeignKeyStatement.placed {s : ForeignKeyStatement}
    (h : ∀ action, s.onDelete = some action → IsClosed action.toList) :
    Placed false s.pieces true := by
  refine Placed.append ?_ (.single (by decide))
  refine Placed.append ?_ ?_
  · refine Placed.append ?_ (.single (by decide))
    refine Placed.append ?_ (placed_namePieces _)
    exact s.placed_head
  · cases ha : s.onDelete with
    | none => exact .empty
    | some action => exact .code (by decide) (.raw (h action ha) .empty)

theorem IndexStatement.placed (s : IndexStatement) : Placed false s.pieces true := by
  have hhead : Placed false
      [.code (if s.isUnique then "CREATE UNIQUE INDEX " else "CREATE INDEX "), .name s.name,
        .code " ON "] false := by
    cases s.isUnique <;> exact .code (by decide) (.name (.single (by decide)))
  have hcolumns : Placed false (Piece.separated ", " (s.columns.map fun c =>
      [.name c.columnName, .code (if c.descending then " DESC" else " ASC")])) false := by
    refine Placed.separated (by decide) fun part hpart => ?_
    obtain ⟨c, -, rfl⟩ := List.mem_map.mp hpart
    cases c.descending <;> exact .name (.single (by decide))
  have hincluded : Placed false (if s.included.isEmpty then []
      else [.code " INCLUDE ("] ++ namePieces s.included ++ [.code ")"]) false := by
    split
    · exact .empty
    · refine Placed.append ?_ (.single (by decide))
      exact .code (by decide) (placed_namePieces _).mono
  refine Placed.append ?_ (.single (by decide))
  refine Placed.append ?_ hincluded
  refine Placed.append ?_ (.single (by decide))
  refine Placed.append ?_ hcolumns
  refine Placed.append ?_ (.single (by decide))
  exact hhead.append s.table.placed

/-- The pieces of a batch fit behind one another, and it ends in code. -/
theorem Batch.placed {b : Batch} (h : b.RawsClosed) : Placed true b.pieces true := by
  cases b with
  | session heading =>
    have hsettings : Placed true
        [.code "SET ANSI_NULLS ON;\n", .code "SET QUOTED_IDENTIFIER ON;\n"] true :=
      .code (by decide) (.single (by decide))
    cases heading with
    | none => exact hsettings
    | some heading => exact heading.placed.trans hsettings
  | createSchema schema =>
    exact .code (by decide) (.string (.code (by decide) (.string (.single (by decide)))))
  | dropTable table =>
    have hcomment : '\n' ∉ ("Table " ++ commentText table.text).toList :=
      lineFeed_not_mem_labelled (by decide) (lineFeed_not_mem_commentText _)
    refine Placed.append (.comment hcomment (.code (by decide) (.string (.code (by decide) ?_))))
      (.single (by decide))
    exact table.placed.mono
  | createTable table entries =>
    have hentries : Placed false (if entries.isEmpty then []
        else Piece.separated ",\n" (entries.map Entry.pieces) ++ [.code "\n"]) false := by
      split
      · exact .empty
      · refine Placed.append (Placed.separated (by decide) fun part hpart => ?_)
          (.single (by decide))
        obtain ⟨e, he, rfl⟩ := List.mem_map.mp hpart
        exact Entry.placed (h e he)
    refine Placed.append (Placed.append (Placed.append ?_ (.single (by decide))) hentries)
      (.single (by decide))
    exact .code (by decide) table.placed.mono
  | addForeignKey statement => exact (ForeignKeyStatement.placed h).mono
  | createIndex statement => exact statement.placed.mono

/-! ## Batches -/

/-- A batch read from code: it ends there, and its names and strings are those it mentions. -/
theorem Batch.scan_chars {b : Batch} (h : b.RawsClosed) :
    (scan .code b.chars).1 = .code ∧
      quoted (scan .code b.chars).2 = b.mentions.flatMap Mention.tokens := by
  rw [chars, (Batch.placed h).scan_all]
  refine ⟨rfl, ?_⟩
  rw [quoted_flatMap]
  exact b.quoted_pieces

/-- What a batch mentions, with its separator line. -/
def Batch.closedMentions (separator : String) (b : Batch) : List Mention :=
  b.mentions ++ [.raw (separator ++ "\n")]

/-- A batch with its separator, read from code. The second line feed is a character of code. -/
theorem Batch.scan_closed {b : Batch} (h : b.RawsClosed) {separator : String}
    (hs : IsClosed (separator.toList ++ ['\n'])) :
    (scan .code (b.closed separator)).1 = .code ∧
      quoted (scan .code (b.closed separator)).2
        = (b.closedMentions separator).flatMap Mention.tokens := by
  obtain ⟨hcode, hquoted⟩ := Batch.scan_chars h
  have hline := scan_concat_of_isClosed (d := '\n') rfl rfl hs
  have hlex : lex (separator ++ "\n").toList
      = (scan .code (separator.toList ++ ['\n'])).2 := by
    rw [String.toList_append, lex, lexFrom]
    simp [hline, ScanState.pending]
  have hchars : b.closed separator
      = b.chars ++ ((separator.toList ++ ['\n']) ++ ['\n']) := by
    simp [Batch.closed]
  have hlast : scan .code ['\n'] = (.code, [.code '\n']) := rfl
  rw [hchars, scan_append, hcode, scan_append, hline, hlast]
  refine ⟨rfl, ?_⟩
  have hfeed : quoted [Token.code '\n'] = [] := rfl
  rw [quoted_append, quoted_append, hquoted, hfeed, ← hlex, Batch.closedMentions,
    List.flatMap_append, List.flatMap_singleton, List.append_nil, Mention.tokens]

/-- By induction on the batches, each of which starts in code. -/
theorem scan_batches {separator : String} (hs : IsClosed (separator.toList ++ ['\n']))
    {bs : List Batch} (h : ∀ b ∈ bs, b.RawsClosed) :
    (scan .code (bs.flatMap (·.closed separator))).1 = .code ∧
      quoted (scan .code (bs.flatMap (·.closed separator))).2
        = (bs.flatMap (·.closedMentions separator)).flatMap Mention.tokens := by
  induction bs with
  | nil => exact ⟨rfl, rfl⟩
  | cons b bs ih =>
    obtain ⟨hcode, hquoted⟩ := Batch.scan_closed (h b (by simp)) hs
    obtain ⟨hcodes, hquoteds⟩ := ih fun other hother => h other (by simp [hother])
    rw [List.flatMap_cons, scan_append, hcode]
    refine ⟨hcodes, ?_⟩
    rw [quoted_append, hquoted, hquoteds, ← List.flatMap_append, ← List.flatMap_cons]

end SchemaScript
