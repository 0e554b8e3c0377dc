import SchemaScript.Proofs.Script.Guards

/-!
# SchemaScript.Proofs.Script.Comments

Texts of a project in the comments of its script. Whatever they are, a comment takes up one line, and
the statement that it stands above begins on the next.

* `Text.lines`: the lines of a text.
* `ScriptOptions.topComments`: the comments at the top of a script.
* `lines_session`, `lines_dropTable`: the lines of the batches that have comments.
* `lex_session`, `lex_dropTable`: the scanner finds no other comments in them.
* `generate_comments`: the comments of a script.
-/

namespace SchemaScript

open Sql

/-! ## Lines -/

def Text.isLineFeed (c : Char) : Bool :=
  c == '\n'

/-- The lines of a text. The last one is what stands behind the last line feed. -/
def Text.lines (cs : List Char) : List (List Char) :=
  split isLineFeed cs

theorem Text.not_isLineFeed {c : Char} {cs : List Char} (h : '\n' ∉ cs) (hc : c ∈ cs) :
    isLineFeed c = false := by
  rw [isLineFeed, beq_eq_false_iff_ne]
  rintro rfl
  exact h hc

theorem Text.lines_line {line : List Char} (h : '\n' ∉ line) (rest : List Char) :
    lines (line ++ '\n' :: rest) = line :: lines rest := by
  rw [lines, split_append_separator rfl, split_of_no_separator fun c => not_isLineFeed h]
  rfl

/-- A word at the front of a text stands on its first line. -/
theorem Text.lines_word {word : List Char} (h : '\n' ∉ word) (rest : List Char) :
    ∃ line more, lines (word ++ rest) = (word ++ line) :: more := by
  induction word with
  | nil => exact List.exists_cons_of_ne_nil (split_ne_nil isLineFeed rest)
  | cons c word ih =>
    obtain ⟨line, more, hword⟩ := ih fun hmem => h (List.mem_cons_of_mem _ hmem)
    obtain ⟨first, others, hsplit, hlines⟩ :=
      split_cons_of_not_separator (not_isLineFeed h List.mem_cons_self) (word ++ rest)
    rw [lines, hsplit] at hword
    obtain ⟨rfl, rfl⟩ := List.cons.inj hword
    exact ⟨line, others, hlines⟩

/-- Every comment is a line of its own. -/
theorem lines_comments {texts : List String} (h : ∀ text ∈ texts, '\n' ∉ text.toList)
    (rest : List Char) :
    Text.lines (Piece.all (texts.map .comment) ++ rest)
      = texts.map (fun text => ("-- " ++ text).toList) ++ Text.lines rest := by
  induction texts with
  | nil => rfl
  | cons text texts ih =>
    have hline : '\n' ∉ ("-- " ++ text).toList :=
      lineFeed_not_mem_labelled (by decide) (h text List.mem_cons_self)
    have hall : Piece.all ((text :: texts).map .comment) ++ rest
        = ("-- " ++ text).toList ++ '\n' :: (Piece.all (texts.map .comment) ++ rest) := by
      simp [Piece.all, Piece.chars]
    rw [hall, Text.lines_line hline, ih fun t ht => h t (List.mem_cons_of_mem _ ht)]
    rfl

theorem tokens_comment (text : String) :
    (Piece.comment text).tokens = [.comment (" " ++ text)] := by
  have hspace : String.ofList (' ' :: text.toList) = " " ++ text := by
    rw [← String.toList_inj, String.toList_ofList, String.toList_append]
    rfl
  rw [Piece.tokens, hspace]

/-! ## The top of a script -/

/-- The comments at the top of a script: the project, its description unless it is blank, and the
time. -/
def ScriptOptions.topComments (o : ScriptOptions) (p : Project) (time : Instant) : List String :=
  if o.includeHeader then
    ("SQL generated for project: " ++ commentText p.name)
      :: ((p.description.filter fun d => !Unicode.isBlank d).map
        fun d => "Description: " ++ commentText d).toList
      ++ ["Generated at: " ++ time.rfc3339]
  else []

variable {o : ScriptOptions} {p : Project} {time : Instant}

theorem length_topComments :
    (o.topComments p time).length
      = if o.includeHeader then
          if p.description.any fun d => !Unicode.isBlank d then 3 else 2
        else 0 := by
  rw [ScriptOptions.topComments]
  split
  · cases p.description with
    | none => rfl
    | some d => cases hd : Unicode.isBlank d <;> simp [hd]
  · rfl

theorem lineFeed_not_mem_topComments :
    ∀ text ∈ o.topComments p time, '\n' ∉ text.toList := by
  intro text htext
  rw [ScriptOptions.topComments] at htext
  split at htext
  · simp only [List.cons_append, List.mem_cons, List.mem_append, Option.mem_toList,
      Option.map_eq_some_iff, List.not_mem_nil, or_false] at htext
    rcases htext with rfl | ⟨d, -, rfl⟩ | rfl
    · exact lineFeed_not_mem_labelled (by decide) (lineFeed_not_mem_commentText _)
    · exact lineFeed_not_mem_labelled (by decide) (lineFeed_not_mem_commentText d)
    · exact lineFeed_not_mem_labelled (by decide) time.lineFeed_not_mem_rfc3339
  · cases htext

theorem pieces_session :
    (Batch.session (heading o p time)).pieces
      = (o.topComments p time).map .comment
        ++ [.code "SET ANSI_NULLS ON;\n", .code "SET QUOTED_IDENTIFIER ON;\n"] := by
  rw [Batch.pieces, heading, ScriptOptions.topComments]
  split
  · simp only [Option.map_some, Option.getD_some, Heading.pieces]
    cases p.description.filter fun d => !Unicode.isBlank d <;> rfl
  · rfl

/-- The settings follow the comments, whatever comes behind them. -/
theorem lines_session (rest : List Char) :
    ∃ more, Text.lines ((Batch.session (heading o p time)).chars ++ rest)
      = (o.topComments p time).map (fun text => ("-- " ++ text).toList)
        ++ "SET ANSI_NULLS ON;".toList :: "SET QUOTED_IDENTIFIER ON;".toList :: more := by
  have hsettings : Piece.all [.code "SET ANSI_NULLS ON;\n", .code "SET QUOTED_IDENTIFIER ON;\n"]
        ++ rest
      = "SET ANSI_NULLS ON;".toList ++ '\n' :: ("SET QUOTED_IDENTIFIER ON;".toList ++ '\n' :: rest) :=
    rfl
  rw [Batch.chars, pieces_session, Piece.all_append, List.append_assoc,
    lines_comments lineFeed_not_mem_topComments, hsettings, Text.lines_line (by decide),
    Text.lines_line (by decide)]
  exact ⟨_, rfl⟩

theorem lex_session :
    lex (Batch.session (heading o p time)).chars
      = (o.topComments p time).map (fun text => .comment (" " ++ text))
        ++ "SET ANSI_NULLS ON;\nSET QUOTED_IDENTIFIER ON;\n".toList.map .code := by
  have hplaced : Placed true (Batch.session (heading o p time)).pieces true := Batch.placed trivial
  have hcomments : ((o.topComments p time).map Piece.comment).flatMap Piece.tokens
      = (o.topComments p time).map fun text => .comment (" " ++ text) := by
    simp only [List.flatMap_map, tokens_comment]
    exact List.map_eq_flatMap.symm
  rw [Batch.chars, hplaced.lex_all, pieces_session, List.flatMap_append, hcomments]
  rfl

/-! ## The drop of a table -/

def Sql.Token.isComment : Token → Bool
  | comment _ => true
  | _ => false

/-- The statement that drops a table if there is one. -/
def ObjectName.dropPieces (n : ObjectName) : List Piece :=
  [.code "IF OBJECT_ID(N", .string n.text, .code ", N'U') IS NOT NULL DROP TABLE "]
    ++ n.pieces ++ [.code ";\n"]

theorem chars_dropTable (n : ObjectName) :
    (Batch.dropTable n).chars
      = ("-- Table " ++ commentText n.text).toList ++ '\n' :: Piece.all n.dropPieces := by
  simp [Batch.chars, Batch.pieces, ObjectName.dropPieces, Piece.all, Piece.chars]

/-- The condition begins on the line behind the comment. -/
theorem lines_dropTable (n : ObjectName) (rest : List Char) :
    ∃ statement more, Text.lines ((Batch.dropTable n).chars ++ rest)
      = ("-- Table " ++ commentText n.text).toList
        :: ("IF OBJECT_ID(".toList ++ statement) :: more := by
  have hline : '\n' ∉ ("-- Table " ++ commentText n.text).toList :=
    lineFeed_not_mem_labelled (by decide) (lineFeed_not_mem_commentText _)
  have hnoBreak : '\n' ∉ "IF OBJECT_ID(".toList := by decide
  have hword : Piece.all n.dropPieces ++ rest
      = "IF OBJECT_ID(".toList ++ ('N' :: Piece.all n.dropPieces.tail ++ rest) :=
    rfl
  obtain ⟨statement, more, hlines⟩ :=
    Text.lines_word hnoBreak ('N' :: Piece.all n.dropPieces.tail ++ rest)
  rw [chars_dropTable, List.append_assoc, List.cons_append, Text.lines_line hline, hword, hlines]
  exact ⟨statement, more, rfl⟩

/-- Behind the comment the names of the table are read as a string and as names. -/
theorem lex_dropTable (n : ObjectName) :
    ∃ statement, lex (Batch.dropTable n).chars
        = .comment (" Table " ++ commentText n.text) :: statement ∧
      ∀ token ∈ statement, token.isComment = false := by
  have hplaced : Placed true (Batch.dropTable n).pieces true := Batch.placed trivial
  have hpieces : (Batch.dropTable n).pieces
      = .comment ("Table " ++ commentText n.text) :: n.dropPieces :=
    rfl
  refine ⟨n.dropPieces.flatMap Piece.tokens, ?_, fun token htoken => ?_⟩
  · rw [Batch.chars, hplaced.lex_all, hpieces, List.flatMap_cons, tokens_comment,
      ← String.append_assoc]
    rfl
  · obtain ⟨p, hp, hmem⟩ := List.mem_flatMap.mp htoken
    have hcode : ∀ text ∈ ["IF OBJECT_ID(N", ", N'U') IS NOT NULL DROP TABLE ", ".", ";\n"],
        ∀ token ∈ (Piece.code text).tokens, token.isComment = false := by
      decide +kernel
    simp only [ObjectName.dropPieces, ObjectName.pieces, List.mem_append, List.mem_cons,
      List.not_mem_nil, or_false] at hp
    rcases hp with ((rfl | rfl | rfl) | rfl | rfl | rfl) | rfl
    · exact hcode _ (by simp) token hmem
    · cases List.mem_singleton.mp hmem
      rfl
    · exact hcode _ (by simp) token hmem
    · cases List.mem_singleton.mp hmem
      rfl
    · exact hcode _ (by simp) token hmem
    · cases List.mem_singleton.mp hmem
      rfl
    · exact hcode _ (by simp) token hmem

/-! ## Scripts -/

theorem scriptTexts_eq_cons (o : ScriptOptions) (p : Project) (time : Instant)
    (issued : List IssuedKey) :
    ∃ tail, o.scriptTexts p time issued = o.headerText p time :: tail ∧
      ∀ t ∈ p.tables, o.dropText t ∈ tail := by
  refine ⟨(missingSchemas o [] p.tables).map o.schemaText
    ++ p.tables.flatMap (fun t => [o.dropText t, o.createText t])
    ++ issued.map (fun k => o.foreignKeyText k.table k.key k.name)
    ++ p.writtenIndexes.map fun index => o.indexText index.1 index.2, rfl, fun t ht => ?_⟩
  have hdrop : o.dropText t ∈ p.tables.flatMap fun t => [o.dropText t, o.createText t] :=
    List.mem_flatMap.mpr ⟨t, ht, List.mem_cons_self⟩
  exact List.mem_append_left _ (List.mem_append_left _ (List.mem_append_right _ hdrop))

/-- The text of every batch but the first begins on a line of its own. -/
theorem exists_front_of_mem {issued : List IssuedKey} {text : List Char} {tail : List (List Char)}
    (htexts : o.scriptTexts p time issued = o.headerText p time :: tail) (htext : text ∈ tail) :
    ∃ front back, (o.scriptTexts p time issued).flatten = front ++ '\n' :: text ++ back := by
  obtain ⟨before, after, rfl⟩ := List.append_of_mem htext
  obtain ⟨init, last, hbefore⟩ :=
    (List.eq_nil_or_concat (o.headerText p time :: before)).resolve_left (List.cons_ne_nil _ _)
  have hsplit : o.scriptTexts p time issued = init ++ last :: text :: after := by
    rw [htexts, ← List.cons_append, hbefore, List.concat_eq_append]
    simp
  obtain ⟨body, rfl⟩ := scriptTexts_end o p time issued
    (hsplit ▸ List.mem_append_right init List.mem_cons_self)
  refine ⟨init.flatten ++ body ++ o.batchSeparator.toList ++ ['\n'], after.flatten, ?_⟩
  rw [hsplit]
  simp

variable {words : WordSource} {g : Generated}

theorem exists_scriptTexts (h : generate o p time words = some g) :
    ∃ issued, g.script.toList
      = (o.scriptTexts (p.resolveSchemas o.defaultSchema) time issued).flatten := by
  obtain ⟨issued, -, hbatches, hscript⟩ := generate_batches h
  refine ⟨issued, ?_⟩
  rw [hscript, hbatches, toList_renderScript]

/-- The script begins with the comments at its top, each on one line, and the settings on the next
two; there are three comments, two if the description is blank, and none if they are not wanted. The
batch that drops a table begins on a line of its own with one comment, and the condition is on the next
line. The scanner finds no other comments in these batches. A text in a comment has no control
characters, and neither starts nor ends with white space; a text of which this is true is left as it
is, so that folding twice is folding once. -/
theorem generate_comments (h : generate o p time words = some g) :
    (∃ more, Text.lines g.script.toList
      = (o.topComments p time).map (fun text => ("-- " ++ text).toList)
        ++ "SET ANSI_NULLS ON;".toList :: "SET QUOTED_IDENTIFIER ON;".toList :: more) ∧
    (o.topComments p time).length
      = (if o.includeHeader then
          if p.description.any fun d => !Unicode.isBlank d then 3 else 2
        else 0) ∧
    lex (Batch.session (heading o p time)).chars
      = (o.topComments p time).map (fun text => .comment (" " ++ text))
        ++ "SET ANSI_NULLS ON;\nSET QUOTED_IDENTIFIER ON;\n".toList.map .code ∧
    (∀ t ∈ (p.resolveSchemas o.defaultSchema).tables,
      (∃ front back, g.script.toList = front ++ '\n' :: o.dropText t ++ back) ∧
      (∃ statement more, Text.lines (o.dropText t)
        = ("-- Table " ++ commentText (o.tableName t).text).toList
          :: ("IF OBJECT_ID(".toList ++ statement) :: more) ∧
      ∃ statement, lex (Batch.dropTable (o.tableName t)).chars
          = .comment (" Table " ++ commentText (o.tableName t).text) :: statement ∧
        ∀ token ∈ statement, token.isComment = false) ∧
    ∀ text, IsFolded (commentText text).toList ∧
      commentText (commentText text) = commentText text ∧
      (commentText text = text ↔ IsFolded text.toList) := by
  obtain ⟨issued, htext⟩ := exists_scriptTexts h
  obtain ⟨tail, htexts, hdrops⟩ :=
    scriptTexts_eq_cons o (p.resolveSchemas o.defaultSchema) time issued
  refine ⟨?_, length_topComments, lex_session, fun t ht => ⟨?_, ?_, lex_dropTable _⟩,
    fun text => ⟨isFolded_commentText text, ?_, commentText_eq_self_iff⟩⟩
  · rw [htext, htexts, List.flatten_cons, ScriptOptions.headerText, Batch.closed, List.append_assoc,
      List.append_assoc]
    exact lines_session _
  · rw [htext]
    exact exists_front_of_mem htexts (hdrops t ht)
  · rw [ScriptOptions.dropText, Batch.closed, List.append_assoc]
    exact lines_dropTable _ _
  · exact commentText_eq_self_iff.mpr (isFolded_commentText text)

theorem generate_comments_awkwardProject :
    ∃ g more, generate .standard awkwardProject ⟨0, 0⟩ (.ofList []) = some g ∧
      Text.lines g.script.toList
        = ["-- SQL generated for project: it's --[all]", "-- Description: ]' GO",
            "-- Generated at: 1970-01-01T00:00:00.000000Z", "SET ANSI_NULLS ON;",
            "SET QUOTED_IDENTIFIER ON;"].map String.toList ++ more := by
  obtain ⟨g, hg⟩ := generate_awkwardProject
  obtain ⟨⟨more, hlines⟩, -⟩ := generate_comments hg
  refine ⟨g, more, hg, ?_⟩
  have hcomments : ScriptOptions.standard.topComments awkwardProject ⟨0, 0⟩
      = ["SQL generated for project: it's --[all]", "Description: ]' GO",
          "Generated at: 1970-01-01T00:00:00.000000Z"] := by
    decide +kernel
  rw [hlines, hcomments]
  rfl

end SchemaScript
