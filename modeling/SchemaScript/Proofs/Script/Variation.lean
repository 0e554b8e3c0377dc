import SchemaScript.Proofs.Script.Draws

/-!
# SchemaScript.Proofs.Script.Variation

What two scripts of one project can differ in: the time at the top, and the digits at the end of the
names of foreign keys that are given none.

* `MarkedText`: a text in which every character is marked as fixed, as part of the time or as one of
  those digits; `MarkedText.remaining`: what is left without time and digits.
* `ScriptOptions.markedScript`: a script with its marks.
* `hidden_markedKey`: which digits a word has does not show outside of them.
* `generate_variation`: two scripts of one project.
-/

namespace SchemaScript

/-! ## Marked texts -/

/-- Where a character of a script comes from. -/
inductive Mark where
  | fixed
  | time
  | digits
deriving DecidableEq

abbrev MarkedText := List (Char × Mark)

/-- A text with one mark on all of its characters. -/
def Mark.on (m : Mark) (cs : List Char) : MarkedText :=
  cs.map fun c => (c, m)

namespace MarkedText

def chars (t : MarkedText) : List Char :=
  t.map Prod.fst

/-- The text without the time and the digits. -/
def remaining (t : MarkedText) : List Char :=
  (t.filter fun c => c.2 == .fixed).map Prod.fst

/-- The text with nothing in place of the digits. -/
def hidden (t : MarkedText) : List (Option Char × Mark) :=
  t.map fun c => (if c.2 = .digits then none else some c.1, c.2)

theorem chars_append (t u : MarkedText) : chars (t ++ u) = chars t ++ chars u :=
  List.map_append

theorem remaining_append (t u : MarkedText) : remaining (t ++ u) = remaining t ++ remaining u := by
  rw [remaining, List.filter_append, List.map_append]
  rfl

theorem hidden_append (t u : MarkedText) : hidden (t ++ u) = hidden t ++ hidden u :=
  List.map_append

theorem chars_on (m : Mark) (cs : List Char) : chars (m.on cs) = cs := by
  rw [chars, Mark.on, List.map_map]
  exact List.map_id cs

theorem remaining_on_fixed (cs : List Char) : remaining (Mark.fixed.on cs) = cs := by
  have hall : (Mark.fixed.on cs).filter (fun c => c.2 == .fixed) = Mark.fixed.on cs := by
    rw [List.filter_eq_self]
    intro c hc
    obtain ⟨_, -, rfl⟩ := List.mem_map.mp hc
    rfl
  rw [remaining, hall]
  exact chars_on _ cs

theorem remaining_on_time (cs : List Char) : remaining (Mark.time.on cs) = [] := by
  have hnone : (Mark.time.on cs).filter (fun c => c.2 == .fixed) = [] := by
    rw [List.filter_eq_nil_iff]
    intro c hc
    obtain ⟨_, -, rfl⟩ := List.mem_map.mp hc
    exact Bool.false_ne_true
  rw [remaining, hnone]
  rfl

theorem hidden_on_digits (cs : List Char) :
    hidden (Mark.digits.on cs) = List.replicate cs.length (none, .digits) := by
  rw [hidden, Mark.on, List.map_map]
  change cs.map (fun _ => (none, Mark.digits)) = _
  rw [List.map_const']

/-- What remains can be told without the digits. -/
theorem remaining_eq_filterMap_hidden (t : MarkedText) :
    remaining t = (hidden t).filterMap fun c => if c.2 = .fixed then c.1 else none := by
  induction t with
  | nil => rfl
  | cons c t ih =>
    obtain ⟨c, m⟩ := c
    rw [hidden] at ih
    cases m <;> simpa [remaining, hidden] using ih

theorem remaining_eq_of_hidden_eq {t u : MarkedText} (h : hidden t = hidden u) :
    remaining t = remaining u := by
  rw [remaining_eq_filterMap_hidden, h, ← remaining_eq_filterMap_hidden]

theorem length_eq_of_hidden_eq {t u : MarkedText} (h : hidden t = hidden u) :
    t.length = u.length := by
  simpa [hidden] using congrArg List.length h

/-- Where no digit stands the characters are the same. -/
theorem getElem?_eq_of_hidden_eq {t u : MarkedText} (h : hidden t = hidden u) {i : Nat}
    (hi : t[i]?.map Prod.snd ≠ some .digits) : (chars t)[i]? = (chars u)[i]? := by
  have hc := congrArg (·[i]?) h
  simp only [hidden, List.getElem?_map] at hc
  rw [chars, chars, List.getElem?_map, List.getElem?_map]
  cases ht : t[i]? with
  | none =>
    rw [ht] at hc
    rw [Option.map_eq_none_iff.mp hc.symm]
  | some c =>
    rw [ht] at hc hi
    obtain ⟨d, hu, hd⟩ := Option.map_eq_some_iff.mp hc.symm
    have hmark : c.2 ≠ .digits := fun h => hi (congrArg some h)
    rw [Prod.mk.injEq, if_neg hmark] at hd
    rw [if_neg (hd.2 ▸ hmark)] at hd
    rw [hu, Option.map_some, Option.map_some, hd.1]

end MarkedText

/-! ## Marked scripts -/

/-- The comments of a heading before the time. -/
def Heading.opening (h : Heading) : List Piece :=
  [.comment ("SQL generated for project: " ++ Sql.commentText h.project)]
    ++ match h.description with
      | some d => [.comment ("Description: " ++ Sql.commentText d)]
      | none => []

theorem Heading.pieces_eq (h : Heading) :
    h.pieces = h.opening ++ [.comment ("Generated at: " ++ h.time.rfc3339)] := by
  cases hd : h.description <;> simp [pieces, opening, hd]

/-- The statement up to the name of the foreign key. -/
def ForeignKeyStatement.opening (s : ForeignKeyStatement) : List Piece :=
  [.code "ALTER TABLE "] ++ s.table.pieces ++ [.code " ADD CONSTRAINT "]

/-- The statement after the name of the foreign key. -/
def ForeignKeyStatement.closing (s : ForeignKeyStatement) : List Piece :=
  [.code "\n    FOREIGN KEY ("] ++ namePieces (s.columns.map (·.columnName))
    ++ [.code ") REFERENCES "] ++ s.target.pieces
    ++ [.code " ("] ++ namePieces (s.columns.map (·.refColumnName)) ++ [.code ")"]
    ++ (match s.onDelete with
      | some action => [.code " ON DELETE ", .raw action]
      | none => [])
    ++ [.code ";\n"]

theorem ForeignKeyStatement.pieces_eq (s : ForeignKeyStatement) :
    s.pieces = s.opening ++ .name s.name :: s.closing := by
  cases h : s.onDelete <;> simp [pieces, opening, closing, h]

theorem opening_foreignKeyStatement (o : ScriptOptions) (t : Table) (k : ForeignKey)
    (name other : String) :
    (foreignKeyStatement o t k name).opening = (foreignKeyStatement o t k other).opening := rfl

theorem closing_foreignKeyStatement (o : ScriptOptions) (t : Table) (k : ForeignKey)
    (name other : String) :
    (foreignKeyStatement o t k name).closing = (foreignKeyStatement o t k other).closing := rfl

namespace ScriptOptions

/-- What ends every batch. -/
def ending (o : ScriptOptions) : List Char :=
  o.batchSeparator.toList ++ ['\n', '\n']

def markedHeader (o : ScriptOptions) (p : Project) (time : Instant) : MarkedText :=
  match heading o p time with
  | none => Mark.fixed.on ((Batch.session none).closed o.batchSeparator)
  | some h =>
    Mark.fixed.on (Piece.all h.opening ++ "-- Generated at: ".toList)
      ++ Mark.time.on h.time.rfc3339.toList
      ++ Mark.fixed.on ('\n' :: (Batch.session none).closed o.batchSeparator)

/-- The batch of a foreign key. If the key is given no name, the last eight characters of the name
issued for it are digits. -/
def markedKey (o : ScriptOptions) (k : IssuedKey) : MarkedText :=
  match givenName k.key.name with
  | some _ => Mark.fixed.on (o.foreignKeyText k.table k.key k.name)
  | none =>
    let s := foreignKeyStatement o k.table k.key k.name
    let name := k.name.toList
    Mark.fixed.on (Piece.all s.opening ++ '[' :: Sql.double ']' (name.take (name.length - 8)))
      ++ Mark.digits.on (name.drop (name.length - 8))
      ++ Mark.fixed.on (']' :: Piece.all s.closing ++ o.ending)

/-- A script with its marks. -/
def markedScript (o : ScriptOptions) (p : Project) (time : Instant) (issued : List IssuedKey) :
    MarkedText :=
  o.markedHeader p time
    ++ Mark.fixed.on ((missingSchemas o [] p.tables).map o.schemaText
        ++ p.tables.flatMap fun t => [o.dropText t, o.createText t]).flatten
    ++ issued.flatMap o.markedKey
    ++ Mark.fixed.on (p.writtenIndexes.map fun index => o.indexText index.1 index.2).flatten

end ScriptOptions

open MarkedText

variable {o : ScriptOptions} {p : Project}

theorem chars_markedHeader (time : Instant) :
    chars (o.markedHeader p time) = o.headerText p time := by
  unfold ScriptOptions.markedHeader
  split
  · rename_i hh
    rw [ScriptOptions.headerText, hh, chars_on]
  · rename_i h hh
    have htime : Piece.all [.comment ("Generated at: " ++ h.time.rfc3339)]
        = "-- Generated at: ".toList ++ h.time.rfc3339.toList ++ ['\n'] := by
      simp [Piece.all, Piece.chars]
    have hopening : Piece.all h.pieces = Piece.all h.opening ++ "-- Generated at: ".toList
        ++ h.time.rfc3339.toList ++ ['\n'] := by
      rw [Heading.pieces_eq, Piece.all_append, htime, List.append_assoc, List.append_assoc,
        List.append_assoc]
    have hpieces : (Batch.session (some h)).pieces = h.pieces ++ (Batch.session none).pieces := rfl
    rw [ScriptOptions.headerText, hh, chars_append, chars_append, chars_on, chars_on, chars_on,
      Batch.closed, Batch.closed, Batch.chars, Batch.chars, hpieces, Piece.all_append, hopening]
    simp only [List.append_assoc, List.cons_append, List.nil_append]

theorem Sql.double_append (q : Char) (cs ds : List Char) :
    double q (cs ++ ds) = double q cs ++ double q ds :=
  List.flatMap_append

theorem Sql.double_of_not_mem {q : Char} {cs : List Char} (h : q ∉ cs) : double q cs = cs := by
  induction cs with
  | nil => rfl
  | cons c cs ih =>
    have hc : c ≠ q := fun heq => h (heq ▸ List.mem_cons_self)
    have hcs := ih fun hmem => h (List.mem_cons_of_mem _ hmem)
    rw [double, List.flatMap_cons, if_neg hc, ← double, hcs]
    rfl

theorem Text.bracket_not_mem_hexWord (w : UInt32) : ']' ∉ hexWord w := by
  intro h
  obtain ⟨i, -, hi⟩ := List.mem_map.mp h
  have hdigit : ∀ d < 16, Nat.digitChar d ≠ ']' := by decide
  exact hdigit _ (Nat.mod_lt _ (by decide)) hi

/-- The digits of a name that ends in a word. -/
theorem toList_suffixed (stem : String) (w : UInt32) :
    (suffixed stem w).toList = stem.toList ++ ['_'] ++ Text.hexWord w := by
  rw [suffixed, String.toList_ofList, List.append_assoc]
  rfl

theorem take_suffixed (stem : String) (w : UInt32) :
    (suffixed stem w).toList.take ((suffixed stem w).toList.length - 8) = stem.toList ++ ['_'] := by
  rw [toList_suffixed, List.length_append, Text.length_hexWord, Nat.add_sub_cancel]
  exact List.take_left' rfl

theorem drop_suffixed (stem : String) (w : UInt32) :
    (suffixed stem w).toList.drop ((suffixed stem w).toList.length - 8) = Text.hexWord w := by
  rw [toList_suffixed, List.length_append, Text.length_hexWord, Nat.add_sub_cancel]
  exact List.drop_left' rfl

theorem chars_name_suffixed (stem : String) (w : UInt32) :
    (Piece.name (suffixed stem w)).chars
      = '[' :: Sql.double ']' (stem.toList ++ ['_']) ++ Text.hexWord w ++ [']'] := by
  rw [Piece.chars, Sql.nameChars, toList_suffixed, Sql.double_append,
    Sql.double_of_not_mem (Text.bracket_not_mem_hexWord w)]
  rfl

theorem chars_markedKey (k : IssuedKey) :
    chars (o.markedKey k) = o.foreignKeyText k.table k.key k.name := by
  have hnamed := k.named
  unfold ScriptOptions.markedKey
  unfold ForeignKey.MayBeNamed at hnamed
  split
  · rw [chars_on]
  · rename_i hg
    rw [hg] at hnamed
    obtain ⟨w, hw⟩ := hnamed
    rw [hw]
    have hpieces := ForeignKeyStatement.pieces_eq
      (foreignKeyStatement o k.table k.key (suffixed (k.table.foreignKeyStem k.key) w))
    rw [chars_append, chars_append, chars_on, chars_on, chars_on, take_suffixed, drop_suffixed,
      ScriptOptions.foreignKeyText, Batch.closed, Batch.chars, Batch.pieces, hpieces,
      Piece.all_append, Piece.all, Piece.all, Piece.all, List.flatMap_cons, foreignKeyStatement,
      chars_name_suffixed, ScriptOptions.ending]
    simp only [List.append_assoc, List.cons_append, List.nil_append]

theorem chars_markedKeys (issued : List IssuedKey) :
    chars (issued.flatMap o.markedKey)
      = (issued.map fun k => o.foreignKeyText k.table k.key k.name).flatten := by
  induction issued with
  | nil => rfl
  | cons k ks ih => rw [List.flatMap_cons, chars_append, chars_markedKey, ih]; rfl

theorem chars_markedScript (time : Instant) (issued : List IssuedKey) :
    chars (o.markedScript p time issued) = (o.scriptTexts p time issued).flatten := by
  rw [ScriptOptions.markedScript, chars_append, chars_append, chars_append, chars_markedHeader,
    chars_on, chars_on, chars_markedKeys, ScriptOptions.scriptTexts]
  simp only [List.flatten_append, List.flatten_cons, List.flatten_nil, List.append_nil,
    List.append_assoc]

/-! ## Two scripts -/

/-- Of a foreign key and the name issued for it, only the digits depend on the name. -/
theorem hidden_markedKey {k l : IssuedKey} (h : k.unnamed = l.unnamed) :
    hidden (o.markedKey k) = hidden (o.markedKey l) := by
  obtain ⟨t, key, name, hk⟩ := k
  obtain ⟨_, _, other, hl⟩ := l
  cases h
  unfold ForeignKey.MayBeNamed at hk hl
  unfold ScriptOptions.markedKey
  cases hg : givenName key.name with
  | some given =>
    rw [hg] at hk hl
    subst hk hl
    rfl
  | none =>
    rw [hg] at hk hl
    obtain ⟨w, rfl⟩ := hk
    obtain ⟨v, rfl⟩ := hl
    simp only [hidden_append, take_suffixed, drop_suffixed, hidden_on_digits, Text.length_hexWord]
    rw [opening_foreignKeyStatement o t key _ (suffixed (t.foreignKeyStem key) v),
      closing_foreignKeyStatement o t key _ (suffixed (t.foreignKeyStem key) v)]

theorem hidden_markedKeys {ks ls : List IssuedKey}
    (h : ks.map (·.unnamed) = ls.map (·.unnamed)) :
    hidden (ks.flatMap o.markedKey) = hidden (ls.flatMap o.markedKey) := by
  induction ks generalizing ls with
  | nil => rw [List.map_eq_nil_iff.mp h.symm]
  | cons k ks ih =>
    obtain ⟨l, ls, rfl, hl, hls⟩ := List.map_eq_cons_iff.mp h.symm
    rw [List.flatMap_cons, List.flatMap_cons, hidden_append, hidden_append,
      hidden_markedKey hl.symm, ih hls.symm]

theorem hidden_markedScript {time : Instant} {ks ls : List IssuedKey}
    (h : ks.map (·.unnamed) = ls.map (·.unnamed)) :
    hidden (o.markedScript p time ks) = hidden (o.markedScript p time ls) := by
  simp only [ScriptOptions.markedScript, hidden_append, hidden_markedKeys h]

theorem remaining_markedHeader (t u : Instant) :
    remaining (o.markedHeader p t) = remaining (o.markedHeader p u) := by
  unfold ScriptOptions.markedHeader heading
  cases o.includeHeader with
  | false => rfl
  | true =>
    simp only [if_true, remaining_append, remaining_on_fixed, remaining_on_time]
    rfl

theorem remaining_markedScript {t u : Instant} {ks ls : List IssuedKey}
    (h : ks.map (·.unnamed) = ls.map (·.unnamed)) :
    remaining (o.markedScript p t ks) = remaining (o.markedScript p u ls) := by
  simp only [ScriptOptions.markedScript, remaining_append, remaining_markedHeader t u,
    remaining_eq_of_hidden_eq (hidden_markedKeys h)]

/-- The name of a foreign key that is given one is known. -/
theorem IssuedKey.eq_of_named {k l : IssuedKey} (h : k.unnamed = l.unnamed)
    (hk : (givenName k.key.name).isNone = false) : k = l := by
  obtain ⟨t, key, name, hname⟩ := k
  obtain ⟨_, _, other, hother⟩ := l
  cases h
  have hname' := hname
  have hother' := hother
  unfold ForeignKey.MayBeNamed at hname' hother'
  cases hg : givenName key.name with
  | none => rw [hg] at hk; cases hk
  | some given =>
    rw [hg] at hname' hother'
    subst hname' hother'
    rfl

theorem issued_eq_of_named {ks ls : List IssuedKey}
    (h : ks.map (·.unnamed) = ls.map (·.unnamed))
    (hks : ∀ k ∈ ks, (givenName k.key.name).isNone = false) : ks = ls := by
  induction ks generalizing ls with
  | nil => exact (List.map_eq_nil_iff.mp h.symm).symm
  | cons k ks ih =>
    obtain ⟨l, ls, rfl, hl, hls⟩ := List.map_eq_cons_iff.mp h.symm
    rw [IssuedKey.eq_of_named hl.symm (hks k List.mem_cons_self),
      ih hls.symm fun j hj => hks j (List.mem_cons_of_mem _ hj)]

theorem ScriptRun.script_chars {time : Instant} {words : WordSource} {g : Generated}
    {issued : List IssuedKey} {left : NameScope} {keyEvents : List Event}
    (h : ScriptRun o p time words g issued left keyEvents) :
    chars (o.markedScript p time issued) = g.script.toList := by
  rw [chars_markedScript, h.script, h.batches, toList_renderScript]

/-- Two scripts of one project are equal but for the time at the top and the last eight digits of
the names of foreign keys that are given none. At equal times they have the same length and differ
at most in these digits. Without such keys there is a script whatever the words are, it is always
the same, and no word is drawn; otherwise one word is drawn for each such key and each collision. -/
theorem generate_variation {t₁ t₂ : Instant} {w₁ w₂ : WordSource} {g₁ g₂ : Generated}
    (h₁ : generate o p t₁ w₁ = some g₁) (h₂ : generate o p t₂ w₂ = some g₂) :
    ∃ issued₁ issued₂ : List IssuedKey,
      issued₁.map (·.unnamed) = (p.resolveSchemas o.defaultSchema).writtenForeignKeys ∧
      issued₂.map (·.unnamed) = (p.resolveSchemas o.defaultSchema).writtenForeignKeys ∧
      chars (o.markedScript (p.resolveSchemas o.defaultSchema) t₁ issued₁) = g₁.script.toList ∧
      chars (o.markedScript (p.resolveSchemas o.defaultSchema) t₂ issued₂) = g₂.script.toList ∧
      remaining (o.markedScript (p.resolveSchemas o.defaultSchema) t₁ issued₁)
        = remaining (o.markedScript (p.resolveSchemas o.defaultSchema) t₂ issued₂) ∧
      (t₁ = t₂ → g₁.script.length = g₂.script.length ∧
        ∀ i : Nat, (o.markedScript (p.resolveSchemas o.defaultSchema) t₁ issued₁)[i]?.map Prod.snd
            ≠ some Mark.digits →
          g₁.script.toList[i]? = g₂.script.toList[i]?) ∧
      (p.unnamedForeignKeys = [] → ∀ words, ∃ g, generate o p t₁ words = some g ∧
        g.script = g₁.script ∧ g.words = words) ∧
      g₁.words.drawn = w₁.drawn + p.unnamedForeignKeys.length
        + g₁.events.countP Event.isSuffixCollided := by
  obtain ⟨issued₁, left₁, events₁, hrun₁⟩ := generate_run h₁
  obtain ⟨issued₂, left₂, events₂, hrun₂⟩ := generate_run h₂
  have hsame := hrun₁.unnamed.trans hrun₂.unnamed.symm
  refine ⟨issued₁, issued₂, hrun₁.unnamed, hrun₂.unnamed, hrun₁.script_chars, hrun₂.script_chars,
    remaining_markedScript hsame, ?_, ?_, ?_⟩
  · rintro rfl
    have hhidden : hidden (o.markedScript (p.resolveSchemas o.defaultSchema) t₁ issued₁)
        = hidden (o.markedScript (p.resolveSchemas o.defaultSchema) t₁ issued₂) :=
      hidden_markedScript hsame
    refine ⟨?_, fun i hi => ?_⟩
    · have hlength := length_eq_of_hidden_eq hhidden
      rw [← String.length_toList, ← String.length_toList, ← hrun₁.script_chars,
        ← hrun₂.script_chars, chars, chars, List.length_map, List.length_map, hlength]
    · rw [← hrun₁.script_chars, ← hrun₂.script_chars]
      exact getElem?_eq_of_hidden_eq hhidden hi
  · intro hnone words
    obtain ⟨g, hg, hwords⟩ := generate_named (o := o) hnone t₁ words
    obtain ⟨issued, left, events, hrun⟩ := generate_run hg
    have hissued : issued = issued₁ := by
      refine issued_eq_of_named (hrun.unnamed.trans hrun₁.unnamed.symm) fun k hk => ?_
      exact Project.named_of_no_unnamed hnone o.defaultSchema
        (hrun.unnamed ▸ List.mem_map_of_mem (f := IssuedKey.unnamed) hk)
    subst hissued
    exact ⟨g, hg, by rw [hrun.script, hrun₁.script, hrun.batches, hrun₁.batches], hwords⟩
  · rw [← Project.length_unnamedForeignKeys_resolveSchemas o.defaultSchema]
    exact hrun₁.drawn

theorem generate_variation_awkwardProject :
    ∃ g₁ g₂, generate .standard awkwardProject ⟨0, 0⟩ (.ofList []) = some g₁ ∧
      generate .standard awkwardProject ⟨1, 0⟩ (.ofList [0xBEEF]) = some g₂ ∧
      ∃ issued₁ issued₂ : List IssuedKey,
        chars (ScriptOptions.standard.markedScript
          (awkwardProject.resolveSchemas ScriptOptions.standard.defaultSchema) ⟨0, 0⟩ issued₁)
            = g₁.script.toList ∧
        chars (ScriptOptions.standard.markedScript
          (awkwardProject.resolveSchemas ScriptOptions.standard.defaultSchema) ⟨1, 0⟩ issued₂)
            = g₂.script.toList ∧
        remaining (ScriptOptions.standard.markedScript
            (awkwardProject.resolveSchemas ScriptOptions.standard.defaultSchema) ⟨0, 0⟩ issued₁)
          = remaining (ScriptOptions.standard.markedScript
            (awkwardProject.resolveSchemas ScriptOptions.standard.defaultSchema) ⟨1, 0⟩
              issued₂) := by
  obtain ⟨g₁, h₁⟩ := generate_awkwardProject
  obtain ⟨g₂, h₂⟩ : ∃ g, generate .standard awkwardProject ⟨1, 0⟩ (.ofList [0xBEEF]) = some g :=
    Option.isSome_iff_exists.mp (by decide +kernel)
  obtain ⟨issued₁, issued₂, -, -, hchars₁, hchars₂, hremaining, -⟩ := generate_variation h₁ h₂
  exact ⟨g₁, g₂, h₁, h₂, issued₁, issued₂, hchars₁, hchars₂, hremaining⟩

end SchemaScript
