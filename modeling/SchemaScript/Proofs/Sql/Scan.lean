import SchemaScript.Sql.Quoting

/-!
# SchemaScript.Proofs.Sql.Scan

A scanner of SQL text that knows names in brackets, string literals and comments to the end of the
line, and takes every other character by itself.

* `ScanState.step`: one character, with the tokens that it completes.
* `scan`: a text, from any state; `scan_append` cuts it anywhere.
* `lex`: the tokens of a whole text.
* `scan_nameChars`, `scan_literalChars`: a quoted text is one token with the text as its value.
* `scan_of_isFresh`: a token that has ended does not take part in what follows.
* `scan_of_isPlain`: a text without brackets, quotes and dashes is read character by character.
-/

namespace SchemaScript
namespace Sql

/-- A token of SQL text. In code every character is one. -/
inductive Token where
  | code (c : Char)
  | name (text : String)
  | string (value : String)
  | comment (text : String)
deriving DecidableEq

/-- Where a scanner stands. The characters of an open token are those read so far. -/
inductive ScanState where
  | code
  /-- After a dash, which opens a comment if another follows. -/
  | dash
  | name (read : List Char)
  /-- After a bracket in a name, which closes it unless another follows. -/
  | nameEnd (read : List Char)
  | string (read : List Char)
  /-- After a quote in a string, which closes it unless another follows. -/
  | stringEnd (read : List Char)
  | comment (read : List Char)
deriving DecidableEq

namespace ScanState

/-- Whether the text may end here: the scanner is in code, and no token is open. -/
def isClosed : ScanState → Bool
  | code | dash | nameEnd _ | stringEnd _ => true
  | name _ | string _ | comment _ => false

/-- The token that ends here unless the next character belongs to it. -/
def pending : ScanState → List Token
  | dash => [.code '-']
  | nameEnd read => [.name (String.ofList read)]
  | stringEnd read => [.string (String.ofList read)]
  | _ => []

/-- A character where no token is open. -/
def start (c : Char) : ScanState × List Token :=
  if c = '[' then (.name [], [])
  else if c = '\'' then (.string [], [])
  else if c = '-' then (.dash, [])
  else (.code, [.code c])

/-- A character after a token that it does not belong to. -/
def restart (s : ScanState) (c : Char) : ScanState × List Token :=
  ((start c).1, s.pending ++ (start c).2)

/-- One character: the state after it, and the tokens that are complete with it. -/
def step (s : ScanState) (c : Char) : ScanState × List Token :=
  match s with
  | code => start c
  | dash => if c = '-' then (.comment [], []) else restart s c
  | name read => if c = ']' then (.nameEnd read, []) else (.name (read ++ [c]), [])
  | nameEnd read => if c = ']' then (.name (read ++ [']']), []) else restart s c
  | string read => if c = '\'' then (.stringEnd read, []) else (.string (read ++ [c]), [])
  | stringEnd read => if c = '\'' then (.string (read ++ ['\'']), []) else restart s c
  | comment read =>
    if c = '\n' then (.code, [.comment (String.ofList read)]) else (.comment (read ++ [c]), [])

end ScanState

/-- The state after a text, and the tokens that are complete in it. -/
def scan : ScanState → List Char → ScanState × List Token
  | s, [] => (s, [])
  | s, c :: cs =>
    let (s', ts) := s.step c
    let (s'', us) := scan s' cs
    (s'', ts ++ us)

/-- The tokens of a text that starts in state `s` and ends where it ends. -/
def lexFrom (s : ScanState) (cs : List Char) : List Token :=
  (scan s cs).2 ++ (scan s cs).1.pending

def lex (cs : List Char) : List Token :=
  lexFrom .code cs

/-- A text that ends in code, with no token open. -/
def IsClosed (cs : List Char) : Prop :=
  (scan .code cs).1.isClosed = true

instance (cs : List Char) : Decidable (IsClosed cs) :=
  inferInstanceAs (Decidable (_ = true))

@[simp] theorem scan_nil (s : ScanState) : scan s [] = (s, []) := rfl

theorem scan_cons (s : ScanState) (c : Char) (cs : List Char) :
    scan s (c :: cs) = ((scan (s.step c).1 cs).1, (s.step c).2 ++ (scan (s.step c).1 cs).2) := rfl

theorem scan_append (s : ScanState) (cs ds : List Char) :
    scan s (cs ++ ds) = ((scan (scan s cs).1 ds).1, (scan s cs).2 ++ (scan (scan s cs).1 ds).2) := by
  induction cs generalizing s with
  | nil => rfl
  | cons c cs ih => rw [List.cons_append, scan_cons, scan_cons, ih, List.append_assoc]

theorem lexFrom_append (s : ScanState) (cs ds : List Char) :
    lexFrom s (cs ++ ds) = (scan s cs).2 ++ lexFrom (scan s cs).1 ds := by
  rw [lexFrom, scan_append, List.append_assoc, lexFrom]

/-! ## Quoted texts -/

theorem scan_name_double (read cs : List Char) :
    scan (.name read) (double ']' cs) = (.name (read ++ cs), []) := by
  induction cs generalizing read with
  | nil => simp [double]
  | cons c cs ih =>
    have hd : double ']' (c :: cs) = (if c = ']' then [']', ']'] else [c]) ++ double ']' cs := rfl
    rw [hd, scan_append]
    by_cases hc : c = ']'
    · simp [hc, scan_cons, ScanState.step, ih]
    · simp [hc, scan_cons, ScanState.step, ih]

theorem scan_string_double (read cs : List Char) :
    scan (.string read) (double '\'' cs) = (.string (read ++ cs), []) := by
  induction cs generalizing read with
  | nil => simp [double]
  | cons c cs ih =>
    have hd : double '\'' (c :: cs) = (if c = '\'' then ['\'', '\''] else [c]) ++ double '\'' cs :=
      rfl
    rw [hd, scan_append]
    by_cases hc : c = '\''
    · simp [hc, scan_cons, ScanState.step, ih]
    · simp [hc, scan_cons, ScanState.step, ih]

theorem scan_nameChars (cs : List Char) : scan .code (nameChars cs) = (.nameEnd cs, []) := by
  have hopen : ScanState.code.step '[' = (.name [], []) := rfl
  rw [nameChars, List.cons_append, scan_cons, hopen, scan_append, scan_name_double]
  simp [scan_cons, ScanState.step]

theorem scan_literalChars (cs : List Char) :
    scan .code (literalChars cs) = (.stringEnd cs, []) := by
  have hopen : ScanState.code.step '\'' = (.string [], []) := rfl
  rw [literalChars, List.cons_append, scan_cons, hopen, scan_append, scan_string_double]
  simp [scan_cons, ScanState.step]

/-! ## Comments -/

theorem scan_comment (read : List Char) {cs : List Char} (h : '\n' ∉ cs) :
    scan (.comment read) (cs ++ ['\n']) = (.code, [.comment (String.ofList (read ++ cs))]) := by
  induction cs generalizing read with
  | nil => simp [scan_cons, ScanState.step]
  | cons c cs ih =>
    rw [List.mem_cons, not_or] at h
    have hstep : (ScanState.comment read).step c = (.comment (read ++ [c]), []) := by
      simp [ScanState.step, Ne.symm h.1]
    rw [List.cons_append, scan_cons, hstep, ih (read ++ [c]) h.2]
    simp

/-! ## What follows a token -/

/-- A character that belongs to no token that has just ended. -/
def isFresh (c : Char) : Bool :=
  c != ']' && c != '\'' && c != '-'

theorem step_of_isFresh {s : ScanState} {c : Char} (hs : s.isClosed = true)
    (hc : isFresh c = true) : s.step c = s.restart c := by
  simp only [isFresh, Bool.and_eq_true, bne_iff_ne] at hc
  obtain ⟨⟨hb, hq⟩, hd⟩ := hc
  cases s with
  | code => simp [ScanState.step, ScanState.restart, ScanState.pending]
  | dash => simp [ScanState.step, hd]
  | nameEnd read => simp [ScanState.step, hb]
  | stringEnd read => simp [ScanState.step, hq]
  | name read => cases hs
  | string read => cases hs
  | comment read => cases hs

/-- Where no token is open, a text that starts with a fresh character is read as from the start. -/
theorem scan_of_isFresh {s : ScanState} {c : Char} (hs : s.isClosed = true)
    (hc : isFresh c = true) (cs : List Char) :
    scan s (c :: cs) = ((scan .code (c :: cs)).1, s.pending ++ (scan .code (c :: cs)).2) := by
  rw [scan_cons, scan_cons, step_of_isFresh hs hc, ScanState.restart, List.append_assoc]
  rfl

/-- A text that can follow any token and leaves the scanner in code. -/
def isTemplate (cs : List Char) : Bool :=
  cs.head?.any isFresh && (scan .code cs).1 == .code

theorem scan_of_isTemplate {s : ScanState} {cs : List Char} (hs : s.isClosed = true)
    (hcs : isTemplate cs = true) : scan s cs = (.code, s.pending ++ lex cs) := by
  simp only [isTemplate, Bool.and_eq_true, beq_iff_eq] at hcs
  obtain ⟨hhead, hcode⟩ := hcs
  cases cs with
  | nil => cases hhead
  | cons c cs =>
    rw [scan_of_isFresh hs (by simpa using hhead), lex, lexFrom, hcode]
    simp [ScanState.pending]

/-! ## Plain characters -/

/-- A character that opens no token. -/
def isPlain (c : Char) : Bool :=
  c != '[' && c != '\'' && c != '-'

/-- A text without brackets, quotes and dashes. -/
def isPlainText (text : String) : Bool :=
  text.toList.all isPlain

theorem isPlain_of_mem {text : String} (h : isPlainText text = true) :
    ∀ c ∈ text.toList, isPlain c = true :=
  List.all_eq_true.mp h

theorem step_of_isPlain {c : Char} (hc : isPlain c = true) :
    ScanState.step .code c = (.code, [.code c]) := by
  simp only [isPlain, Bool.and_eq_true, bne_iff_ne] at hc
  simp [ScanState.step, ScanState.start, hc]

theorem scan_of_isPlain {cs : List Char} (hcs : ∀ c ∈ cs, isPlain c = true) :
    scan .code cs = (.code, cs.map .code) := by
  induction cs with
  | nil => rfl
  | cons c cs ih =>
    rw [scan_cons, step_of_isPlain (hcs c (by simp)), ih fun d hd => hcs d (by simp [hd])]
    rfl

/-- A text of which every character is read as code. -/
structure IsQuiet (cs : List Char) : Prop where
  closed : IsClosed cs
  tokens : lex cs = cs.map .code

theorem isQuiet_of_isPlain {cs : List Char} (hcs : ∀ c ∈ cs, isPlain c = true) : IsQuiet cs where
  closed := by rw [IsClosed, scan_of_isPlain hcs]; rfl
  tokens := by simp [lex, lexFrom, scan_of_isPlain hcs, ScanState.pending]

/-- A single dash opens no comment. -/
theorem isQuiet_dash {cs ds : List Char} (hcs : ∀ c ∈ cs, isPlain c = true)
    (hds : ∀ d ∈ ds, isPlain d = true) : IsQuiet (cs ++ '-' :: ds) := by
  have hdash : ScanState.code.step '-' = (.dash, []) := rfl
  have hscan : scan .code (cs ++ '-' :: ds)
      = ((scan .dash ds).1, cs.map .code ++ (scan .dash ds).2) := by
    rw [scan_append, scan_of_isPlain hcs, scan_cons, hdash]
    rfl
  cases ds with
  | nil => exact ⟨by rw [IsClosed, hscan]; rfl, by simp [lex, lexFrom, hscan, ScanState.pending]⟩
  | cons d ds =>
    have hd : isPlain d = true := hds d (by simp)
    have hstep : ScanState.dash.step d = (.code, [.code '-', .code d]) := by
      have hne : d ≠ '-' := by rintro rfl; cases hd
      have hstart : ScanState.start d = (.code, [.code d]) := step_of_isPlain hd
      simp [ScanState.step, hne, ScanState.restart, hstart, ScanState.pending]
    have hrest : scan .code ds = (.code, ds.map .code) :=
      scan_of_isPlain fun e he => hds e (by simp [he])
    rw [scan_cons, hstep, hrest] at hscan
    exact ⟨by rw [IsClosed, hscan]; rfl, by simp [lex, lexFrom, hscan, ScanState.pending]⟩

theorem IsQuiet.append_fresh {cs ds : List Char} {d : Char} (hcs : IsQuiet cs)
    (hd : isFresh d = true) (hds : IsQuiet (d :: ds)) : IsQuiet (cs ++ d :: ds) where
  closed := by
    rw [IsClosed, scan_append, scan_of_isFresh hcs.closed hd]
    exact hds.closed
  tokens := by
    rw [List.map_append, ← hcs.tokens, ← hds.tokens, lex, lexFrom_append, lexFrom,
      scan_of_isFresh hcs.closed hd, lex, lexFrom, lex, lexFrom]
    simp

/-- A closed text that ends in a fresh plain character, such as a line feed, has nothing pending. -/
theorem scan_concat_of_isClosed {cs : List Char} {d : Char} (hfresh : isFresh d = true)
    (hplain : isPlain d = true) (h : IsClosed (cs ++ [d])) : (scan .code (cs ++ [d])).1 = .code := by
  have hstart : (ScanState.start d).1 = .code := by
    rw [← ScanState.step.eq_1, step_of_isPlain hplain]
  simp only [isFresh, Bool.and_eq_true, bne_iff_ne] at hfresh
  obtain ⟨⟨hb, hq⟩, hd⟩ := hfresh
  rw [IsClosed] at h
  rw [scan_append, scan_cons, scan_nil] at h ⊢
  cases hs : (scan .code cs).1 with
  | code => exact hstart
  | dash => simp [ScanState.step, hd, ScanState.restart, hstart]
  | nameEnd read => simp [ScanState.step, hb, ScanState.restart, hstart]
  | stringEnd read => simp [ScanState.step, hq, ScanState.restart, hstart]
  | name read => simp [hs, ScanState.step, hb, ScanState.isClosed] at h
  | string read => simp [hs, ScanState.step, hq, ScanState.isClosed] at h
  | comment read =>
    by_cases hn : d = '\n'
    · simp [ScanState.step, hn]
    · simp [hs, ScanState.step, hn, ScanState.isClosed] at h

/-! ## Names and strings among tokens -/

/-- Whether a token is a name or a string. -/
def Token.isQuoted : Token → Bool
  | name _ | string _ => true
  | code _ | comment _ => false

def quoted (ts : List Token) : List Token :=
  ts.filter Token.isQuoted

@[simp] theorem quoted_append (ts us : List Token) : quoted (ts ++ us) = quoted ts ++ quoted us :=
  List.filter_append ts us

theorem quoted_flatMap {α : Type} (as : List α) (f : α → List Token) :
    quoted (as.flatMap f) = as.flatMap fun a => quoted (f a) := by
  induction as with
  | nil => rfl
  | cons a as ih => rw [List.flatMap_cons, List.flatMap_cons, quoted_append, ih]

theorem IsQuiet.quoted_lex {cs : List Char} (h : IsQuiet cs) : quoted (lex cs) = [] := by
  rw [h.tokens, quoted, List.filter_eq_nil_iff]
  intro t ht
  obtain ⟨c, -, rfl⟩ := List.mem_map.mp ht
  simp [Token.isQuoted]

end Sql
end SchemaScript
