import SchemaScript.Proofs.Sql.Scan
import SchemaScript.Script.Batch

/-!
# SchemaScript.Proofs.Script.Pieces

How the scanner reads a text that is put together from pieces: piece by piece, if every piece stands
where it cannot be mistaken for a part of the one before.

* `Piece.tokens`: the tokens of a piece.
* `Placed`: every piece of a list fits behind those before it.
* `Reads`: from some state, a text is read as certain tokens, and none is open at its end.
* `Placed.reads`, `Placed.lex_append`, `Placed.lex_all`: the scanner reads a placed list as the tokens
  of its pieces.
-/

namespace SchemaScript

open Sql

/-- The tokens of a piece by itself. -/
def Piece.tokens : Piece → List Token
  | code text => lex text.toList
  | name text => [.name text]
  | string value => [.string value]
  | raw text => lex text.toList
  | comment text => [.comment (String.ofList (' ' :: text.toList))]
  | padding count => List.replicate count (.code ' ')

theorem Piece.tokens_code {text : String} (h : isPlainText text = true) :
    (Piece.code text).tokens = text.toList.map .code :=
  (isQuiet_of_isPlain (isPlain_of_mem h)).tokens

theorem Piece.all_append (ps qs : List Piece) : all (ps ++ qs) = all ps ++ all qs :=
  List.flatMap_append

/-- Every piece fits behind those before it. The first index tells that nothing is pending before the
list, the second that nothing is pending after it. A name fits anywhere, since no token goes on with
an opening bracket; strings, raw texts and comments follow code. -/
inductive Placed : Bool → List Piece → Bool → Prop where
  | nil {a b : Bool} : (b = true → a = true) → Placed a [] b
  | code {a b : Bool} {text : String} {ps : List Piece} :
      isTemplate text.toList = true → Placed true ps b → Placed a (.code text :: ps) b
  | name {a b : Bool} {text : String} {ps : List Piece} :
      Placed false ps b → Placed a (.name text :: ps) b
  | string {b : Bool} {value : String} {ps : List Piece} :
      Placed false ps b → Placed true (.string value :: ps) b
  | raw {b : Bool} {text : String} {ps : List Piece} :
      IsClosed text.toList → Placed false ps b → Placed true (.raw text :: ps) b
  | comment {b : Bool} {text : String} {ps : List Piece} :
      '\n' ∉ text.toList → Placed true ps b → Placed true (.comment text :: ps) b
  | padding {a b : Bool} {count : Nat} {ps : List Piece} :
      Placed a ps b → Placed a (.padding count :: ps) b

namespace Placed

theorem empty : Placed false [] false :=
  .nil fun h => h

theorem done : Placed true [] true :=
  .nil fun h => h

theorem single {a b : Bool} {text : String} (h : isTemplate text.toList = true) :
    Placed a [.code text] b :=
  .code h (.nil fun _ => rfl)

theorem mono {a b : Bool} {ps : List Piece} (h : Placed false ps b) : Placed a ps b := by
  -- Only an empty list tells the two first indexes apart: the rest starts with a code or a name.
  generalize hf : false = f at h
  induction h with
  | nil hb => exact .nil fun h => by subst hf; cases hb h
  | code ht hps => exact .code ht hps
  | name hps => exact .name hps
  | string hps => cases hf
  | raw ht hps => cases hf
  | comment ht hps => cases hf
  | padding hps ih => exact .padding (ih hf)

theorem trans {a b c : Bool} {ps qs : List Piece} (hp : Placed a ps b) (hq : Placed b qs c) :
    Placed a (ps ++ qs) c := by
  induction hp with
  | @nil a b hb =>
    cases b with
    | false => exact hq.mono
    | true =>
      rw [hb rfl]
      exact hq
  | code ht hps ih => exact .code ht (ih hq)
  | name hps ih => exact .name (ih hq)
  | string hps ih => exact .string (ih hq)
  | raw ht hps ih => exact .raw ht (ih hq)
  | comment ht hps ih => exact .comment ht (ih hq)
  | padding hps ih => exact .padding (ih hq)

theorem append {a b : Bool} {ps qs : List Piece} (hp : Placed a ps false)
    (hq : Placed false qs b) : Placed a (ps ++ qs) b :=
  hp.trans hq

theorem separated {separator : String} (hs : isTemplate separator.toList = true)
    {parts : List (List Piece)} (h : ∀ part ∈ parts, Placed false part false) :
    Placed false (Piece.separated separator parts) false := by
  induction parts with
  | nil => exact empty
  | cons part parts ih =>
    have htail := ih fun other hother => h other (by simp [hother])
    cases parts with
    | nil => exact h part (by simp)
    | cons next parts => exact (h part (by simp)).append (.code hs htail.mono)

end Placed

/-! ## Reading -/

/-- From state `s` the text is read as the tokens `ts`, and no token is open at its end; if `b` is
true, nothing is pending there either. -/
structure Reads (s : ScanState) (cs : List Char) (ts : List Token) (b : Bool) : Prop where
  closed : (scan s cs).1.isClosed = true
  settled : b = true → (scan s cs).1 = .code
  tokens : lexFrom s cs = s.pending ++ ts

theorem Reads.append {s : ScanState} {cs ds : List Char} {ts us : List Token} {a b : Bool}
    (hc : Reads s cs ts a) (hd : Reads (scan s cs).1 ds us b) :
    Reads s (cs ++ ds) (ts ++ us) b where
  closed := by
    rw [scan_append]
    exact hd.closed
  settled hb := by
    rw [scan_append]
    exact hd.settled hb
  tokens := by
    rw [lexFrom_append, hd.tokens, ← List.append_assoc, ← lexFrom, hc.tokens, List.append_assoc]

/-- A text after which the scanner stands in code with nothing pending. -/
theorem reads_of_scan {s : ScanState} {cs : List Char} {ts : List Token}
    (h : scan s cs = (.code, s.pending ++ ts)) : Reads s cs ts true where
  closed := by rw [h]; rfl
  settled _ := by rw [h]
  tokens := by rw [lexFrom, h]; exact List.append_nil _

theorem reads_name {s : ScanState} (hs : s.isClosed = true) (text : String) :
    Reads s (Piece.name text).chars (Piece.name text).tokens false := by
  have hscan : scan s (nameChars text.toList) = (.nameEnd text.toList, s.pending) := by
    rw [nameChars, List.cons_append, scan_of_isFresh hs rfl, ← List.cons_append, ← nameChars,
      scan_nameChars, List.append_nil]
  refine ⟨?_, fun h => absurd h Bool.false_ne_true, ?_⟩
  · rw [Piece.chars, hscan]
    rfl
  · simp [lexFrom, Piece.chars, hscan, Piece.tokens, ScanState.pending]

theorem reads_string (value : String) :
    Reads .code (Piece.string value).chars (Piece.string value).tokens false := by
  refine ⟨?_, fun h => absurd h Bool.false_ne_true, ?_⟩
  · rw [Piece.chars, scan_literalChars]
    rfl
  · simp [lexFrom, Piece.chars, scan_literalChars, Piece.tokens, ScanState.pending]

theorem reads_comment {text : String} (h : '\n' ∉ text.toList) :
    Reads .code (Piece.comment text).chars (Piece.comment text).tokens true := by
  have hopen : scan .code ['-', '-', ' '] = (.comment [' '], []) := rfl
  have hchars : (Piece.comment text).chars = ['-', '-', ' '] ++ (text.toList ++ ['\n']) := rfl
  apply reads_of_scan
  rw [hchars, scan_append, hopen, scan_comment _ h]
  rfl

theorem reads_padding {s : ScanState} {a : Bool} (hs : s.isClosed = true)
    (ha : a = true → s = .code) (count : Nat) :
    Reads s (Piece.padding count).chars (Piece.padding count).tokens a := by
  cases count with
  | zero => exact ⟨hs, ha, (List.append_nil _).symm⟩
  | succ count =>
    have hplain : ∀ c ∈ List.replicate (count + 1) ' ', isPlain c = true := by
      intro c hc
      rw [List.eq_of_mem_replicate hc]
      rfl
    have hscan : scan s (List.replicate (count + 1) ' ')
        = (.code, s.pending ++ List.replicate (count + 1) (.code ' ')) := by
      rw [List.replicate_succ, scan_of_isFresh hs rfl, ← List.replicate_succ,
        scan_of_isPlain hplain, List.map_replicate]
    have h := reads_of_scan hscan
    exact ⟨h.closed, fun _ => h.settled rfl, h.tokens⟩

/-- By induction on the placement: each piece leaves the scanner where the next one fits. -/
theorem Placed.reads {s : ScanState} {a b : Bool} {ps : List Piece} (h : Placed a ps b)
    (hs : s.isClosed = true) (ha : a = true → s = .code) :
    Reads s (Piece.all ps) (ps.flatMap Piece.tokens) b := by
  induction h generalizing s with
  | nil hb => exact ⟨hs, fun h => ha (hb h), (List.append_nil _).symm⟩
  | code ht _ ih =>
    have hread := reads_of_scan (scan_of_isTemplate hs ht)
    exact hread.append (ih hread.closed fun _ => hread.settled rfl)
  | @name _ _ text _ _ ih =>
    have hread := reads_name hs text
    exact hread.append (ih hread.closed fun h => absurd h Bool.false_ne_true)
  | @string _ value _ _ ih =>
    obtain rfl := ha rfl
    have hread := reads_string value
    exact hread.append (ih hread.closed fun h => absurd h Bool.false_ne_true)
  | @raw _ text _ ht _ ih =>
    obtain rfl := ha rfl
    have hread : Reads .code (Piece.raw text).chars (Piece.raw text).tokens false :=
      ⟨ht, fun h => absurd h Bool.false_ne_true, rfl⟩
    exact hread.append (ih hread.closed fun h => absurd h Bool.false_ne_true)
  | comment ht _ ih =>
    obtain rfl := ha rfl
    have hread := reads_comment ht
    exact hread.append (ih hread.closed fun _ => hread.settled rfl)
  | @padding _ _ count _ _ ih =>
    have hread := reads_padding hs ha count
    exact hread.append (ih hread.closed hread.settled)

/-- A list that starts and ends in code. -/
theorem Placed.scan_all {ps : List Piece} (h : Placed true ps true) :
    scan .code (Piece.all ps) = (.code, ps.flatMap Piece.tokens) := by
  have hread := h.reads rfl fun _ => rfl
  have hcode : (scan .code (Piece.all ps)).1 = .code := hread.settled rfl
  have htokens : (scan .code (Piece.all ps)).2 = ps.flatMap Piece.tokens := by
    have hlex := hread.tokens
    rw [lexFrom, hcode] at hlex
    simpa [ScanState.pending] using hlex
  exact Prod.ext hcode htokens

theorem Placed.lex_all {ps : List Piece} {b : Bool} (h : Placed true ps b) :
    lex (Piece.all ps) = ps.flatMap Piece.tokens :=
  (h.reads rfl fun _ => rfl).tokens

theorem Placed.lex_append {ps : List Piece} (h : Placed true ps true) (cs : List Char) :
    lex (Piece.all ps ++ cs) = ps.flatMap Piece.tokens ++ lex cs := by
  rw [lex, lexFrom_append, h.scan_all, lex]

end SchemaScript
