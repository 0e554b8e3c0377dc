import SchemaScript.Proofs.Sql.Phrase
import SchemaScript.Proofs.Sql.Scan

/-!
# SchemaScript.Proofs.Sql.Tokens

Where a quoted text ends. A mark in the text is written twice, and the one that closes it stands once
behind all of these. So a reader that meets a mark looks at the next character, and it takes a run of
marks in pairs, however long it is: an odd one is the end of the text, as long as what follows does not
begin with the same mark.

* `takeLiteral`: reads a string literal, as `takeName` reads a name.
* `takeQuoted_eq_some_iff`: what is read is the text and its closing mark, and nothing behind it.
* `takeName_eq_some_iff`, `takeLiteral_eq_some_iff`: only quoted texts are read, and each as itself.
* `lexFrom_of_restart`: a token takes no part in what follows if its first character does not belong to
  it.
* `quoted_ends`: names and literals end where they were written to end.
-/

namespace SchemaScript
namespace Sql

/-- A text between two marks. The closing one is written twice where it belongs to the text. -/
def takeBetween (opening closing : Char) : Reader String
  | [] => none
  | c :: cs =>
    if c = opening then
      (takeQuoted closing cs).map fun (text, rest) => (String.ofList text, rest)
    else none

/-- A string literal. -/
def takeLiteral : Reader String :=
  takeBetween '\'' '\''

variable {opening closing q : Char} {cs rest text : List Char} {name value : String}

/-! ## The end of a quoted text -/

/-- By the recursion of the reader: it takes a pair of marks, a mark without a partner, which is the
end, or one other character. -/
theorem takeQuoted_parts (h : takeQuoted q cs = some (text, rest)) :
    cs = double q text ++ q :: rest ∧ rest.head? ≠ some q := by
  fun_induction takeQuoted q cs generalizing text with
  | case1 => cases h
  | case2 =>
    cases h
    exact ⟨rfl, by simp⟩
  | case3 => cases h
  | case4 cs ih =>
    obtain ⟨⟨front, rest⟩, hread, heq⟩ := Option.map_eq_some_iff.mp h
    cases heq
    obtain ⟨hcs, hrest⟩ := ih hread
    exact ⟨by rw [hcs, double_cons_self]; rfl, hrest⟩
  | case5 d cs hd =>
    cases h
    exact ⟨rfl, by simpa using hd⟩
  | case6 c d cs hc ih =>
    obtain ⟨⟨front, rest⟩, hread, heq⟩ := Option.map_eq_some_iff.mp h
    cases heq
    obtain ⟨hcs, hrest⟩ := ih hread
    exact ⟨by rw [hcs, double_cons_of_ne hc]; rfl, hrest⟩

theorem takeQuoted_eq_some_iff : takeQuoted q cs = some (text, rest) ↔
    cs = double q text ++ q :: rest ∧ rest.head? ≠ some q := by
  constructor
  · exact takeQuoted_parts
  · rintro ⟨rfl, hrest⟩
    exact takeQuoted_double text hrest

/-! ## Names and literals -/

/-- What is read between two marks is what stands there with its closing mark written twice. -/
theorem takeBetween_eq_some_iff : takeBetween opening closing cs = some (value, rest) ↔
    cs = opening :: (double closing value.toList ++ closing :: rest) ∧
      rest.head? ≠ some closing := by
  cases cs with
  | nil => simp [takeBetween]
  | cons c cs =>
    rw [takeBetween, List.cons.injEq, and_assoc, ← takeQuoted_eq_some_iff]
    constructor
    · intro h
      split at h
      · rename_i hc
        obtain ⟨⟨text, rest⟩, hread, heq⟩ := Option.map_eq_some_iff.mp h
        cases heq
        rw [String.toList_ofList]
        exact ⟨hc, hread⟩
      · cases h
    · rintro ⟨hc, hread⟩
      rw [if_pos hc, hread]
      simp only [Option.map_some, String.ofList_toList]

theorem takeName_eq_takeBetween : takeName cs = takeBetween '[' ']' cs := by
  cases cs with
  | nil => rfl
  | cons c cs =>
    by_cases hc : c = '['
    · rw [hc, takeName, takeBetween, if_pos rfl]
    · rw [takeBetween, if_neg hc, takeName]
      exact fun _ h => hc (List.cons.inj h).1

theorem takeName_eq_some_iff : takeName cs = some (name, rest) ↔
    cs = (quoteName name).toList ++ rest ∧ rest.head? ≠ some ']' := by
  have hchars : (quoteName name).toList ++ rest = '[' :: (double ']' name.toList ++ ']' :: rest) := by
    simp [quoteName, nameChars]
  rw [hchars, takeName_eq_takeBetween, takeBetween_eq_some_iff]

theorem takeLiteral_eq_some_iff : takeLiteral cs = some (value, rest) ↔
    cs = (quote value).toList ++ rest ∧ rest.head? ≠ some '\'' := by
  have hchars : (quote value).toList ++ rest
      = '\'' :: (double '\'' value.toList ++ '\'' :: rest) := by
    simp [quote, literalChars]
  rw [hchars, takeLiteral, takeBetween_eq_some_iff]

/-! ## Tokens of a text -/

/-- A token that has ended is complete, and what follows is read as from the start, unless its first
character belongs to the token. -/
theorem lexFrom_of_restart {s : ScanState} (h : ∀ c ∈ cs.head?, s.step c = s.restart c) :
    lexFrom s cs = s.pending ++ lex cs := by
  cases cs with
  | nil => simp [lex, lexFrom, ScanState.pending]
  | cons c cs =>
    have hcode : ScanState.code.step c = ScanState.start c := rfl
    rw [lexFrom, scan_cons, h c rfl, lex, lexFrom, scan_cons, hcode]
    simp only [ScanState.restart, List.append_assoc]

/-- A text of one token that may still go on, in front of a text with which it does not. -/
theorem lex_append_of_scan {s : ScanState} (hscan : scan .code cs = (s, []))
    (h : ∀ c ∈ rest.head?, s.step c = s.restart c) : lex (cs ++ rest) = s.pending ++ lex rest := by
  rw [lex, lexFrom_append, hscan, lexFrom_of_restart h, List.nil_append]

theorem lex_quoteName_append (name : String) (h : rest.head? ≠ some ']') :
    lex ((quoteName name).toList ++ rest) = .name name :: lex rest := by
  have hends : ∀ c ∈ rest.head?, (ScanState.nameEnd name.toList).step c
      = (ScanState.nameEnd name.toList).restart c := by
    intro c hc
    refine if_neg ?_
    rintro rfl
    exact h hc
  rw [quoteName, String.toList_ofList, lex_append_of_scan (scan_nameChars _) hends,
    ScanState.pending, String.ofList_toList]
  rfl

theorem lex_quote_append (value : String) (h : rest.head? ≠ some '\'') :
    lex ((quote value).toList ++ rest) = .string value :: lex rest := by
  have hends : ∀ c ∈ rest.head?, (ScanState.stringEnd value.toList).step c
      = (ScanState.stringEnd value.toList).restart c := by
    intro c hc
    refine if_neg ?_
    rintro rfl
    exact h hc
  rw [quote, String.toList_ofList, lex_append_of_scan (scan_literalChars _) hends,
    ScanState.pending, String.ofList_toList]
  rfl

/-! ## Where tokens end -/

/-- A name in brackets ends at its own bracket and a literal at its own quote, whatever is in them, and
whatever follows that does not begin with the same mark: a reader takes exactly the quoted text, it
gives back what was quoted, and the tokens behind it are those of what follows. Nothing but a quoted
text is read at all, and no two texts are quoted alike. -/
theorem quoted_ends :
    (∀ name rest, rest.head? ≠ some ']' →
      takeName ((quoteName name).toList ++ rest) = some (name, rest) ∧
      lex ((quoteName name).toList ++ rest) = .name name :: lex rest) ∧
    (∀ value rest, rest.head? ≠ some '\'' →
      takeLiteral ((quote value).toList ++ rest) = some (value, rest) ∧
      lex ((quote value).toList ++ rest) = .string value :: lex rest) ∧
    (∀ cs name rest, takeName cs = some (name, rest) →
      cs = (quoteName name).toList ++ rest ∧ rest.head? ≠ some ']') ∧
    (∀ cs value rest, takeLiteral cs = some (value, rest) →
      cs = (quote value).toList ++ rest ∧ rest.head? ≠ some '\'') ∧
    Function.Injective quoteName ∧ Function.Injective quote := by
  have hname (name : String) (rest : List Char) (h : rest.head? ≠ some ']') :
      takeName ((quoteName name).toList ++ rest) = some (name, rest) :=
    takeName_eq_some_iff.mpr ⟨rfl, h⟩
  have hliteral (value : String) (rest : List Char) (h : rest.head? ≠ some '\'') :
      takeLiteral ((quote value).toList ++ rest) = some (value, rest) :=
    takeLiteral_eq_some_iff.mpr ⟨rfl, h⟩
  refine ⟨fun name rest h => ⟨hname name rest h, lex_quoteName_append name h⟩,
    fun value rest h => ⟨hliteral value rest h, lex_quote_append value h⟩,
    fun _ _ _ => takeName_eq_some_iff.mp, fun _ _ _ => takeLiteral_eq_some_iff.mp,
    fun name name' heq => ?_, fun value value' heq => ?_⟩
  · have hread := hname name [] (by simp)
    rw [heq, hname name' [] (by simp)] at hread
    cases hread
    rfl
  · have hread := hliteral value [] (by simp)
    rw [heq, hliteral value' [] (by simp)] at hread
    cases hread
    rfl

/-- Marks at the end of the text, next to the one that closes it and behind other marks. -/
theorem quoted_ends_marks :
    ("'] --".toList.head? ≠ some ']' ∧
      takeName ((quoteName "a]]]").toList ++ "'] --".toList) = some ("a]]]", "'] --".toList)) ∧
    ("]''".toList.head? ≠ some '\'' ∧
      lex ((quote "''").toList ++ "]''".toList) = [.string "''", .code ']', .string ""]) ∧
    takeLiteral "'it''s' x".toList = some ("it's", " x".toList) ∧
    "'it''s' x".toList = (quote "it's").toList ++ " x".toList := by
  have hbracket : "'] --".toList.head? ≠ some ']' := by decide
  have hquote : "]''".toList.head? ≠ some '\'' := by decide
  have hread : takeLiteral "'it''s' x".toList = some ("it's", " x".toList) := by decide
  have hrest : lex "]''".toList = [.code ']', .string ""] := by decide
  refine ⟨⟨hbracket, (quoted_ends.1 _ _ hbracket).1⟩, ⟨hquote, ?_⟩, hread,
    (quoted_ends.2.2.2.1 _ _ _ hread).1⟩
  rw [(quoted_ends.2.1 _ _ hquote).2, hrest]

end Sql
end SchemaScript
