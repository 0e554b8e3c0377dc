import SchemaScript.Proofs.Sql.Parentheses
import SchemaScript.Proofs.Unicode.WhiteSpace
import SchemaScript.Sql.Default

/-!
# SchemaScript.Proofs.Sql.Default

Which values stay within the parentheses of their DEFAULT clause. Numbers, calls and quoted texts
always do. A text that starts and ends with parentheses is taken over as it is, and it stays within
them if and only if it is balanced.

* `scanNumber_iff`: what the scan of a number accepts.
* `isBalanced_of_isNumber`, `isBalanced_of_isGeneratorCall`: the texts that need no quotes.
* `encodeDefault_isGroup_iff`: the clause of a value.
-/

namespace SchemaScript
namespace Sql

/-! ## Numbers -/

/-- The scan goes through digits and one point, and ends well if it has met a digit. By induction on
the rest of the text, with what was seen before it. -/
theorem scanNumber_iff {digit point : Bool} {cs : List Char} :
    scanNumber digit point cs = true ↔
      (∀ c ∈ cs, c.isDigit = true ∨ c = '.') ∧ cs.count '.' + point.toNat ≤ 1 ∧
        (digit = true ∨ cs.any Char.isDigit = true) := by
  induction cs generalizing digit point with
  | nil => cases point <;> simp [scanNumber]
  | cons c cs ih =>
    rw [scanNumber, List.forall_mem_cons, List.any_cons, Bool.or_eq_true]
    by_cases hdigit : c.isDigit = true
    · have hpoint : c ≠ '.' := by
        rintro rfl
        exact absurd hdigit (by decide)
      rw [if_pos hdigit, ih, List.count_cons_of_ne hpoint]
      simp [hdigit]
    · rw [if_neg hdigit]
      by_cases hpoint : c = '.'
      · subst hpoint
        cases point with
        | false => simp [ih, List.count_cons_self, hdigit]
        | true => simp
      · simp [hdigit, hpoint]

/-- A character that may stand in a number besides its sign. -/
def isFiller (c : Char) : Bool :=
  Unicode.isWhiteSpace c || c.isDigit || c == '.'

theorem ne_of_isFiller {c mark : Char} (hc : isFiller c = true) (hmark : isFiller mark = false) :
    c ≠ mark := by
  rintro rfl
  rw [hc] at hmark
  cases hmark

theorem isPlain_of_isFiller {c : Char} (hc : isFiller c = true) : isPlain c = true := by
  have hbracket : c ≠ '[' := ne_of_isFiller hc (by decide)
  have hquote : c ≠ '\'' := ne_of_isFiller hc (by decide)
  have hdash : c ≠ '-' := ne_of_isFiller hc (by decide)
  simp [isPlain, hbracket, hquote, hdash]

theorem exists_sign (cs : List Char) : ∃ sign ∈ [[], ['-'], ['+']], cs = sign ++ dropSign cs := by
  unfold dropSign
  split
  · exact ⟨['-'], by simp, rfl⟩
  · exact ⟨['+'], by simp, rfl⟩
  · exact ⟨[], by simp, rfl⟩

theorem isNumber_parts {text : String} (h : isNumber text = true) :
    ∃ before after, ∃ sign ∈ [[], ['-'], ['+']], text.toList = before ++ sign ++ after ∧
      (∀ c ∈ before, isFiller c = true) ∧ ∀ c ∈ after, isFiller c = true := by
  obtain ⟨hdigits, -⟩ := scanNumber_iff.mp h
  obtain ⟨left, right, htext, hleft, hright⟩ := Unicode.eq_append_trimChars_append text.toList
  obtain ⟨sign, hsign, htrim⟩ := exists_sign (Unicode.trimChars text.toList)
  refine ⟨left, dropSign (Unicode.trimChars text.toList) ++ right, sign, hsign, ?_, ?_, ?_⟩
  · rw [List.append_assoc, ← List.append_assoc sign, ← htrim, ← List.append_assoc, ← htext]
  · intro c hc
    simp [isFiller, hleft c hc]
  · intro c hc
    rcases List.mem_append.mp hc with hc | hc
    · rcases hdigits c hc with hdigit | hpoint
      · simp [isFiller, hdigit]
      · simp [isFiller, hpoint]
    · simp [isFiller, hright c hc]

theorem isQuiet_of_sign {before sign after : List Char} (hsign : sign ∈ [[], ['-'], ['+']])
    (hbefore : ∀ c ∈ before, isFiller c = true) (hafter : ∀ c ∈ after, isFiller c = true) :
    IsQuiet (before ++ sign ++ after) := by
  have hplainBefore : ∀ c ∈ before, isPlain c = true :=
    fun c hc => isPlain_of_isFiller (hbefore c hc)
  have hplainAfter : ∀ c ∈ after, isPlain c = true := fun c hc => isPlain_of_isFiller (hafter c hc)
  -- The dash is the only sign that could open a token, and it stands alone.
  by_cases hdash : sign = ['-']
  · rw [hdash, List.append_assoc]
    exact isQuiet_dash hplainBefore hplainAfter
  · have hplainSign : ∀ c ∈ sign, isPlain c = true := by
      simp only [List.mem_cons, List.not_mem_nil, or_false] at hsign
      rcases hsign with rfl | rfl | rfl
      · exact List.all_eq_true.mp rfl
      · exact absurd rfl hdash
      · exact List.all_eq_true.mp rfl
    refine isQuiet_of_isPlain fun c hc => ?_
    rcases List.mem_append.mp hc with hc | hc
    · rcases List.mem_append.mp hc with hc | hc
      · exact hplainBefore c hc
      · exact hplainSign c hc
    · exact hplainAfter c hc

/-- Apart from its sign, a number consists of fillers. -/
theorem not_mem_of_isNumber {text : String} {mark : Char} (h : isNumber text = true)
    (hfiller : isFiller mark = false) (hminus : mark ≠ '-') (hplus : mark ≠ '+') :
    mark ∉ text.toList := by
  intro hmem
  obtain ⟨before, after, sign, hsign, htext, hbefore, hafter⟩ := isNumber_parts h
  rw [htext, List.mem_append, List.mem_append] at hmem
  rcases hmem with (hmem | hmem) | hmem
  · exact ne_of_isFiller (hbefore mark hmem) hfiller rfl
  · simp only [List.mem_cons, List.not_mem_nil, or_false] at hsign
    rcases hsign with rfl | rfl | rfl
    · cases hmem
    · exact hminus (List.mem_singleton.mp hmem)
    · exact hplus (List.mem_singleton.mp hmem)
  · exact ne_of_isFiller (hafter mark hmem) hfiller rfl

/-- A number contains no parentheses, and at most one dash. -/
theorem isBalanced_of_isNumber {text : String} (h : isNumber text = true) :
    IsBalanced text.toList := by
  have hopen : '(' ∉ text.toList := not_mem_of_isNumber h (by decide) (by decide) (by decide)
  have hclose : ')' ∉ text.toList := not_mem_of_isNumber h (by decide) (by decide) (by decide)
  obtain ⟨before, after, sign, hsign, htext, hbefore, hafter⟩ := isNumber_parts h
  refine IsQuiet.isBalanced ?_ hopen hclose
  rw [htext]
  exact isQuiet_of_sign hsign hbefore hafter

/-! ## Calls -/

theorem isBalanced_of_isGeneratorCall {text : String} (h : isGeneratorCall text = true) :
    IsBalanced text.toList := by
  have hplain : ∀ call ∈ generatorCalls, isPlainText call = true := by decide
  have hbalanced : ∀ call ∈ generatorCalls, IsBalanced call.toList := by decide
  obtain ⟨call, hcall, hcase⟩ := List.any_eq_true.mp h
  rw [Unicode.equalsIgnoringAsciiCase, beq_iff_eq] at hcase
  exact .of_map_toLower_eq (isPlain_of_mem (hplain call hcall)) hcase.symm (hbalanced call hcall)

/-! ## The clause -/

theorem isParenthesized_parts {text : String} (h : isParenthesized text = true) :
    ∃ inner, text.toList = '(' :: inner ++ [')'] := by
  rw [isParenthesized, Bool.and_eq_true, beq_iff_eq, beq_iff_eq] at h
  obtain ⟨hhead, hlast⟩ := h
  obtain ⟨body, hbody⟩ := List.getLast?_eq_some_iff.mp hlast
  cases body with
  | nil =>
    rw [hbody] at hhead
    cases hhead
  | cons c inner =>
    rw [hbody] at hhead
    cases hhead
    exact ⟨inner, hbody⟩

theorem encodeDefault_literal {text e : String}
    (h : encodeDefault (some text) .literal = some e) : e = encodeLiteral text := by
  unfold encodeDefault defaultExpression at h
  split at h
  · cases h
  · split at h
    · cases h
    · rename_i hsome _
      cases hsome
      exact (Option.some.inj h).symm

/-- A value stays within the parentheses of its DEFAULT clause unless it starts and ends with
parentheses of its own and is not balanced. Such a text is not quoted, and whether its first
parenthesis is closed by its last depends on what stands between them. -/
theorem encodeDefault_isGroup_iff {text e : String}
    (h : encodeDefault (some text) .literal = some e) :
    (IsGroup ('(' :: e.toList ++ [')']) ↔
        (isParenthesized text = true → IsBalanced text.toList)) ∧
      (isParenthesized text = true → e = text ∧ ∃ inner, text.toList = '(' :: inner ++ [')'] ∧
        (IsGroup text.toList ↔ IsBalanced inner)) := by
  have he := encodeDefault_literal h
  rw [encodeLiteral, literalExpression] at he
  refine ⟨?_, fun hp => ⟨?_, ?_⟩⟩
  · rw [isGroup_parenthesized]
    split at he
    · rename_i hraw
      rw [he, Expression.text]
      rw [Bool.or_eq_true, Bool.or_eq_true] at hraw
      rcases hraw with (hnumber | hp) | hcall
      · have hbalanced := isBalanced_of_isNumber hnumber
        exact ⟨fun hb _ => hb, fun _ => hbalanced⟩
      · exact ⟨fun hb _ => hb, fun hb => hb hp⟩
      · have hbalanced := isBalanced_of_isGeneratorCall hcall
        exact ⟨fun hb _ => hb, fun _ => hbalanced⟩
    · rename_i hquoted
      have hnot : ¬ isParenthesized text = true := fun hp => hquoted (by simp [hp])
      rw [he, Expression.text, quote, String.toList_ofList]
      exact ⟨fun _ hp => absurd hp hnot, fun _ => isBalanced_literalChars _⟩
  · rw [he, if_pos (by simp [hp]), Expression.text]
  · obtain ⟨inner, htext⟩ := isParenthesized_parts hp
    refine ⟨inner, htext, ?_⟩
    rw [htext]
    exact isGroup_parenthesized inner

theorem encodeDefault_isGroup_sum :
    encodeDefault (some "(1+2)") .literal = some "(1+2)" ∧ IsGroup "((1+2))".toList := by
  have h : encodeDefault (some "(1+2)") .literal = some "(1+2)" := by decide
  exact ⟨h, (encodeDefault_isGroup_iff h).1.mpr fun _ => by decide⟩

/-- Parentheses at both ends do not make a text one expression. This one closes its clause after the
first number. -/
theorem encodeDefault_not_isGroup :
    encodeDefault (some "(1)); DROP TABLE Orders; SELECT ((1)") .literal
        = some "(1)); DROP TABLE Orders; SELECT ((1)" ∧
      ¬ IsGroup "((1)); DROP TABLE Orders; SELECT ((1))".toList ∧
      ¬ IsGroup "(1)); DROP TABLE Orders; SELECT ((1)".toList := by
  decide

end Sql
end SchemaScript
