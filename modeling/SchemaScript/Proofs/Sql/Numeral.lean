import SchemaScript.Proofs.Sql.Literal

/-!
# SchemaScript.Proofs.Sql.Numeral

Which values are taken over as they are. Of the numbers these are all numerals with a point in any
place or none, whatever white space stands around them, and nothing else.

* `IsUnsignedNumeral`, `IsNumeral`: the grammar of numerals.
* `isNumber_iff`: a text is recognised exactly if it is a numeral between white space.
* `quote_ne_self`: no text is the literal of itself.
* `encodeLiteral_eq_self_iff`: the values that are not quoted.
-/

namespace SchemaScript
namespace Sql

variable {cs : List Char} {text : String}

/-! ## The grammar -/

/-- Digits from `0` to `9`, at least one, with at most one point in front of them, among them or behind
them. -/
inductive IsUnsignedNumeral : List Char → Prop where
  | whole {digits : List Char} :
      digits ≠ [] → (∀ d ∈ digits, d.isDigit = true) → IsUnsignedNumeral digits
  | pointed {front back : List Char} :
      front ++ back ≠ [] → (∀ d ∈ front ++ back, d.isDigit = true) →
      IsUnsignedNumeral (front ++ '.' :: back)

/-- An unsigned numeral, perhaps behind one sign. -/
inductive IsNumeral : List Char → Prop where
  | unsigned {cs : List Char} : IsUnsignedNumeral cs → IsNumeral cs
  | signed {sign : Char} {cs : List Char} :
      sign ∈ ['-', '+'] → IsUnsignedNumeral cs → IsNumeral (sign :: cs)

/-- Only digits and a point stand in an unsigned numeral. -/
theorem IsUnsignedNumeral.digit_or_point (h : IsUnsignedNumeral cs) {c : Char} (hc : c ∈ cs) :
    c.isDigit = true ∨ c = '.' := by
  cases h with
  | whole _ hdigits => exact .inl (hdigits c hc)
  | @pointed front back _ hdigits =>
    rcases List.mem_append.mp hc with hc | hc
    · exact .inl (hdigits c (List.mem_append_left _ hc))
    · rcases List.mem_cons.mp hc with hc | hc
      · exact .inr hc
      · exact .inl (hdigits c (List.mem_append_right _ hc))

theorem point_not_mem_of_digits (h : ∀ d ∈ cs, d.isDigit = true) : '.' ∉ cs :=
  fun hmem => absurd (h '.' hmem) (by decide)

theorem IsUnsignedNumeral.any_isDigit (h : IsUnsignedNumeral cs) : cs.any Char.isDigit = true := by
  rw [List.any_eq_true]
  cases h with
  | whole hne hdigits =>
    obtain ⟨d, hd⟩ := List.exists_mem_of_ne_nil cs hne
    exact ⟨d, hd, hdigits d hd⟩
  | @pointed front back hne hdigits =>
    obtain ⟨d, hd⟩ := List.exists_mem_of_ne_nil _ hne
    refine ⟨d, ?_, hdigits d hd⟩
    rcases List.mem_append.mp hd with hd | hd
    · exact List.mem_append_left _ hd
    · exact List.mem_append_right _ (List.mem_cons_of_mem _ hd)

theorem IsUnsignedNumeral.count_point_le (h : IsUnsignedNumeral cs) : cs.count '.' ≤ 1 := by
  cases h with
  | whole _ hdigits =>
    rw [List.count_eq_zero_of_not_mem (point_not_mem_of_digits hdigits)]
    exact Nat.zero_le 1
  | @pointed front back _ hdigits =>
    have hnone := List.count_eq_zero_of_not_mem (point_not_mem_of_digits hdigits)
    rw [List.count_append] at hnone
    rw [List.count_append, List.count_cons_self]
    omega

/-! ## Recognising numerals -/

/-- The test of a number, once white space and a sign are gone, accepts the unsigned numerals. -/
theorem isUnsignedNumeral_iff : IsUnsignedNumeral cs ↔
    (∀ c ∈ cs, c.isDigit = true ∨ c = '.') ∧ cs.count '.' ≤ 1 ∧ cs.any Char.isDigit = true := by
  constructor
  · intro h
    exact ⟨fun c hc => h.digit_or_point hc, h.count_point_le, h.any_isDigit⟩
  · rintro ⟨hchars, hcount, hany⟩
    obtain ⟨d, hd, hdigit⟩ := List.any_eq_true.mp hany
    by_cases hpoint : '.' ∈ cs
    · obtain ⟨front, back, rfl⟩ := List.append_of_mem hpoint
      rw [List.count_append, List.count_cons_self] at hcount
      -- The one point is the one that the text was cut at.
      have hnone : '.' ∉ front ++ back := by
        rw [← List.count_eq_zero, List.count_append]
        omega
      refine .pointed (fun hnil => ?_) fun c hc => ?_
      · obtain ⟨rfl, rfl⟩ := List.append_eq_nil_iff.mp hnil
        rw [List.mem_singleton.mp hd] at hdigit
        exact absurd hdigit (by decide)
      · have hmem : c ∈ front ++ '.' :: back := by
          rcases List.mem_append.mp hc with hc | hc
          · exact List.mem_append_left _ hc
          · exact List.mem_append_right _ (List.mem_cons_of_mem _ hc)
        exact (hchars c hmem).resolve_right fun heq => hnone (heq ▸ hc)
    · refine .whole (List.ne_nil_of_mem hd) fun c hc => ?_
      exact (hchars c hc).resolve_right fun heq => hpoint (heq ▸ hc)

/-- An unsigned numeral does not begin with a sign. -/
theorem IsUnsignedNumeral.dropSign (h : IsUnsignedNumeral cs) : dropSign cs = cs := by
  unfold Sql.dropSign
  split
  · exact absurd (h.digit_or_point List.mem_cons_self) (by decide)
  · exact absurd (h.digit_or_point List.mem_cons_self) (by decide)
  · rfl

theorem isNumeral_iff : IsNumeral cs ↔ IsUnsignedNumeral (dropSign cs) := by
  constructor
  · intro h
    cases h with
    | unsigned h => rwa [h.dropSign]
    | signed hsign h =>
      simp only [List.mem_cons, List.not_mem_nil, or_false] at hsign
      rcases hsign with rfl | rfl
      · exact h
      · exact h
  · intro h
    obtain ⟨sign, hsign, hcs⟩ := exists_sign cs
    simp only [List.mem_cons, List.not_mem_nil, or_false] at hsign
    rcases hsign with rfl | rfl | rfl
    · rw [hcs]
      exact .unsigned h
    · rw [hcs]
      exact .signed (by simp) h
    · rw [hcs]
      exact .signed (by simp) h

theorem isNumber_iff : isNumber text = true ↔ IsNumeral (Unicode.trim text).toList := by
  rw [isNumeral_iff, isUnsignedNumeral_iff, Unicode.trim, String.toList_ofList, isNumber,
    scanNumber_iff]
  simp

/-! ## Texts that are not quoted -/

theorem isParenthesized_iff :
    isParenthesized text = true ↔ ∃ inner, text.toList = '(' :: inner ++ [')'] := by
  constructor
  · exact isParenthesized_parts
  · rintro ⟨inner, htext⟩
    rw [isParenthesized, htext, List.getLast?_concat]
    rfl

theorem length_le_length_double (q : Char) (cs : List Char) : cs.length ≤ (double q cs).length := by
  induction cs with
  | nil => exact Nat.le_refl 0
  | cons c cs ih =>
    by_cases hc : c = q
    · subst hc
      rw [double_cons_self, List.length_cons, List.length_cons, List.length_cons]
      omega
    · rw [double_cons_of_ne hc, List.length_cons, List.length_cons]
      omega

/-- A literal is longer than its value. -/
theorem quote_ne_self (text : String) : quote text ≠ text := by
  intro h
  have hlength := congrArg (fun s => s.toList.length) h
  have hdouble := length_le_length_double '\'' text.toList
  simp only [quote, literalChars, String.toList_ofList, List.length_append, List.length_cons,
    List.length_nil] at hlength
  omega

/-- A value is taken over as it is exactly if it is a numeral between white space, starts and ends with
parentheses, or is one of the generator calls, in any case but with nothing around it. Every other value
is quoted, and so it is changed. -/
theorem encodeLiteral_eq_self_iff (text : String) :
    (encodeLiteral text = text ↔
      IsNumeral (Unicode.trim text).toList ∨
        (∃ inner, text.toList = '(' :: inner ++ [')']) ∨
        ∃ call ∈ generatorCalls, Unicode.equalsIgnoringAsciiCase call text = true) ∧
    (encodeLiteral text = text ∨ encodeLiteral text = quote text) ∧
    quote text ≠ text := by
  have hkept : isKept text = true ↔
      IsNumeral (Unicode.trim text).toList ∨
        (∃ inner, text.toList = '(' :: inner ++ [')']) ∨
        ∃ call ∈ generatorCalls, Unicode.equalsIgnoringAsciiCase call text = true := by
    rw [isKept, Bool.or_eq_true, Bool.or_eq_true, or_assoc, isNumber_iff, isParenthesized_iff,
      isGeneratorCall, List.any_eq_true]
  rw [← hkept]
  by_cases h : isKept text = true
  · have hsame := encodeLiteral_of_isKept h
    exact ⟨⟨fun _ => h, fun _ => hsame⟩, .inl hsame, quote_ne_self text⟩
  · have hquoted := encodeLiteral_of_not_isKept h
    refine ⟨⟨fun hsame => ?_, fun hkept => absurd hkept h⟩, .inr hquoted, quote_ne_self text⟩
    exact absurd (hquoted.symm.trans hsame) (quote_ne_self text)

/-- A sign alone and a point alone are no numerals, a digit beside a point is one. -/
example : ["-", ".", "+.", "1.2.3", "--1", "5.", "-.5", "\u2003+12.50 "].map
      (fun text => encodeLiteral text == text)
    = [false, false, false, false, false, true, true, true] := by
  decide

end Sql
end SchemaScript
