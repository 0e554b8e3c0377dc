import Mathlib.Data.List.TakeWhile
import SchemaScript.Unicode.WhiteSpace

/-!
# SchemaScript.Proofs.Unicode.WhiteSpace

The characters of white space, and what trimming leaves of a text.

* `mem_whiteSpaceCodes`: white space is a short list of code points, over which facts are decided.
* `trimLeft_cons`, `trimRight_concat`: trimming, one character at a time.
* `eq_append_trimChars_append`: a text is what trimming leaves of it, between white space.
* `trim_trim`, `isBlank_of_isBlank_trim`: trimming once is enough.
* `isBlank_iff_trim_eq`: nothing is left of a blank text.
* `trimChars_eq_self_iff`: a text that trimming leaves as it is has no white space at its ends.
* `trimChars_append`: white space around such a text is trimmed off.
-/

namespace SchemaScript
namespace Unicode

/-! ## Code points -/

/-- The code points between the first boundary and the second, the third and the fourth, … -/
def CodePointSet.codes : List Nat → List Nat
  | first :: next :: bs => List.range' first (next - first) ++ codes bs
  | _ => []

theorem CodePointSet.mem_codes {bs : List Nat} {n : Nat} (heven : bs.length % 2 = 0)
    (h : containsFrom false bs n = true) : n ∈ codes bs := by
  fun_induction codes bs with
  | case1 first next bs ih =>
    simp only [containsFrom] at h
    rw [List.mem_append, List.mem_range'_1]
    split at h
    · cases h
    · rename_i hfirst
      split at h
      · exact .inl ⟨by omega, by omega⟩
      · exact .inr (ih (by simp only [List.length_cons] at heven; omega) h)
  | case2 bs hbs =>
    rcases bs with _ | ⟨first, _ | ⟨next, rest⟩⟩
    · cases h
    · cases heven
    · exact absurd rfl (hbs first next rest)

/-- The code points of white space. -/
def whiteSpaceCodes : List Nat :=
  CodePointSet.codes whiteSpace.boundaries

theorem mem_whiteSpaceCodes {c : Char} (h : isWhiteSpace c = true) : c.toNat ∈ whiteSpaceCodes :=
  CodePointSet.mem_codes rfl h

/-! ## Trimming -/

theorem trimLeft_cons (c : Char) (cs : List Char) :
    trimLeft (c :: cs) = if isWhiteSpace c then trimLeft cs else c :: cs := by
  rw [trimLeft, List.dropWhile_cons]
  rfl

theorem trimRight_concat (cs : List Char) (c : Char) :
    trimRight (cs ++ [c]) = if isWhiteSpace c then trimRight cs else cs ++ [c] := by
  rw [trimRight, List.reverse_append, List.reverse_singleton, List.singleton_append, trimLeft_cons]
  split
  · rfl
  · rw [List.reverse_cons, List.reverse_reverse]

theorem mem_of_mem_trimLeft {cs : List Char} {c : Char} (h : c ∈ trimLeft cs) : c ∈ cs :=
  (List.dropWhile_sublist _).subset h

theorem mem_of_mem_trimChars {cs : List Char} {c : Char} (h : c ∈ trimChars cs) : c ∈ cs := by
  rw [trimChars, trimRight, List.mem_reverse] at h
  exact mem_of_mem_trimLeft (List.mem_reverse.mp (mem_of_mem_trimLeft h))

/-- A text is what trimming leaves of it, between white space. -/
theorem eq_append_trimChars_append (cs : List Char) :
    ∃ left right, cs = left ++ trimChars cs ++ right ∧
      (∀ c ∈ left, isWhiteSpace c = true) ∧ ∀ c ∈ right, isWhiteSpace c = true := by
  have hleft : cs = cs.takeWhile isWhiteSpace ++ trimLeft cs := List.takeWhile_append_dropWhile.symm
  have hright : trimLeft cs
      = trimChars cs ++ ((trimLeft cs).reverse.takeWhile isWhiteSpace).reverse := by
    rw [trimChars, trimRight, ← List.reverse_append]
    unfold trimLeft
    rw [List.takeWhile_append_dropWhile, List.reverse_reverse]
  refine ⟨cs.takeWhile isWhiteSpace, ((trimLeft cs).reverse.takeWhile isWhiteSpace).reverse,
    ?_, fun c hc => ?_, fun c hc => ?_⟩
  · rw [List.append_assoc, ← hright, ← hleft]
  · exact List.all_eq_true.mp List.all_takeWhile c hc
  · exact List.all_eq_true.mp List.all_takeWhile c (List.mem_reverse.mp hc)

/-- Only white space is trimmed. -/
theorem mem_trimChars {cs : List Char} {c : Char} (h : c ∈ cs) (hc : isWhiteSpace c = false) :
    c ∈ trimChars cs := by
  obtain ⟨left, right, hcs, hleft, hright⟩ := eq_append_trimChars_append cs
  rw [hcs, List.mem_append, List.mem_append] at h
  rcases h with (h | h) | h
  · rw [hleft c h] at hc
    cases hc
  · exact h
  · rw [hright c h] at hc
    cases hc

theorem trimLeft_trimLeft (cs : List Char) : trimLeft (trimLeft cs) = trimLeft cs := by
  induction cs with
  | nil => rfl
  | cons c cs ih =>
    rw [trimLeft_cons]
    split
    · exact ih
    · rename_i hc
      rw [trimLeft_cons, if_neg hc]

theorem trimRight_trimRight (cs : List Char) : trimRight (trimRight cs) = trimRight cs := by
  rw [trimRight, trimRight, List.reverse_reverse, trimLeft_trimLeft]

theorem trimRight_prefix (cs : List Char) : trimRight cs <+: cs := by
  have h : trimLeft cs.reverse <:+ cs.reverse := List.dropWhile_suffix isWhiteSpace
  simpa [trimRight] using List.reverse_prefix.mpr h

/-- What is left after trimming at the front does not begin with white space, nor does a part of it
from the front. -/
theorem trimLeft_trimRight_trimLeft (cs : List Char) :
    trimLeft (trimRight (trimLeft cs)) = trimRight (trimLeft cs) := by
  have hfixed := trimLeft_trimLeft cs
  obtain ⟨tail, htail⟩ := trimRight_prefix (trimLeft cs)
  cases hr : trimRight (trimLeft cs) with
  | nil => rfl
  | cons c ds =>
    rw [hr, List.cons_append] at htail
    rw [← htail, trimLeft_cons] at hfixed
    split at hfixed
    · have hlength := congrArg List.length hfixed
      have hle := (List.dropWhile_sublist isWhiteSpace (l := ds ++ tail)).length_le
      simp only [trimLeft, List.length_cons] at hlength
      omega
    · rename_i hc
      rw [trimLeft_cons, if_neg hc]

theorem trim_trim (s : String) : trim (trim s) = trim s := by
  rw [trim, trim, String.toList_ofList, trimChars, trimChars, trimLeft_trimRight_trimLeft,
    trimRight_trimRight]

theorem isBlank_of_isBlank_trim {s : String} (h : isBlank (trim s) = true) : isBlank s = true := by
  obtain ⟨left, right, hs, hleft, hright⟩ := eq_append_trimChars_append s.toList
  rw [isBlank, trim, String.toList_ofList, List.all_eq_true] at h
  rw [isBlank, List.all_eq_true, hs]
  intro c hc
  rcases List.mem_append.mp hc with hc | hc
  · exact (List.mem_append.mp hc).elim (hleft c) (h c)
  · exact hright c hc

theorem trimChars_eq_nil {cs : List Char} (h : ∀ c ∈ cs, isWhiteSpace c = true) :
    trimChars cs = [] := by
  have hleft : trimLeft cs = [] := List.dropWhile_eq_nil_iff.mpr h
  rw [trimChars, hleft]
  rfl

theorem isBlank_iff_trim_eq {s : String} : isBlank s = true ↔ trim s = "" := by
  constructor
  · intro h
    rw [trim, trimChars_eq_nil (List.all_eq_true.mp h)]
  · intro h
    exact isBlank_of_isBlank_trim (by rw [h]; rfl)

/-! ## Texts that are trimmed -/

/-- A text that neither starts nor ends with white space. -/
structure IsTrimmed (cs : List Char) : Prop where
  head : ∀ c ∈ cs.head?, isWhiteSpace c = false
  last : ∀ c ∈ cs.getLast?, isWhiteSpace c = false

theorem trimLeft_eq_self_iff {cs : List Char} :
    trimLeft cs = cs ↔ ∀ c ∈ cs.head?, isWhiteSpace c = false := by
  rw [trimLeft, List.dropWhile_eq_self_iff]
  cases cs <;> simp

theorem trimRight_eq_self_iff {cs : List Char} :
    trimRight cs = cs ↔ ∀ c ∈ cs.getLast?, isWhiteSpace c = false := by
  rw [trimRight, List.reverse_eq_iff, trimLeft_eq_self_iff, List.head?_reverse]

theorem isTrimmed_trimChars (cs : List Char) : IsTrimmed (trimChars cs) where
  head := trimLeft_eq_self_iff.mp (trimLeft_trimRight_trimLeft cs)
  last := trimRight_eq_self_iff.mp (trimRight_trimRight (trimLeft cs))

theorem trimChars_eq_self_iff {cs : List Char} : trimChars cs = cs ↔ IsTrimmed cs := by
  constructor
  · intro h
    rw [← h]
    exact isTrimmed_trimChars cs
  · intro h
    rw [trimChars, trimLeft_eq_self_iff.mpr h.head, trimRight_eq_self_iff.mpr h.last]

/-- White space around a text that has none at its ends is what trimming takes away. -/
theorem trimChars_append {left cs right : List Char} (hleft : ∀ c ∈ left, isWhiteSpace c = true)
    (hcs : IsTrimmed cs) (hright : ∀ c ∈ right, isWhiteSpace c = true) :
    trimChars (left ++ cs ++ right) = cs := by
  cases cs with
  | nil =>
    refine trimChars_eq_nil fun c hc => ?_
    rw [List.append_nil] at hc
    exact (List.mem_append.mp hc).elim (hleft c) (hright c)
  | cons c cs =>
    have hfront : trimLeft (left ++ (c :: cs ++ right)) = c :: cs ++ right := by
      rw [trimLeft, List.dropWhile_append_of_pos hleft]
      exact trimLeft_eq_self_iff.mpr hcs.head
    have hback : trimRight (c :: cs ++ right) = c :: cs := by
      rw [trimRight, List.reverse_append, trimLeft, List.dropWhile_append_of_pos, ← trimLeft,
        ← trimRight, trimRight_eq_self_iff.mpr hcs.last]
      exact fun d hd => hright d (List.mem_reverse.mp hd)
    rw [trimChars, List.append_assoc, hfront, hback]

end Unicode
end SchemaScript
