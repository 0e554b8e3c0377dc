import SchemaScript.Proofs.Text.Split
import SchemaScript.Proofs.Unicode.WhiteSpace
import SchemaScript.Sql.Comment

/-!
# SchemaScript.Proofs.Sql.Comment

A comment keeps to its line: the text in it has no control characters, nor white space at its ends.
The texts of which this is true already are those that folding leaves as they are.
-/

namespace SchemaScript
namespace Sql

theorem not_isControl_of_mem_commentChars {cs : List Char} {c : Char}
    (h : c ∈ commentChars cs) : Unicode.isControl c = false := by
  rcases Text.mem_join h with hc | ⟨part, hpart, hc⟩
  · rw [List.mem_singleton.mp hc]
    rfl
  · obtain ⟨raw, hraw, rfl⟩ := List.mem_map.mp (List.mem_filter.mp hpart).1
    exact Text.not_separator_of_mem_split hraw (Unicode.mem_of_mem_trimChars hc)

theorem lineFeed_not_mem_commentText (text : String) : '\n' ∉ (commentText text).toList := by
  intro h
  rw [commentText, String.toList_ofList] at h
  cases not_isControl_of_mem_commentChars h

/-- A text that stands on one line of its own: it has no control characters, and it neither starts nor
ends with white space. -/
structure IsFolded (cs : List Char) : Prop where
  noControl : ∀ c ∈ cs, Unicode.isControl c = false
  trimmed : Unicode.IsTrimmed cs

theorem isFolded_commentChars (cs : List Char) : IsFolded (commentChars cs) := by
  refine ⟨fun c => not_isControl_of_mem_commentChars, ?_⟩
  have hparts : ∀ part ∈ ((Text.split Unicode.isControl cs).map Unicode.trimChars).filter
      (!·.isEmpty), part ≠ [] ∧ Unicode.IsTrimmed part := by
    intro part hpart
    obtain ⟨hpart, hne⟩ := List.mem_filter.mp hpart
    obtain ⟨raw, -, rfl⟩ := List.mem_map.mp hpart
    exact ⟨by simpa using hne, Unicode.isTrimmed_trimChars raw⟩
  rw [commentChars]
  -- The first part is at the front of the text, and some part is at its end.
  generalize ((Text.split Unicode.isControl cs).map Unicode.trimChars).filter (!·.isEmpty) = parts
    at hparts
  cases parts with
  | nil => exact ⟨nofun, nofun⟩
  | cons part parts =>
    constructor
    · rw [Text.head?_join (hparts part List.mem_cons_self).1]
      exact (hparts part List.mem_cons_self).2.head
    · obtain ⟨last, hlast, hjoin⟩ := Text.exists_getLast?_join [' '] (List.cons_ne_nil part parts)
        fun p hp => (hparts p hp).1
      rw [hjoin]
      exact (hparts last hlast).2.last

theorem commentChars_eq_self_iff {cs : List Char} : commentChars cs = cs ↔ IsFolded cs := by
  constructor
  · intro h
    rw [← h]
    exact isFolded_commentChars cs
  · intro h
    rw [commentChars, Text.split_of_no_separator h.noControl, List.map_singleton,
      Unicode.trimChars_eq_self_iff.mpr h.trimmed]
    cases cs <;> rfl

theorem commentText_eq_self_iff {text : String} : commentText text = text ↔ IsFolded text.toList := by
  rw [← commentChars_eq_self_iff, commentText, ← String.toList_inj, String.toList_ofList]

theorem isFolded_commentText (text : String) : IsFolded (commentText text).toList := by
  rw [commentText, String.toList_ofList]
  exact isFolded_commentChars text.toList

end Sql
end SchemaScript
