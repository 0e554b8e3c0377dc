import SchemaScript.Text.Split

/-!
# SchemaScript.Proofs.Text.Split

Which characters stand in the parts of a text that is cut, and in parts that are joined, and which
stand at the ends of what is joined; how a text is cut that has a separator at a known place, and that
its parts there are determined.
-/

namespace SchemaScript
namespace Text

/-- Two texts that are cut at the first place of a character agree piece by piece. -/
theorem append_cons_inj_of_not_mem {α : Type} {a : α} {front front' back back' : List α}
    (hfront : a ∉ front) (hfront' : a ∉ front') (h : front ++ a :: back = front' ++ a :: back') :
    front = front' ∧ back = back' := by
  induction front generalizing front' with
  | nil =>
    cases front' with
    | nil => exact ⟨rfl, (List.cons.inj h).2⟩
    | cons b front' => exact absurd ((List.cons.inj h).1 ▸ List.mem_cons_self) hfront'
  | cons b front ih =>
    cases front' with
    | nil => exact absurd ((List.cons.inj h).1 ▸ List.mem_cons_self) hfront
    | cons b' front' =>
      obtain ⟨rfl, hrest⟩ := List.cons.inj h
      obtain ⟨rfl, rfl⟩ := ih (fun hb => hfront (List.mem_cons_of_mem _ hb))
        (fun hb => hfront' (List.mem_cons_of_mem _ hb)) hrest
      exact ⟨rfl, rfl⟩

theorem split_cons_of_separator {p : Char → Bool} {c : Char} (hc : p c = true) (cs : List Char) :
    split p (c :: cs) = [] :: split p cs := by
  simp [split, hc]

/-- A character that does not separate goes to the front of the first part. -/
theorem split_cons_of_not_separator {p : Char → Bool} {c : Char} (hc : p c = false)
    (cs : List Char) :
    ∃ part parts, split p cs = part :: parts ∧ split p (c :: cs) = (c :: part) :: parts := by
  cases hs : split p cs with
  | nil => exact absurd hs (split_ne_nil p cs)
  | cons part parts => exact ⟨part, parts, rfl, by simp [split, hc, hs]⟩

theorem split_append_separator {p : Char → Bool} {s : Char} (hs : p s = true)
    (as bs : List Char) : split p (as ++ s :: bs) = split p as ++ split p bs := by
  induction as with
  | nil => rw [List.nil_append, split_cons_of_separator hs, split, List.singleton_append]
  | cons a as ih =>
    cases ha : p a with
    | true => rw [List.cons_append, split_cons_of_separator ha, split_cons_of_separator ha, ih,
        List.cons_append]
    | false =>
      obtain ⟨part, parts, has, hsplit⟩ := split_cons_of_not_separator ha as
      rw [List.cons_append, hsplit, split, ha, if_neg Bool.false_ne_true, ih, has]
      rfl

theorem split_of_no_separator {p : Char → Bool} {cs : List Char} (h : ∀ c ∈ cs, p c = false) :
    split p cs = [cs] := by
  induction cs with
  | nil => rfl
  | cons c cs ih =>
    rw [split, h c List.mem_cons_self, if_neg Bool.false_ne_true,
      ih fun d hd => h d (List.mem_cons_of_mem _ hd)]

theorem not_separator_of_mem_split {p : Char → Bool} {cs part : List Char} {c : Char}
    (hpart : part ∈ split p cs) (hc : c ∈ part) : p c = false := by
  induction cs generalizing part with
  | nil =>
    simp only [split, List.mem_singleton] at hpart
    subst hpart
    cases hc
  | cons d cs ih =>
    cases hd : p d with
    | true =>
      rw [split_cons_of_separator hd] at hpart
      rcases List.mem_cons.mp hpart with rfl | hpart
      · cases hc
      · exact ih hpart hc
    | false =>
      obtain ⟨first, rest, hs, hsplit⟩ := split_cons_of_not_separator hd cs
      rw [hsplit] at hpart
      rcases List.mem_cons.mp hpart with rfl | hpart
      · rcases List.mem_cons.mp hc with rfl | hc
        · exact hd
        · exact ih (by simp [hs]) hc
      · exact ih (by simp [hs, hpart]) hc

theorem mem_join {separator : List Char} {parts : List (List Char)} {c : Char}
    (hc : c ∈ join separator parts) : c ∈ separator ∨ ∃ part ∈ parts, c ∈ part := by
  induction parts with
  | nil => cases hc
  | cons part parts ih =>
    cases parts with
    | nil => exact .inr ⟨part, by simp, hc⟩
    | cons next parts =>
      simp only [join, List.mem_append] at hc
      rcases hc with (hc | hc) | hc
      · exact .inr ⟨part, by simp, hc⟩
      · exact .inl hc
      · rcases ih hc with hc | ⟨other, hother, hc⟩
        · exact .inl hc
        · exact .inr ⟨other, by simp [hother], hc⟩

theorem join_cons_cons (separator part next : List Char) (parts : List (List Char)) :
    join separator (part :: next :: parts) = part ++ separator ++ join separator (next :: parts) :=
  rfl

theorem join_eq_intercalate (separator : List Char) (parts : List (List Char)) :
    join separator parts = separator.intercalate parts := by
  induction parts with
  | nil => rfl
  | cons part parts ih =>
    cases parts with
    | nil => simp [join]
    | cons next parts => rw [join_cons_cons, ih, List.intercalate_cons_cons]

theorem join_cons_head (separator : List Char) (c : Char) (part : List Char)
    (parts : List (List Char)) :
    join separator ((c :: part) :: parts) = c :: join separator (part :: parts) := by
  cases parts <;> rfl

/-- Nothing is lost where a text is cut. -/
theorem join_split (s : Char) (cs : List Char) : join [s] (split (· == s) cs) = cs := by
  induction cs with
  | nil => rfl
  | cons c cs ih =>
    by_cases hc : c = s
    · obtain ⟨part, parts, hparts⟩ := List.exists_cons_of_ne_nil (split_ne_nil (· == s) cs)
      rw [split_cons_of_separator (by simpa using hc), hparts, join_cons_cons, ← hparts, ih, hc]
      rfl
    · obtain ⟨part, parts, hparts, hsplit⟩ :=
        split_cons_of_not_separator (p := (· == s)) (by simpa using hc) cs
      rw [hsplit, join_cons_head, ← hparts, ih]

/-- What is cut at separators that stand in no part comes apart as it was joined. -/
theorem split_join {s : Char} {parts : List (List Char)} (hne : parts ≠ [])
    (h : ∀ part ∈ parts, s ∉ part) : split (· == s) (join [s] parts) = parts := by
  have hpart : ∀ part ∈ parts, split (· == s) part = [part] := by
    intro part hmem
    refine split_of_no_separator fun c hc => ?_
    rw [beq_eq_false_iff_ne]
    rintro rfl
    exact h part hmem hc
  clear h
  induction parts with
  | nil => exact absurd rfl hne
  | cons part parts ih =>
    cases parts with
    | nil => exact hpart part List.mem_cons_self
    | cons next parts =>
      rw [join_cons_cons, List.append_assoc, List.singleton_append,
        split_append_separator (p := (· == s)) (beq_self_eq_true s), hpart part List.mem_cons_self,
        ih (List.cons_ne_nil _ _) fun other hother => hpart other (List.mem_cons_of_mem _ hother)]
      rfl

theorem head?_join {separator part : List Char} (h : part ≠ []) (parts : List (List Char)) :
    (join separator (part :: parts)).head? = part.head? := by
  cases parts with
  | nil => rfl
  | cons next parts =>
    obtain ⟨c, cs, rfl⟩ := List.exists_cons_of_ne_nil h
    rw [join_cons_cons]
    rfl

/-- Parts that are not empty, joined, end as one of them does. -/
theorem exists_getLast?_join (separator : List Char) {parts : List (List Char)}
    (hne : parts ≠ []) (h : ∀ part ∈ parts, part ≠ []) :
    ∃ part ∈ parts, (join separator parts).getLast? = part.getLast? := by
  induction parts with
  | nil => exact absurd rfl hne
  | cons part parts ih =>
    cases parts with
    | nil => exact ⟨part, List.mem_cons_self, rfl⟩
    | cons next parts =>
      obtain ⟨last, hlast, hjoin⟩ :=
        ih (List.cons_ne_nil _ _) fun p hp => h p (List.mem_cons_of_mem _ hp)
      have hsome : last.getLast?.isSome = true := by
        rw [List.getLast?_isSome]
        exact h last (List.mem_cons_of_mem _ hlast)
      refine ⟨last, List.mem_cons_of_mem _ hlast, ?_⟩
      rw [join_cons_cons, List.getLast?_append, hjoin, Option.or_of_isSome hsome]

end Text
end SchemaScript
