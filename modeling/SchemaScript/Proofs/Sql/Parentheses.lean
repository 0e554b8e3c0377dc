import SchemaScript.Proofs.Sql.Scan
import SchemaScript.Proofs.Unicode.Casing

/-!
# SchemaScript.Proofs.Sql.Parentheses

How deep a text is in parentheses. Only parentheses in code count, not those in names, strings and
comments.

* `openParens`: the parentheses that are open after a text.
* `IsGroup`: a text whose first character is a parenthesis that its last character closes.
* `IsBalanced`: a text that closes what it opens and nothing else.
* `isGroup_parenthesized`: parentheses around a text are a group if and only if it is balanced.
-/

namespace SchemaScript
namespace Sql

/-- By how much a token changes the number of open parentheses. -/
def Token.rise : Token → Int
  | code c => if c = '(' then 1 else if c = ')' then -1 else 0
  | name _ | string _ | comment _ => 0

/-- By how much several tokens change the number of open parentheses. -/
def rise : List Token → Int
  | [] => 0
  | t :: ts => t.rise + rise ts

/-- The parentheses that are open after a text. -/
def openParens (cs : List Char) : Int :=
  rise (scan .code cs).2

/-- The first character is a parenthesis, and the last character closes it. -/
structure IsGroup (cs : List Char) : Prop where
  opens : cs.head? = some '('
  inside : ∀ n < cs.length, 0 < n → 0 < openParens (cs.take n)
  closes : openParens cs = 0

/-- A closed text in which every parenthesis has its partner. -/
structure IsBalanced (cs : List Char) : Prop where
  closed : IsClosed cs
  inside : ∀ n < cs.length, 0 ≤ openParens (cs.take n)
  level : openParens cs = 0

instance (cs : List Char) : Decidable (IsGroup cs) :=
  decidable_of_iff (cs.head? = some '(' ∧ (∀ n < cs.length, 0 < n → 0 < openParens (cs.take n)) ∧
      openParens cs = 0)
    ⟨fun h => ⟨h.1, h.2.1, h.2.2⟩, fun h => ⟨h.opens, h.inside, h.closes⟩⟩

instance (cs : List Char) : Decidable (IsBalanced cs) :=
  decidable_of_iff (IsClosed cs ∧ (∀ n < cs.length, 0 ≤ openParens (cs.take n)) ∧
      openParens cs = 0)
    ⟨fun h => ⟨h.1, h.2.1, h.2.2⟩, fun h => ⟨h.closed, h.inside, h.level⟩⟩

/-! ## Counting -/

theorem rise_append (ts us : List Token) : rise (ts ++ us) = rise ts + rise us := by
  induction ts with
  | nil => simp [rise]
  | cons t ts ih =>
    rw [List.cons_append, rise, rise, ih]
    omega

theorem rise_eq_zero {ts : List Token} (h : ∀ t ∈ ts, t.rise = 0) : rise ts = 0 := by
  induction ts with
  | nil => rfl
  | cons t ts ih => rw [rise, h t (by simp), ih fun u hu => h u (by simp [hu])]; rfl

theorem rise_pending (s : ScanState) : rise s.pending = 0 := by
  cases s <;> rfl

/-- The tokens that a prefix completes are a prefix of those that the text completes. -/
theorem mem_scan_take {s : ScanState} {cs : List Char} {n : Nat} {t : Token}
    (h : t ∈ (scan s (cs.take n)).2) : t ∈ (scan s cs).2 := by
  rw [← List.take_append_drop n cs, scan_append]
  exact List.mem_append_left _ h

/-- A parenthesis in front is one more that is open. -/
theorem openParens_cons_open (cs : List Char) : openParens ('(' :: cs) = 1 + openParens cs := by
  have hopen : ScanState.code.step '(' = (.code, [.code '(']) := rfl
  rw [openParens, scan_cons, hopen, rise_append]
  rfl

/-- A parenthesis at the end closes one, but only where the text before it is closed. -/
theorem openParens_concat_close (cs : List Char) :
    openParens (cs ++ [')']) = openParens cs + if IsClosed cs then -1 else 0 := by
  rw [openParens, scan_append, rise_append, ← openParens, scan_cons, scan_nil, List.append_nil]
  congr 1
  by_cases hs : IsClosed cs
  · have hrestart : (scan .code cs).1.step ')' = (scan .code cs).1.restart ')' :=
      step_of_isFresh hs rfl
    rw [if_pos hs, hrestart, ScanState.restart, rise_append, rise_pending]
    rfl
  · rw [if_neg hs]
    rw [IsClosed] at hs
    generalize (scan .code cs).1 = s at hs ⊢
    cases s with
    | name read => rfl
    | string read => rfl
    | comment read => rfl
    | code => exact absurd rfl hs
    | dash => exact absurd rfl hs
    | nameEnd read => exact absurd rfl hs
    | stringEnd read => exact absurd rfl hs

/-! ## Groups -/

theorem take_parenthesized {cs : List Char} {n : Nat} (hn : n ≤ cs.length) :
    ('(' :: cs ++ [')']).take (n + 1) = '(' :: cs.take n := by
  rw [List.cons_append, List.take_succ_cons, List.take_append_of_le_length hn]

/-- Parentheses around a text are a group if and only if the text is balanced. -/
theorem isGroup_parenthesized (cs : List Char) :
    IsGroup ('(' :: cs ++ [')']) ↔ IsBalanced cs := by
  have htotal : openParens ('(' :: cs ++ [')'])
      = 1 + (openParens cs + if IsClosed cs then -1 else 0) := by
    rw [List.cons_append, openParens_cons_open, openParens_concat_close]
  have hlength : ('(' :: cs ++ [')']).length = cs.length + 2 := by simp
  constructor
  · intro h
    have hinside : ∀ n ≤ cs.length, 0 ≤ openParens (cs.take n) := by
      intro n hn
      have hpos := h.inside (n + 1) (by omega) (by omega)
      rw [take_parenthesized hn, openParens_cons_open] at hpos
      omega
    have hend := hinside cs.length (Nat.le_refl _)
    rw [List.take_length] at hend
    have hcloses := h.closes
    rw [htotal] at hcloses
    -- The last parenthesis has to count, or the first one would still be open.
    by_cases hclosed : IsClosed cs
    · rw [if_pos hclosed] at hcloses
      exact ⟨hclosed, fun n hn => hinside n (by omega), by omega⟩
    · rw [if_neg hclosed] at hcloses
      omega
  · intro h
    refine ⟨rfl, fun n hn hpos => ?_, ?_⟩
    · obtain ⟨n, rfl⟩ : ∃ m, n = m + 1 := ⟨n - 1, by omega⟩
      rw [take_parenthesized (by omega), openParens_cons_open]
      rcases Nat.lt_or_ge n cs.length with hlt | hge
      · have hinside := h.inside n hlt
        omega
      · rw [List.take_of_length_le hge, h.level]
        decide
    · rw [htotal, if_pos h.closed, h.level]
      rfl

/-! ## Texts without parentheses -/

/-- A closed text without parentheses in code is balanced. -/
theorem isBalanced_of_rise_eq_zero {cs : List Char} (hclosed : IsClosed cs)
    (h : ∀ t ∈ (scan .code cs).2, t.rise = 0) : IsBalanced cs where
  closed := hclosed
  inside _ _ := Int.le_of_eq (rise_eq_zero fun t ht => h t (mem_scan_take ht)).symm
  level := rise_eq_zero h

theorem isBalanced_literalChars (cs : List Char) : IsBalanced (literalChars cs) := by
  refine isBalanced_of_rise_eq_zero ?_ ?_
  · rw [IsClosed, scan_literalChars]
    rfl
  · rw [scan_literalChars]
    exact fun t ht => absurd ht List.not_mem_nil

theorem IsQuiet.isBalanced {cs : List Char} (h : IsQuiet cs) (hopen : '(' ∉ cs)
    (hclose : ')' ∉ cs) : IsBalanced cs := by
  refine isBalanced_of_rise_eq_zero h.closed fun t ht => ?_
  have hlex : t ∈ lex cs := List.mem_append_left _ ht
  rw [h.tokens] at hlex
  obtain ⟨c, hc, rfl⟩ := List.mem_map.mp hlex
  have hne : c ≠ '(' := fun he => hopen (he ▸ hc)
  have hne' : c ≠ ')' := fun he => hclose (he ▸ hc)
  simp [Token.rise, hne, hne']

/-! ## Texts in another case -/

theorem toLower_eq_iff {c mark : Char} (hmark : mark.isLower = false) (hsame : mark.toLower = mark) :
    c.toLower = mark ↔ c = mark :=
  ⟨Unicode.eq_of_toLower_eq hmark, fun h => by rw [h, hsame]⟩

theorem rise_toLower (c : Char) : (Token.code c.toLower).rise = (Token.code c).rise := by
  have hopen : c.toLower = '(' ↔ c = '(' := toLower_eq_iff (by decide) (by decide)
  have hclose : c.toLower = ')' ↔ c = ')' := toLower_eq_iff (by decide) (by decide)
  simp only [Token.rise, hopen, hclose]

theorem isPlain_toLower (c : Char) : isPlain c.toLower = isPlain c := by
  have hbracket : c.toLower = '[' ↔ c = '[' := toLower_eq_iff (by decide) (by decide)
  have hquote : c.toLower = '\'' ↔ c = '\'' := toLower_eq_iff (by decide) (by decide)
  have hdash : c.toLower = '-' ↔ c = '-' := toLower_eq_iff (by decide) (by decide)
  rw [Bool.eq_iff_iff]
  simp only [isPlain, Bool.and_eq_true, bne_iff_ne, ne_eq, hbracket, hquote, hdash]

theorem openParens_of_isPlain {cs : List Char} (h : ∀ c ∈ cs, isPlain c = true) :
    openParens cs = rise ((cs.map Char.toLower).map .code) := by
  rw [openParens, scan_of_isPlain h]
  clear h
  induction cs with
  | nil => rfl
  | cons c cs ih => rw [List.map_cons, List.map_cons, List.map_cons, rise, rise, rise_toLower, ih]

/-- Two plain texts that differ only in the case of the letters A to Z are balanced together. -/
theorem IsBalanced.of_map_toLower_eq {cs ds : List Char} (hds : ∀ d ∈ ds, isPlain d = true)
    (hcase : cs.map Char.toLower = ds.map Char.toLower) (h : IsBalanced ds) : IsBalanced cs := by
  have hcs : ∀ c ∈ cs, isPlain c = true := by
    intro c hc
    have hmem : c.toLower ∈ ds.map Char.toLower := hcase ▸ List.mem_map_of_mem hc
    obtain ⟨d, hd, hcd⟩ := List.mem_map.mp hmem
    rw [← isPlain_toLower, ← hcd, isPlain_toLower]
    exact hds d hd
  have hlength : cs.length = ds.length := by
    have hcaseLength := congrArg List.length hcase
    rwa [List.length_map, List.length_map] at hcaseLength
  refine ⟨?_, fun n hn => ?_, ?_⟩
  · exact (isQuiet_of_isPlain hcs).closed
  · have hinside := h.inside n (hlength ▸ hn)
    rw [openParens_of_isPlain fun d hd => hds d (List.mem_of_mem_take hd), List.map_take] at hinside
    rw [openParens_of_isPlain fun c hc => hcs c (List.mem_of_mem_take hc), List.map_take, hcase]
    exact hinside
  · have hlevel := h.level
    rw [openParens_of_isPlain hds] at hlevel
    rw [openParens_of_isPlain hcs, hcase]
    exact hlevel

end Sql
end SchemaScript
