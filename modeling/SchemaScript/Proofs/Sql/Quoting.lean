import SchemaScript.Sql.Quoting

/-!
# SchemaScript.Proofs.Sql.Quoting

The value of a string literal. What quoting makes of a text is read back as that text, whatever quotes
are in it. But every text between two quotes is read: a quote inside that has no partner stands for
itself, although no text is quoted like that.

* `EvenRuns`: the quotes next to one another come in pairs.
* `double_halve_iff`: halving loses nothing exactly if they do.
* `decodeLiteral_quote`: a quoted text is read back.
* `decodeLiteral_inverts_iff`: which texts are read as what they are the literal of.
-/

namespace SchemaScript
namespace Sql

variable {q c : Char} {cs inner : List Char} {text value : String}

/-! ## Runs of quotes -/

/-- Every run of `q` is of even length: any number of them between other characters or the ends of the
text is even. -/
def EvenRuns (q : Char) (cs : List Char) : Prop :=
  ∀ before n after, cs = before ++ List.replicate n q ++ after →
    before.getLast? ≠ some q → after.head? ≠ some q → n % 2 = 0

theorem evenRuns_nil : EvenRuns q [] := by
  intro before n after h hbefore hafter
  have hrun : List.replicate n q = [] :=
    (List.append_eq_nil_iff.mp (List.append_eq_nil_iff.mp h.symm).1).2
  rw [List.replicate_eq_nil_iff] at hrun
  rw [hrun]

/-- A character other than `q` stands in no run. -/
theorem evenRuns_cons_of_ne (hc : c ≠ q) : EvenRuns q (c :: cs) ↔ EvenRuns q cs := by
  constructor
  · intro h before n after hcs hbefore hafter
    refine h (c :: before) n after (by rw [hcs]; rfl) ?_ hafter
    cases before with
    | nil => simpa using hc
    | cons b before => rwa [List.getLast?_cons_cons]
  · intro h before n after hcs hbefore hafter
    cases before with
    | nil =>
      cases n with
      | zero => rfl
      | succ n => exact absurd (List.cons.inj hcs).1 hc
    | cons b before =>
      refine h before n after (List.cons.inj hcs).2 ?_ hafter
      cases before with
      | nil => simp
      | cons b' before => rwa [List.getLast?_cons_cons] at hbefore

/-- A pair in front of a text is a run or makes one longer by two. -/
theorem evenRuns_pair : EvenRuns q (q :: q :: cs) ↔ EvenRuns q cs := by
  constructor
  · intro h before n after hcs hbefore hafter
    cases before with
    | nil =>
      have hrun := h [] (n + 2) after (by rw [hcs]; rfl) hbefore hafter
      omega
    | cons b before =>
      exact h (q :: q :: b :: before) n after (by rw [hcs]; rfl) (by simpa using hbefore) hafter
  · intro h before n after hcs hbefore hafter
    cases before with
    | nil =>
      match n with
      | 0 => rfl
      | 1 =>
        have hrest : after = q :: cs := (List.cons.inj hcs).2.symm
        exact absurd (by rw [hrest]; rfl) hafter
      | n + 2 =>
        have hrest : cs = [] ++ List.replicate n q ++ after :=
          (List.cons.inj (List.cons.inj hcs).2).2
        have hrun := h [] n after hrest hbefore hafter
        omega
    | cons b before =>
      obtain ⟨hb, hcs⟩ := List.cons.inj hcs
      cases before with
      | nil => exact absurd (by rw [← hb]; rfl) hbefore
      | cons b' before =>
        obtain ⟨hb', hcs⟩ := List.cons.inj hcs
        refine h before n after hcs ?_ hafter
        cases before with
        | nil => simp
        | cons b'' before => simpa using hbefore

/-- A run of one is not even. -/
theorem not_evenRuns_single (h : cs.head? ≠ some q) : ¬ EvenRuns q (q :: cs) :=
  fun heven => absurd (heven [] 1 cs rfl (by simp) h) (by decide)

/-! ## Doubling and halving -/

theorem double_cons_self (q : Char) (cs : List Char) : double q (q :: cs) = q :: q :: double q cs := by
  simp [double]

theorem double_cons_of_ne (hc : c ≠ q) (cs : List Char) :
    double q (c :: cs) = c :: double q cs := by
  simp [double, hc]

theorem halve_pair (q : Char) (cs : List Char) : halve q (q :: q :: cs) = q :: halve q cs := by
  simp [halve]

theorem halve_cons_of_ne (hc : c ≠ q) (cs : List Char) : halve q (c :: cs) = c :: halve q cs := by
  cases cs with
  | nil => rfl
  | cons d cs => simp [halve, hc]

theorem evenRuns_double (q : Char) (cs : List Char) : EvenRuns q (double q cs) := by
  induction cs with
  | nil => exact evenRuns_nil
  | cons c cs ih =>
    by_cases hc : c = q
    · rw [hc, double_cons_self]
      exact evenRuns_pair.mpr ih
    · rw [double_cons_of_ne hc]
      exact (evenRuns_cons_of_ne hc).mpr ih

theorem halve_double (q : Char) (cs : List Char) : halve q (double q cs) = cs := by
  induction cs with
  | nil => rfl
  | cons c cs ih =>
    by_cases hc : c = q
    · rw [hc, double_cons_self, halve_pair, ih]
    · rw [double_cons_of_ne hc, halve_cons_of_ne hc, ih]

theorem double_halve (h : EvenRuns q cs) : double q (halve q cs) = cs := by
  fun_induction halve q cs with
  | case1 => rfl
  | case2 c =>
    by_cases hc : c = q
    · exact absurd (hc ▸ h) (not_evenRuns_single (by simp))
    · rw [double_cons_of_ne hc]
      rfl
  | case3 c d cs hpair ih =>
    obtain ⟨rfl, rfl⟩ := hpair
    rw [double_cons_self, ih (evenRuns_pair.mp h)]
  | case4 c d cs hpair ih =>
    by_cases hc : c = q
    · have hd : (d :: cs).head? ≠ some q := fun hd => hpair ⟨hc, Option.some.inj hd⟩
      exact absurd (hc ▸ h) (not_evenRuns_single hd)
    · rw [double_cons_of_ne hc, ih ((evenRuns_cons_of_ne hc).mp h)]

/-- Halving loses nothing if and only if every run is of even length. -/
theorem double_halve_iff : double q (halve q cs) = cs ↔ EvenRuns q cs :=
  ⟨fun h => h ▸ evenRuns_double q _, double_halve⟩

/-! ## Literals -/

theorem unwrap_eq_some_iff : unwrap q cs = some inner ↔ cs = q :: inner ++ [q] := by
  cases cs with
  | nil => simp [unwrap]
  | cons c cs =>
    rw [unwrap, List.cons_append, List.cons.injEq]
    constructor
    · intro h
      split at h
      · rename_i hends
        obtain ⟨body, rfl⟩ := List.getLast?_eq_some_iff.mp hends.2
        rw [List.dropLast_concat] at h
        exact ⟨hends.1, by rw [Option.some.inj h]⟩
      · cases h
    · rintro ⟨rfl, rfl⟩
      simp

/-- A text is read if it stands between two quotes. -/
theorem decodeLiteral_eq_some_iff : decodeLiteral text = some value ↔
    ∃ inner, text.toList = '\'' :: inner ++ ['\''] ∧ halve '\'' inner = value.toList := by
  rw [decodeLiteral, Option.map_eq_some_iff]
  simp only [unwrap_eq_some_iff, ← String.toList_inj, String.toList_ofList]

theorem quote_eq_iff :
    quote value = text ↔ text.toList = '\'' :: double '\'' value.toList ++ ['\''] := by
  rw [quote, literalChars, ← String.toList_inj, String.toList_ofList, eq_comm]

theorem decodeLiteral_quote (text : String) : decodeLiteral (quote text) = some text :=
  decodeLiteral_eq_some_iff.mpr ⟨_, quote_eq_iff.mp rfl, halve_double _ _⟩

theorem quote_eq_iff_evenRuns (htext : text.toList = '\'' :: inner ++ ['\''])
    (hvalue : halve '\'' inner = value.toList) : quote value = text ↔ EvenRuns '\'' inner := by
  rw [quote_eq_iff, htext, ← hvalue, List.append_cancel_right_eq, List.cons.injEq,
    and_iff_right rfl, eq_comm, double_halve_iff]

/-- A text is read as the value that it is the literal of, and not at all if it is no literal, if and
only if every run of quotes between the two at its ends is of even length. Where a run is odd, as a
quote by itself is, the text is read all the same, and its value is written in another way. -/
theorem decodeLiteral_inverts_iff (text : String) :
    ((∀ value, decodeLiteral text = some value → quote value = text) ↔
      ∀ inner, text.toList = '\'' :: inner ++ ['\''] → EvenRuns '\'' inner) ∧
    (((¬ ∃ value, quote value = text) → decodeLiteral text = none) ↔
      ∀ inner, text.toList = '\'' :: inner ++ ['\''] → EvenRuns '\'' inner) := by
  have hinverts : (∀ value, decodeLiteral text = some value → quote value = text) ↔
      ∀ inner, text.toList = '\'' :: inner ++ ['\''] → EvenRuns '\'' inner := by
    constructor
    · intro h inner htext
      have hvalue : halve '\'' inner = (String.ofList (halve '\'' inner)).toList :=
        String.toList_ofList.symm
      exact (quote_eq_iff_evenRuns htext hvalue).mp
        (h _ (decodeLiteral_eq_some_iff.mpr ⟨inner, htext, hvalue⟩))
    · intro h value hdecode
      obtain ⟨inner, htext, hvalue⟩ := decodeLiteral_eq_some_iff.mp hdecode
      exact (quote_eq_iff_evenRuns htext hvalue).mpr (h inner htext)
  refine ⟨hinverts, ?_⟩
  rw [← hinverts]
  constructor
  · intro h value hdecode
    -- A text that is read is the literal of something, and that is what it is read as.
    by_cases hother : ∃ other, quote other = text
    · obtain ⟨other, hother⟩ := hother
      rw [← hother, decodeLiteral_quote] at hdecode
      rw [← Option.some.inj hdecode, hother]
    · rw [h hother] at hdecode
      cases hdecode
  · intro h hnone
    rw [Option.eq_none_iff_forall_ne_some]
    exact fun value hdecode => hnone ⟨value, h value hdecode⟩

/-- A quote between other characters is read as itself, and written twice. -/
theorem decodeLiteral_loneQuote :
    decodeLiteral "'a'b'" = some "a'b" ∧ quote "a'b" ≠ "'a'b'" ∧
      ¬ ∃ value, quote value = "'a'b'" := by
  have hdecode : decodeLiteral "'a'b'" = some "a'b" := by decide
  have hquote : quote "a'b" ≠ "'a'b'" := by decide
  refine ⟨hdecode, hquote, ?_⟩
  rintro ⟨value, hvalue⟩
  have hread := decodeLiteral_quote value
  rw [hvalue, hdecode] at hread
  exact hquote (Option.some.inj hread ▸ hvalue)

end Sql
end SchemaScript
