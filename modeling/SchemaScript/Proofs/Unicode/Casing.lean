import SchemaScript.Proofs.Unicode.WhiteSpace
import SchemaScript.Unicode.Casing

/-!
# SchemaScript.Proofs.Unicode.Casing

What lower case leaves as it is. White space stays, nothing else becomes white space, and no white
space belongs to a word, so that lower case and trimming may change places.

* `eq_of_toLower_eq`: a mark is the lower case of itself alone.
* `PlainImages`: code points that lower case leads to only from the letters A to Z and from
  themselves. White space and the point are among them.
* `EndsWord`: a character at which every word ends. Lower case is taken of the parts before and
  behind it.
* `lower_trim`, `trim_eq_of_lower_trim_eq`: lower case and trimming.
* `point_mem_lowerFrom`: a point comes from a point.
* `lowerFrom_of_sigma_not_mem`: without a capital sigma lower case is taken one character at a time.
-/

namespace SchemaScript
namespace Unicode

/-! ## The letters A to Z -/

theorem isLower_toLower {c : Char} (hc : c.val ≥ 'A'.val ∧ c.val ≤ 'Z'.val) :
    c.toLower.isLower = true := by
  have hlow : 65 ≤ c.val.toNat := hc.1
  have hhigh : c.val.toNat ≤ 90 := hc.2
  have hsum : (c.val + ('a'.val - 'A'.val)).toNat = c.val.toNat + 32 := by
    grind [UInt32.toNat_add]
  have ha : 97 ≤ c.val.toNat + 32 := by omega
  have hz : c.val.toNat + 32 ≤ 122 := by omega
  have hval : c.toLower.val.toNat = c.val.toNat + 32 := by
    have hlower : c.toLower = ⟨c.val + ('a'.val - 'A'.val), _⟩ := dif_pos hc
    rw [hlower]
    exact hsum
  have hiff : c.toLower.isLower = true ↔ 97 ≤ c.toLower.val.toNat ∧ c.toLower.val.toNat ≤ 122 :=
    Bool.and_eq_true_iff.trans (and_congr decide_eq_true_iff decide_eq_true_iff)
  rw [hiff, hval]
  exact ⟨ha, hz⟩

/-- A mark is the lower case of itself alone. -/
theorem eq_of_toLower_eq {c mark : Char} (hmark : mark.isLower = false) (h : c.toLower = mark) :
    c = mark := by
  by_cases hc : c.val ≥ 'A'.val ∧ c.val ≤ 'Z'.val
  · rw [← h, isLower_toLower hc] at hmark
    cases hmark
  · have hsame : c.toLower = c := dif_neg hc
    rw [← hsame, h]

/-! ## White space -/

/-- A fact about every character of white space. -/
theorem forall_whiteSpace {p : Char → Prop} (h : ∀ n ∈ whiteSpaceCodes, p (Char.ofNat n)) {c : Char}
    (hc : isWhiteSpace c = true) : p c := by
  rw [← Char.ofNat_toNat c]
  exact h c.toNat (mem_whiteSpaceCodes hc)

/-- White space has no case, and it belongs to no word. -/
theorem caseless_whiteSpace {c : Char} (hc : isWhiteSpace c = true) :
    lowerChar c = [c] ∧ cased.contains c = false ∧ caseIgnorable.contains c = false ∧
      c.isLower = false := by
  refine forall_whiteSpace (p := fun c => lowerChar c = [c] ∧ cased.contains c = false ∧
    caseIgnorable.contains c = false ∧ c.isLower = false) ?_ hc
  decide +kernel

theorem isLower_whiteSpace {c : Char} (hc : isWhiteSpace c = true) : c.isLower = false :=
  (caseless_whiteSpace hc).2.2.2

/-! ## Words -/

/-- What a character becomes, given what stands before it and behind it. -/
def lowerImage (inWord : Bool) (c : Char) (cs : List Char) : List Char :=
  if c = 'Σ' then
    if inWord && !meetsCased cs then ['ς'] else ['σ']
  else
    lowerChar c

/-- Whether a character leaves a word open behind it. -/
def staysInWord (inWord : Bool) (c : Char) : Bool :=
  if caseIgnorable.contains c then inWord else cased.contains c

theorem lowerFrom_cons (inWord : Bool) (c : Char) (cs : List Char) :
    lowerFrom inWord (c :: cs)
      = lowerImage inWord c cs ++ lowerFrom (staysInWord inWord c) cs :=
  rfl

/-! ## Images of the letters A to Z -/

theorem toNat_ofNat_or (n : Nat) : (Char.ofNat n).toNat = n ∨ (Char.ofNat n).toNat = 0 := by
  by_cases h : n.isValidChar
  · left
    rw [Char.ofNat, dif_pos h]
    rfl
  · right
    rw [Char.ofNat, dif_neg h]
    rfl

/-- Code points that lower case leads to only from the letters A to Z and from themselves: they are in
no other run of the table, and they are neither of the images that are not in it. -/
structure PlainImages (codes : List Nat) : Prop where
  runs : ∀ r ∈ lowerRuns, ∀ w ∈ codes,
    r.last < 0x80 ∨ w < r.lower ∨ r.lower + (r.last - r.first) < w
  special : ∀ w ∈ ['i'.toNat, 0x307, 'σ'.toNat, 'ς'.toNat, 0], w ∉ codes

namespace PlainImages

variable {codes : List Nat} {c d : Char}

theorem run_not_mem (h : PlainImages codes) {r : LowerRun} (hr : r ∈ lowerRuns) {n m : Nat}
    (hn : 0x80 ≤ n) (himage : r.image? n = some m) : (Char.ofNat m).toNat ∉ codes := by
  intro hcode
  rw [LowerRun.image?] at himage
  split at himage
  · cases himage
    -- A number that is no code point becomes zero, which is none of the code points either.
    rcases toNat_ofNat_or (r.lower + (n - r.first)) with hm | hm
    · rw [hm] at hcode
      rcases h.runs r hr _ hcode with hlast | hlt | hlt <;> omega
    · rw [hm] at hcode
      exact h.special 0 (by simp) hcode
  · cases himage

theorem lowerChar_eq (h : PlainImages codes) (hd : d ∈ lowerChar c) (hcode : d.toNat ∈ codes) :
    lowerChar c = [c.toLower] := by
  unfold lowerChar at hd ⊢
  split
  · rfl
  · rename_i hascii
    have hupper : ¬ (c.val ≥ 'A'.val ∧ c.val ≤ 'Z'.val) := by
      rintro ⟨-, hhigh⟩
      exact hascii (Nat.lt_of_le_of_lt hhigh (by decide))
    have hsame : c.toLower = c := dif_neg hupper
    rw [if_neg hascii] at hd
    split at hd
    · simp only [List.mem_cons, List.not_mem_nil, or_false] at hd
      rcases hd with rfl | rfl
      · exact absurd hcode (h.special _ (by simp))
      · exact absurd hcode (h.special _ (by simp))
    · rename_i hdotted
      rw [if_neg hdotted, hsame]
      cases himage : lowerRuns.findSome? (·.image? c.toNat) with
      | none => rfl
      | some m =>
        rw [himage] at hd
        obtain ⟨r, hr, hrun⟩ := List.exists_of_findSome?_eq_some himage
        rw [List.mem_singleton.mp hd] at hcode
        exact absurd hcode (h.run_not_mem hr (Nat.le_of_not_lt hascii) hrun)

theorem lowerImage_eq (h : PlainImages codes) {inWord : Bool} {cs : List Char}
    (hd : d ∈ lowerImage inWord c cs) (hcode : d.toNat ∈ codes) :
    lowerImage inWord c cs = [c.toLower] := by
  unfold lowerImage at hd ⊢
  split at hd
  · split at hd
    · rw [List.mem_singleton.mp hd] at hcode
      exact absurd hcode (h.special _ (by simp))
    · rw [List.mem_singleton.mp hd] at hcode
      exact absurd hcode (h.special _ (by simp))
  · rename_i hsigma
    rw [if_neg hsigma]
    exact h.lowerChar_eq hd hcode

/-- If such a code point is no letter from a to z, it comes from itself alone. -/
theorem eq_of_mem_lowerImage (h : PlainImages codes) {inWord : Bool} {cs : List Char}
    (hlower : d.isLower = false) (hd : d ∈ lowerImage inWord c cs) (hcode : d.toNat ∈ codes) :
    c = d := by
  rw [h.lowerImage_eq hd hcode] at hd
  exact eq_of_toLower_eq hlower (List.mem_singleton.mp hd).symm

end PlainImages

/-! ## The ends of words -/

/-- A character that every word ends at: it has no case, it is not passed over, and it is its own
lower case. -/
structure EndsWord (c : Char) : Prop where
  lower : lowerChar c = [c]
  not_cased : cased.contains c = false
  not_ignorable : caseIgnorable.contains c = false

theorem endsWord_whiteSpace {w : Char} (hw : isWhiteSpace w = true) : EndsWord w :=
  let ⟨hlower, hcased, hignorable, _⟩ := caseless_whiteSpace hw
  ⟨hlower, hcased, hignorable⟩

theorem endsWord_underscore : EndsWord '_' :=
  ⟨by decide, by decide, by decide⟩

namespace EndsWord

variable {c : Char}

theorem ne_sigma (h : EndsWord c) : c ≠ 'Σ' := by
  rintro rfl
  exact absurd h.not_cased (by decide)

theorem lowerImage (h : EndsWord c) (inWord : Bool) (cs : List Char) :
    lowerImage inWord c cs = [c] := by
  rw [Unicode.lowerImage, if_neg h.ne_sigma, h.lower]

theorem staysInWord (h : EndsWord c) (inWord : Bool) : staysInWord inWord c = false := by
  rw [Unicode.staysInWord, h.not_ignorable, h.not_cased]
  rfl

theorem meetsCased (h : EndsWord c) (cs ds : List Char) :
    meetsCased (cs ++ c :: ds) = meetsCased cs := by
  induction cs with
  | nil => simp [Unicode.meetsCased, h.not_ignorable, h.not_cased]
  | cons b cs ih => rw [List.cons_append, Unicode.meetsCased, Unicode.meetsCased, ih]

/-- What stands before such a character and what stands behind it do not see each other. -/
theorem lowerFrom (h : EndsWord c) (inWord : Bool) (cs ds : List Char) :
    lowerFrom inWord (cs ++ c :: ds) = lowerFrom inWord cs ++ c :: lowerFrom false ds := by
  induction cs generalizing inWord with
  | nil =>
    rw [List.nil_append, lowerFrom_cons, h.lowerImage, h.staysInWord]
    rfl
  | cons b cs ih =>
    have himage : Unicode.lowerImage inWord b (cs ++ c :: ds) = Unicode.lowerImage inWord b cs := by
      rw [Unicode.lowerImage, Unicode.lowerImage, h.meetsCased]
    rw [List.cons_append, lowerFrom_cons, lowerFrom_cons, himage, ih, List.append_assoc]

theorem mem_lowerFrom (h : EndsWord c) (inWord : Bool) {cs : List Char} (hc : c ∈ cs) :
    c ∈ Unicode.lowerFrom inWord cs := by
  obtain ⟨front, back, rfl⟩ := List.append_of_mem hc
  rw [h.lowerFrom]
  exact List.mem_append_right _ List.mem_cons_self

end EndsWord

/-! ## Trimming -/

theorem plainImages_whiteSpace : PlainImages whiteSpaceCodes :=
  ⟨by decide +kernel, by decide⟩

/-- No other character becomes white space. -/
theorem lowerImage_not_whiteSpace (inWord : Bool) {c : Char} (cs : List Char)
    (hc : isWhiteSpace c = false) : ∀ d ∈ lowerImage inWord c cs, isWhiteSpace d = false := by
  intro d hd
  rw [Bool.eq_false_iff]
  intro hw
  have heq := plainImages_whiteSpace.eq_of_mem_lowerImage (isLower_whiteSpace hw) hd
    (mem_whiteSpaceCodes hw)
  rw [heq, hw] at hc
  cases hc

theorem lowerChar_ne_nil (c : Char) : lowerChar c ≠ [] := by
  unfold lowerChar
  split
  · exact List.cons_ne_nil _ _
  · split
    · exact List.cons_ne_nil _ _
    · split <;> exact List.cons_ne_nil _ _

theorem lowerImage_ne_nil (inWord : Bool) (c : Char) (cs : List Char) :
    lowerImage inWord c cs ≠ [] := by
  unfold lowerImage
  split
  · split <;> exact List.cons_ne_nil _ _
  · exact lowerChar_ne_nil c

/-- White space at the start does not take part in a word. -/
theorem trimLeft_lowerChars (cs : List Char) :
    trimLeft (lowerChars cs) = lowerChars (trimLeft cs) := by
  induction cs with
  | nil => rfl
  | cons c cs ih =>
    rw [lowerChars, lowerFrom_cons, trimLeft_cons]
    cases hc : isWhiteSpace c with
    | true =>
      rw [(endsWord_whiteSpace hc).lowerImage, (endsWord_whiteSpace hc).staysInWord, if_pos rfl,
        List.singleton_append, trimLeft_cons, if_pos hc]
      exact ih
    | false =>
      obtain ⟨d, ds, himage⟩ := List.exists_cons_of_ne_nil (lowerImage_ne_nil false c cs)
      have hd : isWhiteSpace d = false :=
        lowerImage_not_whiteSpace false cs hc d (by rw [himage]; simp)
      rw [if_neg Bool.false_ne_true, lowerChars, lowerFrom_cons, himage, List.cons_append,
        trimLeft_cons, hd, if_neg Bool.false_ne_true]

/-- White space at the end does not take part in a word either. -/
theorem lowerFrom_append_whiteSpace (inWord : Bool) (cs : List Char) {w : Char}
    (hw : isWhiteSpace w = true) : lowerFrom inWord (cs ++ [w]) = lowerFrom inWord cs ++ [w] :=
  (endsWord_whiteSpace hw).lowerFrom inWord cs []

theorem lowerFrom_append_not_whiteSpace (inWord : Bool) (cs : List Char) {c : Char}
    (hc : isWhiteSpace c = false) :
    ∃ ds d, lowerFrom inWord (cs ++ [c]) = ds ++ [d] ∧ isWhiteSpace d = false := by
  induction cs generalizing inWord with
  | nil =>
    have hne := lowerImage_ne_nil inWord c []
    refine ⟨(lowerImage inWord c []).dropLast, (lowerImage inWord c []).getLast hne, ?_,
      lowerImage_not_whiteSpace inWord [] hc _ (List.getLast_mem hne)⟩
    rw [List.nil_append, lowerFrom_cons, lowerFrom, List.append_nil, List.dropLast_concat_getLast]
  | cons b cs ih =>
    obtain ⟨ds, d, hds, hd⟩ := ih (staysInWord inWord b)
    refine ⟨lowerImage inWord b (cs ++ [c]) ++ ds, d, ?_, hd⟩
    rw [List.cons_append, lowerFrom_cons, hds, List.append_assoc]

/-- By induction from the end of the text, which stands first when it is reversed. -/
theorem trimRight_lowerFrom (inWord : Bool) (cs : List Char) :
    trimRight (lowerFrom inWord cs) = lowerFrom inWord (trimRight cs) := by
  rw [← List.reverse_reverse cs]
  induction cs.reverse with
  | nil => rfl
  | cons c rs ih =>
    rw [List.reverse_cons, trimRight_concat]
    cases hc : isWhiteSpace c with
    | true => rw [lowerFrom_append_whiteSpace inWord _ hc, trimRight_concat, hc, if_pos rfl, ih,
        if_pos rfl]
    | false =>
      obtain ⟨ds, d, hds, hd⟩ := lowerFrom_append_not_whiteSpace inWord rs.reverse hc
      rw [if_neg Bool.false_ne_true, hds, trimRight_concat, hd, if_neg Bool.false_ne_true]

/-- Lower case and trimming may change places. -/
theorem lower_trim (s : String) : lower (trim s) = trim (lower s) := by
  rw [lower, lower, trim, trim, String.toList_ofList, String.toList_ofList, trimChars, trimChars,
    trimLeft_lowerChars, lowerChars, lowerChars, trimRight_lowerFrom]

/-- Lower case keeps the number of characters of white space. -/
theorem countP_whiteSpace_lowerFrom (inWord : Bool) (cs : List Char) :
    (lowerFrom inWord cs).countP isWhiteSpace = cs.countP isWhiteSpace := by
  induction cs generalizing inWord with
  | nil => rfl
  | cons c cs ih =>
    rw [lowerFrom_cons, List.countP_append, ih, List.countP_cons]
    cases hc : isWhiteSpace c with
    | true =>
      rw [(endsWord_whiteSpace hc).lowerImage, List.countP_singleton, hc, Nat.add_comm]
    | false =>
      have himage : (lowerImage inWord c cs).countP isWhiteSpace = 0 :=
        List.countP_eq_zero.mpr fun d hd =>
          Bool.eq_false_iff.mp (lowerImage_not_whiteSpace inWord cs hc d hd)
      rw [himage, Nat.zero_add]
      rfl

/-- A text in lower case that has no white space around it is the lower case of such a text. -/
theorem trim_eq_of_lower_trim_eq {s : String} (h : lower (trim s) = lower s) : trim s = s := by
  obtain ⟨left, right, hs, hleft, hright⟩ := eq_append_trimChars_append s.toList
  have hcount := congrArg (fun s => s.toList.countP isWhiteSpace) h
  simp only [lower, trim, String.toList_ofList, lowerChars, countP_whiteSpace_lowerFrom] at hcount
  -- The white space around the text is not in the trimmed text, so there is none.
  have hnone : left.length + right.length = 0 := by
    rw [hs, List.countP_append, List.countP_append, List.countP_eq_length.mpr hleft,
      List.countP_eq_length.mpr hright, ← hs] at hcount
    omega
  have hleftNil : left = [] := List.length_eq_zero_iff.mp (by omega)
  have hrightNil : right = [] := List.length_eq_zero_iff.mp (by omega)
  rw [hleftNil, hrightNil, List.nil_append, List.append_nil] at hs
  rw [trim, ← hs, String.ofList_toList]

/-! ## Points and capital sigmas -/

theorem plainImages_point : PlainImages ['.'.toNat] :=
  ⟨by decide +kernel, by decide⟩

theorem point_mem_lowerImage {inWord : Bool} {c : Char} {cs : List Char} :
    '.' ∈ lowerImage inWord c cs ↔ c = '.' := by
  constructor
  · intro h
    exact plainImages_point.eq_of_mem_lowerImage (by decide) h List.mem_cons_self
  · rintro rfl
    have himage : lowerImage inWord '.' cs = lowerChar '.' := if_neg (by decide)
    rw [himage]
    decide

/-- A point in lower case comes from a point. -/
theorem point_mem_lowerFrom {inWord : Bool} {cs : List Char} :
    '.' ∈ lowerFrom inWord cs ↔ '.' ∈ cs := by
  induction cs generalizing inWord with
  | nil => rfl
  | cons c cs ih =>
    rw [lowerFrom_cons, List.mem_append, point_mem_lowerImage, ih, List.mem_cons, eq_comm]

/-- Without a capital sigma no character looks at its neighbours. -/
theorem lowerFrom_of_sigma_not_mem (inWord : Bool) {cs : List Char} (h : 'Σ' ∉ cs) :
    lowerFrom inWord cs = cs.flatMap lowerChar := by
  induction cs generalizing inWord with
  | nil => rfl
  | cons c cs ih =>
    obtain ⟨hc, hcs⟩ := not_or.mp (mt List.mem_cons.mpr h)
    rw [lowerFrom_cons, lowerImage, if_neg fun heq => hc heq.symm, ih _ hcs, List.flatMap_cons]

/-- A text of characters that are their own lower case. -/
theorem lowerFrom_eq_self (inWord : Bool) {cs : List Char}
    (h : ∀ c ∈ cs, c ≠ 'Σ' ∧ lowerChar c = [c]) : lowerFrom inWord cs = cs := by
  induction cs generalizing inWord with
  | nil => rfl
  | cons c cs ih =>
    obtain ⟨hsigma, hlower⟩ := h c List.mem_cons_self
    rw [lowerFrom_cons, lowerImage, if_neg hsigma, hlower,
      ih _ fun d hd => h d (List.mem_cons_of_mem c hd), List.singleton_append]

end Unicode
end SchemaScript
