import SchemaScript.Proofs.Unicode.Casing

/-!
# SchemaScript.Proofs.Unicode.AsciiCase

Equality up to the case of the letters A to Z, beside equality in lower case. The first implies the
second. The converse fails: `Ä` and `ä` are the same in lower case only, and so are `K` and the sign
for kelvin. It holds where one of the texts is in lower case and its letters come from A to Z alone.

* `toLower_alike`: lower case treats a letter from A to Z as it treats the letter from a to z.
* `lower_eq_of_equalsIgnoringAsciiCase`: equality up to the case of A to Z is finer.
* `equalsIgnoringAsciiCase_iff_lower`: where the two are the same.
-/

namespace SchemaScript
namespace Unicode

theorem toLower_alike (c : Char) :
    lowerChar c.toLower = lowerChar c ∧ (c.toLower = 'Σ' ↔ c = 'Σ') ∧
      cased.contains c.toLower = cased.contains c ∧
      caseIgnorable.contains c.toLower = caseIgnorable.contains c := by
  by_cases hc : c.val ≥ 'A'.val ∧ c.val ≤ 'Z'.val
  · have hletters : ∀ n ∈ List.range' 65 26,
        lowerChar (Char.ofNat n).toLower = lowerChar (Char.ofNat n) ∧
          ((Char.ofNat n).toLower = 'Σ' ↔ Char.ofNat n = 'Σ') ∧
          cased.contains (Char.ofNat n).toLower = cased.contains (Char.ofNat n) ∧
          caseIgnorable.contains (Char.ofNat n).toLower = caseIgnorable.contains (Char.ofNat n) := by
      decide +kernel
    have hlow : 65 ≤ c.toNat := hc.1
    have hhigh : c.toNat ≤ 90 := hc.2
    have hletter := hletters c.toNat (List.mem_range'_1.mpr ⟨hlow, by omega⟩)
    rwa [Char.ofNat_toNat] at hletter
  · have hsame : c.toLower = c := dif_neg hc
    rw [hsame]
    exact ⟨rfl, Iff.rfl, rfl, rfl⟩

theorem meetsCased_map_toLower (cs : List Char) :
    meetsCased (cs.map Char.toLower) = meetsCased cs := by
  induction cs with
  | nil => rfl
  | cons c cs ih =>
    obtain ⟨-, -, hcased, hignorable⟩ := toLower_alike c
    rw [List.map_cons, meetsCased, meetsCased, ih, hcased, hignorable]

theorem lowerFrom_map_toLower (inWord : Bool) (cs : List Char) :
    lowerFrom inWord (cs.map Char.toLower) = lowerFrom inWord cs := by
  induction cs generalizing inWord with
  | nil => rfl
  | cons c cs ih =>
    obtain ⟨hlower, hsigma, hcased, hignorable⟩ := toLower_alike c
    have himage : lowerImage inWord c.toLower (cs.map Char.toLower) = lowerImage inWord c cs := by
      simp only [lowerImage, hsigma, hlower, meetsCased_map_toLower]
    have hstays : staysInWord inWord c.toLower = staysInWord inWord c := by
      rw [staysInWord, staysInWord, hcased, hignorable]
    rw [List.map_cons, lowerFrom_cons, lowerFrom_cons, himage, hstays, ih]

theorem lower_eq_of_equalsIgnoringAsciiCase {s t : String}
    (h : equalsIgnoringAsciiCase s t = true) : lower s = lower t := by
  have hletters : s.toList.map Char.toLower = t.toList.map Char.toLower := beq_iff_eq.mp h
  rw [lower, lower, lowerChars, lowerChars, ← lowerFrom_map_toLower false s.toList, hletters,
    lowerFrom_map_toLower]

/-- A text whose lower case is made of such code points becomes that by the letters A to Z alone. -/
theorem PlainImages.map_toLower_eq {codes : List Nat} (h : PlainImages codes) {inWord : Bool}
    {cs ds : List Char} (hlower : lowerFrom inWord cs = ds) (hds : ∀ d ∈ ds, d.toNat ∈ codes) :
    cs.map Char.toLower = ds := by
  induction cs generalizing inWord ds with
  | nil => exact hlower
  | cons c cs ih =>
    rw [lowerFrom_cons] at hlower
    obtain ⟨d, rest, himage⟩ := List.exists_cons_of_ne_nil (lowerImage_ne_nil inWord c cs)
    have hd : d ∈ lowerImage inWord c cs := by rw [himage]; exact List.mem_cons_self
    have hplain := h.lowerImage_eq hd (hds d (hlower ▸ List.mem_append_left _ hd))
    rw [hplain, List.singleton_append] at hlower
    rw [List.map_cons, ← hlower, ih rfl]
    exact fun e he => hds e (hlower ▸ List.mem_cons_of_mem _ he)

/-- For a text in lower case whose characters come from A to Z or from themselves, equality up to the
case of the letters A to Z is equality in lower case. -/
theorem equalsIgnoringAsciiCase_iff_lower {codes : List Nat} (h : PlainImages codes) {t : String}
    (ht : ∀ c ∈ t.toList, c.toNat ∈ codes) (hlower : lower t = t) {s : String} :
    equalsIgnoringAsciiCase s t = true ↔ lower s = t := by
  constructor
  · intro hequal
    rw [lower_eq_of_equalsIgnoringAsciiCase hequal, hlower]
  · intro hequal
    have hletters : ∀ {r : String}, lower r = t → r.toList.map Char.toLower = t.toList := by
      intro r hr
      have hchars : lowerFrom false r.toList = t.toList := by
        rw [← hr, lower, String.toList_ofList]
        rfl
      exact h.map_toLower_eq hchars ht
    rw [equalsIgnoringAsciiCase, beq_iff_eq, hletters hequal, hletters hlower]

end Unicode
end SchemaScript
