import SchemaScript.Json.Literal

/-!
# SchemaScript.Proofs.Json.Literal

String literals: which spellings there are, and what they are read as.

* `IsBody`, `Spells`: what may stand between the quotes of a literal, and the text that it spells.
* `skipLiteral_body`: every literal is passed over, also one that spells no text.
* `decodeFrom_quote`, `decodeFrom_plain`, `decodeFrom_shortEscape`, `decodeFrom_unit`,
  `decodeFrom_pair`: reading, one character or escape at a time.
* `Spells.decode`: a literal is read as the text that it spells.
* `spells_encode`, `decode_encode`: the way in which a text is written is one of its spellings.
-/

namespace SchemaScript
namespace Json

theorem decodeFrom_quote (done rest : List Char) :
    decodeFrom done ('"' :: rest) = .ok (done.reverse, rest) := by
  rw [decodeFrom.eq_def]
  rfl

theorem decodeFrom_plain {c : Char} (hquote : c ≠ '"') (hslash : c ≠ '\\') (hc : 0x20 ≤ c.toNat)
    (done rest : List Char) : decodeFrom done (c :: rest) = decodeFrom (c :: done) rest := by
  rw [decodeFrom.eq_def]
  simp only [hquote, hslash, Nat.not_lt.mpr hc, if_false]

theorem decodeFrom_shortEscape {e c : Char} (he : e ≠ 'u') (hc : shortEscape e = some c)
    (done rest : List Char) :
    decodeFrom done ('\\' :: e :: rest) = decodeFrom (c :: done) rest := by
  rw [decodeFrom.eq_def]
  simp [he, hc]

/-- An escape by code unit that does not take part in a pair. -/
theorem decodeFrom_unit {a b c d : Char} {unit : Nat} (hunit : codeUnit a b c d = some unit)
    (hlow : isLowSurrogate unit = false) (hhigh : isHighSurrogate unit = false)
    (done rest : List Char) :
    decodeFrom done ('\\' :: 'u' :: a :: b :: c :: d :: rest)
      = decodeFrom (Char.ofNat unit :: done) rest := by
  rw [decodeFrom.eq_def]
  simp [hunit, hlow, hhigh]

theorem codeUnit_control {n : Nat} (h : n < 0x20) :
    codeUnit '0' '0' (Text.hexDigit (n / 16)) (Text.hexDigit n) = some n := by
  decide +revert

/-- Two escapes that make up one character. -/
theorem decodeFrom_pair {a b c d a' b' c' d' : Char} {high low : Nat}
    (hunit : codeUnit a b c d = some high) (hhigh : isHighSurrogate high = true)
    (hunit' : codeUnit a' b' c' d' = some low) (hlow : isLowSurrogate low = true)
    (done rest : List Char) :
    decodeFrom done ('\\' :: 'u' :: a :: b :: c :: d :: '\\' :: 'u' :: a' :: b' :: c' :: d' :: rest)
      = decodeFrom (Char.ofNat (pairValue high low) :: done) rest := by
  -- The first unit is no low surrogate, since those come after the high ones.
  have hfirst : isLowSurrogate high = false := by
    simp only [isHighSurrogate, isLowSurrogate, Bool.and_eq_true, Bool.and_eq_false_iff,
      decide_eq_true_eq, decide_eq_false_iff_not] at hhigh ⊢
    omega
  rw [decodeFrom.eq_def]
  simp [hunit, hfirst, hhigh, hunit', hlow]

/-! ## Spellings -/

/-- What may stand between the quotes of a literal. -/
inductive IsBody : List Char → Prop where
  | nil : IsBody []
  | plain {c : Char} {cs : List Char} : c ≠ '"' → c ≠ '\\' → 0x20 ≤ c.toNat → IsBody cs →
      IsBody (c :: cs)
  | short {e : Char} {cs : List Char} : (shortEscape e).isSome = true → IsBody cs →
      IsBody ('\\' :: e :: cs)
  | unit {a b c d : Char} {cs : List Char} : (codeUnit a b c d).isSome = true → IsBody cs →
      IsBody ('\\' :: 'u' :: a :: b :: c :: d :: cs)

/-- What stands between the quotes of a literal, and the text that it spells. A code unit of a pair
spells nothing on its own. -/
inductive Spells : List Char → List Char → Prop where
  | nil : Spells [] []
  | plain {c : Char} {cs xs : List Char} : c ≠ '"' → c ≠ '\\' → 0x20 ≤ c.toNat → Spells cs xs →
      Spells (c :: cs) (c :: xs)
  | short {e x : Char} {cs xs : List Char} : shortEscape e = some x → Spells cs xs →
      Spells ('\\' :: e :: cs) (x :: xs)
  | unit {a b c d : Char} {n : Nat} {cs xs : List Char} : codeUnit a b c d = some n →
      isLowSurrogate n = false → isHighSurrogate n = false → Spells cs xs →
      Spells ('\\' :: 'u' :: a :: b :: c :: d :: cs) (Char.ofNat n :: xs)
  | pair {a b c d a' b' c' d' : Char} {high low : Nat} {cs xs : List Char} :
      codeUnit a b c d = some high → isHighSurrogate high = true →
      codeUnit a' b' c' d' = some low → isLowSurrogate low = true → Spells cs xs →
      Spells ('\\' :: 'u' :: a :: b :: c :: d :: '\\' :: 'u' :: a' :: b' :: c' :: d' :: cs)
        (Char.ofNat (pairValue high low) :: xs)

theorem Spells.isBody {cs xs : List Char} (h : Spells cs xs) : IsBody cs := by
  induction h with
  | nil => exact .nil
  | plain hquote hslash hc _ ih => exact .plain hquote hslash hc ih
  | short he _ ih => exact .short (by rw [he]; rfl) ih
  | unit hunit _ _ _ ih => exact .unit (by rw [hunit]; rfl) ih
  | pair hunit _ hunit' _ _ ih => exact .unit (by rw [hunit]; rfl) (.unit (by rw [hunit']; rfl) ih)

/-- No one-letter escape is spelled like one by code unit. -/
theorem ne_u_of_shortEscape {e : Char} (h : (shortEscape e).isSome = true) : e ≠ 'u' := by
  rintro rfl
  cases h

/-- Every literal is passed over, whatever follows its closing quote. -/
theorem skipLiteral_body {cs : List Char} (h : IsBody cs) (rest : List Char) :
    skipLiteral (cs ++ '"' :: rest) = .ok rest := by
  induction h with
  | nil => rw [List.nil_append, skipLiteral.eq_def]; rfl
  | plain hquote hslash hc _ ih =>
    rw [List.cons_append, skipLiteral.eq_def]
    simp only [hquote, hslash, Nat.not_lt.mpr hc, if_false, ih]
  | short he _ ih =>
    rw [List.cons_append, List.cons_append, skipLiteral.eq_def]
    simp [he, ne_u_of_shortEscape he, ih]
  | unit hunit _ ih =>
    simp only [List.cons_append]
    rw [skipLiteral.eq_def]
    simp [hunit, ih]

theorem Spells.decodeFrom {cs xs : List Char} (h : Spells cs xs) (done rest : List Char) :
    decodeFrom done (cs ++ '"' :: rest) = .ok (done.reverse ++ xs, rest) := by
  induction h generalizing done with
  | nil => rw [List.nil_append, decodeFrom_quote, List.append_nil]
  | plain hquote hslash hc _ ih =>
    rw [List.cons_append, decodeFrom_plain hquote hslash hc, ih]
    simp
  | short he _ ih =>
    have hu := ne_u_of_shortEscape (by rw [he]; rfl)
    rw [List.cons_append, List.cons_append, decodeFrom_shortEscape hu he, ih]
    simp
  | unit hunit hlow hhigh _ ih =>
    simp only [List.cons_append]
    rw [decodeFrom_unit hunit hlow hhigh, ih]
    simp
  | pair hunit hhigh hunit' hlow _ ih =>
    simp only [List.cons_append]
    rw [decodeFrom_pair hunit hhigh hunit' hlow, ih]
    simp

/-- A literal is read as the text that it spells, whatever follows its closing quote. -/
theorem Spells.decode {cs xs : List Char} (h : Spells cs xs) (rest : List Char) :
    decode (cs ++ '"' :: rest) = .ok (xs, rest) :=
  h.decodeFrom [] rest

theorem Spells.unique {cs xs ys : List Char} (h : Spells cs xs) (h' : Spells cs ys) : xs = ys := by
  have hsame := (h.decode []).symm.trans (h'.decode [])
  exact (Prod.mk.inj (Except.ok.inj hsame)).1

/-! ## Writing -/

theorem spells_encodeChar (x : Char) {cs xs : List Char} (h : Spells cs xs) :
    Spells (encodeChar x ++ cs) (x :: xs) := by
  unfold encodeChar
  split
  case h_8 hquote hslash _ _ _ _ _ =>
    split
    · rename_i hx
      -- A control is far below the surrogates.
      have hlow : isLowSurrogate x.toNat = false := by
        rw [isLowSurrogate, Bool.and_eq_false_iff, decide_eq_false_iff_not]
        omega
      have hhigh : isHighSurrogate x.toNat = false := by
        rw [isHighSurrogate, Bool.and_eq_false_iff, decide_eq_false_iff_not]
        omega
      have hunit := Spells.unit (codeUnit_control hx) hlow hhigh h
      rw [Char.ofNat_toNat] at hunit
      exact hunit
    · rename_i hx
      exact .plain hquote hslash (Nat.not_lt.mp hx) h
  all_goals exact .short rfl h

/-- The way in which a text is written spells it. -/
theorem spells_encode (cs : List Char) : Spells (encode cs) cs := by
  induction cs with
  | nil => exact .nil
  | cons c cs ih => exact spells_encodeChar c ih

/-- A text written as a literal is read back, whatever follows its closing quote. -/
theorem decode_encode (cs rest : List Char) :
    decode (encode cs ++ '"' :: rest) = .ok (cs, rest) :=
  (spells_encode cs).decode rest

end Json
end SchemaScript
