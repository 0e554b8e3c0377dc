import Mathlib.Data.List.TakeDrop
import SchemaScript.Json.Reader
import SchemaScript.Proofs.Text.Digits

/-!
# SchemaScript.Proofs.Json.Numeral

The grammar of numerals, and integers that are read back from their decimal numerals.

* `EndsNumber`: what may follow a number, so that it is not read on.
* `IsUnsigned`: the numerals, less their sign.
* `Numeral.read_unsigned`: all of them are read, up to their end.
* `Numeral.absorb_decimal`: the value of the digits.
* `readNumber_signedDecimal`: the numeral of an integer of 64 bits.
-/

namespace SchemaScript
namespace Json

/-- What may follow a number: no digit, no point and no exponent. -/
def EndsNumber : List Char → Prop
  | [] => True
  | c :: _ => c.isDigit = false ∧ c ≠ '.' ∧ c ≠ 'e' ∧ c ≠ 'E'

/-- What may follow digits. -/
def EndsDigits (rest : List Char) : Prop :=
  ∀ c cs, rest = c :: cs → c.isDigit = false

theorem EndsNumber.endsDigits {rest : List Char} (h : EndsNumber rest) : EndsDigits rest := by
  rintro c cs rfl
  exact h.1

theorem spanDigits_append {ds rest : List Char} (hds : ∀ c ∈ ds, c.isDigit = true)
    (hrest : EndsDigits rest) : spanDigits (ds ++ rest) = (ds, rest) := by
  have htake : rest.takeWhile Char.isDigit = [] := by
    cases rest with
    | nil => rfl
    | cons c rest => rw [List.takeWhile_cons, hrest c rest rfl, if_neg Bool.false_ne_true]
  have hdrop : rest.dropWhile Char.isDigit = rest := by
    cases rest with
    | nil => rfl
    | cons c rest => rw [List.dropWhile_cons, hrest c rest rfl, if_neg Bool.false_ne_true]
  rw [spanDigits, List.span_eq_takeWhile_dropWhile, List.takeWhile_append_of_pos hds,
    List.dropWhile_append_of_pos hds, htake, hdrop, List.append_nil]

/-! ## Grammar -/

/-- One digit or more. -/
def IsDigits (cs : List Char) : Prop :=
  cs ≠ [] ∧ ∀ c ∈ cs, c.isDigit = true

/-- The digits before the point: one zero, or digits that do not start with zero. -/
inductive IsWhole : List Char → Prop where
  | zero : IsWhole ['0']
  | digits {d : Char} {ds : List Char} : d ≠ '0' → IsDigits (d :: ds) → IsWhole (d :: ds)

/-- A point and the digits after it, or nothing. -/
inductive IsFraction : List Char → Prop where
  | absent : IsFraction []
  | digits {ds : List Char} : IsDigits ds → IsFraction ('.' :: ds)

/-- An exponent with its sign, or nothing. -/
inductive IsExponent : List Char → Prop where
  | absent : IsExponent []
  | digits {e : Char} {sign ds : List Char} : e = 'e' ∨ e = 'E' →
      sign = [] ∨ sign = ['+'] ∨ sign = ['-'] → IsDigits ds → IsExponent (e :: sign ++ ds)

/-- A numeral less its sign. -/
inductive IsUnsigned : List Char → Prop where
  | mk {whole fraction exponent : List Char} : IsWhole whole → IsFraction fraction →
      IsExponent exponent → IsUnsigned (whole ++ fraction ++ exponent)

namespace Numeral

theorem readWhole_whole (atEnd : Error) {cs rest : List Char} (h : IsWhole cs)
    (hrest : EndsDigits rest) : readWhole atEnd (cs ++ rest) = .ok (cs, rest) := by
  cases h with
  | zero =>
    cases rest with
    | nil => rfl
    | cons c rest => simp [readWhole, hrest c rest rfl]
  | @digits d ds hd hdigits =>
    have hspan := spanDigits_append hdigits.2 hrest
    rw [List.cons_append] at hspan ⊢
    rw [readWhole.eq_def]
    simp only [if_neg hd, if_pos (hdigits.2 d List.mem_cons_self)]
    exact congrArg Except.ok hspan

theorem readFraction_fraction (atEnd : Error) {cs rest : List Char} (h : IsFraction cs)
    (hrest : EndsDigits rest) (hpoint : ∀ more, rest ≠ '.' :: more) :
    ∃ digits, readFraction atEnd (cs ++ rest) = .ok (digits, rest) := by
  cases h with
  | absent =>
    refine ⟨none, ?_⟩
    rw [List.nil_append]
    unfold readFraction
    split
    · rename_i more
      exact absurd rfl (hpoint more)
    · rfl
  | @digits ds hds =>
    obtain ⟨d, more, rfl⟩ := List.exists_cons_of_ne_nil hds.1
    refine ⟨some (d :: more), ?_⟩
    rw [List.cons_append, readFraction, spanDigits_append hds.2 hrest]

theorem readSign_append {sign ds : List Char} (rest : List Char) (hds : IsDigits ds)
    (hsign : sign = [] ∨ sign = ['+'] ∨ sign = ['-']) :
    ∃ negative, readSign (sign ++ (ds ++ rest)) = (negative, ds ++ rest) := by
  rcases hsign with rfl | rfl | rfl
  · obtain ⟨d, more, rfl⟩ := List.exists_cons_of_ne_nil hds.1
    refine ⟨false, ?_⟩
    have hdigit := hds.2 d List.mem_cons_self
    rw [List.nil_append, List.cons_append]
    unfold readSign
    split
    · rename_i heq
      rw [(List.cons.inj heq).1] at hdigit
      cases hdigit
    · rename_i heq
      rw [(List.cons.inj heq).1] at hdigit
      cases hdigit
    · rfl
  · exact ⟨false, rfl⟩
  · exact ⟨true, rfl⟩

theorem readExponent_exponent (atEnd : Error) {cs rest : List Char} (h : IsExponent cs)
    (hrest : EndsNumber rest) :
    ∃ exponent, readExponent atEnd (cs ++ rest) = .ok (exponent, rest) := by
  cases h with
  | absent =>
    refine ⟨none, ?_⟩
    cases rest with
    | nil => rfl
    | cons c rest => simp [readExponent, hrest.2.2]
  | @digits e sign ds he hsign hds =>
    obtain ⟨negative, hread⟩ := readSign_append rest hds hsign
    obtain ⟨d, more, rfl⟩ := List.exists_cons_of_ne_nil hds.1
    refine ⟨some (negative, d :: more), ?_⟩
    rw [List.append_assoc, List.cons_append]
    simp only [readExponent, he, if_true, hread]
    rw [spanDigits_append hds.2 hrest.endsDigits]

theorem endsDigits_exponent {cs rest : List Char} (h : IsExponent cs)
    (hrest : EndsNumber rest) : EndsDigits (cs ++ rest) ∧ ∀ more, cs ++ rest ≠ '.' :: more := by
  cases h with
  | absent =>
    refine ⟨hrest.endsDigits, ?_⟩
    rintro more rfl
    exact hrest.2.1 rfl
  | digits he _ _ =>
    refine ⟨?_, ?_⟩
    · rintro c cs heq
      rw [← (List.cons.inj heq).1]
      rcases he with rfl | rfl <;> decide
    · intro more heq
      rw [(List.cons.inj heq).1] at he
      rcases he with he | he <;> cases he

theorem endsDigits_fraction {cs rest : List Char} (h : IsFraction cs)
    (hrest : EndsDigits rest) : EndsDigits (cs ++ rest) := by
  cases h with
  | absent => exact hrest
  | digits _ =>
    rintro c cs heq
    rw [← (List.cons.inj heq).1]
    decide

/-- Every numeral is read up to its end. -/
theorem read_unsigned (atEnd : Error) (negative : Bool) {cs rest : List Char} (h : IsUnsigned cs)
    (hrest : EndsNumber rest) :
    ∃ n, Numeral.read atEnd negative (cs ++ rest) = .ok (n, rest) := by
  obtain ⟨hwhole, hfraction, hexponent⟩ := h
  rename_i whole fraction exponent
  obtain ⟨hdigits, hpoint⟩ := endsDigits_exponent hexponent hrest
  obtain ⟨f, hf⟩ := readFraction_fraction atEnd hfraction hdigits hpoint
  obtain ⟨e, he⟩ := readExponent_exponent atEnd hexponent hrest
  refine ⟨⟨negative, whole, f, e⟩, ?_⟩
  rw [List.append_assoc, List.append_assoc, Numeral.read,
    readWhole_whole atEnd hwhole (endsDigits_fraction hfraction hdigits)]
  simp only [bind, Except.bind, hf, he]
  rfl

end Numeral

namespace Numeral

/-! ## Values -/

/-- Digits are all taken in as long as their value fits 64 bits. -/
theorem absorb_eq {ds : List Char} {n : Nat} (h : Nat.ofDigitChars 10 ds n < UInt64.size) :
    absorb n ds = (Nat.ofDigitChars 10 ds n, []) := by
  induction ds generalizing n with
  | nil => rfl
  | cons d ds ih =>
    rw [Nat.ofDigitChars_cons] at h ⊢
    -- The value after this digit is no greater than the one at the end.
    have hfits : 10 * n + digitValue d < UInt64.size := by
      refine Nat.lt_of_le_of_lt ?_ h
      rw [Nat.ofDigitChars_eq_ofDigitChars_zero]
      exact Nat.le_trans (Nat.le_mul_of_pos_left _ (Nat.pow_pos (by decide)))
        (Nat.le_add_right _ _)
    rw [absorb, if_pos hfits]
    exact ih h

theorem absorb_decimal {n : Nat} (h : n < UInt64.size) : absorb 0 (Text.decimal n) = (n, []) := by
  have hn : Nat.ofDigitChars 10 (Text.decimal n) 0 = n := Nat.ofDigitChars_ten_toDigits
  rw [absorb_eq (by rw [hn]; exact h), hn]

theorem value_decimal {n : Nat} (h : n < UInt64.size) :
    value ⟨false, Text.decimal n, none, none⟩ = .ok (.integer n) := by
  simp [value, absorb_decimal h]

theorem value_negative {n : Nat} (hn : 0 < n) (h : Int64.minValue.toInt ≤ -n) :
    value ⟨true, Text.decimal n, none, none⟩ = .ok (.integer (-n)) := by
  have hmin : Int64.minValue.toInt = -9223372036854775808 := by decide
  have hsize : UInt64.size = 18446744073709551616 := rfl
  simp only [value, absorb_decimal (n := n) (by omega), Bool.not_true, Bool.false_eq_true, if_false,
    if_pos (And.intro hn h)]

/-! ## Decimal numerals -/

theorem isWhole_decimal (n : Nat) : IsWhole (Text.decimal n) := by
  obtain ⟨d, ds, hd⟩ := Text.exists_cons_decimal n
  rcases Nat.eq_zero_or_pos n with rfl | hn
  · rw [Text.decimal, Nat.toDigits_zero]
    exact .zero
  · have hdigits : ∀ c ∈ Text.decimal n, c.isDigit = true := fun _ => Text.isDigit_of_mem_decimal
    rw [hd] at hdigits ⊢
    exact .digits (Text.head_decimal_ne_zero hn hd) ⟨List.cons_ne_nil _ _, hdigits⟩

/-- A numeral without fraction and exponent. -/
theorem read_decimal (atEnd : Error) (negative : Bool) (n : Nat) {rest : List Char}
    (hrest : EndsNumber rest) :
    Numeral.read atEnd negative (Text.decimal n ++ rest)
      = .ok (⟨negative, Text.decimal n, none, none⟩, rest) := by
  have hfraction : readFraction atEnd rest = .ok (none, rest) := by
    unfold readFraction
    split
    · exact absurd rfl hrest.2.1
    · rfl
  have hexponent : readExponent atEnd rest = .ok (none, rest) := by
    cases rest with
    | nil => rfl
    | cons c rest => simp [readExponent, hrest.2.2]
  rw [Numeral.read, readWhole_whole atEnd (isWhole_decimal n) hrest.endsDigits]
  simp only [bind, Except.bind, hfraction, hexponent]
  rfl

end Numeral

/-! ## Integers -/

theorem readNumber_decimal {n : Nat} (h : n < UInt64.size) {rest : List Char}
    (hrest : EndsNumber rest) :
    readNumber (Text.decimal n ++ rest) = .ok (.integer n, rest) := by
  have hread := Numeral.read_decimal .endInValue false n hrest
  unfold readNumber
  split
  · rename_i cs hcs
    -- A minus sign is no digit.
    obtain ⟨d, ds, hd⟩ := Text.exists_cons_decimal n
    have hdigit : d.isDigit = true := Text.isDigit_of_mem_decimal (n := n) (by rw [hd]; simp)
    rw [hd, List.cons_append, List.cons.injEq] at hcs
    rw [hcs.1] at hdigit
    cases hdigit
  · simp only [hread, bind, Except.bind, Numeral.value_decimal h]
    rfl

theorem readNumber_negative {n : Nat} (hn : 0 < n) (h : Int64.minValue.toInt ≤ -n)
    {rest : List Char} (hrest : EndsNumber rest) :
    readNumber ('-' :: Text.decimal n ++ rest) = .ok (.integer (-n), rest) := by
  have hread := Numeral.read_decimal .endInValue true n hrest
  simp only [readNumber, List.cons_append, hread, bind, Except.bind, Numeral.value_negative hn h]
  rfl

/-- The numeral of an integer of 64 bits is read as that integer. -/
theorem readNumber_signedDecimal {i : Int} (hlow : Int64.minValue.toInt ≤ i)
    (hhigh : i ≤ Int64.maxValue.toInt) {rest : List Char} (hrest : EndsNumber rest) :
    readNumber (Text.signedDecimal i ++ rest) = .ok (.integer i, rest) := by
  have hmax : Int64.maxValue.toInt = 9223372036854775807 := by decide
  have hsize : UInt64.size = 18446744073709551616 := rfl
  unfold Text.signedDecimal
  split
  · have hi : -(i.natAbs : Int) = i := by omega
    rw [readNumber_negative (by omega) (by omega) hrest, hi]
  · have hi : (i.natAbs : Int) = i := by omega
    rw [readNumber_decimal (by omega) hrest, hi]

end Json
end SchemaScript
