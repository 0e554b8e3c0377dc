import SchemaScript.Calendar.Instant

/-!
# SchemaScript.Proofs.Text.Digits

Which characters stand in numerals and in the text of a point in time, and which one stands first;
the digits of a 32-bit word.

* `hexWord_eq_leftpad`: the digits of a word are its numeral to base 16, with zeros in front.
* `hexWord_injective`: different words have different digits.
-/

namespace SchemaScript
namespace Text

theorem exists_cons_decimal (n : Nat) : ∃ d ds, decimal n = d :: ds :=
  List.exists_cons_of_ne_nil Nat.toDigits_ne_nil

/-- Only the numeral of zero starts with a zero. -/
theorem head_decimal_ne_zero {n : Nat} (hn : 0 < n) {d : Char} {ds : List Char}
    (h : decimal n = d :: ds) : d ≠ '0' := by
  induction n using Nat.strongRecOn generalizing ds with
  | _ n ih =>
    by_cases hlt : n < 10
    · have hdigit : ∀ n < 10, 0 < n → n.digitChar ≠ '0' := by decide
      rw [decimal, Nat.toDigits_of_lt_base hlt] at h
      cases h
      exact hdigit n hlt hn
    · obtain ⟨e, es, he⟩ := exists_cons_decimal (n / 10)
      rw [decimal, Nat.toDigits_of_base_le (by decide) (Nat.not_lt.mp hlt), ← decimal, he] at h
      cases h
      exact ih (n / 10) (by omega) (by omega) he

theorem isDigit_of_mem_decimal {c : Char} {n : Nat} (h : c ∈ decimal n) : c.isDigit = true :=
  Nat.isDigit_of_mem_toDigits (by decide) (by decide) h

theorem mem_signedDecimal {c : Char} {i : Int} (h : c ∈ signedDecimal i) :
    c.isDigit = true ∨ c = '-' := by
  unfold signedDecimal at h
  split at h
  · rcases List.mem_cons.mp h with h | h
    · exact .inr h
    · exact .inl (isDigit_of_mem_decimal h)
  · exact .inl (isDigit_of_mem_decimal h)

/-- The numeral of an integer is the one by which it is shown. -/
theorem toList_repr (i : Int) : i.repr.toList = signedDecimal i := by
  cases i with
  | ofNat n => exact String.toList_ofList
  | negSucc n =>
    have hnegative : signedDecimal (.negSucc n) = '-' :: decimal (n + 1) := if_pos (by omega)
    rw [hnegative]
    exact String.toList_append.trans (congrArg ('-' :: ·) String.toList_ofList)

theorem decimal_injective {m n : Nat} (h : decimal m = decimal n) : m = n := by
  have hread : ∀ n, Nat.ofDigitChars 10 (decimal n) 0 = n := fun _ => Nat.ofDigitChars_ten_toDigits
  rw [← hread m, h, hread]

theorem isDigit_of_mem_padded {c : Char} {width n : Nat} (h : c ∈ padded width n) :
    c.isDigit = true := by
  rcases List.mem_append.mp h with h | h
  · rw [List.eq_of_mem_replicate h]
    rfl
  · exact isDigit_of_mem_decimal h

theorem lineFeed_not_mem_padded (width n : Nat) : '\n' ∉ padded width n := by
  intro h
  cases isDigit_of_mem_padded h

/-! ## The digits of a word -/

/-- The last digit of a padded numeral, and the digits in front of it. -/
theorem leftpad_toDigits (k n : Nat) :
    (Nat.toDigits 16 n).leftpad (k + 2) '0'
      = (Nat.toDigits 16 (n / 16)).leftpad (k + 1) '0' ++ [hexDigit n] := by
  rw [hexDigit]
  by_cases hn : n < 16
  · have hzero : n / 16 = 0 := by omega
    rw [hzero, Nat.mod_eq_of_lt hn, Nat.toDigits_of_lt_base hn,
      Nat.toDigits_of_lt_base (Nat.zero_lt_succ 15)]
    simp [List.leftpad, List.replicate_succ']
  · rw [Nat.toDigits_of_base_le (by decide) (Nat.not_lt.mp hn)]
    simp [List.leftpad]

/-- The digits of a word are its numeral to base 16, with zeros in front up to eight digits. -/
theorem hexWord_eq_leftpad (w : UInt32) :
    hexWord w = (Nat.toDigits 16 w.toNat).leftpad 8 '0' := by
  have hw := w.toNat_lt
  have hfirst : w.toNat / 16 / 16 / 16 / 16 / 16 / 16 / 16 < 16 := by omega
  have hone : (Nat.toDigits 16 (w.toNat / 16 / 16 / 16 / 16 / 16 / 16 / 16)).leftpad 1 '0'
      = [hexDigit (w.toNat / 16 / 16 / 16 / 16 / 16 / 16 / 16)] := by
    rw [hexDigit, Nat.mod_eq_of_lt hfirst, Nat.toDigits_of_lt_base hfirst]
    rfl
  simp only [leftpad_toDigits, Nat.zero_add, hone]
  simp [hexWord, Nat.shiftRight_eq_div_pow, Nat.div_div_eq_div_mul]

theorem hexDigit_inj {a b : Nat} (h : hexDigit a = hexDigit b) : a % 16 = b % 16 := by
  have hdigit : ∀ a < 16, ∀ b < 16, Nat.digitChar a = Nat.digitChar b → a = b := by decide
  exact hdigit _ (Nat.mod_lt _ (by decide)) _ (Nat.mod_lt _ (by decide)) h

/-- Two numbers with the same last `k` digits to base 16 and the same number before them. -/
theorem eq_of_hexDigits {m n : Nat} (k : Nat)
    (hdigits : ∀ i < k, m >>> (4 * i) % 16 = n >>> (4 * i) % 16)
    (hrest : m >>> (4 * k) = n >>> (4 * k)) : m = n := by
  induction k with
  | zero => exact hrest
  | succ k ih =>
    have hdiv : ∀ x : Nat, x >>> (4 * (k + 1)) = x >>> (4 * k) / 16 := fun x => by
      rw [Nat.mul_succ, Nat.shiftRight_add]
      exact Nat.shiftRight_eq_div_pow _ 4
    rw [hdiv, hdiv] at hrest
    have hlast := hdigits k (Nat.lt_succ_self k)
    exact ih (fun i hi => hdigits i (Nat.lt_succ_of_lt hi)) (by omega)

theorem hexWord_injective {v w : UInt32} (h : hexWord v = hexWord w) : v = w := by
  have hzero : ∀ w : UInt32, w.toNat >>> (4 * 8) = 0 := fun w => by
    rw [Nat.shiftRight_eq_div_pow]
    exact Nat.div_eq_of_lt w.toNat_lt
  refine UInt32.toNat_inj.mp (eq_of_hexDigits 8 (fun i hi => ?_) ((hzero v).trans (hzero w).symm))
  have hplace : i ∈ [7, 6, 5, 4, 3, 2, 1, 0] := by
    simp only [List.mem_cons, List.not_mem_nil, or_false]
    omega
  exact hexDigit_inj (List.map_inj_left.mp h i hplace)

end Text

theorem lineFeed_not_mem_yearText (year : Int) : '\n' ∉ yearText year := by
  unfold yearText
  split
  · exact Text.lineFeed_not_mem_padded 4 _
  · intro h
    rcases List.mem_cons.mp h with h | h
    · split at h <;> cases h
    · exact Text.lineFeed_not_mem_padded 4 _ h

theorem Instant.lineFeed_not_mem_rfc3339 (t : Instant) : '\n' ∉ t.rfc3339.toList := by
  simp [rfc3339, Text.lineFeed_not_mem_padded, lineFeed_not_mem_yearText]

end SchemaScript
