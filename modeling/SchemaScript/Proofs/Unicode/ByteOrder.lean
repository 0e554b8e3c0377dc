import Mathlib.Data.String.Basic
import Mathlib.Tactic.SplitIfs

/-!
# SchemaScript.Proofs.Unicode.ByteOrder

The order of texts by their characters is the order of their bytes in UTF-8.

* `Unicode.encodeChar_lt`: a greater character has greater bytes, whatever follows.
* `Unicode.bytes_lt_iff`: the order of texts and the order of their bytes.
-/

namespace SchemaScript
namespace Unicode

open String (utf8EncodeChar)

/-- The last digits of a code to base 64, as the bytes after the first. -/
def digits : Nat → Nat → List UInt8
  | 0, _ => []
  | k + 1, n => UInt8.ofNat (n / 64 ^ k % 64 + 0x80) :: digits k n

theorem digits_lt {k m n : Nat} (h : m % 64 ^ k < n % 64 ^ k) (as bs : List UInt8) :
    digits k m ++ as < digits k n ++ bs := by
  induction k with
  | zero => omega
  | succ k ih =>
    rw [Nat.mod_pow_succ, Nat.mod_pow_succ] at h
    rw [digits, digits, List.cons_append, List.cons_append, List.cons_lt_cons_iff,
      UInt8.lt_iff_toNat_lt, ← UInt8.toNat_inj, UInt8.toNat_ofNat', UInt8.toNat_ofNat']
    rcases Nat.lt_trichotomy (m / 64 ^ k % 64) (n / 64 ^ k % 64) with hdigit | hdigit | hdigit
    · exact .inl (by omega)
    · rw [hdigit] at h
      exact .inr ⟨by rw [hdigit], ih (Nat.lt_of_add_lt_add_right h)⟩
    · -- a greater digit outweighs all that come after it
      have hstep := Nat.mul_le_mul_left (64 ^ k) hdigit
      have hrest := Nat.mod_lt n (Nat.pow_pos (n := k) (show 0 < 64 by decide))
      rw [Nat.mul_succ] at hstep
      omega

theorem encodeChar_eq (c : Char) :
    utf8EncodeChar c =
      let n := c.val.toNat
      if n ≤ 0x7f then UInt8.ofNat n :: digits 0 n
      else if n ≤ 0x7ff then UInt8.ofNat (n / 64 % 0x20 + 0xc0) :: digits 1 n
      else if n ≤ 0xffff then UInt8.ofNat (n / 4096 % 0x10 + 0xe0) :: digits 2 n
      else UInt8.ofNat (n / 262144 % 0x08 + 0xf0) :: digits 3 n := by
  simp [utf8EncodeChar, digits]

theorem cons_digits_lt {u v j k m n : Nat} (hv : v < 256)
    (h : u < v ∨ u = v ∧ j = k ∧ m % 64 ^ k < n % 64 ^ k) (as bs : List UInt8) :
    UInt8.ofNat u :: digits j m ++ as < UInt8.ofNat v :: digits k n ++ bs := by
  rw [List.cons_append, List.cons_append, List.cons_lt_cons_iff, UInt8.lt_iff_toNat_lt,
    UInt8.toNat_ofNat', UInt8.toNat_ofNat']
  rcases h with h | ⟨rfl, rfl, h⟩
  · exact .inl (by omega)
  · exact .inr ⟨rfl, digits_lt h as bs⟩

/-- With more bytes the first byte is greater, and with equally many the digits decide. -/
theorem encodeChar_lt {c d : Char} (h : c < d) (as bs : List UInt8) :
    utf8EncodeChar c ++ as < utf8EncodeChar d ++ bs := by
  have hlt : c.val.toNat < d.val.toNat := UInt32.lt_iff_toNat_lt.mp h
  have hcode : d.val.toNat < 0x110000 := by
    rcases d.valid with hd | ⟨-, hd⟩
    · exact Nat.lt_trans hd (by decide)
    · exact hd
  rw [encodeChar_eq, encodeChar_eq]
  dsimp only
  split_ifs
  all_goals exact cons_digits_lt (by omega) (by omega) as bs

theorem encode_lt {cs ds : List Char} (h : cs < ds) :
    cs.flatMap utf8EncodeChar < ds.flatMap utf8EncodeChar := by
  induction cs generalizing ds with
  | nil =>
    cases ds with
    | nil => exact absurd h (List.not_lt_nil [])
    | cons d ds =>
      obtain ⟨x, xs, hd⟩ := List.exists_cons_of_ne_nil (String.utf8EncodeChar_ne_nil (c := d))
      rw [List.flatMap_cons, hd]
      exact List.nil_lt_cons x _
  | cons c cs ih =>
    cases ds with
    | nil => exact absurd h (List.not_lt_nil _)
    | cons d ds =>
      rw [List.flatMap_cons, List.flatMap_cons]
      rcases List.cons_lt_cons_iff.mp h with hlt | ⟨rfl, hlt⟩
      · exact encodeChar_lt hlt _ _
      · exact List.append_left_lt (ih hlt)

theorem toUTF8_eq_flatMap (s : String) :
    s.toUTF8.data.toList = s.toList.flatMap utf8EncodeChar := by
  have h : s.toUTF8 = (s.toList.flatMap utf8EncodeChar).toByteArray := by
    obtain ⟨cs, rfl⟩ := s.exists_eq_ofList
    rw [String.toUTF8_eq_toByteArray, String.toByteArray_ofList, String.toList_ofList,
      List.utf8Encode]
  rw [h, List.data_toByteArray]

theorem bytes_lt_iff {s t : String} :
    s.toUTF8.data.toList < t.toUTF8.data.toList ↔ s < t := by
  have hlt : ∀ {s t : String}, s < t → s.toUTF8.data.toList < t.toUTF8.data.toList := by
    intro s t h
    rw [toUTF8_eq_flatMap, toUTF8_eq_flatMap]
    exact encode_lt (String.lt_iff_toList_lt.mp h)
  refine ⟨fun h => ?_, hlt⟩
  rcases lt_trichotomy s t with hst | rfl | hts
  · exact hst
  · exact absurd h (List.lt_irrefl _)
  · exact absurd h (List.lt_asymm (hlt hts))

end Unicode
end SchemaScript
