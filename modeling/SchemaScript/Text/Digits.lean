/-!
# SchemaScript.Text.Digits

Numbers as digits: decimal numerals, numerals of a least width, and the eight hexadecimal digits of
a 32-bit word.
-/

namespace SchemaScript
namespace Text

def decimal (n : Nat) : List Char :=
  Nat.toDigits 10 n

/-- The decimal numeral of an integer, with a minus sign where it is negative. -/
def signedDecimal (i : Int) : List Char :=
  if i < 0 then '-' :: decimal i.natAbs else decimal i.natAbs

/-- The decimal numeral of `n` with zeros in front up to `width` digits. -/
def padded (width n : Nat) : List Char :=
  List.replicate (width - (decimal n).length) '0' ++ decimal n

/-- The digits `0` to `9` and `a` to `f`. -/
def hexDigit (d : Nat) : Char :=
  Nat.digitChar (d % 16)

/-- The eight lower-case hexadecimal digits of a word, most significant first. -/
def hexWord (w : UInt32) : List Char :=
  [7, 6, 5, 4, 3, 2, 1, 0].map fun i => hexDigit (w.toNat >>> (4 * i))

theorem length_hexWord (w : UInt32) : (hexWord w).length = 8 := rfl

def decimalText (n : Nat) : String :=
  String.ofList (decimal n)

end Text
end SchemaScript
