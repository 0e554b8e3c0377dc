import SchemaScript.Text.Digits

/-!
# SchemaScript.Decimal.Shortest

The shortest decimal numeral that reads back as a given double. A finite double is a fraction
`mantissa * 2 ^ exponent`; the numbers that round to it form an interval whose ends belong to it
when the mantissa is even. For one digit, two digits and so on, the two multiples of the grid
around the value are tried, and the first grid that meets the interval wins.

* `digits`: the digits and the decimal exponent of the first digit.
* `render`: positional notation for exponents from -5 to 15, scientific notation beyond.
-/

namespace SchemaScript
namespace Decimal

/-- A positive double, exactly: `mantissa * 2 ^ exponent`. -/
structure Binary where
  mantissa : Nat
  exponent : Int

/-- A non-negative rational number. -/
structure Ratio where
  num : Nat
  den : Nat

/-- The least mantissa of a normal double, `2 ^ 52`. -/
def leastNormal : Nat := 4503599627370496

/-- The magnitude in the bits of a finite double. -/
def Binary.ofBits (bits : Nat) : Binary :=
  let fraction : Nat := bits % leastNormal
  let exponent : Nat := bits / leastNormal % 2048
  if exponent = 0 then ⟨fraction, -1074⟩ else ⟨leastNormal + fraction, (exponent : Int) - 1075⟩

def Ratio.scaled (n : Nat) (e : Int) : Ratio :=
  if e < 0 then ⟨n, 1 <<< e.natAbs⟩ else ⟨n <<< e.natAbs, 1⟩

def tenTo (k : Nat) : Nat :=
  Nat.pow 10 k

def Ratio.shift (r : Ratio) (e : Int) : Ratio :=
  if e < 0 then ⟨r.num * tenTo e.natAbs, r.den⟩ else ⟨r.num, r.den * tenTo e.natAbs⟩

/-- The decimal exponent of the leading digit of a positive rational. -/
def Ratio.leading (r : Ratio) : Int :=
  if r.den ≤ r.num then
    ((Text.decimal (r.num / r.den)).length : Int) - 1
  else
    match (List.range 400).find? (fun k => r.den ≤ r.num * tenTo k) with
    | some k => -(k : Int)
    | none => 0

/-- The least number of digits with a decimal between the neighbours of `b`, and the nearer one
of two such decimals: digits as a number, and the exponent of its last digit. -/
def shortest (b : Binary) : Nat × Int :=
  let q := b.exponent - 2
  let value := Ratio.scaled (4 * b.mantissa) q
  let below :=
    Ratio.scaled (if b.mantissa = leastNormal ∧ b.exponent ≠ -1074 then 4 * b.mantissa - 1
      else 4 * b.mantissa - 2) q
  let above := Ratio.scaled (4 * b.mantissa + 2) q
  let even := b.mantissa % 2 = 0
  let lead := value.leading
  let inside (unit : Int) (k : Nat) : Bool :=
    let lo := below.shift unit
    let hi := above.shift unit
    (if even then lo.num ≤ k * lo.den else lo.num < k * lo.den)
      && (if even then k * hi.den ≤ hi.num else k * hi.den < hi.num)
  let attempt (count : Nat) : Option (Nat × Int) :=
    let unit := lead - count + 1
    let v := value.shift unit
    let k := v.num / v.den
    let nearerUp := v.den < 2 * (v.num % v.den) ∨ (v.den = 2 * (v.num % v.den) ∧ k % 2 = 1)
    match inside unit k, inside unit (k + 1) with
    | true, true => some (if nearerUp then k + 1 else k, unit)
    | true, false => some (k, unit)
    | false, true => some (k + 1, unit)
    | false, false => none
  ((List.range 17).findSome? fun n => attempt (n + 1)).getD (0, 0)

/-- The digits of `shortest` without trailing zeros, and the exponent of the first digit. -/
def digits (b : Binary) : List Char × Int :=
  let (k, unit) := shortest b
  let ds := Text.decimal k
  ((ds.reverse.dropWhile (· == '0')).reverse, unit + ds.length - 1)

/-- Digits `ds` whose first has exponent `e`: positional from -5 to 15 with at least one digit
after the point, and with a signed exponent otherwise. -/
def layout (ds : List Char) (e : Int) : List Char :=
  if -5 ≤ e ∧ e < 0 then
    '0' :: '.' :: List.replicate (e.natAbs - 1) '0' ++ ds
  else if 0 ≤ e ∧ e ≤ 15 then
    let n := e.natAbs + 1
    let whole := ds.take n ++ List.replicate (n - ds.length) '0'
    let fraction := ds.drop n
    whole ++ '.' :: (if fraction.isEmpty then ['0'] else fraction)
  else
    let mark := if e < 0 then '-' else '+'
    let mantissa :=
      match ds with
      | d :: r :: rs => d :: '.' :: r :: rs
      | _ => ds
    mantissa ++ 'e' :: mark :: Text.decimal e.natAbs

/-- The shortest numeral that reads back as the finite double with these bits. -/
def render (bits : UInt64) : List Char :=
  let sign := if bits >>> 63 = 1 then ['-'] else []
  let b := Binary.ofBits bits.toNat
  if b.mantissa = 0 then
    sign ++ ['0', '.', '0']
  else
    let (ds, e) := digits b
    sign ++ layout ds e

end Decimal
end SchemaScript
