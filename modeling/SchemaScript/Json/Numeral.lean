import SchemaScript.Json.Error

/-!
# SchemaScript.Json.Numeral

Numbers of JSON: their grammar, and the value a numeral stands for.

* `Numeral`: the parts of a numeral.
* `Numeral.read`: reads a numeral after its sign.
* `Numeral.value`: an integer where the numeral has neither fraction nor exponent and fits 64 bits,
  and a double otherwise.
-/

namespace SchemaScript
namespace Json

/-- The parts of a numeral: digits before the point, digits after it, and the exponent. -/
structure Numeral where
  negative : Bool
  whole : List Char
  fraction : Option (List Char)
  exponent : Option (Bool × List Char)
deriving DecidableEq

/-- What a numeral stands for. -/
inductive Number where
  | integer (value : Int)
  | float (bits : UInt64)
deriving DecidableEq

def Number.found : Number → Found
  | integer i => .integer i
  | float bits => .float bits

/-- The digits at the head of a text, and the rest. -/
def spanDigits (input : List Char) : List Char × List Char :=
  input.span Char.isDigit

namespace Numeral

/-- Reads the digits before the point: one zero, or digits that do not start with zero. The fault of
a text that ends here is `atEnd`. -/
def readWhole (atEnd : Error) : List Char → Except Error (List Char × List Char)
  | [] => .error atEnd
  | c :: rest =>
    if c = '0' then
      match rest with
      | d :: _ => if d.isDigit then .error .invalidNumber else .ok (['0'], rest)
      | [] => .ok (['0'], [])
    else if c.isDigit then .ok (spanDigits (c :: rest))
    else .error .invalidNumber

/-- Reads a point and the digits after it, if there is a point. -/
def readFraction (atEnd : Error) (input : List Char) :
    Except Error (Option (List Char) × List Char) :=
  match input with
  | '.' :: rest =>
    match spanDigits rest with
    | ([], []) => .error atEnd
    | ([], _) => .error .invalidNumber
    | (ds, rest) => .ok (some ds, rest)
  | _ => .ok (none, input)

/-- Reads the sign of an exponent; `true` stands for a minus sign. -/
def readSign : List Char → Bool × List Char
  | '+' :: rest => (false, rest)
  | '-' :: rest => (true, rest)
  | input => (false, input)

/-- Reads an exponent, if there is one: whether it is negative, and its digits. -/
def readExponent (atEnd : Error) (input : List Char) :
    Except Error (Option (Bool × List Char) × List Char) :=
  match input with
  | c :: rest =>
    if c = 'e' ∨ c = 'E' then
      let (negative, rest) := readSign rest
      match spanDigits rest with
      | ([], []) => .error atEnd
      | ([], _) => .error .invalidNumber
      | (ds, rest) => .ok (some (negative, ds), rest)
    else .ok (none, input)
  | [] => .ok (none, [])

/-- Reads a numeral after its sign. A text that ends too soon has the fault `atEnd`. -/
def read (atEnd : Error) (negative : Bool) (input : List Char) :
    Except Error (Numeral × List Char) := do
  let (whole, rest) ← readWhole atEnd input
  let (fraction, rest) ← readFraction atEnd rest
  let (exponent, rest) ← readExponent atEnd rest
  return (⟨negative, whole, fraction, exponent⟩, rest)

def digitValue (c : Char) : Nat := c.toNat - 48

/-- Takes digits into `n` as long as the result fits 64 bits. Gives the result and the digits left
over. -/
def absorb (n : Nat) : List Char → Nat × List Char
  | [] => (n, [])
  | d :: ds =>
    if 10 * n + digitValue d < UInt64.size then absorb (10 * n + digitValue d) ds else (n, d :: ds)

/-- `x * 10 ^ e`, by one rounded operation for `|e| ≤ 308` and by steps of `10 ^ 308` below that.
There is no value when the result is too large. -/
def scale (x : Float) (e : Int) : Nat → Option Float
  | 0 => some 0
  | fuel + 1 =>
    if e.natAbs ≤ 308 then
      let power := Float.ofScientific 1 false e.natAbs
      if 0 ≤ e then
        if (x * power).isInf then none else some (x * power)
      else some (x / power)
    else if x == 0 then some x
    else if 0 ≤ e then none
    else scale (x / Float.ofScientific 1 false 308) (e + 308) fuel

/-- The double with the given sign and significand, times a power of ten. After five steps of
`10 ^ 308` nothing is left of a significand of 64 bits. -/
def float (negative : Bool) (significand : Nat) (e : Int) : Except Error Number :=
  match scale significand.toUInt64.toFloat e 5 with
  | some x => .ok (.float (if negative then -x else x).toBits)
  | none => .error .numberOutOfRange

/-- The exponent as written, zero when there is none. -/
def writtenExponent (n : Numeral) : Int :=
  match n.exponent with
  | none => 0
  | some (negative, ds) =>
    let e : Int := ds.foldl (fun k d => 10 * k + digitValue d) 0
    if negative then -e else e

/-- The number a numeral stands for. Digits before the point that do not fit count as powers of ten,
and digits after it that do not fit are dropped. -/
def value (n : Numeral) : Except Error Number :=
  let (whole, left) := absorb 0 n.whole
  match n.fraction, n.exponent, left with
  | none, none, [] =>
    if !n.negative then .ok (.integer whole)
    else if 0 < whole ∧ Int64.minValue.toInt ≤ -whole then .ok (.integer (-whole))
    else float true whole 0
  | fraction, _, left =>
    let digits := fraction.getD []
    let (significand, dropped) := absorb whole digits
    let used := digits.length - dropped.length
    float n.negative significand (left.length - used + n.writtenExponent)

end Numeral

end Json
end SchemaScript
