/-!
# SchemaScript.Unicode.CodePointSet

Sets of code points as the ascending list of their boundaries: membership flips at each boundary,
so a code point is in the set when an odd number of boundaries lie at or below it. Two boundaries
describe one range.
-/

namespace SchemaScript
namespace Unicode

/-- A set of code points, given by the ascending positions at which membership flips. -/
structure CodePointSet where
  boundaries : List Nat

namespace CodePointSet

/-- Membership of `n` once the boundaries before these left it at `inside`. -/
def containsFrom (inside : Bool) : List Nat → Nat → Bool
  | [], _ => inside
  | b :: bs, n => if n < b then inside else containsFrom (!inside) bs n

/-- Whether `c` belongs to the set. -/
def contains (s : CodePointSet) (c : Char) : Bool :=
  containsFrom false s.boundaries c.toNat

end CodePointSet

end Unicode
end SchemaScript
