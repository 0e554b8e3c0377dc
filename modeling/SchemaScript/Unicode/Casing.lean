import SchemaScript.Unicode.Casing.Table

/-!
# SchemaScript.Unicode.Casing

Lower case by the full mapping of Unicode. Two characters are special: U+0130 maps to `i` with a
dot above it, and capital sigma maps to its final form `ς` at the end of a word and to `σ`
elsewhere.

* `lowerChars`, `lower`: lower case of a text.
* `equalsIgnoringAsciiCase`: equality up to the case of the letters A to Z.
-/

namespace SchemaScript
namespace Unicode

/-- Lower case of a character that does not depend on its neighbours. -/
def lowerChar (c : Char) : List Char :=
  if c.toNat < 0x80 then
    [c.toLower]
  else if c.toNat = 0x130 then
    ['i', Char.ofNat 0x307]
  else
    match lowerRuns.findSome? (·.image? c.toNat) with
    | some n => [Char.ofNat n]
    | none => [c]

/-- Whether the next character that is not passed over has a case. -/
def meetsCased : List Char → Bool
  | [] => false
  | c :: cs => if caseIgnorable.contains c then meetsCased cs else cased.contains c

/-- Lower case of `cs` where `inWord` tells whether the last character before `cs` that is not
passed over has a case. A capital sigma after such a character and before none is final. -/
def lowerFrom (inWord : Bool) : List Char → List Char
  | [] => []
  | c :: cs =>
    let image :=
      if c = 'Σ' then
        if inWord && !meetsCased cs then ['ς'] else ['σ']
      else
        lowerChar c
    let inWord' := if caseIgnorable.contains c then inWord else cased.contains c
    image ++ lowerFrom inWord' cs

def lowerChars (cs : List Char) : List Char :=
  lowerFrom false cs

def lower (s : String) : String :=
  String.ofList (lowerChars s.toList)

/-- Equality up to the case of the letters A to Z. -/
def equalsIgnoringAsciiCase (s t : String) : Bool :=
  s.toList.map Char.toLower == t.toList.map Char.toLower

end Unicode
end SchemaScript
