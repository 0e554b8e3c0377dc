import SchemaScript.Unicode.DisplayWidth

/-!
# SchemaScript.Script.Alignment

Padding texts to one display width, so that what follows them lines up.
-/

namespace SchemaScript

/-- The width to which texts are padded. -/
structure Alignment where
  width : Nat
deriving DecidableEq

namespace Alignment

def none : Alignment := ⟨0⟩

/-- The width of the widest text. -/
def ofTexts (texts : List String) : Alignment :=
  ⟨(texts.map Unicode.displayWidth).foldl max 0⟩

/-- The number of spaces after a text. -/
def fill (a : Alignment) (text : String) : Nat :=
  a.width - Unicode.displayWidth text

/-- A text with enough spaces after it to reach the width. -/
def pad (a : Alignment) (text : String) : String :=
  String.ofList (text.toList ++ List.replicate (a.fill text) ' ')

end Alignment
end SchemaScript
