/-!
# SchemaScript.Naming.WordSource

A source of 32-bit words: a finite list, and after it the number that follows the word drawn before.
-/

namespace SchemaScript

/-- Words still to be drawn, the word drawn last, and how many have been drawn. -/
structure WordSource where
  pending : List UInt32
  last : Option UInt32
  drawn : Nat
deriving DecidableEq

namespace WordSource

/-- A source that starts with the given words. -/
def ofList (words : List UInt32) : WordSource := ⟨words, none, 0⟩

def draw (s : WordSource) : UInt32 × WordSource :=
  match s.pending with
  | w :: ws => (w, ⟨ws, some w, s.drawn + 1⟩)
  | [] =>
    let w := match s.last with
      | some w => w + 1
      | none => 0
    (w, ⟨[], some w, s.drawn + 1⟩)

end WordSource
end SchemaScript
