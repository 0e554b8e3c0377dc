/-!
# SchemaScript.Text.Split

Cutting a text at separators and joining parts.

* `split`: the parts between the separators; there is one part more than there are separators.
* `join`: the parts with a separator between neighbours.
-/

namespace SchemaScript
namespace Text

/-- The parts of a text between the characters that satisfy `isSeparator`. -/
def split (isSeparator : Char → Bool) : List Char → List (List Char)
  | [] => [[]]
  | c :: cs =>
    if isSeparator c then
      [] :: split isSeparator cs
    else
      match split isSeparator cs with
      | part :: parts => (c :: part) :: parts
      | [] => [[c]]

/-- The parts with `separator` between neighbours. -/
def join (separator : List Char) : List (List Char) → List Char
  | [] => []
  | [part] => part
  | part :: parts => part ++ separator ++ join separator parts

theorem split_ne_nil (p : Char → Bool) (cs : List Char) : split p cs ≠ [] := by
  cases cs with
  | nil => simp [split]
  | cons c cs =>
    unfold split
    split
    · simp
    · split <;> simp

end Text
end SchemaScript
