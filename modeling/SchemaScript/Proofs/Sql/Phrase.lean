import SchemaScript.Proofs.Sql.Quoting
import SchemaScript.Text.Split

/-!
# SchemaScript.Proofs.Sql.Phrase

Reading SQL text from the front. A reader gives what it has read and the text behind it; what it reads
ends where it was written to end, whatever stands there.

* `takeWord`, `takeQuoted`, `takeName`, `takeList`: words, quoted texts, names, and lists with commas.
* `dropEnd?`: what stands in front of an end that is known.
* `takeQuoted_double`, `takeName_append`: a quoted text ends at its own closing mark.
* `takeList_join`: a list is read item by item, if its items are.
-/

namespace SchemaScript
namespace Sql

/-- Reads something at the start of a text: what it is, and the text behind it. -/
abbrev Reader (α : Type) := List Char → Option (α × List Char)

/-- The text behind a word. -/
def takeWord (word : String) (cs : List Char) : Option (List Char) :=
  if word.toList.isPrefixOf cs then some (cs.drop word.toList.length) else none

/-- A text up to the `q` that ends it, with every pair of `q`s read as one. -/
def takeQuoted (q : Char) : Reader (List Char)
  | [] => none
  | [c] => if c = q then some ([], []) else none
  | c :: d :: cs =>
    if c = q then
      if d = q then (takeQuoted q cs).map fun (text, rest) => (q :: text, rest)
      else some ([], d :: cs)
    else (takeQuoted q (d :: cs)).map fun (text, rest) => (c :: text, rest)

/-- A name in brackets. -/
def takeName : Reader String
  | '[' :: cs => (takeQuoted ']' cs).map fun (text, rest) => (String.ofList text, rest)
  | _ => none

/-- One item or several with commas between them. -/
def takeList {α : Type} (item : Reader α) (cs : List Char) : Option (List α × List Char) := do
  let (a, rest) ← item cs
  match takeWord ", " rest with
  | none => return ([a], rest)
  | some next =>
    if next.length < cs.length then
      let (as, rest) ← takeList item next
      return (a :: as, rest)
    else none
termination_by cs.length

/-- The text in front of its end. -/
def dropEnd? (ending cs : List Char) : Option (List Char) :=
  if ending.isSuffixOf cs then some (cs.take (cs.length - ending.length)) else none

variable {α : Type} {q c : Char} {cs rest : List Char}

/-! ## Words -/

theorem takeWord_append (word : String) (rest : List Char) :
    takeWord word (word.toList ++ rest) = some rest := by
  have hprefix : word.toList.isPrefixOf (word.toList ++ rest) = true :=
    List.isPrefixOf_iff_prefix.mpr (List.prefix_append _ _)
  rw [takeWord, if_pos hprefix, List.drop_left]

theorem takeWord_eq_none {word : String} (h : ¬ word.toList <+: cs) : takeWord word cs = none := by
  rw [takeWord, if_neg fun hprefix => h (List.isPrefixOf_iff_prefix.mp hprefix)]

/-- A word is not read where another one stands from which it differs. -/
theorem takeWord_other {word other : String}
    (h : (word.toList.take other.toList.length).isPrefixOf other.toList = false)
    (rest : List Char) : takeWord word (other.toList ++ rest) = none := by
  refine takeWord_eq_none fun hprefix => ?_
  have hlength : (word.toList.take other.toList.length).length ≤ other.toList.length :=
    List.length_take_le _ _
  have htake : word.toList.take other.toList.length <+: other.toList :=
    List.prefix_of_prefix_length_le ((List.take_prefix _ _).trans hprefix)
      (List.prefix_append _ _) hlength
  rw [List.isPrefixOf_iff_prefix.mpr htake] at h
  cases h

theorem dropEnd?_append (cs ending : List Char) : dropEnd? ending (cs ++ ending) = some cs := by
  have hsuffix : ending.isSuffixOf (cs ++ ending) = true :=
    List.isSuffixOf_iff_suffix.mpr (List.suffix_append _ _)
  rw [dropEnd?, if_pos hsuffix, List.length_append, Nat.add_sub_cancel, List.take_left]

theorem head?_append_of_head? {word : String} (h : word.toList.head? = some c) (rest : List Char) :
    (word.toList ++ rest).head? = some c := by
  rw [List.head?_append, h, Option.some_or]

/-! ## Quoted texts -/

theorem takeQuoted_pair (q : Char) (cs : List Char) :
    takeQuoted q (q :: q :: cs)
      = (takeQuoted q cs).map fun (text, rest) => (q :: text, rest) := by
  simp [takeQuoted]

theorem takeQuoted_cons_of_ne (hc : c ≠ q) (cs : List Char) :
    takeQuoted q (c :: cs) = (takeQuoted q cs).map fun (text, rest) => (c :: text, rest) := by
  cases cs with
  | nil => simp [takeQuoted, hc]
  | cons d cs => simp [takeQuoted, hc]

theorem takeQuoted_end (h : rest.head? ≠ some q) : takeQuoted q (q :: rest) = some ([], rest) := by
  cases rest with
  | nil => simp [takeQuoted]
  | cons d rest =>
    have hd : d ≠ q := fun hd => h (by rw [hd]; rfl)
    simp [takeQuoted, hd]

/-- A text with every `q` doubled ends at the first `q` behind it, unless another follows there. -/
theorem takeQuoted_double (cs : List Char) (h : rest.head? ≠ some q) :
    takeQuoted q (double q cs ++ q :: rest) = some (cs, rest) := by
  induction cs with
  | nil => exact takeQuoted_end h
  | cons c cs ih =>
    by_cases hc : c = q
    · rw [hc, double_cons_self, List.cons_append, List.cons_append, takeQuoted_pair, ih,
        Option.map_some]
    · rw [double_cons_of_ne hc, List.cons_append, takeQuoted_cons_of_ne hc, ih, Option.map_some]

theorem takeName_append (name : String) (h : rest.head? ≠ some ']') :
    takeName (nameChars name.toList ++ rest) = some (name, rest) := by
  have hchars : nameChars name.toList ++ rest = '[' :: (double ']' name.toList ++ ']' :: rest) := by
    rw [nameChars, List.append_assoc, List.cons_append, List.singleton_append]
  rw [hchars, takeName, takeQuoted_double _ h]
  simp only [Option.map_some, String.ofList_toList]

/-! ## Lists -/

theorem takeList_last {item : Reader α} {a : α} (hitem : item cs = some (a, rest))
    (hrest : ¬ ", ".toList <+: rest) : takeList item cs = some ([a], rest) := by
  rw [takeList, hitem]
  simp only [Option.bind_eq_bind, Option.bind_some, takeWord_eq_none hrest]
  rfl

theorem takeList_next {item : Reader α} {a : α} {as : List α} {front next : List Char}
    (hitem : item (front ++ (", ".toList ++ next)) = some (a, ", ".toList ++ next))
    (hnext : takeList item next = some (as, rest)) :
    takeList item (front ++ (", ".toList ++ next)) = some (a :: as, rest) := by
  have hlength : next.length < (front ++ (", ".toList ++ next)).length := by
    have hword : ", ".toList.length = 2 := rfl
    rw [List.length_append, List.length_append, hword]
    omega
  rw [takeList, hitem]
  simp only [Option.bind_eq_bind, Option.bind_some, takeWord_append, if_pos hlength, hnext]
  rfl

/-- By induction on the items. Each ends in front of the comma, and the last in front of the
parenthesis that closes the list. -/
theorem takeList_join {item : Reader α} {write : α → List Char}
    (hitem : ∀ a rest, rest.head? ≠ some ']' → item (write a ++ rest) = some (a, rest))
    {as : List α} (has : as ≠ []) (hrest : rest.head? = some ')') :
    takeList item (Text.join ", ".toList (as.map write) ++ rest) = some (as, rest) := by
  induction as with
  | nil => exact absurd rfl has
  | cons a as ih =>
    cases as with
    | nil =>
      refine takeList_last (hitem a rest (by rw [hrest]; decide)) fun hcomma => ?_
      obtain ⟨next, rfl⟩ := hcomma
      cases hrest
    | cons b as =>
      have hjoin : Text.join ", ".toList ((a :: b :: as).map write) ++ rest
          = write a ++ (", ".toList ++ (Text.join ", ".toList ((b :: as).map write) ++ rest)) := by
        simp [Text.join]
      have hcomma : (", ".toList ++ (Text.join ", ".toList ((b :: as).map write) ++ rest)).head?
          ≠ some ']' := by
        rw [head?_append_of_head? (c := ',') rfl]
        decide
      rw [hjoin]
      exact takeList_next (hitem a _ hcomma) (ih (List.cons_ne_nil b as))

end Sql
end SchemaScript
