import SchemaScript.Json.Reader
import SchemaScript.Json.Value
import SchemaScript.Proofs.Json.Literal
import SchemaScript.Proofs.Json.Numeral

/-!
# SchemaScript.Proofs.Json.Syntax

The grammar of JSON texts. A tree keeps the spelling of what it holds, of numbers and strings as well
as of the names of members; what its texts may differ in is the white space between the tokens.

* `IsScalar`, `Tree`: values that hold no others, and all values.
* `Writes`, `TextOf`: the texts of a tree, bare and with white space around them.
* `skipSpace_append`, `endsNumber_items`, `Writes.exists_cons`, …: what stands around a value, and at
  its start.
* `Json.tree`, `Json.pretty_writes`: the tree of a value that is written, and its text over several
  lines.
-/

namespace SchemaScript
namespace Json

/-- White space between tokens. -/
def IsSpaces (cs : List Char) : Prop :=
  ∀ c ∈ cs, isSpace c = true

/-- The text of a value that holds no others. -/
inductive IsScalar : List Char → Prop where
  | null : IsScalar ['n', 'u', 'l', 'l']
  | true : IsScalar ['t', 'r', 'u', 'e']
  | false : IsScalar ['f', 'a', 'l', 's', 'e']
  | number {cs : List Char} : IsUnsigned cs → IsScalar cs
  | negative {cs : List Char} : IsUnsigned cs → IsScalar ('-' :: cs)
  | string {body : List Char} : IsBody body → IsScalar ('"' :: body ++ ['"'])

/-- A value by its text, its elements, or its members. The name of a member is given as it is
spelled between its quotes. -/
inductive Tree where
  | scalar (text : List Char)
  | list (items : List Tree)
  | object (members : List (List Char × Tree))

/-- What a text may be the text of: a value, a member, or the elements or members of a value after
the first, each behind a comma. -/
inductive Part where
  | value (tree : Tree)
  | member (key : List Char) (tree : Tree)
  | items (trees : List Tree)
  | members (members : List (List Char × Tree))

/-- The texts of a tree, without white space around them, and those of its parts. -/
inductive Writes : Part → List Char → Prop where
  | scalar {text : List Char} : IsScalar text → Writes (.value (.scalar text)) text
  | emptyList {gap : List Char} : IsSpaces gap → Writes (.value (.list [])) ('[' :: gap ++ [']'])
  | list {v : Tree} {vs : List Tree} {before text more after : List Char} :
      IsSpaces before → Writes (.value v) text → Writes (.items vs) more → IsSpaces after →
      Writes (.value (.list (v :: vs))) ('[' :: before ++ text ++ more ++ after ++ [']'])
  | emptyObject {gap : List Char} : IsSpaces gap →
      Writes (.value (.object [])) ('{' :: gap ++ ['}'])
  | object {key : List Char} {v : Tree} {ms : List (List Char × Tree)}
      {before text more after : List Char} :
      IsSpaces before → Writes (.member key v) text → Writes (.members ms) more → IsSpaces after →
      Writes (.value (.object ((key, v) :: ms))) ('{' :: before ++ text ++ more ++ after ++ ['}'])
  | member {key : List Char} {v : Tree} {before after text : List Char} :
      IsBody key → IsSpaces before → IsSpaces after → Writes (.value v) text →
      Writes (.member key v) ('"' :: key ++ '"' :: before ++ ':' :: after ++ text)
  | noItems : Writes (.items []) []
  | item {v : Tree} {vs : List Tree} {before after text more : List Char} :
      IsSpaces before → IsSpaces after → Writes (.value v) text → Writes (.items vs) more →
      Writes (.items (v :: vs)) (before ++ ',' :: after ++ text ++ more)
  | noMembers : Writes (.members []) []
  | moreMembers {key : List Char} {v : Tree} {ms : List (List Char × Tree)}
      {before after text more : List Char} :
      IsSpaces before → IsSpaces after → Writes (.member key v) text → Writes (.members ms) more →
      Writes (.members ((key, v) :: ms)) (before ++ ',' :: after ++ text ++ more)

/-- The texts of a tree, with white space around them. -/
def TextOf (v : Tree) (text : String) : Prop :=
  ∃ before cs after, IsSpaces before ∧ Writes (.value v) cs ∧ IsSpaces after ∧
    text.toList = before ++ cs ++ after

mutual

/-- The tree of a value, spelled as it is written. -/
def tree : Json → Tree
  | null => .scalar ['n', 'u', 'l', 'l']
  | bool true => .scalar ['t', 'r', 'u', 'e']
  | bool false => .scalar ['f', 'a', 'l', 's', 'e']
  | number i => .scalar (Text.signedDecimal i)
  | string s => .scalar (literal s)
  | list vs => .list (trees vs)
  | object ms => .object (memberTrees ms)

def trees : List Json → List Tree
  | [] => []
  | v :: vs => tree v :: trees vs

def memberTrees : List (String × Json) → List (List Char × Tree)
  | [] => []
  | (k, v) :: ms => (encode k.toList, tree v) :: memberTrees ms

end

theorem trees_eq_map (vs : List Json) : trees vs = vs.map tree := by
  induction vs with
  | nil => rfl
  | cons v vs ih => rw [trees, ih, List.map_cons]

theorem memberTrees_eq_map (ms : List (String × Json)) :
    memberTrees ms = ms.map fun m => (encode m.1.toList, tree m.2) := by
  induction ms with
  | nil => rfl
  | cons m ms ih => rw [memberTrees, ih, List.map_cons]

/-! ## White space -/

theorem skipSpace_of_not_isSpace {c : Char} (hc : isSpace c = false) (cs : List Char) :
    skipSpace (c :: cs) = c :: cs := by
  rw [skipSpace, List.dropWhile_cons, hc, if_neg Bool.false_ne_true]

theorem skipSpace_append {gap : List Char} (h : IsSpaces gap) (cs : List Char) :
    skipSpace (gap ++ cs) = skipSpace cs := by
  rw [skipSpace, List.dropWhile_append_of_pos h]
  rfl

/-- White space before a mark is passed over. -/
theorem skipSpace_mark {gap : List Char} (h : IsSpaces gap) {c : Char} (hc : isSpace c = false)
    (cs : List Char) : skipSpace (gap ++ c :: cs) = c :: cs := by
  rw [skipSpace_append h, skipSpace_of_not_isSpace hc]

theorem skipSpace_comma {before : List Char} (h : IsSpaces before) (after text more rest : List Char) :
    skipSpace (before ++ ',' :: after ++ text ++ more ++ rest)
      = ',' :: (after ++ (text ++ (more ++ rest))) := by
  simp only [List.append_assoc, List.cons_append]
  exact skipSpace_mark h (by decide) _

theorem isSpace_of_startsNumber {c : Char} (h : startsNumber c = true) : isSpace c = false := by
  rw [Bool.eq_false_iff]
  intro hspace
  simp only [isSpace, Bool.or_eq_true, decide_eq_true_eq] at hspace
  rcases hspace with ((rfl | rfl) | rfl) | rfl <;> cases h

/-- A number is not read on into white space, or into the mark behind it. -/
theorem endsNumber_append {gap : List Char} (h : IsSpaces gap) {rest : List Char}
    (hrest : EndsNumber rest) : EndsNumber (gap ++ rest) := by
  cases gap with
  | nil => exact hrest
  | cons c gap =>
    have hc : isSpace c = true := h c List.mem_cons_self
    simp only [isSpace, Bool.or_eq_true, decide_eq_true_eq] at hc
    rcases hc with ((rfl | rfl) | rfl) | rfl <;>
      exact ⟨by decide, by decide, by decide, by decide⟩

theorem endsNumber_mark {gap : List Char} (h : IsSpaces gap) {c : Char} (hc : c ∈ [',', ']', '}'])
    (rest : List Char) : EndsNumber (gap ++ c :: rest) := by
  refine endsNumber_append h ?_
  simp only [List.mem_cons, List.not_mem_nil, or_false] at hc
  rcases hc with rfl | rfl | rfl <;> exact ⟨by decide, by decide, by decide, by decide⟩

theorem endsNumber_items {vs : List Tree} {more rest : List Char} (h : Writes (.items vs) more)
    (hrest : EndsNumber rest) : EndsNumber (more ++ rest) := by
  cases h with
  | noItems => exact hrest
  | item hbefore _ _ _ =>
    simp only [List.append_assoc, List.cons_append]
    exact endsNumber_mark hbefore (by decide) _

theorem endsNumber_members {ms : List (List Char × Tree)} {more rest : List Char}
    (h : Writes (.members ms) more) (hrest : EndsNumber rest) : EndsNumber (more ++ rest) := by
  cases h with
  | noMembers => exact hrest
  | moreMembers hbefore _ _ _ =>
    simp only [List.append_assoc, List.cons_append]
    exact endsNumber_mark hbefore (by decide) _

/-! ## The first character -/

theorem IsUnsigned.exists_cons {cs : List Char} (h : IsUnsigned cs) :
    ∃ c tail, cs = c :: tail ∧ c.isDigit = true := by
  obtain ⟨hwhole, -, -⟩ := h
  cases hwhole with
  | zero => exact ⟨_, _, rfl, by decide⟩
  | digits _ hdigits => exact ⟨_, _, rfl, hdigits.2 _ List.mem_cons_self⟩

/-- A value starts with a character that tells it from white space and from the end of a list, and
from `null` if it is another value. -/
theorem Writes.exists_cons {v : Tree} {cs : List Char} (h : Writes (.value v) cs) :
    ∃ c tail, cs = c :: tail ∧ isSpace c = false ∧ c ≠ ']' ∧ (v ≠ null.tree → c ≠ 'n') := by
  cases h with
  | emptyList _ => exact ⟨_, _, rfl, by decide, by decide, fun _ => by decide⟩
  | list _ _ _ _ => exact ⟨_, _, rfl, by decide, by decide, fun _ => by decide⟩
  | emptyObject _ => exact ⟨_, _, rfl, by decide, by decide, fun _ => by decide⟩
  | object _ _ _ _ => exact ⟨_, _, rfl, by decide, by decide, fun _ => by decide⟩
  | scalar h =>
    cases h with
    | null => exact ⟨_, _, rfl, by decide, by decide, fun hnull => absurd rfl hnull⟩
    | true => exact ⟨_, _, rfl, by decide, by decide, fun _ => by decide⟩
    | false => exact ⟨_, _, rfl, by decide, by decide, fun _ => by decide⟩
    | negative _ => exact ⟨_, _, rfl, by decide, by decide, fun _ => by decide⟩
    | string _ => exact ⟨_, _, rfl, by decide, by decide, fun _ => by decide⟩
    | number h =>
      obtain ⟨c, tail, rfl, hc⟩ := h.exists_cons
      refine ⟨c, tail, rfl, isSpace_of_startsNumber (by rw [startsNumber, hc, Bool.or_true]), ?_,
        fun _ => ?_⟩
      · rintro rfl
        cases hc
      · rintro rfl
        cases hc

/-- The text of a value that holds no others is the only one. -/
theorem Writes.eq_of_scalar {text cs : List Char} (h : Writes (.value (.scalar text)) cs) :
    cs = text := by
  cases h
  rfl

theorem Writes.skipSpace_append {v : Tree} {cs : List Char} (h : Writes (.value v) cs)
    (rest : List Char) : skipSpace (cs ++ rest) = cs ++ rest := by
  obtain ⟨c, tail, rfl, hc, -⟩ := h.exists_cons
  rw [List.cons_append, skipSpace_of_not_isSpace hc]

/-- White space before a value is passed over. -/
theorem Writes.skipSpace_gap {v : Tree} {gap cs : List Char} (h : Writes (.value v) cs)
    (hgap : IsSpaces gap) (rest : List Char) : skipSpace (gap ++ (cs ++ rest)) = cs ++ rest := by
  rw [Json.skipSpace_append hgap, h.skipSpace_append]

/-! ## Texts over several lines -/

theorem isSpaces_nil : IsSpaces [] :=
  List.forall_mem_nil _

theorem isSpaces_space : IsSpaces [' '] := by
  simp [IsSpaces, isSpace]

theorem isSpaces_lineBreak (depth : Nat) : IsSpaces (lineBreak depth) := by
  intro c hc
  rcases List.mem_cons.mp hc with rfl | hc
  · decide
  · rw [List.eq_of_mem_replicate hc]
    decide

theorem isUnsigned_decimal (n : Nat) : IsUnsigned (Text.decimal n) := by
  have h := IsUnsigned.mk (Numeral.isWhole_decimal n) .absent .absent
  simpa using h

theorem isScalar_signedDecimal (i : Int) : IsScalar (Text.signedDecimal i) := by
  unfold Text.signedDecimal
  split
  · exact .negative (isUnsigned_decimal _)
  · exact .number (isUnsigned_decimal _)

theorem isScalar_literal (s : String) : IsScalar (literal s) :=
  .string (spells_encode s.toList).isBody

/-- A member is written with one space behind its colon. -/
theorem writes_member {k : String} {v : Tree} {text : List Char} (h : Writes (.value v) text) :
    Writes (.member (encode k.toList) v) (literal k ++ ':' :: ' ' :: text) := by
  have hmember := Writes.member (spells_encode k.toList).isBody isSpaces_nil isSpaces_space h
  simpa [literal] using hmember

mutual

/-- The text of a value over several lines is a text of its tree. -/
theorem pretty_writes (depth : Nat) : ∀ v : Json, Writes (.value v.tree) (v.pretty depth)
  | null => .scalar .null
  | bool true => .scalar .true
  | bool false => .scalar .false
  | number i => .scalar (isScalar_signedDecimal i)
  | string s => .scalar (isScalar_literal s)
  | list [] => .emptyList isSpaces_nil
  | list (v :: vs) =>
    .list (isSpaces_lineBreak _) (pretty_writes _ v) (prettyItems_writes _ vs)
      (isSpaces_lineBreak _)
  | object [] => .emptyObject isSpaces_nil
  | object ((k, v) :: ms) => by
    have h := Writes.object (isSpaces_lineBreak (depth + 1))
      (writes_member (k := k) (pretty_writes (depth + 1) v)) (prettyMembers_writes (depth + 1) ms)
      (isSpaces_lineBreak depth)
    simpa [tree, memberTrees, pretty] using h

theorem prettyItems_writes (depth : Nat) :
    ∀ vs : List Json, Writes (.items (trees vs)) (prettyItems depth vs)
  | [] => .noItems
  | v :: vs =>
    .item isSpaces_nil (isSpaces_lineBreak depth) (pretty_writes depth v)
      (prettyItems_writes depth vs)

theorem prettyMembers_writes (depth : Nat) :
    ∀ ms : List (String × Json), Writes (.members (memberTrees ms)) (prettyMembers depth ms)
  | [] => .noMembers
  | (k, v) :: ms => by
    have h := Writes.moreMembers isSpaces_nil (isSpaces_lineBreak depth)
      (writes_member (k := k) (pretty_writes depth v)) (prettyMembers_writes depth ms)
    simpa [memberTrees, prettyMembers] using h

end

end Json
end SchemaScript
