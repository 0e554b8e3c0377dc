import SchemaScript.Json.Record
import SchemaScript.Proofs.Json.Edit

/-!
# SchemaScript.Proofs.Json.Codec

Formats whose values are read back from every text that presents them.

* `Codec.ReadsAs`: what is read from the texts of a tree, behind any white space and in front of any
  text that does not continue a number.
* `Codec.Lawful`: the law of a format for values of a shape.
* `Codec.lawful_string`, `lawful_bool`, `lawful_int32`, `Codec.Lawful.listOf`: the formats of scalars
  and of lists.
* `Codec.ReadsAs.optional`, `Codec.readsAs_none`: values that may be absent.
-/

namespace SchemaScript
namespace Json

/-- A literal is read as its text, whatever is expected. -/
theorem readStringAs_literal (expected : String) {s : String} {input rest : List Char}
    (h : skipSpace input = literal s ++ rest) : readStringAs expected input = .ok (s, rest) := by
  have hquote : skipSpace input = '"' :: (encode s.toList ++ '"' :: rest) := by
    rw [h]
    simp [literal]
  simp only [readStringAs, hquote, decode_encode, Except.map, String.ofList_toList]

/-- A number starts with a minus sign or a digit. -/
theorem exists_cons_signedDecimal (i : Int) :
    ∃ c cs, Text.signedDecimal i = c :: cs ∧ startsNumber c = true := by
  unfold Text.signedDecimal
  split
  · exact ⟨_, _, rfl, by decide⟩
  · obtain ⟨d, ds, hd, hdigit⟩ := (isUnsigned_decimal i.natAbs).exists_cons
    exact ⟨d, ds, hd, by rw [startsNumber, hdigit, Bool.or_true]⟩

namespace Codec

variable {α : Type} {codec : Codec α}

/-! ## The law -/

/-- Every text of `v` is read as `a`, behind any white space and whatever follows. -/
def ReadsAs (codec : Codec α) (a : α) (v : Tree) : Prop :=
  ∀ ⦃cs input rest : List Char⦄, Writes (.value v) cs → EndsNumber rest →
    skipSpace input = cs ++ rest → codec.read input = .ok (a, rest)

/-- Every value is presented by what is written for it, and is read from whatever presents it. -/
structure Lawful (codec : Codec α) (shape : Shape) : Prop where
  written : ∀ a, Presents shape (codec.write a) (codec.write a).tree
  reads : ∀ {a v}, Presents shape (codec.write a) v → codec.ReadsAs a v

theorem ReadsAs.unique {a b : α} {v : Tree} {cs : List Char} (h : codec.ReadsAs a v)
    (h' : codec.ReadsAs b v) (hv : Writes (.value v) cs) : a = b := by
  have hends : EndsNumber [] := trivial
  have hinput : skipSpace cs = cs ++ [] := by
    rw [← hv.skipSpace_append, List.append_nil]
  have hsame := (h hv hends hinput).symm.trans (h' hv hends hinput)
  exact (Prod.mk.inj (Except.ok.inj hsame)).1

/-- No two values are presented by one tree that has a text. -/
theorem Lawful.unique {shape : Shape} (h : codec.Lawful shape) {a b : α}
    (hb : Presents shape (codec.write a) (codec.write b).tree) : a = b :=
  (h.reads hb).unique (h.reads (h.written b)) (pretty_writes 0 (codec.write b))

/-- A text that holds one value and nothing else is read as that value. -/
theorem ReadsAs.readAll {a : α} {v : Tree} {text : String} (h : codec.ReadsAs a v)
    (htext : TextOf v text) : readAll codec.read text = .ok a := by
  obtain ⟨before, cs, after, hbefore, hcs, hafter, htext⟩ := htext
  have hend : skipSpace after = [] := by
    rw [← List.append_nil after, skipSpace_append hafter]
    rfl
  have hends : EndsNumber after := by
    rw [← List.append_nil after]
    exact endsNumber_append hafter trivial
  have hinput : skipSpace text.toList = cs ++ after := by
    rw [htext, List.append_assoc, skipSpace_append hbefore, hcs.skipSpace_append]
  simp only [Json.readAll, h hcs hends hinput, bind, Except.bind, hend]
  rfl

/-- Values that are presented as they are written have to be read from that alone. -/
theorem lawful_plain (h : ∀ a, codec.ReadsAs a (codec.write a).tree) : codec.Lawful .plain where
  written a := by rw [Presents]
  reads hv := by
    rw [Presents] at hv
    rw [hv]
    exact h _

theorem lawful_string : string.Lawful .plain := by
  refine lawful_plain fun s cs input rest hcs _ hinput => ?_
  rw [Writes.eq_of_scalar hcs] at hinput
  exact readStringAs_literal "a string" hinput

theorem tree_write_string_ne_null (s : String) : (string.write s).tree ≠ null.tree := by
  intro h
  cases Tree.scalar.inj h

theorem lawful_bool : bool.Lawful .plain := by
  refine lawful_plain fun b cs input rest hcs _ hinput => ?_
  cases b with
  | true =>
    rw [Writes.eq_of_scalar hcs] at hinput
    have htrue : skipSpace input = 't' :: 'r' :: 'u' :: 'e' :: rest := hinput
    simp only [bool, readBool, htrue]
    rfl
  | false =>
    rw [Writes.eq_of_scalar hcs] at hinput
    have hfalse : skipSpace input = 'f' :: 'a' :: 'l' :: 's' :: 'e' :: rest := hinput
    simp only [bool, readBool, hfalse]
    rfl

theorem lawful_int32 : int32.Lawful .plain := by
  refine lawful_plain fun i cs input rest hcs hrest hinput => ?_
  have hlow : Int64.minValue.toInt ≤ i.toInt := Int.le_trans (by decide) (Int32.minValue_le_toInt i)
  have hhigh : i.toInt ≤ Int64.maxValue.toInt := Int.le_trans (Int32.toInt_le i) (by decide)
  have hnumber := readNumber_signedDecimal hlow hhigh hrest
  obtain ⟨c, tail, hi, hc⟩ := exists_cons_signedDecimal i.toInt
  rw [hi, List.cons_append] at hnumber
  rw [Writes.eq_of_scalar hcs, hi, List.cons_append] at hinput
  simp only [int32, readInt32, hinput, hc, if_true, hnumber, bind, Except.bind]
  rw [if_pos ⟨Int32.minValue_le_toInt i, Int32.toInt_le i⟩, Int32.ofInt_toInt]

theorem tree_write_int32_ne_null (i : Int32) : (int32.write i).tree ≠ null.tree := by
  intro h
  obtain ⟨c, cs, hi, hc⟩ := exists_cons_signedDecimal i.toInt
  have htext : Text.signedDecimal i.toInt = ['n', 'u', 'l', 'l'] := Tree.scalar.inj h
  rw [hi, List.cons.injEq] at htext
  rw [htext.1] at hc
  cases hc

/-! ## Values that may be absent -/

theorem readsAs_none : codec.optional.ReadsAs none null.tree := by
  intro cs input rest hcs _ hinput
  rw [Writes.eq_of_scalar hcs] at hinput
  have hnone : skipSpace input = 'n' :: 'u' :: 'l' :: 'l' :: rest := hinput
  simp only [Codec.optional, readOptional, hnone]
  rfl

theorem ReadsAs.optional {a : α} {v : Tree} (h : codec.ReadsAs a v) (hnull : v ≠ null.tree) :
    codec.optional.ReadsAs (some a) v := by
  intro cs input rest hcs hrest hinput
  have hread : codec.read (skipSpace input) = .ok (a, rest) :=
    h hcs hrest (by rw [hinput, hcs.skipSpace_append])
  obtain ⟨c, tail, hc, -, -, hn⟩ := hcs.exists_cons
  simp only [Codec.optional, readOptional]
  split
  · rename_i cs' hcs'
    -- The text of the value does not start like `null`.
    rw [hinput, hc, List.cons_append, List.cons.injEq] at hcs'
    exact absurd hcs'.1 (hn hnull)
  · rw [hread]
    rfl

/-! ## Lists -/

theorem nextElement_close (first : Bool) {input rest : List Char}
    (h : skipSpace input = ']' :: rest) : nextElement first input = .ok none := by
  simp only [nextElement, h, if_true]

theorem closeList_close {input rest : List Char} (h : skipSpace input = ']' :: rest) :
    closeList input = .ok rest := by
  simp only [closeList, h]

theorem nextElement_first {v : Tree} {cs input rest : List Char} (hcs : Writes (.value v) cs)
    (hinput : skipSpace input = cs ++ rest) :
    nextElement true input = .ok (some (cs ++ rest)) := by
  obtain ⟨c, tail, rfl, -, hclose, -⟩ := hcs.exists_cons
  simp only [nextElement, hinput, List.cons_append, if_neg hclose, if_true]

theorem nextElement_next {v : Tree} {cs input more rest : List Char} (hcs : Writes (.value v) cs)
    (hcomma : skipSpace input = ',' :: more) (hmore : skipSpace more = cs ++ rest) :
    nextElement false input = .ok (some (cs ++ rest)) := by
  obtain ⟨c, tail, rfl, -, hclose, -⟩ := hcs.exists_cons
  rw [List.cons_append] at hmore
  simp only [nextElement, hcomma, hmore, Char.reduceEq, Bool.false_eq_true, if_false, if_true]
  split
  · rename_i heq
    cases heq
  · rename_i heq
    exact absurd (List.cons.inj heq).1 hclose
  · rfl

/-- The closing bracket ends the list. -/
theorem readElements_close {done : List α} {bound input rest : List Char} (hbound : 0 < bound.length)
    (hclose : skipSpace input = ']' :: rest) :
    readElements codec.read done bound input = .ok (done.reverse, rest) := by
  obtain ⟨b, bound, rfl⟩ := List.exists_cons_of_length_pos hbound
  simp only [readElements, nextElement_close _ hclose, closeList_close hclose, bind, Except.bind]
  rfl

/-- The element that comes next is read. -/
theorem readElements_next {a : α} {v : Tree} {done : List α} {bound input cs rest : List Char}
    (hv : codec.ReadsAs a v) (hcs : Writes (.value v) cs) (hrest : EndsNumber rest)
    (hbound : 0 < bound.length)
    (hnext : nextElement done.isEmpty input = .ok (some (cs ++ rest))) :
    readElements codec.read done bound input
      = readElements codec.read (a :: done) bound.tail rest := by
  obtain ⟨b, bound, rfl⟩ := List.exists_cons_of_length_pos hbound
  have hread := hv hcs hrest (hcs.skipSpace_append rest)
  simp only [readElements, hnext, bind, Except.bind, hread, List.tail_cons]

/-- By induction on the elements not read yet; every element takes a character of the bound. -/
theorem readElements_items {as : List α} {vs : List Tree} (h : List.Forall₂ codec.ReadsAs as vs)
    {done : List α} {bound more after rest : List Char} (hdone : done ≠ [])
    (hbound : more.length < bound.length) (hmore : Writes (.items vs) more)
    (hends : EndsNumber after) (hafter : skipSpace after = ']' :: rest) :
    readElements codec.read done bound (more ++ after) = .ok (done.reverse ++ as, rest) := by
  induction h generalizing done bound more with
  | nil =>
    cases hmore with
    | noItems => rw [List.append_nil, List.nil_append, readElements_close hbound hafter]
  | @cons a v as vs hv _ ih =>
    cases hmore with
    | @item _ _ before gap text more hbefore hgap htext hmore =>
      simp only [List.length_append, List.length_cons] at hbound
      have hcomma := skipSpace_comma hbefore gap text more after
      have hnext := nextElement_next htext hcomma (htext.skipSpace_gap hgap _)
      rw [← List.isEmpty_eq_false_iff.mpr hdone] at hnext
      have hpos : 0 < bound.length := by omega
      have htail : more.length < bound.tail.length := by
        rw [List.length_tail]
        omega
      rw [readElements_next hv htext (endsNumber_items hmore hends) hpos hnext,
        ih (List.cons_ne_nil a done) htail hmore, List.reverse_cons, List.append_assoc,
        List.singleton_append]

theorem readsAs_listOf {as : List α} {vs : List Tree} (h : List.Forall₂ codec.ReadsAs as vs) :
    codec.listOf.ReadsAs as (.list vs) := by
  intro cs input rest hcs _ hinput
  cases hcs with
  | @emptyList gap hgap =>
    cases h
    have hlist : skipSpace input = '[' :: (gap ++ ']' :: rest) := by
      rw [hinput]
      simp
    simp only [Codec.listOf, readList, hlist]
    rw [readElements_close (List.length_pos_of_ne_nil (by simp))
      (skipSpace_mark hgap (by decide) _)]
    rfl
  | @list _ _ before text more after hbefore htext hmore hafter =>
    cases h with
    | @cons a _ as _ hv hvs =>
      have hlist : skipSpace input
          = '[' :: (before ++ (text ++ (more ++ (after ++ ']' :: rest)))) := by
        rw [hinput]
        simp
      have hends : EndsNumber (after ++ ']' :: rest) := endsNumber_mark hafter (by decide) _
      have hnext : nextElement ([] : List α).isEmpty
          (before ++ (text ++ (more ++ (after ++ ']' :: rest))))
            = .ok (some (text ++ (more ++ (after ++ ']' :: rest)))) :=
        nextElement_first htext (htext.skipSpace_gap hbefore _)
      simp only [Codec.listOf, readList, hlist]
      rw [readElements_next hv htext (endsNumber_items hmore hends) ?_ hnext,
        readElements_items hvs (List.cons_ne_nil a []) ?_ hmore hends
          (skipSpace_mark hafter (by decide) _)]
      · rfl
      · simp only [List.length_tail, List.length_append, List.length_cons]
        obtain ⟨c, tail, rfl, -⟩ := htext.exists_cons
        rw [List.length_cons]
        omega
      · simp only [List.length_append, List.length_cons]
        omega

/-- Lists are read from lists of what presents their elements. -/
theorem Lawful.listOf {shape : Shape} (h : codec.Lawful shape) :
    codec.listOf.Lawful (.list shape) where
  written as := by
    rw [Codec.listOf, tree, trees_eq_map, presents_list_iff]
    refine ⟨_, rfl, ?_⟩
    rw [List.forall₂_map_right_iff, List.forall₂_same]
    exact List.forall_mem_map.mpr fun a _ => h.written a
  reads {as v} hv := by
    rw [Presents] at hv
    obtain ⟨js, vs, hjs, rfl, hall⟩ := hv
    cases hjs
    rw [List.forall₂_map_left_iff] at hall
    exact readsAs_listOf (hall.imp fun a v => h.reads)

end Codec
end Json
end SchemaScript
