import SchemaScript.Proofs.Json.Syntax

/-!
# SchemaScript.Proofs.Json.Skip

Every value that the grammar knows is passed over, up to its last character: numbers that are out of
range, literals that spell no text, and lists and objects of any depth.

* `skipScalar_scalar`: values that hold no others.
* `Step`, `Passes`: from one place of a text to another in one step, and in so many.
* `isPassed_of_writes`: every part of a text, in no more than two steps for each of its characters.
* `skip_value`: a whole value.
-/

namespace SchemaScript
namespace Json

/-! ## Values that hold no others -/

theorem readWord_append (word rest : List Char) : readWord word (word ++ rest) = .ok rest := by
  induction word with
  | nil => rfl
  | cons c word ih => rw [List.cons_append, readWord, if_pos rfl, ih]

theorem skipScalar_unsigned {c : Char} {tail rest : List Char} (h : IsUnsigned (c :: tail))
    (hrest : EndsNumber rest) : skipScalar c (tail ++ rest) = .ok rest := by
  obtain ⟨d, more, hcons, hd⟩ := h.exists_cons
  obtain ⟨rfl, rfl⟩ := List.cons.inj hcons
  obtain ⟨n, hn⟩ := Numeral.read_unsigned .invalidNumber false h hrest
  rw [List.cons_append] at hn
  have hne : ∀ mark : Char, mark.isDigit = false → c ≠ mark := by
    rintro mark hmark rfl
    rw [hd] at hmark
    cases hmark
  rw [skipScalar, if_neg (hne 'n' rfl), if_neg (hne 't' rfl), if_neg (hne 'f' rfl),
    if_neg (hne '-' rfl), if_pos hd, hn]
  rfl

/-- A value that holds no others is passed over from its first character, which opens no list and no
object. -/
theorem skipScalar_scalar {cs rest : List Char} (h : IsScalar cs) (hrest : EndsNumber rest) :
    ∃ c tail, cs = c :: tail ∧ c ≠ '[' ∧ c ≠ '{' ∧ skipScalar c (tail ++ rest) = .ok rest := by
  cases h with
  | null => exact ⟨_, _, rfl, by decide, by decide, readWord_append ['u', 'l', 'l'] rest⟩
  | true => exact ⟨_, _, rfl, by decide, by decide, readWord_append ['r', 'u', 'e'] rest⟩
  | false => exact ⟨_, _, rfl, by decide, by decide, readWord_append ['a', 'l', 's', 'e'] rest⟩
  | number h =>
    obtain ⟨c, tail, rfl, hc⟩ := h.exists_cons
    refine ⟨c, tail, rfl, ?_, ?_, skipScalar_unsigned h hrest⟩
    · rintro rfl
      cases hc
    · rintro rfl
      cases hc
  | negative h =>
    obtain ⟨n, hn⟩ := Numeral.read_unsigned .invalidNumber true h hrest
    refine ⟨_, _, rfl, by decide, by decide, ?_⟩
    simp [skipScalar, hn, Except.map]
  | string h =>
    refine ⟨_, _, rfl, by decide, by decide, ?_⟩
    have hskip := skipLiteral_body h rest
    simpa [skipScalar] using hskip

/-! ## Passing over parts of a text -/

/-- Where a value is passed over: the place, the brackets that are open, and the text left. -/
structure Spot where
  place : Place
  brackets : List Bracket
  input : List Char

/-- In at most `n` steps one gets from one spot to another, whatever comes after it. -/
def Passes (n : Nat) (a b : Spot) : Prop :=
  ∃ k ≤ n, ∀ fuel,
    skipFrom (fuel + k) a.place a.brackets a.input = skipFrom fuel b.place b.brackets b.input

theorem Passes.trans {m n : Nat} {a b c : Spot} (h : Passes m a b) (h' : Passes n b c) :
    Passes (m + n) a c := by
  obtain ⟨k, hk, hfirst⟩ := h
  obtain ⟨k', hk', hsecond⟩ := h'
  refine ⟨k' + k, by omega, fun fuel => ?_⟩
  rw [← Nat.add_assoc, hfirst, hsecond]

theorem Passes.mono {m n : Nat} {a b : Spot} (h : Passes m a b) (hmn : m ≤ n) : Passes n a b := by
  obtain ⟨k, hk, hsteps⟩ := h
  exact ⟨k, Nat.le_trans hk hmn, hsteps⟩

/-- What one step does: it takes a bracket or a comma, a value that holds no others, or the key of a
member, or it goes to the first element of a list. -/
inductive Step : Spot → Spot → Prop where
  | scalar {brackets : List Bracket} {input cs rest : List Char} :
      IsScalar cs → EndsNumber rest → skipSpace input = cs ++ rest →
      Step ⟨.value, brackets, input⟩ ⟨.after, brackets, rest⟩
  | openList {brackets : List Bracket} {input rest : List Char} : skipSpace input = '[' :: rest →
      Step ⟨.value, brackets, input⟩ ⟨.inside, .list :: brackets, rest⟩
  | openObject {brackets : List Bracket} {input rest : List Char} : skipSpace input = '{' :: rest →
      Step ⟨.value, brackets, input⟩ ⟨.inside, .object :: brackets, rest⟩
  | closeEmptyList {outer : List Bracket} {input rest : List Char} : skipSpace input = ']' :: rest →
      Step ⟨.inside, .list :: outer, input⟩ ⟨.after, outer, rest⟩
  | closeEmptyObject {outer : List Bracket} {input rest : List Char} :
      skipSpace input = '}' :: rest →
      Step ⟨.inside, .object :: outer, input⟩ ⟨.after, outer, rest⟩
  | firstItem {outer : List Bracket} {input rest : List Char} {c : Char} : c ≠ ']' →
      skipSpace input = c :: rest →
      Step ⟨.inside, .list :: outer, input⟩ ⟨.value, .list :: outer, c :: rest⟩
  | firstMember {outer : List Bracket} {input text rest : List Char} :
      skipSpace input = '"' :: text → openMember ('"' :: text) = .ok rest →
      Step ⟨.inside, .object :: outer, input⟩ ⟨.value, .object :: outer, rest⟩
  | closeList {outer : List Bracket} {input rest : List Char} : skipSpace input = ']' :: rest →
      Step ⟨.after, .list :: outer, input⟩ ⟨.after, outer, rest⟩
  | closeObject {outer : List Bracket} {input rest : List Char} : skipSpace input = '}' :: rest →
      Step ⟨.after, .object :: outer, input⟩ ⟨.after, outer, rest⟩
  | nextItem {outer : List Bracket} {input rest : List Char} : skipSpace input = ',' :: rest →
      Step ⟨.after, .list :: outer, input⟩ ⟨.value, .list :: outer, rest⟩
  | nextMember {outer : List Bracket} {input text rest : List Char} :
      skipSpace input = ',' :: text → openMember text = .ok rest →
      Step ⟨.after, .object :: outer, input⟩ ⟨.value, .object :: outer, rest⟩

theorem Step.skipFrom_eq {a b : Spot} (h : Step a b) (fuel : Nat) :
    skipFrom (fuel + 1) a.place a.brackets a.input
      = skipFrom fuel b.place b.brackets b.input := by
  cases h with
  | scalar hscalar hrest hinput =>
    obtain ⟨c, tail, rfl, hlist, hobject, hskip⟩ := skipScalar_scalar hscalar hrest
    simp only [skipFrom, hinput, List.cons_append, if_neg hlist, if_neg hobject, hskip]
  | openList hinput => simp only [skipFrom, hinput, if_true]
  | openObject hinput => simp only [skipFrom, hinput, Char.reduceEq, if_false, if_true]
  | closeEmptyList hinput => simp only [skipFrom, hinput]
  | closeEmptyObject hinput => simp only [skipFrom, hinput]
  | firstItem hc hinput =>
    simp only [skipFrom, hinput]
    split
    · rename_i heq
      cases heq
    · rename_i heq
      exact absurd (List.cons.inj heq).1 hc
    · rfl
  | firstMember hinput hopen =>
    simp only [skipFrom, hinput]
    split
    · rename_i heq
      cases heq
    · rename_i heq
      exact absurd (List.cons.inj heq).1 (by decide)
    · rw [hopen]
  | closeList hinput => simp only [skipFrom, hinput]
  | closeObject hinput => simp only [skipFrom, hinput]
  | nextItem hinput => simp only [skipFrom, hinput]
  | nextMember hinput hopen => simp only [skipFrom, hinput, hopen]

theorem Step.passes {a b : Spot} (h : Step a b) : Passes 1 a b :=
  ⟨1, Nat.le_refl 1, h.skipFrom_eq⟩

/-- What passing over a part of a text means, by its kind. A member is entered at its value. -/
def IsPassed (cs : List Char) : Part → Prop
  | .value _ => ∀ brackets input rest, EndsNumber rest → skipSpace input = cs ++ rest →
      Passes (2 * cs.length) ⟨.value, brackets, input⟩ ⟨.after, brackets, rest⟩
  | .member _ _ => ∀ rest, EndsNumber rest → ∃ text body,
      cs ++ rest = '"' :: text ∧ openMember ('"' :: text) = .ok body ∧
      ∀ brackets, Passes (2 * cs.length) ⟨.value, brackets, body⟩ ⟨.after, brackets, rest⟩
  | .items _ => ∀ outer rest, EndsNumber rest →
      Passes (2 * cs.length) ⟨.after, .list :: outer, cs ++ rest⟩ ⟨.after, .list :: outer, rest⟩
  | .members _ => ∀ outer rest, EndsNumber rest →
      Passes (2 * cs.length) ⟨.after, .object :: outer, cs ++ rest⟩
        ⟨.after, .object :: outer, rest⟩

theorem openMember_of_skipSpace {input rest : List Char} (h : skipSpace input = '"' :: rest) :
    openMember input = openMember ('"' :: rest) := by
  have hquote : skipSpace ('"' :: rest) = '"' :: rest := skipSpace_of_not_isSpace (by decide) _
  simp only [openMember, h, hquote]

theorem openMember_body {key before : List Char} (hkey : IsBody key) (hbefore : IsSpaces before)
    (rest : List Char) :
    openMember ('"' :: (key ++ '"' :: (before ++ ':' :: rest))) = .ok rest := by
  have hquote : ∀ text, skipSpace ('"' :: text) = '"' :: text :=
    skipSpace_of_not_isSpace (by decide)
  have hcolon : skipSpace (before ++ ':' :: rest) = ':' :: rest :=
    skipSpace_mark hbefore (by decide) rest
  simp only [openMember, hquote, skipKey, skipLiteral_body hkey, bind, Except.bind, colon, hcolon]

section

variable {key before text more after : List Char} {v : Tree} {vs : List Tree}
  {ms : List (List Char × Tree)}

theorem isPassed_scalar (h : IsScalar text) : IsPassed text (.value (.scalar text)) := by
  intro brackets input rest hrest hinput
  obtain ⟨c, tail, rfl, -⟩ := skipScalar_scalar h hrest
  refine (Step.scalar h hrest hinput).passes.mono ?_
  rw [List.length_cons]
  omega

theorem isPassed_emptyList (h : IsSpaces before) :
    IsPassed ('[' :: before ++ [']']) (.value (.list [])) := by
  intro brackets input rest _ hinput
  have hopen : skipSpace input = '[' :: (before ++ ']' :: rest) := by
    rw [hinput]
    simp
  have hclose : skipSpace (before ++ ']' :: rest) = ']' :: rest := skipSpace_mark h (by decide) _
  refine ((Step.openList hopen).passes.trans (Step.closeEmptyList hclose).passes).mono ?_
  simp only [List.cons_append, List.length_cons, List.length_append]
  omega

/-- A list takes one step for each bracket and one to its first element. -/
theorem isPassed_list (hbefore : IsSpaces before) (hv : Writes (.value v) text)
    (hvs : Writes (.items vs) more) (hafter : IsSpaces after) (ihv : IsPassed text (.value v))
    (ihvs : IsPassed more (.items vs)) :
    IsPassed ('[' :: before ++ text ++ more ++ after ++ [']']) (.value (.list (v :: vs))) := by
  intro brackets input rest _ hinput
  have hopen : skipSpace input = '[' :: (before ++ (text ++ (more ++ (after ++ ']' :: rest)))) := by
    rw [hinput]
    simp
  have hends : EndsNumber (after ++ ']' :: rest) := endsNumber_mark hafter (by decide) _
  have hclose : skipSpace (after ++ ']' :: rest) = ']' :: rest :=
    skipSpace_mark hafter (by decide) _
  have htext := hv.skipSpace_append (more ++ (after ++ ']' :: rest))
  obtain ⟨c, tail, htail, -, hc, -⟩ := hv.exists_cons
  have hfirst : Passes 1 ⟨.inside, .list :: brackets,
        before ++ (text ++ (more ++ (after ++ ']' :: rest)))⟩
      ⟨.value, .list :: brackets, text ++ (more ++ (after ++ ']' :: rest))⟩ := by
    rw [htail, List.cons_append] at htext ⊢
    exact (Step.firstItem hc (by rw [skipSpace_append hbefore, htext])).passes
  refine (((((Step.openList hopen).passes.trans hfirst).trans
    (ihv _ _ _ (endsNumber_items hvs hends) htext)).trans (ihvs _ _ hends)).trans
      (Step.closeList hclose).passes).mono ?_
  simp only [List.cons_append, List.length_cons, List.length_append]
  omega

theorem isPassed_emptyObject (h : IsSpaces before) :
    IsPassed ('{' :: before ++ ['}']) (.value (.object [])) := by
  intro brackets input rest _ hinput
  have hopen : skipSpace input = '{' :: (before ++ '}' :: rest) := by
    rw [hinput]
    simp
  have hclose : skipSpace (before ++ '}' :: rest) = '}' :: rest := skipSpace_mark h (by decide) _
  refine ((Step.openObject hopen).passes.trans (Step.closeEmptyObject hclose).passes).mono ?_
  simp only [List.cons_append, List.length_cons, List.length_append]
  omega

/-- An object takes one step for each brace and one to the value of its first member. -/
theorem isPassed_object (hbefore : IsSpaces before) (hms : Writes (.members ms) more)
    (hafter : IsSpaces after) (ihm : IsPassed text (.member key v))
    (ihms : IsPassed more (.members ms)) :
    IsPassed ('{' :: before ++ text ++ more ++ after ++ ['}'])
      (.value (.object ((key, v) :: ms))) := by
  intro brackets input rest _ hinput
  have hopen : skipSpace input = '{' :: (before ++ (text ++ (more ++ (after ++ '}' :: rest)))) := by
    rw [hinput]
    simp
  have hends : EndsNumber (after ++ '}' :: rest) := endsNumber_mark hafter (by decide) _
  have hclose : skipSpace (after ++ '}' :: rest) = '}' :: rest :=
    skipSpace_mark hafter (by decide) _
  obtain ⟨tail, body, htext, hbody, hvalue⟩ := ihm _ (endsNumber_members hms hends)
  have hquote : skipSpace (before ++ (text ++ (more ++ (after ++ '}' :: rest)))) = '"' :: tail := by
    rw [htext]
    exact skipSpace_mark hbefore (by decide) _
  refine (((((Step.openObject hopen).passes.trans (Step.firstMember hquote hbody).passes).trans
    (hvalue _)).trans (ihms _ _ hends)).trans (Step.closeObject hclose).passes).mono ?_
  simp only [List.cons_append, List.length_cons, List.length_append]
  omega

theorem isPassed_member (hkey : IsBody key) (hbefore : IsSpaces before) (hafter : IsSpaces after)
    (hv : Writes (.value v) text) (ih : IsPassed text (.value v)) :
    IsPassed ('"' :: key ++ '"' :: before ++ ':' :: after ++ text) (.member key v) := by
  intro rest hrest
  refine ⟨key ++ '"' :: (before ++ ':' :: (after ++ (text ++ rest))), after ++ (text ++ rest),
    by simp, openMember_body hkey hbefore _, fun brackets => ?_⟩
  refine (ih brackets _ rest hrest (hv.skipSpace_gap hafter rest)).mono ?_
  simp only [List.cons_append, List.length_cons, List.length_append]
  omega

/-- Another element takes one step for its comma. -/
theorem isPassed_item (hbefore : IsSpaces before) (hafter : IsSpaces after)
    (hv : Writes (.value v) text) (hvs : Writes (.items vs) more)
    (ihv : IsPassed text (.value v)) (ihvs : IsPassed more (.items vs)) :
    IsPassed (before ++ ',' :: after ++ text ++ more) (.items (v :: vs)) := by
  intro outer rest hrest
  have hcomma := skipSpace_comma hbefore after text more rest
  have htext := hv.skipSpace_gap hafter (more ++ rest)
  refine (((Step.nextItem hcomma).passes.trans
    (ihv _ _ _ (endsNumber_items hvs hrest) htext)).trans (ihvs _ _ hrest)).mono ?_
  simp only [List.length_cons, List.length_append]
  omega

/-- Another member takes one step for its comma and its key. -/
theorem isPassed_moreMembers (hbefore : IsSpaces before) (hafter : IsSpaces after)
    (hms : Writes (.members ms) more) (ihm : IsPassed text (.member key v))
    (ihms : IsPassed more (.members ms)) :
    IsPassed (before ++ ',' :: after ++ text ++ more) (.members ((key, v) :: ms)) := by
  intro outer rest hrest
  obtain ⟨tail, body, htext, hbody, hvalue⟩ := ihm _ (endsNumber_members hms hrest)
  have hcomma := skipSpace_comma hbefore after text more rest
  have hquote : skipSpace (after ++ (text ++ (more ++ rest))) = '"' :: tail := by
    rw [htext]
    exact skipSpace_mark hafter (by decide) _
  have hopen := (openMember_of_skipSpace hquote).trans hbody
  refine (((Step.nextMember hcomma hopen).passes.trans (hvalue _)).trans (ihms _ _ hrest)).mono ?_
  simp only [List.length_cons, List.length_append]
  omega

end

/-- By induction on the text: every part is passed over in at most two steps for each character. -/
theorem isPassed_of_writes {part : Part} {cs : List Char} (h : Writes part cs) :
    IsPassed cs part := by
  induction h with
  | scalar h => exact isPassed_scalar h
  | emptyList h => exact isPassed_emptyList h
  | list hbefore hv hvs hafter ihv ihvs => exact isPassed_list hbefore hv hvs hafter ihv ihvs
  | emptyObject h => exact isPassed_emptyObject h
  | object hbefore _ hms hafter ihm ihms => exact isPassed_object hbefore hms hafter ihm ihms
  | member hkey hbefore hafter hv ih => exact isPassed_member hkey hbefore hafter hv ih
  | noItems => exact fun outer rest _ => ⟨0, Nat.le_refl 0, fun fuel => rfl⟩
  | item hbefore hafter hv hvs ihv ihvs => exact isPassed_item hbefore hafter hv hvs ihv ihvs
  | noMembers => exact fun outer rest _ => ⟨0, Nat.le_refl 0, fun fuel => rfl⟩
  | moreMembers hbefore hafter _ hms ihm ihms =>
    exact isPassed_moreMembers hbefore hafter hms ihm ihms

/-- Every value is passed over, behind any white space and whatever follows. -/
theorem skip_value {v : Tree} {cs input rest : List Char} (h : Writes (.value v) cs)
    (hrest : EndsNumber rest) (hinput : skipSpace input = cs ++ rest) :
    skip input = .ok rest := by
  obtain ⟨k, hk, hsteps⟩ := isPassed_of_writes h [] input rest hrest hinput
  have hlength : cs.length ≤ input.length := by
    have hshort := (List.dropWhile_sublist isSpace (l := input)).length_le
    rw [← skipSpace, hinput, List.length_append] at hshort
    omega
  obtain ⟨fuel, hfuel⟩ := Nat.exists_eq_add_of_le (show k + 1 ≤ 2 * input.length + 2 by omega)
  have htotal : 2 * input.length + 2 = (fuel + 1) + k := by omega
  rw [skip, htotal, hsteps]
  rfl

end Json
end SchemaScript
