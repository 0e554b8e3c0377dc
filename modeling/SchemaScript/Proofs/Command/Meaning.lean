import Mathlib.Data.List.TakeWhile
import SchemaScript.Command.Arguments

/-!
# SchemaScript.Proofs.Command.Meaning

What one argument of the command line means, by the way it is spelled.

* `Flag.Writes`: the spellings of an option in one argument.
* `Meaning.of_writes`: an argument that spells an option is taken for it.
* `Meaning.of_cases`: there is nothing else an argument could be taken for.
-/

namespace SchemaScript

variable {known : List Flag} {f : Flag} {a value : String}

/-! ## Options by their names -/

theorem find?_eq_some_iff_of_unique {α : Type} {p : α → Bool} {a : α} {l : List α}
    (h : ∀ a b, p a = true → p b = true → a = b) : l.find? p = some a ↔ a ∈ l ∧ p a = true := by
  constructor
  · exact fun ha => ⟨List.mem_of_find?_eq_some ha, List.find?_some ha⟩
  · rintro ⟨hmem, ha⟩
    cases hfound : l.find? p with
    | none => exact absurd ha (List.find?_eq_none.mp hfound a hmem)
    | some b => rw [h a b ha (List.find?_some hfound)]

namespace Flag

theorem long_injective {f g : Flag} (h : f.long = g.long) : f = g := by
  cases f <;> cases g <;> simp_all [long]

theorem equals_not_mem_long (f : Flag) : '=' ∉ f.long.toList := by
  cases f <;> decide

theorem exists_long (f : Flag) : ∃ c cs, f.long.toList = c :: cs := by
  cases f <;> exact ⟨_, _, rfl⟩

theorem letter_injective {f g : Flag} {c : Char} (hf : f.letter? = some c)
    (hg : g.letter? = some c) : f = g := by
  have hsame : f.letter? = g.letter? := hf.trans hg.symm
  have hsome : f.letter?.isSome = true := by rw [hf]; rfl
  clear hf hg
  revert hsame hsome
  cases f <;> cases g <;> decide

theorem letter_ne_dash {c : Char} (h : f.letter? = some c) : c ≠ '-' := by
  rintro rfl
  cases f <;> simp [letter?] at h

theorem find?_long {name : String} :
    known.find? (·.long == name) = some f ↔ f ∈ known ∧ f.long = name := by
  rw [find?_eq_some_iff_of_unique, beq_iff_eq]
  intro f g hf hg
  exact long_injective ((beq_iff_eq.mp hf).trans (beq_iff_eq.mp hg).symm)

theorem find?_letter {c : Char} :
    known.find? (·.letter? == some c) = some f ↔ f ∈ known ∧ f.letter? = some c := by
  rw [find?_eq_some_iff_of_unique, beq_iff_eq]
  intro f g hf hg
  exact letter_injective (beq_iff_eq.mp hf) (beq_iff_eq.mp hg)

/-! ## Spellings -/

/-- The argument spells an option, and has its value behind the name or has none. What follows the
letter of an option without a value does not matter. -/
inductive Writes (f : Flag) (a : String) : Option String → Prop where
  | long : a.toList = '-' :: '-' :: f.long.toList → f.Writes a none
  | longValue {value : String} : a.toList = '-' :: '-' :: (f.long.toList ++ '=' :: value.toList) →
      f.Writes a (some value)
  | letter {c : Char} : f.letter? = some c → a.toList = ['-', c] → f.Writes a none
  | letterValue {c d : Char} {cs : List Char} : f.takesValue = true → f.letter? = some c →
      a.toList = '-' :: c :: d :: cs → f.Writes a (some (String.ofList (dropEquals (d :: cs))))
  | letterMore {c d : Char} {cs : List Char} : f.takesValue = false → f.letter? = some c →
      a.toList = '-' :: c :: d :: cs → f.Writes a none

end Flag

/-! ## The name and the value of a long option -/

theorem splitValue_eq_none_iff {cs : List Char} {name : String} (hname : '=' ∉ name.toList) :
    splitValue cs = (name, none) ↔ cs = name.toList := by
  rw [splitValue, Prod.mk.injEq]
  constructor
  · rintro ⟨htake, hdrop⟩
    cases hrest : cs.dropWhile (· != '=') with
    | nil =>
      rw [← htake, String.toList_ofList, ← List.append_nil (cs.takeWhile _), ← hrest,
        List.takeWhile_append_dropWhile]
    | cons c rest =>
      rw [hrest] at hdrop
      cases hdrop
  · rintro rfl
    have hall : ∀ c ∈ name.toList, (c != '=') = true := fun c hc =>
      bne_iff_ne.mpr fun heq => hname (heq ▸ hc)
    rw [List.takeWhile_eq_self_iff.mpr hall, List.dropWhile_eq_nil_iff.mpr hall]
    exact ⟨String.ofList_toList, rfl⟩

theorem splitValue_eq_some_iff {cs : List Char} {name : String} (hname : '=' ∉ name.toList) :
    splitValue cs = (name, some value) ↔ cs = name.toList ++ '=' :: value.toList := by
  rw [splitValue, Prod.mk.injEq]
  constructor
  · rintro ⟨htake, hdrop⟩
    cases hrest : cs.dropWhile (· != '=') with
    | nil =>
      rw [hrest] at hdrop
      cases hdrop
    | cons c rest =>
      obtain rfl : c = '=' := by
        have hstop := List.head?_dropWhile_not (· != '=') cs
        rw [hrest] at hstop
        simpa using hstop
      rw [hrest] at hdrop
      rw [← htake, ← Option.some.inj hdrop, String.toList_ofList, String.toList_ofList, ← hrest,
        List.takeWhile_append_dropWhile]
  · rintro rfl
    have hall : ∀ c ∈ name.toList, (c != '=') = true := fun c hc =>
      bne_iff_ne.mpr fun heq => hname (heq ▸ hc)
    rw [List.takeWhile_append_of_pos hall, List.dropWhile_append_of_pos hall]
    simp

/-! ## Meanings -/

namespace Meaning

/-- An argument is no option, or two hyphens, or begins with one hyphen or with two. -/
theorem argument_cases (a : String) :
    isValue a = true ∨ a.toList = ['-', '-'] ∨ (∃ c cs, a.toList = '-' :: '-' :: c :: cs) ∨
      ∃ c cs, c ≠ '-' ∧ a.toList = '-' :: c :: cs := by
  rw [isValue, Bool.or_eq_true, beq_iff_eq, bne_iff_ne]
  match ha : a.toList with
  | [] => exact .inl (.inr nofun)
  | [c] =>
    by_cases hc : c = '-'
    · exact .inl (.inl (String.toList_inj.mp (ha.trans (congrArg ([·]) hc))))
    · exact .inl (.inr (by simpa using hc))
  | c :: d :: cs =>
    by_cases hc : c = '-'
    · by_cases hd : d = '-'
      · subst hc hd
        cases cs with
        | nil => exact .inr (.inl rfl)
        | cons e cs => exact .inr (.inr (.inl ⟨e, cs, rfl⟩))
      · exact .inr (.inr (.inr ⟨d, cs, hd, by rw [hc]⟩))
    · exact .inl (.inr (by simpa using hc))

theorem of_value (h : isValue a = true) : Meaning.of known a = .other := by
  rw [isValue, Bool.or_eq_true, beq_iff_eq, bne_iff_ne] at h
  rcases h with rfl | h
  · rfl
  · unfold Meaning.of
    split <;> simp_all

theorem of_escape (h : a.toList = ['-', '-']) : Meaning.of known a = .escape := by
  rw [Meaning.of, h]
  rfl

theorem of_long {c : Char} {cs : List Char} (h : a.toList = '-' :: '-' :: c :: cs) :
    Meaning.of known a = match known.find? (·.long == (splitValue (c :: cs)).1) with
      | some f => .option f (splitValue (c :: cs)).2
      | none => .unknown := by
  rw [Meaning.of, h]
  rfl

theorem of_letter {c : Char} (hc : c ≠ '-') (h : a.toList = ['-', c]) :
    Meaning.of known a = match known.find? (·.letter? == some c) with
      | some f => .option f none
      | none => .unknown := by
  rw [Meaning.of, h]
  cases hfound : known.find? (·.letter? == some c) <;> split <;> grind

theorem of_letter_more {c d : Char} {cs : List Char} (hc : c ≠ '-')
    (h : a.toList = '-' :: c :: d :: cs) :
    Meaning.of known a = match known.find? (·.letter? == some c) with
      | some f =>
        if f.takesValue then .option f (some (String.ofList (dropEquals (d :: cs))))
        else .option f none
      | none => .unknown := by
  rw [Meaning.of, h]
  cases hfound : known.find? (·.letter? == some c) <;> split <;> grind

theorem of_writes {v : Option String} (hknown : f ∈ known) (h : f.Writes a v) :
    Meaning.of known a = .option f v := by
  obtain ⟨c, cs, hlong⟩ := f.exists_long
  have hname := f.equals_not_mem_long
  cases h with
  | long ha =>
    have hsplit := (splitValue_eq_none_iff hname).mpr hlong.symm
    rw [hlong] at ha
    rw [of_long ha, hsplit, Flag.find?_long.mpr ⟨hknown, rfl⟩]
  | @longValue value ha =>
    have hsplit : splitValue (c :: (cs ++ '=' :: value.toList)) = (f.long, some value) := by
      rw [splitValue_eq_some_iff hname, hlong, List.cons_append]
    rw [hlong, List.cons_append] at ha
    rw [of_long ha, hsplit, Flag.find?_long.mpr ⟨hknown, rfl⟩]
  | letter hletter ha =>
    rw [of_letter (Flag.letter_ne_dash hletter) ha, Flag.find?_letter.mpr ⟨hknown, hletter⟩]
  | letterValue htakes hletter ha =>
    rw [of_letter_more (Flag.letter_ne_dash hletter) ha, Flag.find?_letter.mpr ⟨hknown, hletter⟩]
    exact if_pos htakes
  | letterMore htakes hletter ha =>
    rw [of_letter_more (Flag.letter_ne_dash hletter) ha, Flag.find?_letter.mpr ⟨hknown, hletter⟩]
    exact if_neg (by simp [htakes])

theorem writes_of_long {c : Char} {cs : List Char} (h : a.toList = '-' :: '-' :: c :: cs)
    (hname : f.long = (splitValue (c :: cs)).1) : f.Writes a (splitValue (c :: cs)).2 := by
  cases hvalue : (splitValue (c :: cs)).2 with
  | none =>
    have hcs := (splitValue_eq_none_iff f.equals_not_mem_long).mp (Prod.ext hname.symm hvalue)
    exact .long (by rw [h, hcs])
  | some value =>
    have hcs := (splitValue_eq_some_iff f.equals_not_mem_long).mp (Prod.ext hname.symm hvalue)
    exact .longValue (by rw [h, hcs])

/-- Whatever an argument is, it means what it is spelled as. -/
theorem of_cases (known : List Flag) (a : String) :
    (isValue a = true ∧ Meaning.of known a = .other) ∨
      (a = "--" ∧ Meaning.of known a = .escape) ∨
      Meaning.of known a = .unknown ∨
      ∃ f v, f ∈ known ∧ f.Writes a v ∧ Meaning.of known a = .option f v := by
  rcases argument_cases a with ha | ha | ⟨c, cs, ha⟩ | ⟨c, cs, hc, ha⟩
  · exact .inl ⟨ha, of_value ha⟩
  · exact .inr (.inl ⟨String.toList_inj.mp ha, of_escape ha⟩)
  · rw [of_long ha]
    cases hfound : known.find? (·.long == (splitValue (c :: cs)).1) with
    | none => exact .inr (.inr (.inl rfl))
    | some f =>
      obtain ⟨hknown, hname⟩ := Flag.find?_long.mp hfound
      exact .inr (.inr (.inr ⟨f, _, hknown, writes_of_long ha hname, rfl⟩))
  · cases hfound : known.find? (·.letter? == some c) with
    | none =>
      refine .inr (.inr (.inl ?_))
      cases cs with
      | nil => rw [of_letter hc ha, hfound]
      | cons d cs => rw [of_letter_more hc ha, hfound]
    | some f =>
      obtain ⟨hknown, hletter⟩ := Flag.find?_letter.mp hfound
      have hwrites : ∃ v, f.Writes a v := by
        cases cs with
        | nil => exact ⟨_, .letter hletter ha⟩
        | cons d cs =>
          cases htakes : f.takesValue with
          | true => exact ⟨_, .letterValue htakes hletter ha⟩
          | false => exact ⟨_, .letterMore htakes hletter ha⟩
      obtain ⟨v, hv⟩ := hwrites
      exact .inr (.inr (.inr ⟨f, v, hknown, hv, of_writes hknown hv⟩))

end Meaning
end SchemaScript
