import SchemaScript.Proofs.Sql.DataType
import SchemaScript.Proofs.Unicode.Casing

/-!
# SchemaScript.Proofs.Sql.TypeClause

The text that a type and its sizes come to. It is a type with sizes in range, whatever sizes are given,
or the name of a type without sizes, or a text that the project itself gives. Such a text means itself:
no name of a type that takes sizes has a parenthesis in it, so a text with sizes is not taken for one.

* `IsGiven`: a size that is given and in range.
* `IsTypeText`: what the text of a type may be.
* `resolveType_variableLength`, `resolveType_fixedLength`, …: what it is in each family.
* `resolveType_resolveType`: it means itself.
* `resolveType_settles`: the two together.
-/

namespace SchemaScript
namespace Sql

open Unicode

variable {dataType token : String} {low high cap n : Int}

/-! ## Sizes -/

/-- The size `n` is given, and it lies between `low` and `high`. -/
def IsGiven (low high : Int) (given : Option Int32) (n : Int) : Prop :=
  given.map Int32.toInt = some n ∧ low ≤ n ∧ n ≤ high

/-- What the text of a type must be, by its name. A variable length is the one given, or else `max`. A
fixed length, a precision and a scale are in range, and they are the ones given where those are in
range. -/
structure IsTypeText (dataType : String) (length precision scale : Option Int32) (text : String) :
    Prop where
  variableLength (cap : Int) : (lower (trim dataType), cap) ∈ variableTypes →
    (∀ n, IsGiven 1 cap length n → text = lower (trim dataType) ++ "(" ++ n.repr ++ ")") ∧
      (text = lower (trim dataType) ++ "(max)" ↔ ¬ ∃ n, IsGiven 1 cap length n)
  fixedLength (cap : Int) : (lower (trim dataType), cap) ∈ fixedTypes →
    ∃ n, text = lower (trim dataType) ++ "(" ++ n.repr ++ ")" ∧ (1 ≤ n ∧ n ≤ cap) ∧
      (∀ g, IsGiven 1 cap length g → n = g) ∧ ¬ "max".toList <:+: text.toList
  decimal : lower (trim dataType) ∈ decimalTypes →
    ∃ p s, text = lower (trim dataType) ++ "(" ++ p.repr ++ "," ++ s.repr ++ ")" ∧
      (1 ≤ p ∧ p ≤ 38) ∧ (0 ≤ s ∧ s ≤ p) ∧
      (∀ g, IsGiven 1 38 precision g → p = g) ∧ ∀ g, IsGiven 0 p scale g → s = g
  scalar : lower (trim dataType) ∈ scalarTypes → text = lower (trim dataType)
  custom : lower (trim dataType) ∉ knownTypes → text = dataType

theorem filter_eq_some_iff {given : Option Int32} :
    (given.map Int32.toInt).filter (fun n => low ≤ n ∧ n ≤ high) = some n
      ↔ IsGiven low high given n := by
  rw [Option.filter_eq_some_iff, IsGiven, decide_eq_true_iff]

theorem filter_eq_none_iff {given : Option Int32} :
    (given.map Int32.toInt).filter (fun n => low ≤ n ∧ n ≤ high) = none
      ↔ ¬ ∃ n, IsGiven low high given n := by
  rw [Option.eq_none_iff_forall_ne_some, not_exists]
  exact forall_congr' fun n => not_congr filter_eq_some_iff

/-- A size that is replaced where it is not given in range. -/
theorem getD_filter {other : Int} (hother : low ≤ other ∧ other ≤ high) (given : Option Int32) :
    let size := ((given.map Int32.toInt).filter fun n => low ≤ n ∧ n ≤ high).getD other
    (low ≤ size ∧ size ≤ high) ∧ ∀ g, IsGiven low high given g → size = g := by
  intro size
  cases hfilter : (given.map Int32.toInt).filter fun n => low ≤ n ∧ n ≤ high with
  | none =>
    have hsize : size = other := congrArg (Option.getD · other) hfilter
    rw [hsize]
    exact ⟨hother, fun g hg => absurd ⟨g, hg⟩ (filter_eq_none_iff.mp hfilter)⟩
  | some n =>
    have hsize : size = n := congrArg (Option.getD · other) hfilter
    have hgiven := filter_eq_some_iff.mp hfilter
    rw [hsize]
    exact ⟨hgiven.2, fun g hg => Option.some.inj (hgiven.1.symm.trans hg.1)⟩

theorem fixedLength_spec (hcap : defaultLength ≤ cap) (given : Option Int32) :
    (1 ≤ fixedLength cap (given.map Int32.toInt) ∧ fixedLength cap (given.map Int32.toInt) ≤ cap) ∧
      ∀ g, IsGiven 1 cap given g → fixedLength cap (given.map Int32.toInt) = g := by
  have hlow : 1 ≤ defaultLength := by decide
  cases given with
  | none => exact ⟨⟨hlow, hcap⟩, fun g hg => absurd hg.1 (Option.some_ne_none g).symm⟩
  | some given =>
    rw [Option.map_some, fixedLength]
    by_cases hrange : 1 ≤ given.toInt ∧ given.toInt ≤ cap
    · rw [if_pos hrange]
      exact ⟨hrange, fun g hg => Option.some.inj hg.1⟩
    · rw [if_neg hrange]
      refine ⟨⟨Int.le_refl 1, by omega⟩, fun g hg => ?_⟩
      obtain ⟨hsame, hg⟩ := hg
      rw [← Option.some.inj hsame] at hg
      exact absurd hg hrange

theorem of_eq_fixedLength (h : TypeFamily.of token = .fixedLength cap) :
    defaultLength ≤ cap ∧ 'm' ∉ token.toList := by
  have hfixed : (token = "char" ∧ cap = 8000) ∨ (token = "nchar" ∧ cap = 4000) := by
    unfold TypeFamily.of at h
    grind
  rcases hfixed with ⟨rfl, rfl⟩ | ⟨rfl, rfl⟩
  · decide
  · decide

/-! ## Texts -/

theorem text_sized (token : String) (n : Int) :
    (TypeClause.sized token n).text = token ++ "(" ++ n.repr ++ ")" := by
  rw [TypeClause.text, ← String.toList_inj]
  simp [Text.toList_repr]

theorem text_numeric (token : String) (p s : Int) :
    (TypeClause.numeric token p s).text
      = token ++ "(" ++ p.repr ++ "," ++ s.repr ++ ")" := by
  rw [TypeClause.text, ← String.toList_inj]
  simp [Text.toList_repr]

theorem m_not_mem_repr (n : Int) : 'm' ∉ n.repr.toList := by
  rw [Text.toList_repr]
  exact fun h => absurd (Text.mem_signedDecimal h) (by decide)

/-- A size is not taken for `max`. -/
theorem text_sized_ne_unbounded (token : String) (n : Int) :
    token ++ "(" ++ n.repr ++ ")" ≠ token ++ "(max)" := by
  intro h
  have hchars := congrArg String.toList h
  simp only [String.toList_append, List.append_assoc, List.append_cancel_left_eq] at hchars
  have hm : 'm' ∈ "(".toList ++ (n.repr.toList ++ ")".toList) := by
    rw [hchars]
    decide
  simp only [List.mem_append] at hm
  rcases hm with hm | hm | hm
  · exact absurd hm (by decide)
  · exact m_not_mem_repr n hm
  · exact absurd hm (by decide)

theorem resolveType_variableLength
    (hf : TypeFamily.of (lower (trim dataType)) = .variableLength cap)
    (length precision scale : Option Int32) :
    (∀ n, IsGiven 1 cap length n → resolveType dataType length precision scale
        = lower (trim dataType) ++ "(" ++ n.repr ++ ")") ∧
      (resolveType dataType length precision scale = lower (trim dataType) ++ "(max)"
        ↔ ¬ ∃ n, IsGiven 1 cap length n) := by
  simp only [resolveType, typeClause, hf]
  cases hgiven : (length.map Int32.toInt).filter fun n => 1 ≤ n ∧ n ≤ cap with
  | none =>
    have hnone := filter_eq_none_iff.mp hgiven
    exact ⟨fun n hn => absurd ⟨n, hn⟩ hnone, fun _ => hnone, fun _ => rfl⟩
  | some n =>
    have hn := filter_eq_some_iff.mp hgiven
    simp only [text_sized]
    refine ⟨fun g hg => ?_, fun hmax => absurd hmax (text_sized_ne_unbounded _ n),
      fun hnone => absurd ⟨n, hn⟩ hnone⟩
    rw [Option.some.inj (hn.1.symm.trans hg.1)]

theorem resolveType_fixedLength (hf : TypeFamily.of (lower (trim dataType)) = .fixedLength cap)
    (length precision scale : Option Int32) :
    ∃ n, resolveType dataType length precision scale
        = lower (trim dataType) ++ "(" ++ n.repr ++ ")" ∧ (1 ≤ n ∧ n ≤ cap) ∧
      (∀ g, IsGiven 1 cap length g → n = g) ∧
      ¬ "max".toList <:+: (resolveType dataType length precision scale).toList := by
  have hsize := fixedLength_spec (of_eq_fixedLength hf).1 length
  have htoken := (of_eq_fixedLength hf).2
  simp only [resolveType, typeClause, hf, text_sized]
  refine ⟨_, rfl, hsize.1, hsize.2, fun hmax => ?_⟩
  have hm := hmax.subset (a := 'm') (by decide)
  simp only [String.toList_append, List.mem_append] at hm
  rcases hm with ((hm | hm) | hm) | hm
  · exact htoken hm
  · exact absurd hm (by decide)
  · exact m_not_mem_repr _ hm
  · exact absurd hm (by decide)

theorem resolveType_decimal (hf : TypeFamily.of (lower (trim dataType)) = .decimal)
    (length precision scale : Option Int32) :
    ∃ p s, resolveType dataType length precision scale
        = lower (trim dataType) ++ "(" ++ p.repr ++ "," ++ s.repr ++ ")" ∧
      (1 ≤ p ∧ p ≤ 38) ∧ (0 ≤ s ∧ s ≤ p) ∧
      (∀ g, IsGiven 1 38 precision g → p = g) ∧ ∀ g, IsGiven 0 p scale g → s = g := by
  have hdefault : 1 ≤ defaultPrecision ∧ defaultPrecision ≤ maxPrecision := by decide
  have hprecision := getD_filter hdefault precision
  simp only [resolveType, typeClause, hf, text_numeric]
  -- The range of the scale ends at the precision that has been settled.
  generalize ((precision.map Int32.toInt).filter fun p => 1 ≤ p ∧ p ≤ maxPrecision).getD
    defaultPrecision = p at hprecision ⊢
  have hp := hprecision.1.1
  have hleast : 0 ≤ min p 2 ∧ min p 2 ≤ p := by omega
  have hscale := getD_filter hleast scale
  exact ⟨p, _, rfl, hprecision.1, hscale.1, hprecision.2, hscale.2⟩

theorem resolveType_scalar (hf : TypeFamily.of (lower (trim dataType)) = .scalar)
    (length precision scale : Option Int32) :
    resolveType dataType length precision scale = lower (trim dataType) := by
  simp only [resolveType, typeClause, hf, TypeClause.text]

/-! ## Settled texts -/

theorem endsWord_parenthesis : EndsWord '(' :=
  ⟨by decide, by decide, by decide⟩

/-- A text with a parenthesis in it is no type that is known. -/
theorem of_eq_custom_of_parenthesis {text : String} (h : '(' ∈ text.toList) :
    TypeFamily.of (lower (trim text)) = .custom := by
  have hnone : ∀ token ∈ knownTypes, '(' ∉ token.toList := by decide
  have htrim : '(' ∈ trimChars text.toList := mem_trimChars h (by decide)
  have hlower : '(' ∈ (lower (trim text)).toList := by
    rw [lower, trim, String.toList_ofList, String.toList_ofList]
    exact endsWord_parenthesis.mem_lowerFrom false htrim
  by_contra hknown
  exact hnone _ (mem_knownTypes hknown) hlower

theorem lower_trim_of_known (h : TypeFamily.of token ≠ .custom) : lower (trim token) = token := by
  have hall : ∀ token ∈ knownTypes, lower (trim token) = token := by decide +kernel
  exact hall token (mem_knownTypes h)

/-- Giving the text of a type as a type of its own changes nothing, whatever sizes come with it. -/
theorem resolveType_resolveType (dataType : String)
    (length precision scale length' precision' scale' : Option Int32) :
    resolveType (resolveType dataType length precision scale) length' precision' scale'
      = resolveType dataType length precision scale := by
  cases hf : TypeFamily.of (lower (trim dataType)) with
  | variableLength cap =>
    have htext := resolveType_variableLength hf length precision scale
    refine resolveType_of_custom (of_eq_custom_of_parenthesis ?_) _ _ _
    by_cases hgiven : ∃ n, IsGiven 1 cap length n
    · obtain ⟨n, hn⟩ := hgiven
      rw [htext.1 n hn]
      simp
    · rw [htext.2.mpr hgiven]
      simp
  | fixedLength cap =>
    obtain ⟨n, hn, -⟩ := resolveType_fixedLength hf length precision scale
    refine resolveType_of_custom (of_eq_custom_of_parenthesis ?_) _ _ _
    rw [hn]
    simp
  | decimal =>
    obtain ⟨p, s, hps, -⟩ := resolveType_decimal hf length precision scale
    refine resolveType_of_custom (of_eq_custom_of_parenthesis ?_) _ _ _
    rw [hps]
    simp
  | scalar =>
    have hsame : lower (trim (lower (trim dataType))) = lower (trim dataType) :=
      lower_trim_of_known (by rw [hf]; exact fun h => nomatch h)
    have hscalar : TypeFamily.of (lower (trim (lower (trim dataType)))) = .scalar := by
      rw [hsame]
      exact hf
    rw [resolveType_scalar hf, resolveType_scalar hscalar, hsame]
  | custom =>
    have hcustom := resolveType_of_custom hf
    rw [hcustom, hcustom]

/-- The text of a type is a valid one, whatever sizes are given, and it is settled: as a type of its own
it comes to the same text, whatever sizes are given then. -/
theorem resolveType_settles (dataType : String) (length precision scale : Option Int32) :
    IsTypeText dataType length precision scale (resolveType dataType length precision scale) ∧
    ∀ length' precision' scale', resolveType (resolveType dataType length precision scale)
      length' precision' scale' = resolveType dataType length precision scale where
  left := {
    variableLength := fun _ h =>
      resolveType_variableLength (of_variableTypes h) length precision scale
    fixedLength := fun _ h => resolveType_fixedLength (of_fixedTypes h) length precision scale
    decimal := fun h => resolveType_decimal (of_decimalTypes h) length precision scale
    scalar := fun h => resolveType_scalar (of_scalarTypes h) length precision scale
    custom := fun h => resolveType_of_custom (of_not_mem_knownTypes h) length precision scale }
  right := resolveType_resolveType dataType length precision scale

end Sql
end SchemaScript
