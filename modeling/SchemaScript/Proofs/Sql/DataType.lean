import SchemaScript.Proofs.Sql.Scan
import SchemaScript.Proofs.Text.Digits
import SchemaScript.Sql.DataType

/-!
# SchemaScript.Proofs.Sql.DataType

The texts of numbers and of known types are code, whatever the sizes. The text of a custom type is
the one that was given.

* `knownTypes`: the types that are not custom, by the sizes they take.
* `isQuiet_typeClause`, `resolveType_of_custom`: the texts of known types and of custom types.
-/

namespace SchemaScript
namespace Sql

theorem isPlain_of_isDigit {c : Char} (h : c.isDigit = true) : isPlain c = true := by
  have hne : ∀ d : Char, d.isDigit = false → c ≠ d := by
    rintro d hd rfl
    rw [h] at hd
    cases hd
  simp [isPlain, hne '[' rfl, hne '\'' rfl, hne '-' rfl]

theorem isPlain_of_mem_decimal {c : Char} {n : Nat} (h : c ∈ Text.decimal n) : isPlain c = true :=
  isPlain_of_isDigit (Text.isDigit_of_mem_decimal h)

/-- A number behind plain text. Its sign is the only dash. -/
theorem isQuiet_signedDecimal {cs : List Char} (hcs : ∀ c ∈ cs, isPlain c = true) (i : Int) :
    IsQuiet (cs ++ Text.signedDecimal i) := by
  unfold Text.signedDecimal
  split
  · exact isQuiet_dash hcs fun c hc => isPlain_of_mem_decimal hc
  · refine isQuiet_of_isPlain fun c hc => ?_
    rcases List.mem_append.mp hc with hc | hc
    · exact hcs c hc
    · exact isPlain_of_mem_decimal hc

theorem isPlain_concat {cs : List Char} {d : Char} (hcs : ∀ c ∈ cs, isPlain c = true)
    (hd : isPlain d = true) : ∀ c ∈ cs ++ [d], isPlain c = true := by
  intro c hc
  rcases List.mem_append.mp hc with hc | hc
  · exact hcs c hc
  · rw [List.mem_singleton.mp hc]
    exact hd

/-- One number in parentheses. -/
theorem isQuiet_size {cs : List Char} (hcs : ∀ c ∈ cs, isPlain c = true) (i : Int) :
    IsQuiet (cs ++ '(' :: Text.signedDecimal i ++ [')']) := by
  have hclose : IsQuiet [')'] := isQuiet_of_isPlain (List.all_eq_true.mp (by decide))
  have h := (isQuiet_signedDecimal (isPlain_concat hcs (d := '(') rfl) i).append_fresh rfl hclose
  simpa using h

/-- Two numbers in parentheses. -/
theorem isQuiet_sizes {cs : List Char} (hcs : ∀ c ∈ cs, isPlain c = true) (i j : Int) :
    IsQuiet (cs ++ '(' :: Text.signedDecimal i ++ ',' :: Text.signedDecimal j ++ [')']) := by
  have hclose : IsQuiet [')'] := isQuiet_of_isPlain (List.all_eq_true.mp (by decide))
  have hcomma : ∀ c ∈ [','], isPlain c = true := List.all_eq_true.mp (by decide)
  have hsecond : IsQuiet (',' :: Text.signedDecimal j) := isQuiet_signedDecimal hcomma j
  have h := ((isQuiet_signedDecimal (isPlain_concat hcs (d := '(') rfl) i).append_fresh rfl
    hsecond).append_fresh rfl hclose
  simpa using h

/-! ## Known types -/

/-- The types of variable length, each with its greatest length besides `max`. -/
def variableTypes : List (String × Int) :=
  [("varchar", 8000), ("varbinary", 8000), ("nvarchar", 4000)]

/-- The types of fixed length, each with its greatest length. -/
def fixedTypes : List (String × Int) :=
  [("char", 8000), ("nchar", 4000)]

/-- The types with a precision and a scale. -/
def decimalTypes : List String := ["decimal", "numeric"]

/-- The names of the types that are not custom. -/
def knownTypes : List String :=
  variableTypes.map Prod.fst ++ fixedTypes.map Prod.fst ++ decimalTypes ++ scalarTypes

theorem of_variableTypes {token : String} {cap : Int} (h : (token, cap) ∈ variableTypes) :
    TypeFamily.of token = .variableLength cap := by
  have hall : ∀ t ∈ variableTypes, TypeFamily.of t.1 = .variableLength t.2 := by decide
  exact hall _ h

theorem of_fixedTypes {token : String} {cap : Int} (h : (token, cap) ∈ fixedTypes) :
    TypeFamily.of token = .fixedLength cap := by
  have hall : ∀ t ∈ fixedTypes, TypeFamily.of t.1 = .fixedLength t.2 := by decide
  exact hall _ h

theorem of_decimalTypes {token : String} (h : token ∈ decimalTypes) :
    TypeFamily.of token = .decimal := by
  have hall : ∀ token ∈ decimalTypes, TypeFamily.of token = .decimal := by decide
  exact hall _ h

theorem of_scalarTypes {token : String} (h : token ∈ scalarTypes) :
    TypeFamily.of token = .scalar := by
  have hall : ∀ token ∈ scalarTypes, TypeFamily.of token = .scalar := by decide
  exact hall _ h

theorem mem_knownTypes {token : String} (h : TypeFamily.of token ≠ .custom) :
    token ∈ knownTypes := by
  unfold TypeFamily.of at h
  simp only [knownTypes, variableTypes, fixedTypes, decimalTypes, List.map_cons, List.map_nil,
    List.mem_append, List.mem_cons, List.not_mem_nil, or_false]
  grind

theorem of_not_mem_knownTypes {token : String} (h : token ∉ knownTypes) :
    TypeFamily.of token = .custom :=
  Decidable.byContradiction fun hknown => h (mem_knownTypes hknown)

theorem isPlainText_of_known {token : String} (h : TypeFamily.of token ≠ .custom) :
    isPlainText token = true := by
  have hplain : ∀ token ∈ knownTypes, isPlainText token = true := by decide
  exact hplain token (mem_knownTypes h)

theorem resolveType_of_custom {dataType : String}
    (h : TypeFamily.of (Unicode.lower (Unicode.trim dataType)) = .custom)
    (length precision scale : Option Int32) :
    resolveType dataType length precision scale = dataType := by
  simp only [resolveType, typeClause, h, TypeClause.text]

theorem isQuiet_typeClause {dataType : String} (length precision scale : Option Int)
    (h : TypeFamily.of (Unicode.lower (Unicode.trim dataType)) ≠ .custom) :
    IsQuiet (typeClause dataType length precision scale).text.toList := by
  have htoken := isPlain_of_mem (isPlainText_of_known h)
  cases hf : TypeFamily.of (Unicode.lower (Unicode.trim dataType)) with
  | custom => exact absurd hf h
  | scalar =>
    simp only [typeClause, hf, TypeClause.text]
    exact isQuiet_of_isPlain htoken
  | decimal =>
    simp only [typeClause, hf, TypeClause.text, String.toList_ofList]
    exact isQuiet_sizes htoken _ _
  | fixedLength cap =>
    simp only [typeClause, hf, TypeClause.text, String.toList_ofList]
    exact isQuiet_size htoken _
  | variableLength cap =>
    simp only [typeClause, hf]
    split
    · simp only [TypeClause.text, String.toList_ofList]
      exact isQuiet_size htoken _
    · have hmax : ∀ c ∈ "(max)".toList, isPlain c = true := isPlain_of_mem (by decide)
      simp only [TypeClause.text, String.toList_append]
      refine isQuiet_of_isPlain fun c hc => ?_
      rcases List.mem_append.mp hc with hc | hc
      · exact htoken c hc
      · exact hmax c hc

end Sql

theorem Column.typeText_of_custom {c : Column}
    (h : Sql.TypeFamily.of (Unicode.lower (Unicode.trim c.dataType)) = .custom) :
    c.typeText = c.dataType :=
  Sql.resolveType_of_custom h _ _ _

/-- The text of a column's type is closed if the name of a custom type is. -/
theorem Column.isClosed_typeText {c : Column}
    (h : Sql.TypeFamily.of (Unicode.lower (Unicode.trim c.dataType)) = .custom →
      Sql.IsClosed c.dataType.toList) :
    Sql.IsClosed c.typeText.toList := by
  by_cases hf : Sql.TypeFamily.of (Unicode.lower (Unicode.trim c.dataType)) = .custom
  · rw [typeText_of_custom hf]
    exact h hf
  · rw [typeText, Sql.resolveType]
    exact (Sql.isQuiet_typeClause _ _ _ hf).closed

end SchemaScript
