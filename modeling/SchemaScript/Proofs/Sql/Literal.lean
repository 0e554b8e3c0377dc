import SchemaScript.Proofs.Sql.Default
import SchemaScript.Proofs.Sql.Quoting

/-!
# SchemaScript.Proofs.Sql.Literal

The expression for a value gives the value back. A text that is taken over as it is cannot be mistaken
for a string literal, since it does not begin with a quote: a number and a call have no quote in them,
and the other texts begin with a parenthesis.

* `isKept`: the texts that are taken over.
* `decodeLiteral_of_isKept`: none of them is read as a literal.
* `encodeLiteral_decodable`: reading gives back every value, and no two have one expression.
-/

namespace SchemaScript
namespace Sql

variable {text : String}

/-- Whether a value is taken over as it is. -/
def isKept (text : String) : Bool :=
  isNumber text || isParenthesized text || isGeneratorCall text

theorem encodeLiteral_of_isKept (h : isKept text = true) : encodeLiteral text = text := by
  rw [encodeLiteral, literalExpression, ← isKept, if_pos h, Expression.text]

theorem encodeLiteral_of_not_isKept (h : ¬ isKept text = true) :
    encodeLiteral text = quote text := by
  rw [encodeLiteral, literalExpression, ← isKept, if_neg h, Expression.text]

/-! ## Texts without a quote in front -/

theorem decodeLiteral_eq_none (h : text.toList.head? ≠ some '\'') : decodeLiteral text = none := by
  rw [Option.eq_none_iff_forall_ne_some]
  intro value hdecode
  obtain ⟨inner, htext, -⟩ := decodeLiteral_eq_some_iff.mp hdecode
  exact h (by rw [htext]; rfl)

theorem quote_not_mem_of_isGeneratorCall (h : isGeneratorCall text = true) : '\'' ∉ text.toList := by
  intro hmem
  have hcalls : ∀ call ∈ generatorCalls, '\'' ∉ call.toList := by decide
  obtain ⟨call, hcall, hcase⟩ := List.any_eq_true.mp h
  rw [Unicode.equalsIgnoringAsciiCase, beq_iff_eq] at hcase
  have hlower : '\'' ∈ call.toList.map Char.toLower := hcase ▸ List.mem_map_of_mem hmem
  obtain ⟨c, hc, hquote⟩ := List.mem_map.mp hlower
  rw [toLower_eq_iff (by decide) (by decide)] at hquote
  exact hcalls call hcall (hquote ▸ hc)

theorem decodeLiteral_of_isKept (h : isKept text = true) : decodeLiteral text = none := by
  rw [isKept, Bool.or_eq_true, Bool.or_eq_true] at h
  apply decodeLiteral_eq_none
  rcases h with (hnumber | hparenthesized) | hcall
  · have hquote : '\'' ∉ text.toList :=
      not_mem_of_isNumber hnumber (by decide) (by decide) (by decide)
    exact fun hhead => hquote (List.mem_of_head? hhead)
  · obtain ⟨inner, htext⟩ := isParenthesized_parts hparenthesized
    rw [htext]
    simp
  · exact fun hhead => quote_not_mem_of_isGeneratorCall hcall (List.mem_of_head? hhead)

/-! ## Reading expressions -/

theorem decodeLiteral_getD_encodeLiteral (text : String) :
    (decodeLiteral (encodeLiteral text)).getD (encodeLiteral text) = text := by
  by_cases h : isKept text = true
  · rw [encodeLiteral_of_isKept h, decodeLiteral_of_isKept h, Option.getD_none]
  · rw [encodeLiteral_of_not_isKept h, decodeLiteral_quote, Option.getD_some]

/-- Reading the expression for a value gives nothing if the value was taken over, and the value if it
was quoted. Either way the value is known, as what was read or else as the expression itself, so no
two values have one expression. A quoted text is always read back. -/
theorem encodeLiteral_decodable :
    (∀ text, if isKept text = true then
        encodeLiteral text = text ∧ decodeLiteral (encodeLiteral text) = none
      else encodeLiteral text = quote text ∧ decodeLiteral (encodeLiteral text) = some text) ∧
    (∀ text, (decodeLiteral (encodeLiteral text)).getD (encodeLiteral text) = text) ∧
    (∀ text text', encodeLiteral text = encodeLiteral text' → text = text') ∧
    ∀ text, decodeLiteral (quote text) = some text := by
  refine ⟨fun text => ?_, decodeLiteral_getD_encodeLiteral, fun text text' h => ?_,
    decodeLiteral_quote⟩
  · split
    · rename_i h
      rw [encodeLiteral_of_isKept h]
      exact ⟨rfl, decodeLiteral_of_isKept h⟩
    · rename_i h
      rw [encodeLiteral_of_not_isKept h]
      exact ⟨rfl, decodeLiteral_quote text⟩
  · calc text
      _ = (decodeLiteral (encodeLiteral text)).getD (encodeLiteral text) :=
        (decodeLiteral_getD_encodeLiteral text).symm
      _ = (decodeLiteral (encodeLiteral text')).getD (encodeLiteral text') := by rw [h]
      _ = text' := decodeLiteral_getD_encodeLiteral text'

end Sql
end SchemaScript
