import SchemaScript.Proofs.Snapshot.Shape
import SchemaScript.Snapshot.Snapshot

/-!
# SchemaScript.Proofs.Snapshot.RoundTrip

A project is read back from its stored form, whatever its texts, its numbers and the lengths of its
lists.

* `parse_of_presents`: reading any text that presents a project.
* `parse_toText`: reading what was written.
* `toText_roundTrip`: the same with the requirements on projects, and no two projects are written
  alike.
-/

namespace SchemaScript
namespace Snapshot

open Json (Presents TextOf Tree)

/-- The text of a project is a text of the tree of its stored form. -/
theorem textOf_toText (p : Project) : TextOf (project.write p).tree (toText p) := by
  have hpretty := Json.pretty_writes 0 (project.write p)
  refine ⟨[], _, [], Json.isSpaces_nil, hpretty, Json.isSpaces_nil, ?_⟩
  rw [toText, String.toList_ofList, List.append_nil, List.nil_append]

/-- A project is read from every text of a tree that presents its stored form. -/
theorem parse_of_presents {p : Project} {v : Tree} {text : String}
    (hv : Presents (.object projectMembers) (project.write p) v) (htext : TextOf v text) :
    parse text = .ok p := by
  have hread : Json.readAll project.read text = .ok p :=
    (lawful_project.codec.reads hv).readAll htext
  rw [parse, hread]
  rfl

theorem parse_toText (p : Project) : parse (toText p) = .ok p :=
  parse_of_presents (lawful_project.codec.written p) (textOf_toText p)

theorem toText_injective : Function.Injective toText := by
  intro p q h
  have hp : parse (toText p) = .ok q := by rw [h, parse_toText]
  rw [parse_toText] at hp
  exact Except.ok.inj hp

theorem ofText_toText (p : Project) : ofText (toText p) = (validate p).map fun _ => p := by
  rw [ofText, parse_toText]
  simp only [bind, Except.bind]
  cases validate p <;> rfl

/-- A project that is written is read back. Its text is accepted if and only if the project is, with
the same fault, and no two projects have the same text. -/
theorem toText_roundTrip :
    (∀ p, parse (toText p) = .ok p) ∧
      (∀ p, ofText (toText p) = match validate p with
        | .ok _ => .ok p
        | .error e => .error e) ∧
      Function.Injective toText := by
  refine ⟨parse_toText, fun p => ?_, toText_injective⟩
  rw [ofText_toText]
  cases validate p <;> rfl

end Snapshot
end SchemaScript
