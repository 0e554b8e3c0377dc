import SchemaScript.Proofs.Snapshot.RoundTrip

/-!
# SchemaScript.Proofs.Snapshot.Presentation

A project is read from its stored form however that is presented.

* `ofText_of_edits`: members in another order, other white space, members that are not known,
  members left out where they hold what is assumed, `null` in place of nothing; any number of them,
  at any depth.
* `halfPair_refused`: a member whose name is no text is not passed over.
-/

namespace SchemaScript
namespace Snapshot

open Json (Edit IsBody Spells TextOf Tree Writes isSpaces_nil)

/-- The text of a project is a text of the tree of its stored form, and a project that meets all
requirements is read from every text of every tree that edits make of that one. -/
theorem ofText_of_edits :
    (∀ p, TextOf (project.write p).tree (toText p)) ∧
      ∀ (p : Project) (v : Tree) (text : String), validate p = .ok () →
        Relation.ReflTransGen (Edit (.object projectMembers)) (project.write p).tree v →
        TextOf v text → ofText text = .ok p := by
  refine ⟨textOf_toText, fun p v text hvalid hedits htext => ?_⟩
  have hpresents := Json.presents_of_edits hedits (lawful_project.codec.written p)
  rw [ofText, parse_of_presents hpresents htext]
  simp only [bind, Except.bind, hvalid]
  rfl

/-- A project with one empty table. -/
def shop : Project :=
  ⟨"Shop", none, [⟨"", "Item", none, [], [], [], [], []⟩]⟩

/-- The stored form of `shop` with an unknown member, a `null` for the description, its own members
the other way round, and no schema for the table. -/
def shopPresented : Json :=
  .object [
    ("version", .list [.null, .object [("major", .number 2)]]),
    ("description", .null),
    ("tables", .list [.object [
      ("name", .string "Item"),
      ("columns", .list []),
      ("foreignKeys", .list []),
      ("indexes", .list []),
      ("checkConstraints", .list []),
      ("uniqueConstraints", .list [])]]),
    ("name", .string "Shop")]

theorem shop_edits : Relation.ReflTransGen (Edit (.object projectMembers))
    (project.write shop).tree shopPresented.tree := by
  have hkey : ∀ name : String, Spells (Json.encode name.toList) name.toList :=
    fun name => Json.spells_encode name.toList
  have hschema : ∀ ms, Edit (.object tableMembers)
      (.object ((Json.encode "schema".toList, (Json.string "").tree) :: ms)) (.object ms) :=
    fun ms => .leaveOut (.head _) (hkey "schema")
  have htables : ∀ v v' ms, Edit (.object tableMembers) v v' → Edit (.object projectMembers)
      (.object ((Json.encode "tables".toList, .list [v]) :: ms))
      (.object ((Json.encode "tables".toList, .list [v']) :: ms)) :=
    fun v v' ms h => .member (.tail _ (.tail _ (.head _))) (hkey "tables")
      (@Edit.element _ v v' [] [] h)
  refine .head (.permute (List.Perm.swap _ _ _)) (.head (htables _ _ _ (hschema _)) ?_)
  have habsent : ∀ (name : String) (v : Tree), name ≠ "description" →
      ¬ Spells (Json.encode name.toList, v).1 "description".toList :=
    fun name v hname h => hname (String.toList_inj.mp ((hkey name).unique h))
  refine .head (.null (.tail _ (.head _)) (hkey "description") ?_)
    (.single (.insert (hkey "version") (by decide)))
  intro m hm
  rcases List.mem_pair.mp hm with rfl | rfl
  · exact habsent "tables" _ (by decide)
  · exact habsent "name" _ (by decide)

theorem ofText_shopPresented :
    validate shop = .ok () ∧
      Relation.ReflTransGen (Edit (.object projectMembers)) (project.write shop).tree
        shopPresented.tree ∧
      TextOf shopPresented.tree (String.ofList (' ' :: shopPresented.pretty 0 ++ ['\n'])) ∧
      ofText (String.ofList (' ' :: shopPresented.pretty 0 ++ ['\n'])) = .ok shop := by
  have hvalid : validate shop = .ok () := by decide +kernel
  have htext : TextOf shopPresented.tree
      (String.ofList (' ' :: shopPresented.pretty 0 ++ ['\n'])) :=
    ⟨[' '], _, ['\n'], Json.isSpaces_space, Json.pretty_writes 0 shopPresented,
      Json.isSpaces_lineBreak 0, String.toList_ofList⟩
  exact ⟨hvalid, shop_edits, htext, ofText_of_edits.2 shop _ _ hvalid shop_edits htext⟩

/-- How the first half of a pair is spelled. -/
def halfPair : List Char :=
  ['\\', 'u', 'd', '8', '0', '0']

/-- The stored form of a project without tables, with a member before the others whose name is
spelled with half of a pair. -/
def halfPairText : String :=
  "\x7b\"\\ud800\":1,\"name\":\"Shop\",\"tables\":[]\x7d"

theorem not_spells_halfPair (xs : List Char) : ¬ Spells halfPair xs := by
  intro h
  have hfault : Json.decode (halfPair ++ ['"']) = .error .brokenPair := rfl
  have hdecode := h.decode []
  rw [hfault] at hdecode
  cases hdecode

/-- Members are known by their names, which are texts. Where a member has a name that is no text, the
project is not read, although no field has that name and the text is good JSON. -/
theorem halfPair_refused :
    validate ⟨"Shop", none, []⟩ = .ok () ∧
      (project.write ⟨"Shop", none, []⟩).tree
        = .object (Json.memberTrees [("name", .string "Shop"), ("tables", .list [])]) ∧
      IsBody halfPair ∧ (∀ e ∈ projectMembers, ¬ Spells halfPair e.1.toList) ∧
      TextOf (.object ((halfPair, (Json.number 1).tree)
        :: Json.memberTrees [("name", .string "Shop"), ("tables", .list [])])) halfPairText ∧
      ofText halfPairText = .error (.json .brokenPair) := by
  have hbody : IsBody halfPair := .unit (by decide) .nil
  have hmember : ∀ {key : List Char} {v : Tree} {cs : List Char}, IsBody key →
      Writes (.value v) cs → Writes (.member key v) ('"' :: key ++ '"' :: [] ++ ':' :: [] ++ cs) :=
    fun hkey hv => .member hkey isSpaces_nil isSpaces_nil hv
  have hhalf := hmember hbody (Json.pretty_writes 0 (.number 1))
  have hname := hmember (Json.spells_encode "name".toList).isBody
    (Json.pretty_writes 0 (.string "Shop"))
  have htables := hmember (Json.spells_encode "tables".toList).isBody
    (Json.pretty_writes 0 (.list []))
  have hmore := Writes.moreMembers isSpaces_nil isSpaces_nil hname
    (.moreMembers isSpaces_nil isSpaces_nil htables .noMembers)
  have htext := Writes.object isSpaces_nil hhalf hmore isSpaces_nil
  exact ⟨by decide +kernel, rfl, hbody, fun e _ => not_spells_halfPair _,
    ⟨[], _, [], isSpaces_nil, htext, isSpaces_nil, by decide⟩, by decide +kernel⟩

end Snapshot
end SchemaScript
