import Mathlib.Data.List.Pairwise
import SchemaScript.Proofs.Json.Codec
import SchemaScript.Proofs.Json.Skip

/-!
# SchemaScript.Proofs.Json.Record

Records are read back from every object that presents them.

* `Field.Lawful`, `Record.Lawful`: what is asked of the fields, each by its rule, and of all of them
  together. A field is read and changed without the others, and the fields make up the whole record.
* `Record.Pending`: what is known of a record while its members are read.
* `Record.members_writes`: reading the members of an object, one after the other.
* `Record.Lawful.codec`: the format of a record is lawful if its fields are.
-/

namespace SchemaScript
namespace Json

/-! ## Fields -/

namespace Field

variable {R α : Type}

/-- What is written of the field. -/
def values (f : Field R) (r : R) : List Json :=
  if f.written (f.get r) then [f.codec.write (f.get r)] else []

/-- What is to be found of the field where `r` is read: nothing, if it may be absent and is as on the
blank record, or its value. -/
inductive Found (f : Field R) (blank r : R) : List Tree → Prop where
  | absent : f.required = false → f.get r = f.get blank → Found f blank r []
  | value {v : Tree} : f.codec.ReadsAs (f.get r) v → Found f blank r [v]

/-- The field is written and read under its rule. -/
structure Lawful (blank : R) (f : Field R) (entry : String × Rule × Shape) : Prop where
  name : f.name = entry.1
  written : ∀ r, Shown (Presents entry.2.2) entry.2.1 (f.values r) ((f.values r).map tree)
  found : ∀ {r vs}, Shown (Presents entry.2.2) entry.2.1 (f.values r) vs → f.Found blank r vs

variable {blank : R} {name : String} {codec : Codec α} {shape : Shape}

theorem Lawful.mandatory {get : R → α} {set : R → α → R} (h : codec.Lawful shape) :
    Lawful blank (mandatory name codec get set) (name, .required, shape) where
  name := rfl
  written r := .value (h.written _)
  found hshown := by
    cases hshown with
    | value hv => exact .value (h.reads hv)

theorem Lawful.defaulted {get : R → α} {set : R → α → R} {v : Tree} (h : codec.Lawful shape)
    (hv : (codec.write (get blank)).tree = v) :
    Lawful blank (defaulted name codec get set) (name, .default v, shape) where
  name := rfl
  written r := .value (h.written _)
  found hshown := by
    cases hshown with
    | value hv => exact .value (h.reads hv)
    | default hdefault =>
      rw [← hv] at hdefault
      exact .absent rfl (h.unique hdefault)

theorem values_possible {get : R → Option α} {set : R → Option α → R} (r : R) :
    (possible name codec get set).values r = ((get r).map codec.write).toList := by
  change (if (get r).isSome = true then [codec.optional.write (get r)] else []) = _
  cases get r <;> rfl

theorem Lawful.possible {get : R → Option α} {set : R → Option α → R} (h : codec.Lawful .plain)
    (hnull : ∀ a, (codec.write a).tree ≠ null.tree) (hblank : get blank = none) :
    Lawful blank (possible name codec get set) (name, .optional, .plain) where
  name := rfl
  written r := by
    rw [values_possible]
    cases get r with
    | none => exact .absent
    | some a => exact .value (h.written a)
  found {r vs} hshown := by
    rw [values_possible] at hshown
    cases hr : get r with
    | none =>
      rw [hr] at hshown
      cases hshown with
      | absent => exact .absent rfl (hr.trans hblank.symm)
      | null =>
        refine .value ?_
        change codec.optional.ReadsAs (get r) null.tree
        rw [hr]
        exact Codec.readsAs_none
    | some a =>
      rw [hr] at hshown
      cases hshown with
      | value hv =>
        have hread := h.reads hv
        rw [Presents] at hv
        refine .value ?_
        change codec.optional.ReadsAs (get r) _
        rw [hr]
        exact hread.optional (hv ▸ hnull a)

end Field

/-! ## Members -/

theorem nextKey_close (first : Bool) {input rest : List Char}
    (h : skipSpace input = '}' :: rest) : nextKey first input = .ok (none, rest) := by
  simp only [nextKey, h, if_true]

section

variable {key input more rest : List Char} {name : String}

theorem nextKey_key (h : Spells key name.toList) (rest : List Char) :
    nextKey.key (key ++ '"' :: rest) = .ok (some name, rest) := by
  rw [nextKey.key, h.decode]
  exact congrArg (fun s => Except.ok (some s, rest)) String.ofList_toList

theorem nextKey_first (h : Spells key name.toList)
    (hinput : skipSpace input = '"' :: (key ++ '"' :: rest)) :
    nextKey true input = .ok (some name, rest) := by
  simp only [nextKey, hinput, Char.reduceEq, if_false, if_true, nextKey_key h]

theorem nextKey_next (h : Spells key name.toList) (hcomma : skipSpace input = ',' :: more)
    (hmore : skipSpace more = '"' :: (key ++ '"' :: rest)) :
    nextKey false input = .ok (some name, rest) := by
  simp only [nextKey, hcomma, hmore, Char.reduceEq, Bool.false_eq_true, if_false, if_true,
    nextKey_key h]

end

namespace Record

variable {R : Type} {format : Record R} {known : List (String × Rule × Shape)}

/-- The fields `f` and `g` do not touch each other. -/
def Independent (f g : Field R) : Prop :=
  (∀ r a, g.get (f.set r a) = g.get r) ∧ ∀ r a, f.get (g.set r a) = f.get r

/-- The fields have different names and follow their rules, and they are the independent parts of the
record. -/
structure Lawful (format : Record R) (known : List (String × Rule × Shape)) : Prop where
  distinct : (known.map (·.1)).Nodup
  fields : List.Forall₂ (Field.Lawful format.blank) format.fields known
  get_set : ∀ f ∈ format.fields, ∀ r a, f.get (f.set r a) = a
  independent : format.fields.Pairwise Independent
  ext : ∀ r r', (∀ f ∈ format.fields, f.get r = f.get r') → r = r'

instance : Std.Symm (Independent (R := R)) where
  symm _ _ h := ⟨h.2, h.1⟩

theorem Lawful.get_set_ne (h : format.Lawful known) {f g : Field R} (hf : f ∈ format.fields)
    (hg : g ∈ format.fields) (hne : f.name ≠ g.name) (r : R) (a : f.Value) :
    g.get (f.set r a) = g.get r := by
  have hfg : f ≠ g := fun heq => hne (heq ▸ rfl)
  exact (h.independent.forall hf hg hfg).1 r a

theorem Lawful.names (h : format.Lawful known) :
    format.fields.map (·.name) = known.map (·.1) := by
  have hall := h.fields.imp fun _ _ => Field.Lawful.name
  rw [← List.forall₂_eq_eq_eq, List.forall₂_map_left_iff, List.forall₂_map_right_iff]
  exact hall

theorem filter_name {fields : List (Field R)} (hdistinct : (fields.map (·.name)).Nodup)
    {f : Field R} (hf : f ∈ fields) : fields.filter (·.name == f.name) = [f] := by
  induction fields with
  | nil => cases hf
  | cons g gs ih =>
    rw [List.map_cons, List.nodup_cons] at hdistinct
    rcases List.mem_cons.mp hf with rfl | hf
    · have hnone : gs.filter (·.name == f.name) = [] := by
        rw [List.filter_eq_nil_iff]
        intro g hg hname
        exact hdistinct.1 (List.mem_map.mpr ⟨g, hg, beq_iff_eq.mp hname⟩)
      rw [List.filter_cons_of_pos (by simp), hnone]
    · have hname : g.name ≠ f.name := by
        intro hname
        exact hdistinct.1 (hname ▸ List.mem_map_of_mem hf)
      rw [List.filter_cons_of_neg (by simpa using hname)]
      exact ih hdistinct.2 hf

theorem field?_name (h : format.Lawful known) {f : Field R} (hf : f ∈ format.fields) :
    format.field? f.name = some f := by
  rw [field?, ← List.head?_filter, filter_name (h.names ▸ h.distinct) hf, List.head?_cons]

/-- What is known while members are read into `done`, those with the names `seen` having been read
and the members `ms` being left. The fields that have been read are those of `r` and do not come
again; the others are as on the blank record, and what is left holds what is to be found of them. -/
structure Pending (format : Record R) (r : R) (seen : List String) (done : R)
    (ms : List (List Char × Tree)) : Prop where
  spelled : ∀ m ∈ ms, ∃ name : String, Spells m.1 name.toList
  read : ∀ f ∈ format.fields, f.name ∈ seen → f.get done = f.get r ∧ Json.found f.name ms = []
  unread : ∀ f ∈ format.fields, f.name ∉ seen →
    f.get done = f.get format.blank ∧ f.Found format.blank r (Json.found f.name ms)

section

variable {r done : R} {seen : List String} {ms : List (List Char × Tree)} {key : List Char}
  {v : Tree}

/-- The next member is that of a field which has not been read, and it holds its value. -/
theorem Pending.next (h : format.Lawful known) (hp : format.Pending r seen done ((key, v) :: ms))
    {f : Field R} (hf : f ∈ format.fields) (hkey : Spells key f.name.toList) :
    f.name ∉ seen ∧ f.codec.ReadsAs (f.get r) v ∧
      format.Pending r (f.name :: seen) (f.set done (f.get r)) ms := by
  have hunseen : f.name ∉ seen := by
    intro hseen
    have hnone := (hp.read f hf hseen).2
    rw [found_cons_same hkey] at hnone
    cases hnone
  obtain ⟨-, hfound⟩ := hp.unread f hf hunseen
  rw [found_cons_same hkey] at hfound
  generalize hms : Json.found f.name ms = vs at hfound
  cases hfound with
  | value hv =>
    refine ⟨hunseen, hv, (List.forall_mem_cons.mp hp.spelled).2, fun g hg hseen => ?_,
      fun g hg hseen => ?_⟩
    · by_cases hname : f.name = g.name
      · have hsame := field?_name h hg
        rw [← hname, field?_name h hf, Option.some.injEq] at hsame
        cases hsame
        exact ⟨h.get_set f hf done _, hms⟩
      · have hread := hp.read g hg ((List.mem_cons.mp hseen).resolve_left (Ne.symm hname))
        rw [found_cons_other hkey hname] at hread
        rwa [h.get_set_ne hf hg hname]
    · rw [List.mem_cons, not_or] at hseen
      have hunread := hp.unread g hg hseen.2
      rw [found_cons_other hkey (Ne.symm hseen.1)] at hunread
      rwa [h.get_set_ne hf hg (Ne.symm hseen.1)]

/-- The next member is not known, and nothing changes. -/
theorem Pending.pass (hp : format.Pending r seen done ((key, v) :: ms)) {name : String}
    (hkey : Spells key name.toList) (hname : ∀ f ∈ format.fields, name ≠ f.name) :
    format.Pending r seen done ms where
  spelled := (List.forall_mem_cons.mp hp.spelled).2
  read f hf hseen := by
    have hread := hp.read f hf hseen
    rwa [found_cons_other hkey (hname f hf)] at hread
  unread f hf hseen := by
    have hunread := hp.unread f hf hseen
    rwa [found_cons_other hkey (hname f hf)] at hunread

/-- When no members are left, no field is missing and the record is read. -/
theorem Pending.finish (h : format.Lawful known) (hp : format.Pending r seen done []) :
    format.firstMissing seen = none ∧ done = r := by
  have hleft : ∀ f ∈ format.fields, f.name ∉ seen → f.required = false ∧
      f.get r = f.get format.blank := by
    intro f hf hseen
    obtain ⟨-, hfound⟩ := hp.unread f hf hseen
    rw [show Json.found f.name [] = [] from rfl] at hfound
    cases hfound with
    | absent hoptional hblank => exact ⟨hoptional, hblank⟩
  constructor
  · rw [firstMissing, Option.map_eq_none_iff, List.find?_eq_none]
    intro f hf hmissing
    rw [Bool.and_eq_true, Bool.not_eq_true', List.contains_eq_mem, decide_eq_false_iff_not]
      at hmissing
    rw [(hleft f hf hmissing.2).1] at hmissing
    cases hmissing.1
  · refine h.ext done r fun f hf => ?_
    by_cases hseen : f.name ∈ seen
    · exact (hp.read f hf hseen).1
    · rw [(hp.unread f hf hseen).1, (hleft f hf hseen).2]

/-! ## Objects -/

/-- The closing brace ends the object when nothing is left to be read. -/
theorem members_close (h : format.Lawful known) {first : Bool} {bound input rest : List Char}
    (hbound : 0 < bound.length) (hinput : skipSpace input = '}' :: rest)
    (hp : format.Pending r seen done []) :
    members format bound first seen done input = .ok (r, rest) := by
  obtain ⟨b, bound, rfl⟩ := List.exists_cons_of_length_pos hbound
  obtain ⟨hmissing, rfl⟩ := hp.finish h
  simp only [members, nextKey_close first hinput, hmissing, bind, Except.bind]
  rfl

/-- A member behind white space starts with its key; a colon and its value follow. -/
theorem exists_of_member {gap text : List Char} (hgap : IsSpaces gap)
    (htext : Writes (.member key v) text) (rest : List Char) :
    ∃ tail body cs, skipSpace (gap ++ (text ++ rest)) = '"' :: (key ++ '"' :: tail) ∧
      colon tail = .ok body ∧ Writes (.value v) cs ∧ skipSpace body = cs ++ rest := by
  cases htext with
  | @member _ _ before after cs hkey hbefore hafter hcs =>
    refine ⟨before ++ ':' :: (after ++ (cs ++ rest)), after ++ (cs ++ rest), cs, ?_, ?_, hcs,
      hcs.skipSpace_gap hafter rest⟩
    · simp only [List.append_assoc, List.cons_append]
      exact skipSpace_mark hgap (by decide) _
    · have hcolon : skipSpace (before ++ ':' :: (after ++ (cs ++ rest)))
          = ':' :: (after ++ (cs ++ rest)) := skipSpace_mark hbefore (by decide) _
      simp only [colon, hcolon]

/-- The member that comes next is read or passed over. -/
theorem members_next (h : format.Lawful known) (hp : format.Pending r seen done ((key, v) :: ms))
    {first : Bool} {bound input tail body cs rest : List Char} (hbound : 0 < bound.length)
    (hnext : ∀ name : String, Spells key name.toList →
      nextKey first input = .ok (some name, tail))
    (hcolon : colon tail = .ok body) (hcs : Writes (.value v) cs)
    (hbody : skipSpace body = cs ++ rest) (hrest : EndsNumber rest) :
    ∃ seen' done', format.Pending r seen' done' ms ∧
      members format bound first seen done input
        = members format bound.tail false seen' done' rest := by
  obtain ⟨b, bound, rfl⟩ := List.exists_cons_of_length_pos hbound
  obtain ⟨name, hkey⟩ := hp.spelled (key, v) List.mem_cons_self
  cases hfield : format.field? name with
  | none =>
    have hname : ∀ f ∈ format.fields, name ≠ f.name := by
      intro f hf hname
      rw [hname, field?_name h hf] at hfield
      cases hfield
    refine ⟨seen, done, hp.pass hkey hname, ?_⟩
    simp only [members, hnext name hkey, hfield, hcolon, skip_value hcs hrest hbody, bind,
      Except.bind, List.tail_cons]
  | some f =>
    have hf : f ∈ format.fields := List.mem_of_find?_eq_some hfield
    have hname : f.name = name := by simpa using List.find?_some hfield
    rw [← hname] at hkey hfield
    obtain ⟨hunseen, hv, hpending⟩ := hp.next h hf hkey
    refine ⟨_, _, hpending, ?_⟩
    simp only [members, hnext f.name hkey, hfield, hcolon, Field.fill, hv hcs hrest hbody, bind,
      Except.bind, Except.map, List.contains_eq_mem, hunseen, decide_false, Bool.false_eq_true,
      if_false, List.tail_cons]

/-- By induction on the members that are left; every member takes a character of the bound. -/
theorem members_writes (h : format.Lawful known) {bound more after rest : List Char}
    (hp : format.Pending r seen done ms) (hbound : more.length < bound.length)
    (hmore : Writes (.members ms) more) (hends : EndsNumber after)
    (hafter : skipSpace after = '}' :: rest) :
    members format bound false seen done (more ++ after) = .ok (r, rest) := by
  induction ms generalizing seen done bound more with
  | nil =>
    cases hmore with
    | noMembers => exact members_close h hbound hafter hp
  | cons m ms ih =>
    cases hmore with
    | @moreMembers key v _ before gap text more hbefore hgap htext hmore =>
      simp only [List.length_append, List.length_cons] at hbound
      have hcomma := skipSpace_comma hbefore gap text more after
      obtain ⟨tail, body, cs, hquote, hcolon, hcs, hbody⟩ :=
        exists_of_member hgap htext (more ++ after)
      have hpos : 0 < bound.length := by omega
      obtain ⟨seen', done', hpending, hstep⟩ := members_next h hp hpos
        (fun name hkey => nextKey_next hkey hcomma hquote) hcolon hcs hbody
        (endsNumber_members hmore hends)
      rw [hstep]
      refine ih hpending ?_ hmore
      rw [List.length_tail]
      omega

/-- A record is read from an object that holds what is to be found of its fields. -/
theorem readsAs_object (h : format.Lawful known) (hp : format.Pending r [] format.blank ms) :
    format.codec.ReadsAs r (.object ms) := by
  intro cs input rest hcs _ hinput
  cases hcs with
  | @emptyObject gap hgap =>
    have hobject : skipSpace input = '{' :: (gap ++ '}' :: rest) := by
      rw [hinput]
      simp
    simp only [codec, read, hobject]
    exact members_close h (List.length_pos_of_ne_nil (by simp))
      (skipSpace_mark hgap (by decide) _) hp
  | @object key v _ before text more after hbefore htext hmore hafter =>
    have hobject : skipSpace input
        = '{' :: (before ++ (text ++ (more ++ (after ++ '}' :: rest)))) := by
      rw [hinput]
      simp
    have hends : EndsNumber (after ++ '}' :: rest) := endsNumber_mark hafter (by decide) _
    obtain ⟨tail, body, cs, hquote, hcolon, hcs, hbody⟩ :=
      exists_of_member hbefore htext (more ++ (after ++ '}' :: rest))
    have hbound :
        more.length < (before ++ (text ++ (more ++ (after ++ '}' :: rest)))).tail.length := by
      have htext : 0 < text.length := by
        cases htext
        simp
      simp only [List.length_tail, List.length_append, List.length_cons]
      omega
    have hpos : 0 < (before ++ (text ++ (more ++ (after ++ '}' :: rest)))).length := by
      rw [List.length_tail] at hbound
      omega
    obtain ⟨seen', done', hpending, hstep⟩ := members_next h hp hpos
      (fun name hkey => nextKey_first hkey hquote) hcolon hcs hbody
      (endsNumber_members hmore hends)
    simp only [codec, read, hobject]
    rw [hstep]
    exact members_writes h hpending hbound hmore hends (skipSpace_mark hafter (by decide) _)

end

/-! ## The law -/

theorem written_filterMap (name : String) (fields : List (Field R)) (r : R) :
    written name (fields.filterMap (·.member? r))
      = (fields.filter (·.name == name)).flatMap (·.values r) := by
  induction fields with
  | nil => rfl
  | cons f fields ih =>
    rw [written] at ih ⊢
    by_cases hwritten : f.written (f.get r) = true
    · have hvalues : f.values r = [f.codec.write (f.get r)] := if_pos hwritten
      have hmember : f.member? r = some (f.name, f.codec.write (f.get r)) := if_pos hwritten
      simp only [List.filterMap_cons, hmember, List.filter_cons]
      split
      · rw [List.map_cons, List.flatMap_cons, hvalues, ih, List.singleton_append]
      · exact ih
    · have hvalues : f.values r = [] := if_neg hwritten
      have hmember : f.member? r = none := if_neg hwritten
      simp only [List.filterMap_cons, hmember, List.filter_cons]
      split
      · rw [List.flatMap_cons, hvalues, ih, List.nil_append]
      · exact ih

theorem exists_entry {α β : Type*} {p : α → β → Prop} {as : List α} {bs : List β}
    (h : List.Forall₂ p as bs) {a : α} (ha : a ∈ as) : ∃ b ∈ bs, p a b := by
  induction h with
  | nil => cases ha
  | cons hp _ ih =>
    rcases List.mem_cons.mp ha with rfl | ha
    · exact ⟨_, List.mem_cons_self, hp⟩
    · obtain ⟨b, hb, hab⟩ := ih ha
      exact ⟨b, List.mem_cons_of_mem _ hb, hab⟩

theorem written_write (h : format.Lawful known) (r : R) {f : Field R} (hf : f ∈ format.fields) :
    written f.name (format.fields.filterMap (·.member? r)) = f.values r := by
  rw [written_filterMap, filter_name (h.names ▸ h.distinct) hf, List.flatMap_singleton]

/-- An object that presents a record holds what is to be found of its fields. -/
theorem Pending.start (h : format.Lawful known) {r : R} {ms : List (List Char × Tree)}
    (hms : Presents (.object known) (format.write r) (.object ms)) :
    format.Pending r [] format.blank ms := by
  obtain ⟨ws, hws, -, hspelled, hshown⟩ := presents_object_iff.mp hms
  cases hws
  refine ⟨hspelled, fun f _ hseen => absurd hseen List.not_mem_nil, fun f hf _ => ⟨rfl, ?_⟩⟩
  obtain ⟨e, he, hlawful⟩ := exists_entry h.fields hf
  have hfound := hshown e he
  rw [← hlawful.name, written_write h r hf] at hfound
  exact hlawful.found hfound

/-- Records are read from whatever presents them. -/
theorem Lawful.codec (h : format.Lawful known) : format.codec.Lawful (.object known) where
  written r := by
    change Presents _ (format.write r)
      (.object (memberTrees (format.fields.filterMap (·.member? r))))
    refine presents_object_iff.mpr ⟨_, rfl, h.distinct, fun m hm => ?_, fun e he => ?_⟩
    · rw [memberTrees_eq_map] at hm
      obtain ⟨w, -, rfl⟩ := List.mem_map.mp hm
      exact ⟨w.1, spells_encode _⟩
    · obtain ⟨f, hf, hlawful⟩ := exists_entry h.fields.flip he
      rw [found_memberTrees, ← hlawful.name, written_write h r hf]
      exact hlawful.written r
  reads {r v} hv := by
    have hobject := hv
    rw [Presents] at hobject
    obtain ⟨-, ms, -, rfl, -⟩ := hobject
    exact readsAs_object h (Pending.start h hv)

end Record
end Json
end SchemaScript
