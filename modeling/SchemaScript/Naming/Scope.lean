import SchemaScript.Event
import SchemaScript.Unicode.Casing

/-!
# SchemaScript.Naming.Scope

The names issued so far in one script. A name belongs to a name space, and both are compared in lower
case.

* `Claim`: a name in a name space.
* `NameScope`: the claims made so far.
* `NameScope.claim`: takes a name that is free.
* `NameScope.clashes`: the warning for a name that is issued although it is taken.
-/

namespace SchemaScript

/-- A name in a name space. -/
structure Claim where
  space : String
  name : String
deriving DecidableEq

/-- The form in which claims are compared. -/
def Claim.folded (c : Claim) : Claim :=
  ⟨Unicode.lower c.space, Unicode.lower c.name⟩

/-- The claims made so far, folded and without repetition, latest first. -/
structure NameScope where
  issued : List Claim
  distinct : issued.Nodup
  folded : ∀ c ∈ issued, ∃ d : Claim, d.folded = c
deriving DecidableEq

namespace NameScope

/-- The scope at the start of a script. -/
def empty : NameScope := ⟨[], .nil, nofun⟩

/-- Whether a name is taken in its space. -/
def contains (s : NameScope) (c : Claim) : Bool :=
  s.issued.contains c.folded

/-- The number of names issued. -/
def size (s : NameScope) : Nat :=
  s.issued.length

/-- Whether no name has been issued. -/
def isEmpty (s : NameScope) : Bool :=
  s.issued.isEmpty

theorem contains_iff {s : NameScope} {c : Claim} : s.contains c = true ↔ c.folded ∈ s.issued := by
  rw [contains, List.contains_iff_mem]

/-- The scope with a name in it. -/
def insert (s : NameScope) (c : Claim) : NameScope :=
  if h : s.contains c then s
  else
    { issued := c.folded :: s.issued
      distinct := List.nodup_cons.mpr ⟨mt contains_iff.mpr h, s.distinct⟩
      folded := List.forall_mem_cons.mpr ⟨⟨c, rfl⟩, s.folded⟩ }

theorem insert_of_contains {s : NameScope} {c : Claim} (h : s.contains c = true) :
    s.insert c = s :=
  dif_pos h

theorem issued_insert {s : NameScope} {c : Claim} (h : s.contains c = false) :
    (s.insert c).issued = c.folded :: s.issued := by
  rw [insert, dif_neg (Bool.eq_false_iff.mp h)]

/-- Takes a name if it is free: whether it was, and the scope with the name in it. -/
def claim (s : NameScope) (c : Claim) : Bool × NameScope :=
  (!s.contains c, s.insert c)

/-- The events of issuing a name that cannot be chosen otherwise: a warning if it is taken. -/
def clashes (s : NameScope) (c : Claim) : List Event :=
  if s.contains c then [.duplicateName c.space c.name] else []

end NameScope
end SchemaScript
