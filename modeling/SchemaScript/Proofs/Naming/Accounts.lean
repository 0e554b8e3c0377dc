import SchemaScript.Naming.Names

/-!
# SchemaScript.Proofs.Naming.Accounts

What becomes of the scope when names are issued. Every name that is issued ends up in the scope, and
is reported if it was there before; so names issued, names in the scope and reports add up.

* `NameScope.issueAll`, `NameScope.taken`: the scope after some names, and those of them that were
  taken.
* `NameScope.mem_taken_iff`: a name is taken if and only if it meets one before it.
* `Issues`: names are issued one after the other, and those that are taken are reported.
* `Accounts`: the scope before and after some names, and the events on the way, add up.
* `Issues.accounts`: they do if the names are issued one after the other.
* `freshName_issues`, `nameForeignKey_issues`: the names of foreign keys. A name with a drawn word is
  always new.
-/

namespace SchemaScript

/-- Whether a name is reported that was issued although it was taken. -/
def Event.isDuplicateName : Event → Bool
  | duplicateName _ _ => true
  | _ => false

/-- Whether a word was drawn whose name is taken. -/
def Event.isSuffixCollided : Event → Bool
  | suffixCollided _ => true
  | _ => false

/-- Whether an event belongs to the issuing of a name. -/
def Event.isNaming (e : Event) : Bool :=
  e.isDuplicateName || e.isSuffixCollided

theorem Event.not_isDuplicateName {e : Event} (h : e.isNaming = false) :
    e.isDuplicateName = false :=
  (Bool.or_eq_false_iff.mp h).1

/-- The name that is reported as a duplicate, if one is. -/
def Event.duplicate? : Event → Option Claim
  | duplicateName space name => some ⟨space, name⟩
  | _ => none

theorem Event.isSome_duplicate? (e : Event) : e.duplicate?.isSome = e.isDuplicateName := by
  cases e <;> rfl

theorem Event.duplicate?_eq_none {e : Event} (h : e.isDuplicateName = false) :
    e.duplicate? = none := by
  rw [← Option.isNone_iff_eq_none, ← Option.not_isSome, isSome_duplicate?, h]
  rfl

theorem Event.not_isSuffixCollided {e : Event} (h : e.isNaming = false) :
    e.isSuffixCollided = false :=
  (Bool.or_eq_false_iff.mp h).2

/-- From one scope to another exactly the given names are issued. Each is new to the scope or
reported, and none is reported if and only if they differ from each other and from those before. -/
structure Accounts (before : NameScope) (claims : List Claim) (after : NameScope)
    (events : List Event) : Prop where
  mem_iff : ∀ c, c ∈ after.issued ↔ c ∈ before.issued ∨ c ∈ claims.map Claim.folded
  count : before.size + claims.length = after.size + events.countP Event.isDuplicateName
  clean_iff : events.countP Event.isDuplicateName = 0 ↔
    (claims.map Claim.folded).Nodup ∧ ∀ c ∈ claims.map Claim.folded, c ∉ before.issued

theorem NameScope.clashes_of_not_contains {s : NameScope} {c : Claim} (h : s.contains c = false) :
    s.clashes c = [] := by
  rw [clashes, h]
  rfl

namespace Accounts

variable {a b c : NameScope} {claims more : List Claim} {events further : List Event}

theorem refl (s : NameScope) : Accounts s [] s [] where
  mem_iff _ := by simp
  count := rfl
  clean_iff := by simp

theorem append (h : Accounts a claims b events) (h' : Accounts b more c further) :
    Accounts a (claims ++ more) c (events ++ further) where
  mem_iff x := by rw [h'.mem_iff, h.mem_iff, List.map_append, List.mem_append, or_assoc]
  count := by
    rw [List.length_append, List.countP_append, ← Nat.add_assoc, h.count, Nat.add_right_comm,
      h'.count]
    omega
  clean_iff := by
    rw [List.countP_append, Nat.add_eq_zero_iff, h.clean_iff, h'.clean_iff, List.map_append,
      List.nodup_append]
    constructor
    · rintro ⟨⟨hn, hfresh⟩, hn', hfresh'⟩
      refine ⟨⟨hn, hn', fun x hx y hy heq => ?_⟩, fun x hx => ?_⟩
      · exact hfresh' y hy ((h.mem_iff y).mpr (.inr (heq ▸ hx)))
      · rcases List.mem_append.mp hx with hx | hx
        · exact hfresh x hx
        · exact fun hbefore => hfresh' x hx ((h.mem_iff x).mpr (.inl hbefore))
    · rintro ⟨⟨hn, hn', hne⟩, hfresh⟩
      refine ⟨⟨hn, fun x hx => hfresh x (List.mem_append_left _ hx)⟩, hn', fun x hx hb => ?_⟩
      rcases (h.mem_iff x).mp hb with hbefore | hclaimed
      · exact hfresh x (List.mem_append_right _ hx) hbefore
      · exact hne x hclaimed x hx rfl

theorem issue (s : NameScope) (c : Claim) : Accounts s [c] (s.insert c) (s.clashes c) := by
  rw [NameScope.clashes]
  cases hc : s.contains c with
  | true =>
    have hmem := NameScope.contains_iff.mp hc
    rw [NameScope.insert_of_contains hc]
    refine ⟨fun x => ?_, rfl, ?_⟩
    · simp only [List.map_singleton, List.mem_singleton]
      exact ⟨.inl, fun h => h.elim id fun heq => heq ▸ hmem⟩
    · simpa [Event.isDuplicateName] using hmem
  | false =>
    have hmem : c.folded ∉ s.issued := fun h =>
      Bool.false_ne_true (hc.symm.trans (NameScope.contains_iff.mpr h))
    have hissued := NameScope.issued_insert hc
    refine ⟨fun x => ?_, ?_, ?_⟩
    · simp [hissued, or_comm]
    · simp [NameScope.size, hissued]
    · simpa using hmem

/-- Only the number of reports counts among the events. -/
theorem of_countP (h : Accounts a claims b events)
    (hcount : further.countP Event.isDuplicateName = events.countP Event.isDuplicateName) :
    Accounts a claims b further where
  mem_iff := h.mem_iff
  count := hcount ▸ h.count
  clean_iff := hcount ▸ h.clean_iff

end Accounts

/-! ## Names issued one after the other -/

namespace NameScope

/-- The scope after some names. -/
def issueAll (scope : NameScope) (claims : List Claim) : NameScope :=
  claims.foldl insert scope

/-- Those of the names that are taken when they are issued. -/
def taken (scope : NameScope) : List Claim → List Claim
  | [] => []
  | c :: claims => (if scope.contains c then [c] else []) ++ (scope.insert c).taken claims

theorem issueAll_append (scope : NameScope) (claims more : List Claim) :
    scope.issueAll (claims ++ more) = (scope.issueAll claims).issueAll more :=
  List.foldl_append

theorem taken_append (scope : NameScope) (claims more : List Claim) :
    scope.taken (claims ++ more) = scope.taken claims ++ (scope.issueAll claims).taken more := by
  induction claims generalizing scope with
  | nil => rfl
  | cons c claims ih =>
    rw [List.cons_append, taken, ih, taken, List.append_assoc]
    rfl

theorem mem_issued_insert {scope : NameScope} {c d : Claim} :
    d ∈ (scope.insert c).issued ↔ d ∈ scope.issued ∨ d = c.folded := by
  simpa using (Accounts.issue scope c).mem_iff d

/-- A name is taken if and only if it was in the scope before or meets a name issued before it. -/
theorem mem_taken_iff {scope : NameScope} {claims : List Claim} {c : Claim} :
    c ∈ scope.taken claims ↔ ∃ earlier later, claims = earlier ++ c :: later ∧
      (c.folded ∈ scope.issued ∨ ∃ e ∈ earlier, e.folded = c.folded) := by
  induction claims generalizing scope with
  | nil => simp [taken]
  | cons b claims ih =>
    rw [taken, List.mem_append, ih]
    constructor
    · rintro (hb | ⟨earlier, later, rfl, htaken⟩)
      · split at hb
        · rename_i hcontains
          cases List.mem_singleton.mp hb
          exact ⟨[], claims, rfl, .inl (contains_iff.mp hcontains)⟩
        · cases hb
      · refine ⟨b :: earlier, later, rfl, ?_⟩
        rw [mem_issued_insert] at htaken
        rcases htaken with (hbefore | hb) | ⟨e, he, hmeet⟩
        · exact .inl hbefore
        · exact .inr ⟨b, List.mem_cons_self, hb.symm⟩
        · exact .inr ⟨e, List.mem_cons_of_mem _ he, hmeet⟩
    · rintro ⟨earlier, later, hsplit, htaken⟩
      cases earlier with
      | nil =>
        obtain ⟨rfl, rfl⟩ := List.cons.inj hsplit
        rcases htaken with hbefore | ⟨e, he, -⟩
        · rw [if_pos (contains_iff.mpr hbefore)]
          exact .inl List.mem_cons_self
        · cases he
      | cons a earlier =>
        obtain ⟨rfl, rfl⟩ := List.cons.inj hsplit
        refine .inr ⟨earlier, later, rfl, ?_⟩
        rw [mem_issued_insert]
        rcases htaken with hbefore | ⟨e, he, hmeet⟩
        · exact .inl (.inl hbefore)
        · rcases List.mem_cons.mp he with rfl | he
          · exact .inl (.inr hmeet.symm)
          · exact .inr ⟨e, he, hmeet⟩

theorem filterMap_clashes (scope : NameScope) (c : Claim) :
    (scope.clashes c).filterMap Event.duplicate? = if scope.contains c then [c] else [] := by
  unfold clashes
  split <;> rfl

end NameScope

/-- From one scope to another the names are issued one after the other, and those that are taken are
the ones that are reported. -/
structure Issues (before : NameScope) (claims : List Claim) (after : NameScope)
    (events : List Event) : Prop where
  after_eq : after = before.issueAll claims
  reported : events.filterMap Event.duplicate? = before.taken claims

namespace Issues

variable {a b c : NameScope} {claims more : List Claim} {events further : List Event}

theorem refl (s : NameScope) : Issues s [] s [] :=
  ⟨rfl, rfl⟩

theorem append (h : Issues a claims b events) (h' : Issues b more c further) :
    Issues a (claims ++ more) c (events ++ further) where
  after_eq := by rw [h'.after_eq, h.after_eq, NameScope.issueAll_append]
  reported := by
    rw [List.filterMap_append, h.reported, h'.reported, h.after_eq, NameScope.taken_append]

/-- An event that reports no name. -/
theorem note {e : Event} (he : e.isDuplicateName = false) (h : Issues a claims b events) :
    Issues a claims b (e :: events) where
  after_eq := h.after_eq
  reported := by rw [List.filterMap_cons, Event.duplicate?_eq_none he, h.reported]

theorem issue (s : NameScope) (c : Claim) : Issues s [c] (s.insert c) (s.clashes c) where
  after_eq := rfl
  reported := by rw [NameScope.filterMap_clashes, NameScope.taken, NameScope.taken, List.append_nil]

/-- A name that is not taken is issued without an event. -/
theorem issue_fresh {s : NameScope} {c : Claim} (h : s.contains c = false) :
    Issues s [c] (s.insert c) [] :=
  NameScope.clashes_of_not_contains h ▸ issue s c

theorem countP_eq (h : Issues a claims b events) :
    events.countP Event.isDuplicateName = (a.taken claims).length := by
  rw [← h.reported, List.length_filterMap_eq_countP]
  exact List.countP_congr fun e _ => by rw [Event.isSome_duplicate?]

end Issues

/-- By induction on the names, with the reports that belong to them. -/
theorem exists_issues_accounts (s : NameScope) (claims : List Claim) :
    ∃ events, Issues s claims (s.issueAll claims) events ∧
      Accounts s claims (s.issueAll claims) events := by
  induction claims generalizing s with
  | nil => exact ⟨[], .refl s, .refl s⟩
  | cons c claims ih =>
    obtain ⟨events, hissues, haccounts⟩ := ih (s.insert c)
    exact ⟨s.clashes c ++ events, (Issues.issue s c).append hissues,
      (Accounts.issue s c).append haccounts⟩

/-- Names that are issued one after the other add up: only the number of reports matters, and that is
the number of names that are taken. -/
theorem Issues.accounts {a b : NameScope} {claims : List Claim} {events : List Event}
    (h : Issues a claims b events) : Accounts a claims b events := by
  obtain ⟨reports, hissues, haccounts⟩ := exists_issues_accounts a claims
  rw [← h.after_eq] at haccounts
  exact haccounts.of_countP (h.countP_eq.trans hissues.countP_eq.symm)

/-! ## Names of foreign keys -/

theorem freshName_issues {space stem : String} {scope : NameScope} {fuel : Nat}
    {words : WordSource} {i : Issued} (h : freshName space stem scope fuel words = some i) :
    scope.contains ⟨space, i.name⟩ = false ∧ Issues scope [⟨space, i.name⟩] i.scope i.events := by
  induction fuel generalizing words i with
  | zero => cases h
  | succ fuel ih =>
    simp only [freshName] at h
    split at h
    · obtain ⟨j, hj, rfl⟩ := Option.map_eq_some_iff.mp h
      obtain ⟨hfresh, hissues⟩ := ih hj
      exact ⟨hfresh, hissues.note rfl⟩
    · rename_i hfresh
      cases h
      have hnot := Bool.eq_false_iff.mpr hfresh
      exact ⟨hnot, .issue_fresh hnot⟩

theorem nameForeignKey_issues {scope : NameScope} {words : WordSource} {t : Table}
    {k : ForeignKey} {i : Issued} (h : nameForeignKey scope words t k = some i) :
    Issues scope [⟨t.constraintSpace, i.name⟩] i.scope i.events := by
  rw [nameForeignKey] at h
  split at h
  · cases h
    exact .issue _ _
  · exact (freshName_issues h).2

theorem nameForeignKey_fresh {scope : NameScope} {words : WordSource} {t : Table} {k : ForeignKey}
    {i : Issued} (h : nameForeignKey scope words t k = some i) (hk : givenName k.name = none) :
    scope.contains ⟨t.constraintSpace, i.name⟩ = false := by
  rw [nameForeignKey, hk] at h
  exact (freshName_issues h).1

end SchemaScript
