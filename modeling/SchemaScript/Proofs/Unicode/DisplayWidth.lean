import SchemaScript.Unicode.DisplayWidth

/-!
# SchemaScript.Proofs.Unicode.DisplayWidth

Spaces take one column each, whatever text they stand behind or in front of: behind a text they leave
its characters in the context they have at the end of a text, and no sequence reaches over a space.

A character may take a column less than none, where the one after it has taken one too many. What has
been taken ahead is known from the context, so that no text comes to less than no column at all.

* `Follower.ahead`: the columns that have been taken ahead.
* `IsCovered`, `isCovered_advance`: a character gives back no more than that.
* `ahead_scanWidth`, `scanWidth_nonneg`: the same for a text.
* `displayWidth_append_spaces`, `displayWidth_spaces_append`: spaces behind a text and in front of it.
* `displayWidth_append_space_append`: where the text behind a space starts.
-/

namespace SchemaScript
namespace Unicode

/-! ## Columns taken ahead -/

/-- The columns that have been taken ahead for a character that may give them back: by a letter below a
Khmer sign, by the joiner of Tifinagh consonants, and by a regional indicator without a partner. -/
def Follower.ahead : Follower → Int
  | .coengLetter | .tifinaghJoiner | .joinedFlagLetter | .joinedFlagOdd => 1
  | _ => 0

theorem Follower.ahead_nonneg (f : Follower) : 0 ≤ f.ahead := by
  unfold ahead
  split <;> decide

theorem Follower.ahead_join (f : Follower) : f.join.ahead = f.ahead := by
  cases f <;> rfl

/-- Columns of a character before `f`, with the context it makes, that give back no more than has been
taken ahead. -/
def IsCovered (f : Follower) (step : Int × Context) : Prop :=
  step.2.follower.ahead ≤ f.ahead + step.1

theorem IsCovered.of_le {f g : Follower} {step : Int × Context} (h : IsCovered f step)
    (hle : f.ahead ≤ g.ahead) : IsCovered g step := by
  unfold IsCovered at h ⊢
  omega

/-- A character that takes columns and none of them ahead. -/
theorem isCovered_of_nonneg (f : Follower) {d : Int} {x : Context} (hd : 0 ≤ d)
    (hx : x.follower.ahead = 0) : IsCovered f (d, x) := by
  have hf := f.ahead_nonneg
  change x.follower.ahead ≤ f.ahead + d
  omega

/-! ## One character -/

/-- A Khmer letter that takes a subscript form takes a column of its own. -/
theorem aloneWidth_pos_of_isCoengLetter {c : Char} (h : isCoengLetter c = true) :
    1 ≤ aloneWidth c := by
  have hrange : c.toNat ∈ List.range' 0x1780 0x30 := by
    simp only [isCoengLetter, between, Bool.or_eq_true, Bool.and_eq_true, decide_eq_true_eq,
      List.contains_eq_mem, List.mem_cons, List.not_mem_nil, or_false] at h
    rw [List.mem_range'_1]
    omega
  have hcodes : ∀ n ∈ List.range' 0x1780 0x30,
      CodePointSet.containsFrom false zeroWidth.boundaries n = false := by
    decide +kernel
  have hzero : zeroWidth.contains c = false := hcodes _ hrange
  unfold aloneWidth
  split
  · decide
  · decide
  · rw [hzero, if_neg Bool.false_ne_true]
    split <;> decide

theorem isCovered_alone (f : Follower) (c : Char) : IsCovered f (alone c) := by
  have hnonneg : (0 : Int) ≤ aloneWidth c := Int.natCast_nonneg _
  by_cases h : followerOf c = .coengLetter
  · have hletter : isCoengLetter c = true := by
      unfold followerOf at h
      grind
    have hpos := aloneWidth_pos_of_isCoengLetter hletter
    have hf := f.ahead_nonneg
    change (followerOf c).ahead ≤ f.ahead + (aloneWidth c : Int)
    rw [h]
    change 1 ≤ f.ahead + (aloneWidth c : Int)
    omega
  · -- Of the followers that have taken a column ahead this is the only one that stands alone.
    have hzero : (followerOf c).ahead = 0 := by
      unfold followerOf at h ⊢
      grind [Follower.ahead]
    exact isCovered_of_nonneg f hnonneg hzero

theorem isCovered_combine {f : Follower} {c : Char} {step : Int × Context}
    (h : combine f c = some step) : IsCovered f step := by
  unfold combine at h
  unfold IsCovered
  cases f <;> grind [Follower.ahead, Context.before, Context.plain]

theorem isCovered_advanceJoin (f : Follower) (c : Char) : IsCovered f (advanceJoin f c) := by
  unfold advanceJoin
  split
  · exact Int.le_of_eq (f.ahead_join.trans (Int.add_zero _).symm)
  · split
    · exact Int.le_of_eq (Int.add_zero _).symm
    · cases hcombine : combine f c with
      | none => exact isCovered_alone f c
      | some step => exact isCovered_combine hcombine

theorem isCovered_select (x : Context) (s : Selector) : IsCovered x.follower (0, x.select s) := by
  have hawait (y : Context) : (y.await s).follower = y.follower := by cases s <;> rfl
  have hx := x.follower.ahead_nonneg
  change (x.select s).follower.ahead ≤ x.follower.ahead + 0
  unfold Context.select
  rw [hawait, Int.add_zero]
  split
  · exact Int.le_refl _
  · exact hx

theorem isCovered_advanceMark (x : Context) (c : Char) : IsCovered x.follower (advanceMark x c) := by
  unfold advanceMark
  split
  · exact isCovered_select x _
  · split
    · exact isCovered_of_nonneg _ (by omega) rfl
    · split
      · exact isCovered_of_nonneg _ (by omega) rfl
      · exact isCovered_advanceJoin x.follower c

theorem ahead_dropEmoji_le (x : Context) : x.dropEmoji.follower.ahead ≤ x.follower.ahead := by
  unfold Context.dropEmoji
  split
  · exact Int.le_refl _
  · exact x.follower.ahead_nonneg

/-- No character gives back more columns than the ones after it have taken ahead. -/
theorem isCovered_advance (c : Char) (x : Context) : IsCovered x.follower (advance c x) := by
  have hdrop : (if x.emoji then x.dropEmoji else x).follower.ahead ≤ x.follower.ahead := by
    split
    · exact ahead_dropEmoji_le x
    · exact Int.le_refl _
  unfold advance
  split
  · refine isCovered_of_nonneg _ ?_ rfl
    split <;> omega
  · dsimp only
    generalize (if x.emoji then x.dropEmoji else x) = y at hdrop ⊢
    by_cases hlow : c.toNat ≤ 0xA0
    · rw [if_pos hlow]
      by_cases hfeed : c = '\n'
      · rw [if_pos hfeed]
        exact isCovered_of_nonneg _ (by omega) rfl
      · rw [if_neg hfeed]
        split
        · exact isCovered_of_nonneg _ (by omega) rfl
        · exact isCovered_of_nonneg _ (by omega) rfl
    · rw [if_neg hlow]
      exact (isCovered_advanceMark y c).of_le hdrop

/-! ## Texts -/

theorem scanWidth_cons (c : Char) (cs : List Char) : scanWidth (c :: cs)
    = ((scanWidth cs).1 + (advance c (scanWidth cs).2).1, (advance c (scanWidth cs).2).2) :=
  rfl

/-- A text has taken the columns that it has taken ahead. -/
theorem ahead_scanWidth (cs : List Char) : (scanWidth cs).2.follower.ahead ≤ (scanWidth cs).1 := by
  induction cs with
  | nil => decide
  | cons c cs ih =>
    have hstep := isCovered_advance c (scanWidth cs).2
    unfold IsCovered at hstep
    rw [scanWidth_cons]
    dsimp only
    omega

theorem scanWidth_nonneg (cs : List Char) : 0 ≤ (scanWidth cs).1 :=
  Int.le_trans (Follower.ahead_nonneg _) (ahead_scanWidth cs)

/-! ## Spaces -/

/-- A space takes one column, and it keeps what follows it out of reach. -/
theorem advance_space (x : Context) : advance ' ' x = (1, .plain) := by
  have hbase : emojiVariationBase.contains ' ' = false := by decide
  have hfeed : ' ' ≠ '\n' := by decide
  have hreturn (y : Context) : ¬ (' ' = '\r' ∧ y = .before .lineFeed) := fun h => absurd h.1 (by decide)
  have hlow : ' '.toNat ≤ 0xA0 := by decide
  unfold advance
  rw [hbase, Bool.and_false, if_neg Bool.false_ne_true]
  dsimp only
  rw [if_pos hlow, if_neg hfeed, if_neg (hreturn _)]

/-- A text that does not matter to the characters before it adds its columns to theirs. By induction on
what stands before it, with the context left by the one text instead of that at the end of a text. -/
theorem scanWidth_append (cs : List Char) {ds : List Char} (h : (scanWidth ds).2 = .plain) :
    scanWidth (cs ++ ds) = ((scanWidth cs).1 + (scanWidth ds).1, (scanWidth cs).2) := by
  induction cs with
  | nil => exact Prod.ext (Int.zero_add _).symm h
  | cons c cs ih =>
    rw [List.cons_append, scanWidth_cons, ih, scanWidth_cons]
    dsimp only
    rw [Int.add_right_comm]

theorem scanWidth_space_cons (cs : List Char) :
    scanWidth (' ' :: cs) = ((scanWidth cs).1 + 1, .plain) := by
  rw [scanWidth_cons, advance_space]

theorem scanWidth_spaces_append (n : Nat) (cs : List Char) :
    (scanWidth (List.replicate n ' ' ++ cs)).1 = (scanWidth cs).1 + n := by
  induction n with
  | zero => exact (Int.add_zero _).symm
  | succ n ih =>
    rw [List.replicate_succ, List.cons_append, scanWidth_space_cons, ih, Int.natCast_succ,
      Int.add_assoc]

theorem scanWidth_spaces (n : Nat) :
    scanWidth (List.replicate n ' ') = ((n : Int), Context.plain) := by
  induction n with
  | zero => rfl
  | succ n ih => rw [List.replicate_succ, scanWidth_space_cons, ih, Int.natCast_succ]

theorem displayWidth_append (s : String) {t : String} (h : (scanWidth t.toList).2 = .plain) :
    displayWidth (s ++ t) = displayWidth s + displayWidth t := by
  rw [displayWidth, displayWidth, displayWidth, String.toList_append, scanWidth_append s.toList h]
  exact Int.toNat_add (scanWidth_nonneg _) (scanWidth_nonneg _)

theorem displayWidth_spaces (n : Nat) :
    displayWidth (String.ofList (List.replicate n ' ')) = n := by
  rw [displayWidth, String.toList_ofList, scanWidth_spaces]
  exact Int.toNat_natCast n

theorem displayWidth_append_spaces (s : String) (n : Nat) :
    displayWidth (s ++ String.ofList (List.replicate n ' ')) = displayWidth s + n := by
  rw [displayWidth_append, displayWidth_spaces]
  rw [String.toList_ofList, scanWidth_spaces]

theorem displayWidth_spaces_append (n : Nat) (s : String) :
    displayWidth (String.ofList (List.replicate n ' ') ++ s) = displayWidth s + n := by
  rw [displayWidth, displayWidth, String.toList_append, String.toList_ofList,
    scanWidth_spaces_append, Int.toNat_add (scanWidth_nonneg _) (Int.natCast_nonneg n),
    Int.toNat_natCast]

/-- Whatever stands behind a space starts in the column next to it. -/
theorem displayWidth_append_space_append (s t : String) :
    displayWidth (s ++ " " ++ t) = displayWidth s + 1 + displayWidth t := by
  have htext : (" " ++ t).toList = ' ' :: t.toList := String.toList_append
  have hplain : (scanWidth (" " ++ t).toList).2 = .plain := by rw [htext, scanWidth_space_cons]
  have hspace : displayWidth (" " ++ t) = displayWidth t + 1 := displayWidth_spaces_append 1 t
  rw [String.append_assoc, displayWidth_append s hplain, hspace]
  omega

end Unicode
end SchemaScript
