import PageGuard.Proofs.Text.Trimming
import PageGuard.Text.Search

/-!
# Cutting texts at a character

* `span_iff`: a text is cut by a test in one way.
* `splitAtFirst?_eq_some_iff`: a text is cut at the first separator, and there is one.
* `afterStart?_eq_some_iff`, `beforeEnd?_eq_some_iff`: taking off a beginning or an ending.
* `pieces_append`: the pieces on the two sides of a separator.
* `map_pieces_trim`: what blanks at the ends of a piece do not change, blanks at the ends of the
  whole text do not change.
-/

namespace PageGuard.Text

/-! ## Blanks around a text -/

theorem trim_append_of_blank {w : List Char} (hw : ∀ c ∈ w, isBlank c = true) (cs : List Char) :
    trim (w ++ cs) = trim cs := by
  rw [trim, trim, trimStart_append_of_blank (trimStart_eq_nil_iff.2 hw)]

theorem trim_append_blank {w : List Char} (hw : ∀ c ∈ w, isBlank c = true) (cs : List Char) :
    trim (cs ++ w) = trim cs := by
  have hblank : trimStart w = [] := trimStart_eq_nil_iff.2 hw
  by_cases hcs : trimStart cs = []
  · have hall : trimStart (cs ++ w) = [] := by rw [trimStart_append_of_blank hcs, hblank]
    rw [trim_eq_nil_iff.2 hcs, trim_eq_nil_iff.2 hall]
  · rw [trim, trim, trimStart_append_of_ne hcs, trimEnd_append_of_blank hblank]

theorem trim_trimEnd (cs : List Char) : trim (trimEnd cs) = trim cs := by
  obtain ⟨w, hw, hblank⟩ := exists_append_trimEnd cs
  have happend := trim_append_blank hblank (trimEnd cs)
  rw [← hw] at happend
  exact happend.symm

/-- A text is its trimmed form between blanks. -/
theorem exists_blank_trim_blank (cs : List Char) :
    ∃ w w', cs = w ++ (trim cs ++ w') ∧ (∀ c ∈ w, isBlank c = true) ∧
      ∀ c ∈ w', isBlank c = true := by
  obtain ⟨w, hw, hblank⟩ := exists_trimStart_append cs
  obtain ⟨w', hw', hblank'⟩ := exists_append_trimEnd (trimStart cs)
  exact ⟨w, w', hw.trans (congrArg (w ++ ·) hw'), hblank, hblank'⟩

/-! ## Cutting by a test -/

theorem span_spec {α : Type} (p : α → Bool) (cs : List α) :
    cs = cs.takeWhile p ++ cs.dropWhile p ∧ (∀ c ∈ cs.takeWhile p, p c = true) ∧
      ∀ c ∈ (cs.dropWhile p).head?, p c = false := by
  refine ⟨List.takeWhile_append_dropWhile.symm, fun c => List.mem_takeWhile_imp, fun c hc => ?_⟩
  have hhead := List.head?_dropWhile_not p cs
  rw [Option.mem_def.1 hc] at hhead
  simpa using hhead

/-- **A text is cut where a test fails first.** -/
theorem span_iff {α : Type} {p : α → Bool} {cs a b : List α} :
    (cs.takeWhile p = a ∧ cs.dropWhile p = b) ↔
      cs = a ++ b ∧ (∀ c ∈ a, p c = true) ∧ ∀ c ∈ b.head?, p c = false := by
  constructor
  · rintro ⟨rfl, rfl⟩
    exact span_spec p cs
  · rintro ⟨rfl, ha, hb⟩
    rw [List.takeWhile_append_of_pos ha, List.dropWhile_append_of_pos ha]
    cases b with
    | nil => simp
    | cons c b =>
      have hc : ¬ p c = true := by simp [hb c rfl]
      rw [List.takeWhile_cons_of_neg hc, List.dropWhile_cons_of_neg hc, List.append_nil]
      exact ⟨rfl, rfl⟩

/-! ## The first separator -/

variable {sep : Char} {cs a b : List Char}

/-- **A text is cut at the first separator.** -/
theorem splitAtFirst?_eq_some_iff :
    splitAtFirst? sep cs = some (a, b) ↔ cs = a ++ sep :: b ∧ sep ∉ a := by
  constructor
  · intro h
    obtain ⟨hcs, hbefore, hsep⟩ := span_spec (fun c => decide (c ≠ sep)) cs
    rw [splitAtFirst?] at h
    split at h
    · cases h
    · rename_i c rest hdrop
      obtain ⟨rfl, rfl⟩ := Prod.mk.inj (Option.some.inj h)
      rw [hdrop] at hcs hsep
      obtain rfl : c = sep := by simpa using hsep
      exact ⟨hcs, fun hmem => by simpa using hbefore _ hmem⟩
  · rintro ⟨rfl, ha⟩
    have hne : ∀ c ∈ a, decide (c ≠ sep) = true :=
      fun c hc => decide_eq_true fun h => ha (h ▸ hc)
    obtain ⟨htake, hdrop⟩ := span_iff.2 ⟨rfl, hne, show ∀ c ∈ (sep :: b).head?, _ by simp⟩
    rw [splitAtFirst?, htake, hdrop]

theorem splitAtFirst?_eq_none_iff : splitAtFirst? sep cs = none ↔ sep ∉ cs := by
  have hnil : cs.dropWhile (· ≠ sep) = [] ↔ sep ∉ cs := by
    rw [List.dropWhile_eq_nil_iff]
    simp only [decide_eq_true_eq, ne_eq]
    exact ⟨fun h hmem => h sep hmem rfl, fun h c hc heq => h (heq ▸ hc)⟩
  rw [← hnil, splitAtFirst?]
  cases cs.dropWhile (· ≠ sep) <;> simp

/-! ## Beginnings and endings -/

theorem afterStart?_eq_some_iff {start : List Char} :
    afterStart? start cs = some b ↔ cs = start ++ b := by
  rw [afterStart?]
  constructor
  · intro h
    split_ifs at h with hstart
    obtain ⟨rest, rfl⟩ := List.isPrefixOf_iff_prefix.1 hstart
    rw [List.drop_left] at h
    rw [Option.some.inj h]
  · rintro rfl
    rw [if_pos (List.isPrefixOf_iff_prefix.2 (List.prefix_append start b)), List.drop_left]

theorem beforeEnd?_eq_some_iff {ending : List Char} :
    beforeEnd? ending cs = some a ↔ cs = a ++ ending := by
  rw [beforeEnd?]
  constructor
  · intro h
    split_ifs at h with hending
    obtain ⟨rest, rfl⟩ := List.isSuffixOf_iff_suffix.1 hending
    rw [List.length_append, Nat.add_sub_cancel, List.take_left] at h
    rw [Option.some.inj h]
  · rintro rfl
    rw [if_pos (List.isSuffixOf_iff_suffix.2 (List.suffix_append a ending)), List.length_append,
      Nat.add_sub_cancel, List.take_left]

/-! ## Pieces -/

theorem pieces_ne_nil (sep : Char) (cs : List Char) : pieces sep cs ≠ [] := by
  induction cs with
  | nil => exact List.cons_ne_nil _ _
  | cons c cs ih =>
    rw [pieces]
    split_ifs
    · exact List.cons_ne_nil _ _
    · split <;> exact List.cons_ne_nil _ _

theorem pieces_cons_self (sep : Char) (cs : List Char) :
    pieces sep (sep :: cs) = [] :: pieces sep cs := by
  rw [pieces, if_pos rfl]

/-- A character that is no separator goes to the first piece. -/
theorem pieces_cons_of_ne {c : Char} (hc : c ≠ sep) {p : List Char} {ps : List (List Char)}
    (h : pieces sep cs = p :: ps) : pieces sep (c :: cs) = (c :: p) :: ps := by
  rw [pieces, if_neg hc, h]

/-- The pieces on the two sides of a separator. -/
theorem pieces_append (sep : Char) (a b : List Char) :
    pieces sep (a ++ sep :: b) = pieces sep a ++ pieces sep b := by
  induction a with
  | nil => exact pieces_cons_self sep b
  | cons c a ih =>
    by_cases hc : c = sep
    · rw [hc, List.cons_append, pieces_cons_self, pieces_cons_self, ih, List.cons_append]
    · obtain ⟨p, ps, hp⟩ := List.exists_cons_of_ne_nil (pieces_ne_nil sep a)
      rw [List.cons_append, pieces_cons_of_ne hc hp, List.cons_append]
      exact pieces_cons_of_ne hc (by rw [ih, hp, List.cons_append])

/-- What stands before the first separator goes to the first piece. -/
theorem pieces_append_left {w : List Char} (hw : sep ∉ w) {p : List Char} {ps : List (List Char)}
    (h : pieces sep cs = p :: ps) : pieces sep (w ++ cs) = (w ++ p) :: ps := by
  induction w with
  | nil => exact h
  | cons c w ih =>
    rw [List.mem_cons, not_or] at hw
    exact pieces_cons_of_ne (Ne.symm hw.1) (ih hw.2)

/-- What stands after the last separator goes to the last piece. -/
theorem exists_pieces_append_right {w : List Char} (hw : sep ∉ w) (cs : List Char) :
    ∃ ps p, pieces sep cs = ps ++ [p] ∧ pieces sep (cs ++ w) = ps ++ [p ++ w] := by
  induction cs with
  | nil =>
    refine ⟨[], [], rfl, ?_⟩
    have hnil : pieces sep [] = [[]] := rfl
    have h := pieces_append_left hw hnil
    rwa [List.append_nil] at h
  | cons c cs ih =>
    obtain ⟨ps, p, hcs, happend⟩ := ih
    by_cases hc : c = sep
    · refine ⟨[] :: ps, p, ?_, ?_⟩
      · rw [hc, pieces_cons_self, hcs, List.cons_append]
      · rw [hc, List.cons_append, pieces_cons_self, happend, List.cons_append]
    · cases ps with
      | nil => exact ⟨[], c :: p, pieces_cons_of_ne hc hcs, pieces_cons_of_ne hc happend⟩
      | cons q ps =>
        exact ⟨(c :: q) :: ps, p, pieces_cons_of_ne hc hcs, pieces_cons_of_ne hc happend⟩

/-- **Blanks at the ends of a text change nothing that blanks at the ends of its pieces do not
change.** -/
theorem map_pieces_trim {β : Type} (hsep : isBlank sep = false) {g : List Char → β}
    (hg : ∀ p, g (trim p) = g p) (cs : List Char) :
    (pieces sep (trim cs)).map g = (pieces sep cs).map g := by
  obtain ⟨w, w', hcs, hw, hw'⟩ := exists_blank_trim_blank cs
  have hnot {v : List Char} (hv : ∀ c ∈ v, isBlank c = true) : sep ∉ v := by
    intro hmem
    rw [hv sep hmem] at hsep
    exact Bool.noConfusion hsep
  obtain ⟨ps, p, hpieces, happend⟩ := exists_pieces_append_right (hnot hw') (trim cs)
  have hend : g (p ++ w') = g p := by rw [← hg (p ++ w'), trim_append_blank hw', hg]
  have hright : (pieces sep (trim cs ++ w')).map g = (pieces sep (trim cs)).map g := by
    rw [happend, hpieces]
    simp [hend]
  obtain ⟨q, qs, hq⟩ := List.exists_cons_of_ne_nil (pieces_ne_nil sep (trim cs ++ w'))
  have hstart : g (w ++ q) = g q := by rw [← hg (w ++ q), trim_append_of_blank hw, hg]
  have hleft : (pieces sep cs).map g = (pieces sep (trim cs ++ w')).map g := by
    rw [congrArg (pieces sep) hcs, pieces_append_left (hnot hw) hq, hq]
    simp [hstart]
  exact (hleft.trans hright).symm

end PageGuard.Text
