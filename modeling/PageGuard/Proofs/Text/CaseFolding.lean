import PageGuard.Proofs.Text.LetterCase
import PageGuard.Proofs.Text.Trimming
import Mathlib.Data.List.Pairwise

/-!
# Case folding

Two characters are the same up to case when their simple case foldings are equal.  Lower-casing a
text keeps every character up to case, with one exception: the capital I with a dot becomes two
characters, and no simple folding takes it to either of them.

* `toNat_simpleFold`: the folding of a character by its table alone.
* `simpleFold_simpleLower`: the simple lower case of a character folds to what it folds to itself.
* `mem_caseVariants_iff`: the case variants of a character are those with the same folding.
* `map_simpleFold_lowercase_isInfix`: a text without the exception is still in the lower case of a
  text that has it, up to case.
* `simpleFold_ne_of_mem_lowercase`: the exception is in no lower case, not even up to case.
* `trim_map_simpleFold`: folding keeps the blanks.
-/

namespace PageGuard.Text

/-! ## The table of the folding -/

/-- The shift back. -/
def Shift.inverse (s : Shift) : Shift := ⟨s.target, s.target + (s.hi - s.lo), 1, s.lo⟩

/-- The shifts to lower case that folding lacks.  The first one is for the capital I with a dot, the
others are for Cherokee letters, which fold to upper case. -/
def unfoldedShifts : List Shift :=
  [⟨304, 304, 1, 105⟩, ⟨5024, 5103, 1, 43888⟩, ⟨5104, 5109, 1, 5112⟩]

/-- The blanks by their code points. -/
def blankRanges : List (Nat × Nat) := [(9, 13), (32, 32), (0x85, 0x85), (0xA0, 0xA0),
  (0x1680, 0x1680), (0x2000, 0x200A), (0x2028, 0x2028), (0x2029, 0x2029), (0x202F, 0x202F),
  (0x205F, 0x205F), (0x3000, 0x3000)]

/-- Whether a shift has nothing to do with a range, neither before nor after moving. -/
def Shift.clears (s : Shift) (r : Nat × Nat) : Bool :=
  (Nat.blt r.2 s.lo || Nat.blt s.hi r.1) &&
    (Nat.blt r.2 s.target || Nat.blt (s.target + (s.hi - s.lo)) r.1)

/-- What is checked of the folding: its shifts are those of a case mapping.  All shifts to lower
case are among them or are undone by them, but for the capital I with a dot, with which they have
nothing to do, nor with blanks.  They move the other two sigmas to the small one. -/
theorem foldShifts_checked : CaseShifts foldShifts ∧
    (lowerShifts.toList.filter fun s => !unfoldedShifts.contains s).Sublist foldShifts.toList ∧
      (∀ s ∈ unfoldedShifts, (s.lo = 304 ∧ s.hi = 304) ∨
        s.inverse ∈ foldShifts.toList ∧ ∀ t ∈ foldShifts.toList, t.hi < s.lo ∨ s.hi < t.lo) ∧
        (∀ s ∈ foldShifts.toList, (s.hi < 0xD800 ∨ 0xDFFF < s.lo ∧ s.hi < 0x110000) ∧
          ∀ r ∈ (304, 304) :: blankRanges, s.clears r = true) ∧
          ⟨931, 939, 1, 963⟩ ∈ foldShifts.toList ∧ ⟨962, 962, 1, 963⟩ ∈ foldShifts.toList := by
  decide +kernel

theorem caseShifts_foldShifts : CaseShifts foldShifts := foldShifts_checked.1

/-- A shift of the folding moves characters only, and it has nothing to do with the capital I with a
dot and with blanks. -/
theorem foldShifts_clear : ∀ s ∈ foldShifts.toList,
    (s.hi < 0xD800 ∨ 0xDFFF < s.lo ∧ s.hi < 0x110000) ∧
      ∀ r ∈ (304, 304) :: blankRanges, s.clears r = true :=
  foldShifts_checked.2.2.2.1

/-! ## Folding -/

theorem toNat_simpleFold (c : Char) : (simpleFold c).toNat = shifted foldShifts c.toNat :=
  caseShifts_foldShifts.toNat_mapped c

/-- A code point goes where the shift that covers it moves it: no other one covers it. -/
theorem CaseShifts.shifted_of_covers {table : Array Shift} (h : CaseShifts table) {s : Shift}
    (hs : s ∈ table.toList) {n : Nat} (hn : s.covers n = true) :
    shifted table n = s.move n := by
  rcases shifted_cases table n with ⟨hnone, -⟩ | ⟨t, ht, htn, hmoves⟩
  · rw [hnone s hs] at hn
    cases hn
  · have hapart : table.toList.Pairwise fun s t =>
        s.covers n = true → t.covers n = true → s = t := by
      refine h.ascending.pairwise.imp fun {s t} hbefore hsn htn => ?_
      have hs := (Shift.covers_iff.1 hsn).1
      have ht := (Shift.covers_iff.1 htn).1
      have := hbefore.1
      omega
    have hsymm : Std.Symm fun s t : Shift => s.covers n = true → t.covers n = true → s = t :=
      ⟨fun s t h ht hs => (h hs ht).symm⟩
    rw [hmoves, hapart.forall_of_forall (fun _ _ _ _ => rfl) hs ht hn htn]

/-- What a shift of the folding moves, it moves to where folding ends. -/
theorem shifted_foldShifts_move {s : Shift} (hs : s ∈ foldShifts.toList) {n : Nat}
    (hn : s.covers n = true) : shifted foldShifts (s.move n) = s.move n :=
  shifted_of_forall_covers fun _ ht => caseShifts_foldShifts.covers_move hs ht hn

theorem simpleFold_simpleFold (c : Char) : simpleFold (simpleFold c) = simpleFold c := by
  rw [← Char.toNat_inj, toNat_simpleFold, toNat_simpleFold]
  rcases shifted_cases foldShifts c.toNat with ⟨-, hstays⟩ | ⟨s, hs, hcovers, hmoves⟩
  · rw [hstays, hstays]
  · rw [hmoves]
    exact shifted_foldShifts_move hs hcovers

/-! ## Lower case, up to case -/

/-- The lower-case mapping folds as well, or is undone by folding, but for one character. -/
theorem lowerShifts_folded {s : Shift} (hs : s ∈ lowerShifts.toList) :
    s ∈ foldShifts.toList ∨ (s.lo = 304 ∧ s.hi = 304) ∨
      s.inverse ∈ foldShifts.toList ∧ ∀ t ∈ foldShifts.toList, t.hi < s.lo ∨ s.hi < t.lo := by
  by_cases hunfolded : s ∈ unfoldedShifts
  · exact Or.inr (foldShifts_checked.2.2.1 s hunfolded)
  · exact Or.inl (foldShifts_checked.2.1.subset
      (List.mem_filter.2 ⟨hs, by simpa using hunfolded⟩))

theorem shifted_lowerShifts_folded {n : Nat} (h : n ≠ 304) :
    shifted foldShifts (shifted lowerShifts n) = shifted foldShifts n := by
  rcases shifted_cases lowerShifts n with ⟨-, hstays⟩ | ⟨s, hs, hcovers, hmoves⟩
  · rw [hstays]
  have hin := (Shift.covers_iff.1 hcovers).1
  rw [hmoves]
  rcases lowerShifts_folded hs with hfold | hdotted | ⟨hback, hclear⟩
  · rw [shifted_foldShifts_move hfold hcovers,
      caseShifts_foldShifts.shifted_of_covers hfold hcovers]
  · omega
  · have hcoversBack : s.inverse.covers (s.move n) = true := by
      rw [Shift.covers_iff]
      simp only [Shift.inverse, Shift.move, Nat.mod_one, and_true]
      omega
    have hstays : shifted foldShifts n = n := by
      refine shifted_of_forall_covers fun t ht => Bool.eq_false_iff.2 fun htn => ?_
      have := (Shift.covers_iff.1 htn).1
      have := hclear t ht
      omega
    rw [caseShifts_foldShifts.shifted_of_covers hback hcoversBack, hstays]
    simp only [Shift.inverse, Shift.move]
    omega

/-- **The simple lower case of a character is that character up to case**, but for the capital I
with a dot. -/
theorem simpleFold_simpleLower {c : Char} (h : c ≠ 'İ') :
    simpleFold (simpleLower c) = simpleFold c := by
  have hne : c.toNat ≠ 304 := fun heq => h (Char.toNat_inj.1 heq)
  rw [← Char.toNat_inj, toNat_simpleFold, toNat_simpleLower, toNat_simpleFold,
    shifted_lowerShifts_folded hne]

/-! ## Case variants -/

theorem Shift.source?_eq_some_iff {s : Shift} {n k : Nat} :
    s.source? n = some k ↔ s.covers k = true ∧ s.move k = n := by
  rw [source?, Option.ite_none_right_eq_some, Bool.and_eq_true, decide_eq_true_eq]
  constructor
  · rintro ⟨⟨hle, hcovers⟩, heq⟩
    obtain rfl := Option.some.inj heq
    exact ⟨hcovers, by rw [move]; omega⟩
  · rintro ⟨hcovers, rfl⟩
    have hin := (covers_iff.1 hcovers).1
    have hback : s.lo + (s.move k - s.target) = k := by
      rw [move]
      omega
    rw [hback]
    exact ⟨⟨Nat.le_add_right _ _, hcovers⟩, rfl⟩

/-- **The case variants of a character are the characters with the same folding.** -/
theorem mem_caseVariants_iff {c d : Char} : d ∈ caseVariants c ↔ simpleFold d = simpleFold c := by
  rw [caseVariants, List.mem_cons, List.mem_filterMap]
  constructor
  · rintro (rfl | ⟨s, hs, hsource⟩)
    · exact simpleFold_simpleFold c
    · obtain ⟨k, hk, rfl⟩ := Option.map_eq_some_iff.1 hsource
      obtain ⟨hcovers, hmove⟩ := Shift.source?_eq_some_iff.1 hk
      have hin := (Shift.covers_iff.1 hcovers).1
      have hvalid : k.isValidChar := by
        have := (foldShifts_clear s hs).1
        rw [Nat.isValidChar]
        omega
      rw [← Char.toNat_inj, toNat_simpleFold, toNat_ofNat hvalid,
        caseShifts_foldShifts.shifted_of_covers hs hcovers, hmove]
  · intro hfold
    rw [← hfold]
    rcases shifted_cases foldShifts d.toNat with ⟨-, hstays⟩ | ⟨s, hs, hcovers, hmoves⟩
    · exact Or.inl (by rw [← Char.toNat_inj, toNat_simpleFold, hstays])
    · refine Or.inr ⟨s, hs, ?_⟩
      rw [Shift.source?_eq_some_iff.2 ⟨hcovers, by rw [toNat_simpleFold, hmoves]⟩, Option.map_some,
        Char.ofNat_toNat]

/-- The capital I with a dot has no case variant. -/
theorem simpleFold_eq_dotted_iff {c : Char} : simpleFold c = 'İ' ↔ c = 'İ' := by
  rw [← Char.toNat_inj, ← Char.toNat_inj, toNat_simpleFold]
  change shifted foldShifts c.toNat = 304 ↔ c.toNat = 304
  rcases shifted_cases foldShifts c.toNat with ⟨-, hstays⟩ | ⟨s, hs, hcovers, hmoves⟩
  · rw [hstays]
  · have hin := (Shift.covers_iff.1 hcovers).1
    have hclear := (foldShifts_clear s hs).2 (304, 304) (List.mem_cons_self ..)
    simp only [Shift.clears, Bool.and_eq_true, Bool.or_eq_true, Nat.blt_eq] at hclear
    rw [hmoves, Shift.move]
    omega

/-! ## The lower case of a text -/

/-- The three sigmas are the same up to case. -/
theorem simpleFold_sigma (final : Bool) :
    simpleFold (if final then 'ς' else 'σ') = simpleFold 'Σ' := by
  have hmoved : ∀ c ∈ ['Σ', 'ς'], ∃ s ∈ foldShifts.toList, s.covers c.toNat = true ∧
      s.move c.toNat = 'σ'.toNat := by
    intro c hc
    rcases List.mem_cons.1 hc with rfl | hc
    · exact ⟨⟨931, 939, 1, 963⟩, foldShifts_checked.2.2.2.2.1, by decide⟩
    · rw [List.mem_singleton.1 hc]
      exact ⟨⟨962, 962, 1, 963⟩, foldShifts_checked.2.2.2.2.2, by decide⟩
  have hfold : ∀ c ∈ ['Σ', 'ς'], simpleFold c = 'σ' := by
    intro c hc
    obtain ⟨s, hs, hcovers, hmove⟩ := hmoved c hc
    rw [← Char.toNat_inj, toNat_simpleFold, caseShifts_foldShifts.shifted_of_covers hs hcovers,
      hmove]
  have hcapital := hfold 'Σ' (by simp)
  have hend := hfold 'ς' (by simp)
  cases final with
  | true => rw [if_pos rfl, hend, hcapital]
  | false => rw [if_neg Bool.false_ne_true, ← hcapital, simpleFold_simpleFold]

/-- One character of a text in lower case is that character up to case. -/
theorem map_simpleFold_lower {c : Char} (h : c ≠ 'İ') (final : Bool) :
    (if c = 'Σ' then [if final then 'ς' else 'σ']
      else if c = 'İ' then ['i', Char.ofNat 0x307]
      else [simpleLower c]).map simpleFold = [simpleFold c] := by
  by_cases hsigma : c = 'Σ'
  · rw [if_pos hsigma, List.map_singleton, simpleFold_sigma, hsigma]
  · rw [if_neg hsigma, if_neg h, List.map_singleton, simpleFold_simpleLower h]

/-- The lower case of a text that goes on: that of its start is its start up to case. -/
theorem exists_lowercaseAfter_append (start rest : List Char) : ∀ before : List Char,
    ∃ low, lowercaseAfter before (start ++ rest) =
        low ++ lowercaseAfter (start.reverse ++ before) rest ∧
      ('İ' ∉ start → low.map simpleFold = start.map simpleFold) := by
  induction start with
  | nil => exact fun before => ⟨[], rfl, fun _ => rfl⟩
  | cons c start ih =>
    intro before
    obtain ⟨low, hlow, hfold⟩ := ih (c :: before)
    rw [List.cons_append, lowercaseAfter, hlow, ← List.append_assoc, List.reverse_cons,
      List.append_assoc start.reverse, List.singleton_append]
    refine ⟨_, rfl, fun hdotted => ?_⟩
    rw [List.mem_cons, not_or] at hdotted
    rw [List.map_append, map_simpleFold_lower (Ne.symm hdotted.1), hfold hdotted.2,
      List.singleton_append, List.map_cons]

/-- **A part of a text is in its lower case, up to case**, unless it has the exception. -/
theorem map_simpleFold_lowercase_isInfix {part cs : List Char} (h : part <:+: cs)
    (hdotted : 'İ' ∉ part) : part.map simpleFold <:+: (lowercase cs).map simpleFold := by
  obtain ⟨start, rest, rfl⟩ := h
  obtain ⟨low, hlow, -⟩ := exists_lowercaseAfter_append start (part ++ rest) []
  obtain ⟨middle, hmiddle, hfold⟩ := exists_lowercaseAfter_append part rest (start.reverse ++ [])
  rw [lowercase, List.append_assoc, hlow, hmiddle, List.map_append, List.map_append,
    hfold hdotted, ← List.append_assoc]
  exact List.infix_append ..

/-- **No lower case has the exception**, not even up to case. -/
theorem simpleFold_ne_of_mem_lowercase {cs : List Char} {c : Char} (h : c ∈ lowercase cs) :
    simpleFold c ≠ 'İ' := by
  rw [ne_eq, simpleFold_eq_dotted_iff]
  rintro rfl
  exact simpleLower_ne 'İ' (by simp) (simpleLower_of_mem_lowercaseAfter [] cs 'İ' h)

/-! ## Blanks -/

theorem isBlank_iff {c : Char} :
    isBlank c = true ↔ ∃ r ∈ blankRanges, r.1 ≤ c.toNat ∧ c.toNat ≤ r.2 := by
  simp only [isBlank, blankRanges, List.exists_mem_cons_iff, List.not_mem_nil, false_and,
    exists_false, or_false, Bool.or_eq_true, Bool.and_eq_true, decide_eq_true_eq, beq_iff_eq]
  omega

/-- Folding keeps the blanks. -/
theorem isBlank_simpleFold (c : Char) : isBlank (simpleFold c) = isBlank c := by
  rcases shifted_cases foldShifts c.toNat with ⟨-, hstays⟩ | ⟨s, hs, hcovers, hmoves⟩
  · have hsame : simpleFold c = c := by rw [← Char.toNat_inj, toNat_simpleFold, hstays]
    rw [hsame]
  · have hin := (Shift.covers_iff.1 hcovers).1
    have hfold : (simpleFold c).toNat = s.target + (c.toNat - s.lo) := by
      rw [toNat_simpleFold, hmoves, Shift.move]
    have hclear : ∀ r ∈ blankRanges, (r.2 < s.lo ∨ s.hi < r.1) ∧
        (r.2 < s.target ∨ s.target + (s.hi - s.lo) < r.1) := by
      intro r hr
      simpa [Shift.clears] using (foldShifts_clear s hs).2 r (List.mem_cons_of_mem _ hr)
    have hsource : isBlank c = false := by
      rw [Bool.eq_false_iff, ne_eq, isBlank_iff]
      rintro ⟨r, hr, hblank⟩
      have := (hclear r hr).1
      omega
    have htarget : isBlank (simpleFold c) = false := by
      rw [Bool.eq_false_iff, ne_eq, isBlank_iff]
      rintro ⟨r, hr, hblank⟩
      have := (hclear r hr).2
      omega
    rw [hsource, htarget]

theorem trimStart_map_simpleFold (cs : List Char) :
    trimStart (cs.map simpleFold) = (trimStart cs).map simpleFold := by
  rw [trimStart, List.dropWhile_map, funext (f := isBlank ∘ simpleFold) isBlank_simpleFold,
    trimStart]

theorem trim_map_simpleFold (cs : List Char) :
    trim (cs.map simpleFold) = (trim cs).map simpleFold := by
  rw [trim, trimStart_map_simpleFold, trimEnd, ← List.map_reverse]
  change (trimStart _).reverse = _
  rw [trimStart_map_simpleFold, ← List.map_reverse, trim, trimEnd, trimStart]

end PageGuard.Text
