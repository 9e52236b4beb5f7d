import PageGuard.Text.Lowercase
import Mathlib.Data.List.Basic
import Mathlib.Data.List.Chain

/-!
# Lower case

Lower-casing a text twice is lower-casing it once, also when the first time looks at ASCII letters
only.  Both rest on the case data: no shift moves a code point to one that a shift moves again.

* `CaseShifts`: what is checked of a table, the sets of its code points as bits of one number.
* `toNat_simpleLower`: the simple lower case of a character by its table alone.
* `simpleLower_simpleLower`: the simple lower case is idempotent.
* `lowercase_lowercase`: so is lower-casing of whole texts.
* `lowercase_map_asciiLower`: ASCII lower case before makes no difference, not even to the form of
  a sigma at the end of a word.
-/

namespace PageGuard.Text

/-! ## Code points of characters -/

theorem toNat_ofNat {n : Nat} (h : n.isValidChar) : (Char.ofNat n).toNat = n := by
  rw [Char.ofNat, dif_pos h]
  rfl

theorem isUpper_iff {c : Char} : ('A' ≤ c ∧ c ≤ 'Z') ↔ 65 ≤ c.toNat ∧ c.toNat ≤ 90 := by
  rfl

/-! ## Shifts -/

/-- What a table does to a code point: no shift covers it and it stays, or one does and moves it. -/
theorem shifted_cases (table : Array Shift) (n : Nat) :
    ((∀ s ∈ table.toList, s.covers n = false) ∧ shifted table n = n) ∨
      ∃ s ∈ table.toList, s.covers n = true ∧ shifted table n = s.move n := by
  rw [shifted, ← Array.find?_toList]
  cases hfind : table.toList.find? (·.covers n) with
  | none =>
    refine Or.inl ⟨fun s hs => ?_, rfl⟩
    exact Bool.eq_false_iff.2 (List.find?_eq_none.1 hfind s hs)
  | some s =>
    exact Or.inr ⟨s, List.mem_of_find?_eq_some hfind,
      List.find?_some (p := fun s : Shift => s.covers n) hfind, rfl⟩

/-- A code point that no shift covers stays. -/
theorem shifted_of_forall_covers {table : Array Shift} {n : Nat}
    (h : ∀ s ∈ table.toList, s.covers n = false) : shifted table n = n := by
  rcases shifted_cases table n with ⟨-, hstays⟩ | ⟨s, hs, hcovers, -⟩
  · exact hstays
  · rw [h s hs] at hcovers
    cases hcovers

namespace Shift

theorem covers_iff {s : Shift} {n : Nat} :
    s.covers n = true ↔ (s.lo ≤ n ∧ n ≤ s.hi) ∧ (n - s.lo) % s.step = 0 := by
  simp only [covers, Bool.and_eq_true, decide_eq_true_eq, beq_iff_eq]

/-- Whether a shift moves to characters: its targets are no surrogates and not too large. -/
def staysValid (s : Shift) : Bool :=
  Nat.blt (s.target + (s.hi - s.lo)) 0xD800 ||
    Nat.blt 0xDFFF s.target && Nat.blt (s.target + (s.hi - s.lo)) 0x110000

theorem isValidChar_move {s : Shift} (h : s.staysValid = true) {n : Nat} (hn : s.covers n = true) :
    (s.move n).isValidChar := by
  simp only [staysValid, Bool.or_eq_true, Bool.and_eq_true, Nat.blt_eq] at h
  have hin := (covers_iff.1 hn).1
  simp only [move, Nat.isValidChar]
  omega

/-- A shift covers code points before those of another one. -/
def Before (s t : Shift) : Prop := s.hi < t.lo ∧ t.lo ≤ t.hi

instance : DecidableRel Before := fun _ _ => inferInstanceAs (Decidable (_ ∧ _))

instance : Trans Before Before Before where
  trans h h' := ⟨by have := h.1; have := h.2; have := h'.1; omega, h'.2⟩

end Shift

/-! ## Code points as bits -/

/-- The first `k` multiples of `step`, as the bits of a number. -/
def multiples (step : Nat) : Nat → Nat
  | 0 => 0
  | k + 1 => 1 ||| multiples step k <<< step

theorem testBit_multiples {step : Nat} : ∀ {k j : Nat}, j < k →
    (multiples step k).testBit (j * step) = true
  | k + 1, 0, _ => by
    rw [multiples, Nat.testBit_or, Nat.zero_mul]
    rfl
  | k + 1, j + 1, h => by
    have hj : (multiples step k).testBit (j * step) = true :=
      testBit_multiples (Nat.lt_of_succ_lt_succ h)
    rw [multiples, Nat.testBit_or, Nat.testBit_shiftLeft, Nat.succ_mul, Nat.add_sub_cancel, hj,
      decide_eq_true (Nat.le_add_left step _), Bool.and_true, Bool.or_true]

/-- The code points that a shift covers as bits, with the first one moved to `n`. -/
def Shift.bitsFrom (s : Shift) (n : Nat) : Nat :=
  multiples s.step ((s.hi - s.lo) / s.step + 1) <<< n

theorem Shift.testBit_bitsFrom {s : Shift} {n : Nat} (h : s.covers n = true) (k : Nat) :
    (s.bitsFrom k).testBit (k + (n - s.lo)) = true := by
  obtain ⟨⟨hlo, hhi⟩, hstep⟩ := covers_iff.1 h
  have hlt : (n - s.lo) / s.step < (s.hi - s.lo) / s.step + 1 :=
    Nat.lt_succ_of_le (Nat.div_le_div_right (Nat.sub_le_sub_right hhi s.lo))
  have hbit : (multiples s.step ((s.hi - s.lo) / s.step + 1)).testBit
      ((n - s.lo) / s.step * s.step) = true := testBit_multiples hlt
  rw [Nat.div_mul_cancel (Nat.dvd_of_mod_eq_zero hstep)] at hbit
  rw [bitsFrom, Nat.testBit_shiftLeft, Nat.add_sub_cancel_left, hbit,
    decide_eq_true (Nat.le_add_right k _)]
  rfl

/-- The bits of all shifts of a table. -/
def unionBits (bits : Shift → Nat) (table : Array Shift) : Nat :=
  table.toList.foldr (fun s all => bits s ||| all) 0

theorem testBit_unionBits (bits : Shift → Nat) {table : Array Shift} {s : Shift}
    (hs : s ∈ table.toList) {n : Nat} (h : (bits s).testBit n = true) :
    (unionBits bits table).testBit n = true := by
  rw [unionBits]
  generalize table.toList = shifts at hs
  induction shifts with
  | nil => cases hs
  | cons t rest ih =>
    rw [List.foldr_cons, Nat.testBit_or, Bool.or_eq_true]
    rcases List.mem_cons.1 hs with rfl | hs
    · exact Or.inl h
    · exact Or.inr (ih hs)

/-- The code points that a table covers. -/
def sources (table : Array Shift) : Nat := unionBits (fun s => s.bitsFrom s.lo) table

/-- The code points that a table moves others to. -/
def targets (table : Array Shift) : Nat := unionBits (fun s => s.bitsFrom s.target) table

theorem testBit_sources {table : Array Shift} {s : Shift} (hs : s ∈ table.toList) {n : Nat}
    (hn : s.covers n = true) : (sources table).testBit n = true := by
  have hbit := Shift.testBit_bitsFrom hn s.lo
  rw [Nat.add_sub_cancel' (Shift.covers_iff.1 hn).1.1] at hbit
  exact testBit_unionBits (fun s => s.bitsFrom s.lo) hs hbit

theorem testBit_targets {table : Array Shift} {s : Shift} (hs : s ∈ table.toList) {n : Nat}
    (hn : s.covers n = true) : (targets table).testBit (s.move n) = true :=
  testBit_unionBits (fun s => s.bitsFrom s.target) hs (Shift.testBit_bitsFrom hn s.target)

/-! ## Tables of a case mapping -/

/-- What a table needs to map characters: its shifts ascend and lead to characters, none moves a
code point to one that is moved again, and one of them is for the ASCII letters. -/
structure CaseShifts (table : Array Shift) : Prop where
  ascending : table.toList.IsChain Shift.Before
  valid : ∀ s ∈ table.toList, s.staysValid = true
  settled : sources table &&& targets table = 0
  letters : ⟨65, 90, 1, 97⟩ ∈ table.toList
  ascii : ∀ s ∈ table.toList, s = ⟨65, 90, 1, 97⟩ ∨ 128 ≤ s.lo

theorem caseShifts_iff {table : Array Shift} : CaseShifts table ↔
    table.toList.IsChain Shift.Before ∧ (∀ s ∈ table.toList, s.staysValid = true) ∧
      sources table &&& targets table = 0 ∧ ⟨65, 90, 1, 97⟩ ∈ table.toList ∧
        ∀ s ∈ table.toList, s = ⟨65, 90, 1, 97⟩ ∨ 128 ≤ s.lo :=
  ⟨fun h => ⟨h.ascending, h.valid, h.settled, h.letters, h.ascii⟩,
    fun ⟨ascending, valid, settled, letters, ascii⟩ =>
      ⟨ascending, valid, settled, letters, ascii⟩⟩

instance (table : Array Shift) : Decidable (CaseShifts table) :=
  decidable_of_iff _ caseShifts_iff.symm

namespace CaseShifts

variable {table : Array Shift}

/-- No shift covers what another one has moved. -/
theorem covers_move (h : CaseShifts table) {s t : Shift} (hs : s ∈ table.toList)
    (ht : t ∈ table.toList) {n : Nat} (hn : s.covers n = true) : t.covers (s.move n) = false := by
  rw [Bool.eq_false_iff]
  intro hcovers
  have hboth : (sources table &&& targets table).testBit (s.move n) = true := by
    rw [Nat.testBit_and, testBit_sources ht hcovers, testBit_targets hs hn]
    rfl
  rw [h.settled, Nat.zero_testBit] at hboth
  cases hboth

/-- The characters of ASCII that the table maps are the letters in upper case. -/
theorem shifted_ascii (h : CaseShifts table) {c : Char} (hc : isAscii c = true) :
    (asciiLower c).toNat = shifted table c.toNat := by
  simp only [isAscii, decide_eq_true_eq] at hc
  rcases shifted_cases table c.toNat with ⟨hnone, hstays⟩ | ⟨s, hs, hcovers, hmoves⟩
  · rw [hstays, asciiLower, if_neg]
    intro hletter
    have hcovers : (⟨65, 90, 1, 97⟩ : Shift).covers c.toNat = true :=
      Shift.covers_iff.2 ⟨isUpper_iff.1 hletter, Nat.mod_one _⟩
    rw [hnone _ h.letters] at hcovers
    cases hcovers
  · have hin := (Shift.covers_iff.1 hcovers).1
    rcases h.ascii s hs with rfl | hlo
    · rw [hmoves, asciiLower, if_pos (isUpper_iff.2 hin),
        toNat_ofNat (Or.inl (by omega)), Shift.move]
      dsimp only at hin ⊢
      omega
    · omega

/-- A table maps characters to characters. -/
theorem isValidChar_shifted (h : CaseShifts table) (c : Char) :
    (shifted table c.toNat).isValidChar := by
  rcases shifted_cases table c.toNat with ⟨-, hstays⟩ | ⟨s, hs, hcovers, hmoves⟩
  · rw [hstays]
    exact c.valid
  · rw [hmoves]
    exact s.isValidChar_move (h.valid s hs) hcovers

/-- ASCII needs no look at the table. -/
theorem toNat_mapped (h : CaseShifts table) (c : Char) :
    (if isAscii c then asciiLower c else Char.ofNat (shifted table c.toNat)).toNat =
      shifted table c.toNat := by
  split_ifs with hascii
  · exact h.shifted_ascii hascii
  · exact toNat_ofNat (h.isValidChar_shifted c)

end CaseShifts

/-! ## The simple lower case of a character -/

/-- What is checked of the case data: the shifts to lower case are those of a case mapping, they
cover the two characters that lower-casing treats apart and none of what these become, and no range
of case-ignorable characters has an ASCII letter. -/
theorem lowerShifts_checked : CaseShifts lowerShifts ∧
    (⟨931, 939, 1, 963⟩ ∈ lowerShifts.toList ∧ ⟨304, 304, 1, 105⟩ ∈ lowerShifts.toList) ∧
      (['ς', 'σ', 'i', Char.ofNat 0x307].all fun c =>
        !(sources lowerShifts).testBit c.toNat) = true ∧
        (caseIgnorableRanges.toList.all fun r =>
          r.2 < 65 ∨ (90 < r.1 ∧ r.2 < 97) ∨ 122 < r.1) = true := by
  decide +kernel

theorem caseShifts_lowerShifts : CaseShifts lowerShifts := lowerShifts_checked.1

theorem toNat_simpleLower (c : Char) : (simpleLower c).toNat = shifted lowerShifts c.toNat :=
  caseShifts_lowerShifts.toNat_mapped c

/-- A character outside ASCII is its own ASCII lower case. -/
theorem asciiLower_of_not_ascii {c : Char} (h : isAscii c = false) : asciiLower c = c := by
  simp only [isAscii, decide_eq_false_iff_not, Nat.not_lt] at h
  rw [asciiLower, if_neg]
  rw [isUpper_iff]
  omega

/-- The characters that no shift moves are their own lower case. -/
theorem simpleLower_of_forall_covers {c : Char}
    (h : ∀ s ∈ lowerShifts.toList, s.covers c.toNat = false) : simpleLower c = c := by
  rw [← Char.toNat_inj, toNat_simpleLower, shifted_of_forall_covers h]

/-- No shift moves a lower case. -/
theorem covers_simpleLower (c : Char) :
    ∀ s ∈ lowerShifts.toList, s.covers (simpleLower c).toNat = false := by
  intro s hs
  rw [toNat_simpleLower]
  rcases shifted_cases lowerShifts c.toNat with ⟨hnone, hstays⟩ | ⟨t, ht, hcovers, hmoves⟩
  · rw [hstays]
    exact hnone s hs
  · rw [hmoves]
    exact caseShifts_lowerShifts.covers_move ht hs hcovers

theorem simpleLower_simpleLower (c : Char) : simpleLower (simpleLower c) = simpleLower c :=
  simpleLower_of_forall_covers (covers_simpleLower c)

/-- The two characters that lower-casing treats apart are not in lower case. -/
theorem simpleLower_ne : ∀ c ∈ ['Σ', 'İ'], simpleLower c ≠ c := by
  have hcovered : ∀ c ∈ ['Σ', 'İ'], ∃ s ∈ lowerShifts.toList, s.covers c.toNat = true := by
    intro c hc
    rcases List.mem_cons.1 hc with rfl | hc
    · exact ⟨⟨931, 939, 1, 963⟩, lowerShifts_checked.2.1.1, by decide⟩
    · rw [List.mem_singleton.1 hc]
      exact ⟨⟨304, 304, 1, 105⟩, lowerShifts_checked.2.1.2, by decide⟩
  intro c hc heq
  obtain ⟨s, hs, hcovers⟩ := hcovered c hc
  have hlower := covers_simpleLower c s hs
  rw [heq, hcovers] at hlower
  cases hlower

/-! ## Texts in lower case -/

/-- The characters that the two exceptions give are their own lower case. -/
theorem simpleLower_special {c : Char} (h : c ∈ ['ς', 'σ', 'i', Char.ofNat 0x307]) :
    simpleLower c = c := by
  refine simpleLower_of_forall_covers fun s hs => Bool.eq_false_iff.2 fun hcovers => ?_
  have hbit := List.all_eq_true.1 lowerShifts_checked.2.2.1 c h
  rw [testBit_sources hs hcovers] at hbit
  cases hbit

/-- A text of characters that are their own lower case is its own lower case. -/
theorem lowercaseAfter_eq_self (before cs : List Char) (h : ∀ c ∈ cs, simpleLower c = c) :
    lowercaseAfter before cs = cs := by
  induction cs generalizing before with
  | nil => rfl
  | cons c rest ih =>
    have hc := h c (List.mem_cons_self ..)
    have hsigma : c ≠ 'Σ' := by
      rintro rfl
      exact simpleLower_ne 'Σ' (by simp) hc
    have hdotted : c ≠ 'İ' := by
      rintro rfl
      exact simpleLower_ne 'İ' (by simp) hc
    rw [lowercaseAfter, if_neg hsigma, if_neg hdotted, hc,
      ih _ fun d hd => h d (List.mem_cons_of_mem c hd)]
    rfl

/-- The lower case of a text has no character with another lower case. -/
theorem simpleLower_of_mem_lowercaseAfter (before cs : List Char) :
    ∀ c ∈ lowercaseAfter before cs, simpleLower c = c := by
  induction cs generalizing before with
  | nil => exact fun c hc => absurd hc List.not_mem_nil
  | cons d rest ih =>
    intro c hc
    rw [lowercaseAfter] at hc
    rcases List.mem_append.1 hc with hc | hc
    · split_ifs at hc with hsigma hfinal hdotted
      · exact simpleLower_special (by rw [List.mem_singleton.1 hc]; simp)
      · exact simpleLower_special (by rw [List.mem_singleton.1 hc]; simp)
      · exact simpleLower_special (by rcases List.mem_cons.1 hc with rfl | hc <;> simp_all)
      · rw [List.mem_singleton.1 hc]
        exact simpleLower_simpleLower d
    · exact ih _ c hc

/-- **Lower-casing is idempotent.** -/
theorem lowercase_lowercase (cs : List Char) : lowercase (lowercase cs) = lowercase cs :=
  lowercaseAfter_eq_self [] _ (simpleLower_of_mem_lowercaseAfter [] cs)

theorem lowercased_lowercased (s : String) : lowercased (lowercased s) = lowercased s := by
  rw [lowercased, lowercased, String.toList_ofList, lowercase_lowercase]

/-! ## ASCII lower case first -/

/-- An ASCII letter in upper case has its lower case 32 code points further on; every other
character is its own ASCII lower case. -/
theorem asciiLower_cases (c : Char) :
    asciiLower c = c ∨ (65 ≤ c.toNat ∧ c.toNat ≤ 90) ∧ (asciiLower c).toNat = c.toNat + 32 := by
  unfold asciiLower
  split_ifs with hupper
  · rw [isUpper_iff] at hupper
    exact Or.inr ⟨hupper, toNat_ofNat (Or.inl (by omega))⟩
  · exact Or.inl rfl

theorem inRanges_iff {table : Array (Nat × Nat)} {n : Nat} :
    inRanges table n = true ↔ ∃ r ∈ table.toList, r.1 ≤ n ∧ n ≤ r.2 := by
  rw [inRanges, ← Array.any_toList, List.any_eq_true]
  simp only [Bool.and_eq_true, decide_eq_true_eq]

/-- Both cases of the ASCII letters are cased. -/
theorem isCased_asciiLower (c : Char) : isCased (asciiLower c) = isCased c := by
  rcases asciiLower_cases c with hsame | ⟨hupper, hlower⟩
  · rw [hsame]
  · have hcased : isCased c = true :=
      inRanges_iff.2 ⟨(65, 90), by decide, hupper⟩
    rw [hcased, isCased, inRanges_iff, hlower]
    refine ⟨(97, 122), by decide, ?_⟩
    dsimp only
    omega

/-- No range of case-ignorable characters has an ASCII letter. -/
theorem caseIgnorableRanges_letters :
    ∀ r ∈ caseIgnorableRanges.toList, r.2 < 65 ∨ (90 < r.1 ∧ r.2 < 97) ∨ 122 < r.1 := fun r hr =>
  of_decide_eq_true (List.all_eq_true.1 lowerShifts_checked.2.2.2 r hr)

theorem isCaseIgnorable_asciiLower (c : Char) :
    isCaseIgnorable (asciiLower c) = isCaseIgnorable c := by
  rcases asciiLower_cases c with hsame | ⟨hupper, hlower⟩
  · rw [hsame]
  · have hletter {n : Nat} (h : (65 ≤ n ∧ n ≤ 90) ∨ (97 ≤ n ∧ n ≤ 122)) :
        inRanges caseIgnorableRanges n = false := by
      rw [Bool.eq_false_iff, ne_eq, inRanges_iff]
      rintro ⟨r, hr, hlo, hhi⟩
      have := caseIgnorableRanges_letters r hr
      omega
    rw [isCaseIgnorable, isCaseIgnorable, hletter (Or.inl hupper), hletter (Or.inr (by omega))]

theorem simpleLower_asciiLower (c : Char) : simpleLower (asciiLower c) = simpleLower c := by
  cases hascii : isAscii c with
  | false => rw [asciiLower_of_not_ascii hascii]
  | true =>
    have hsimple : simpleLower c = asciiLower c := by rw [simpleLower, if_pos hascii]
    rw [← hsimple, simpleLower_simpleLower]

theorem asciiLower_eq_iff_of_not_ascii {d : Char} (h : isAscii d = false) (c : Char) :
    asciiLower c = d ↔ c = d := by
  rcases asciiLower_cases c with hsame | ⟨hupper, hlower⟩
  · rw [hsame]
  · simp only [isAscii, decide_eq_false_iff_not, Nat.not_lt] at h
    constructor
    · rintro rfl
      omega
    · rintro rfl
      omega

theorem startsCased_map_asciiLower (cs : List Char) :
    startsCased (cs.map asciiLower) = startsCased cs := by
  have hignorable : isCaseIgnorable ∘ asciiLower = isCaseIgnorable :=
    funext fun c => (Function.comp_apply ..).trans (isCaseIgnorable_asciiLower c)
  rw [startsCased, startsCased, List.dropWhile_map, hignorable]
  cases cs.dropWhile isCaseIgnorable with
  | nil => rfl
  | cons c rest => exact isCased_asciiLower c

theorem lowercaseAfter_map_asciiLower (before cs : List Char) :
    lowercaseAfter (before.map asciiLower) (cs.map asciiLower) = lowercaseAfter before cs := by
  induction cs generalizing before with
  | nil => rfl
  | cons c rest ih =>
    have hsigma : asciiLower c = 'Σ' ↔ c = 'Σ' := asciiLower_eq_iff_of_not_ascii (by decide) c
    have hdotted : asciiLower c = 'İ' ↔ c = 'İ' := asciiLower_eq_iff_of_not_ascii (by decide) c
    have hrest := ih (c :: before)
    rw [List.map_cons] at hrest
    rw [List.map_cons, lowercaseAfter, lowercaseAfter, hrest]
    simp only [hsigma, hdotted, startsCased_map_asciiLower, simpleLower_asciiLower]

/-- **ASCII lower case before lower-casing makes no difference.** -/
theorem lowercase_map_asciiLower (cs : List Char) : lowercase (cs.map asciiLower) = lowercase cs :=
  lowercaseAfter_map_asciiLower [] cs

theorem lowercased_lowerAscii (s : String) : lowercased (lowerAscii s) = lowercased s := by
  rw [lowercased, lowerAscii, String.toList_ofList, lowercase_map_asciiLower, lowercased]

end PageGuard.Text
