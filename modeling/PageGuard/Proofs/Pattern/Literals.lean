import PageGuard.Pattern
import PageGuard.Proofs.Text.CaseFolding
import Mathlib.Data.Nat.Bitwise

/-!
# Literal patterns

A pattern without special characters describes one text up to case.  It is read as the sequence of
its characters, each with its case variants, and matches in a text exactly when the text has it
somewhere, up to case.

* `CharSet.mem_folded_single`: which characters the pattern of one character matches.
* `Regex.literal`: the pattern of a literal text.
* `Regex.testBit_run_literal`: where it ends when it starts at given places.
* `Regex.isMatch_literal_iff`: where it matches.
* `Regex.ofText?_literal`: a literal text is read as its pattern, unless that is too large.
-/

namespace PageGuard.Pattern

open Text

/-! ## One character -/

namespace CharSet

theorem variants_ascii :
    ∀ n < 128, variants (Char.ofNat n) = caseVariants (Char.ofNat n) := by
  decide +kernel

/-- The case variants of ASCII characters, written without the table, are those of the table. -/
theorem variants_eq (c : Char) : variants c = caseVariants c := by
  cases hascii : isAscii c with
  | false => rw [variants, hascii, if_neg Bool.false_ne_true]
  | true =>
    rw [isAscii, decide_eq_true_eq] at hascii
    have h := variants_ascii c.toNat hascii
    rwa [Char.ofNat_toNat] at h

theorem mem_single {c d : Char} : (single c).mem d = true ↔ d = c := by
  rw [single, mem, Bool.and_eq_true, decide_eq_true_eq, decide_eq_true_eq]
  exact ⟨fun h => Char.le_antisymm h.2 h.1, fun h => h ▸ ⟨Char.le_refl _, Char.le_refl _⟩⟩

/-- The pattern of one character matches the characters with the same folding. -/
theorem mem_folded_single {c d : Char} :
    (folded (single c)).mem d = true ↔ simpleFold c = simpleFold d := by
  rw [mem, List.any_eq_true]
  constructor
  · rintro ⟨x, hx, hmem⟩
    rw [variants_eq, mem_caseVariants_iff, mem_single.1 hmem] at hx
    exact hx
  · intro h
    refine ⟨c, ?_, mem_single.2 rfl⟩
    rwa [variants_eq, mem_caseVariants_iff]

end CharSet

/-! ## Places as bits -/

theorem testBit_maskOf (p : Char → Bool) : ∀ (text : List Char) (i : Nat),
    (maskOf p text).testBit i = text[i]?.any p
  | [], i => by rw [maskOf, Nat.zero_testBit, List.getElem?_nil, Option.any_none]
  | c :: cs, 0 => by
    rw [maskOf, Nat.testBit_zero, List.getElem?_cons_zero, Option.any_some]
    cases p c <;> simp
  | c :: cs, i + 1 => by
    have hhalf : ((p c).toNat + 2 * maskOf p cs) / 2 = maskOf p cs := by
      have := Bool.toNat_lt (p c)
      omega
    rw [maskOf, Nat.testBit_succ, hhalf, testBit_maskOf p cs i, List.getElem?_cons_succ]

theorem testBit_allPlaces {text : List Char} {i : Nat} :
    (allPlaces text).testBit i = true ↔ i ≤ text.length := by
  rw [allPlaces, Nat.one_shiftLeft, Nat.testBit_two_pow_sub_one, decide_eq_true_eq,
    Nat.lt_succ_iff]

namespace Regex

/-- A character of a set moves each place before one of them by one. -/
theorem testBit_run_set {s : CharSet} {text : List Char} {places j : Nat} :
    ((Regex.set s).run text places).testBit j = true ↔
      ∃ i, places.testBit i = true ∧ (∃ c, text[i]? = some c ∧ s.mem c = true) ∧ j = i + 1 := by
  rw [run, Nat.testBit_shiftLeft, Bool.and_eq_true, decide_eq_true_eq, Nat.testBit_and,
    Bool.and_eq_true, testBit_maskOf, Option.any_eq_true]
  constructor
  · rintro ⟨hj, hplace, c, hc, hmem⟩
    exact ⟨j - 1, hplace, ⟨c, hc, hmem⟩, by omega⟩
  · rintro ⟨i, hplace, ⟨c, hc, hmem⟩, rfl⟩
    exact ⟨Nat.le_add_left 1 i, hplace, c, hc, hmem⟩

/-! ## Matching a literal -/

/-- The pattern of a literal text. -/
def literal (cs : List Char) : Regex := cats (cs.map fun c => .set (.folded (.single c)))

theorem run_cats_cons (text : List Char) (r : Regex) (rest : List Regex) (places : Nat) :
    (cats (r :: rest)).run text places = (cats rest).run text (r.run text places) := by
  cases rest <;> rfl

/-- **Where a literal ends** is where a piece of the text ends that is the literal up to case and
begins at one of the places. -/
theorem testBit_run_literal {text : List Char} {j : Nat} (cs : List Char) : ∀ {places : Nat},
    ((literal cs).run text places).testBit j = true ↔
      ∃ i, places.testBit i = true ∧
        cs.map simpleFold <+: (text.drop i).map simpleFold ∧ j = i + cs.length := by
  induction cs with
  | nil =>
    intro places
    change places.testBit j = true ↔ _
    constructor
    · exact fun h => ⟨j, h, List.nil_prefix, rfl⟩
    · rintro ⟨i, hplace, -, rfl⟩
      exact hplace
  | cons c cs ih =>
    intro places
    rw [literal, List.map_cons, run_cats_cons, ← literal, ih]
    constructor
    · rintro ⟨_, hmoved, hprefix, rfl⟩
      obtain ⟨i, hplace, ⟨d, hd, hmem⟩, rfl⟩ := testBit_run_set.1 hmoved
      obtain ⟨hi, rfl⟩ := List.getElem?_eq_some_iff.1 hd
      refine ⟨i, hplace, ?_, by rw [List.length_cons, Nat.add_right_comm, Nat.add_assoc]⟩
      rw [List.map_cons, List.drop_eq_getElem_cons hi, List.map_cons, List.cons_prefix_cons]
      exact ⟨CharSet.mem_folded_single.1 hmem, hprefix⟩
    · rintro ⟨i, hplace, hprefix, rfl⟩
      have hi : i < text.length := by
        by_contra hge
        rw [List.drop_eq_nil_of_le (Nat.le_of_not_lt hge), List.map_nil, List.prefix_nil] at hprefix
        cases hprefix
      rw [List.map_cons, List.drop_eq_getElem_cons hi, List.map_cons,
        List.cons_prefix_cons] at hprefix
      refine ⟨i + 1, testBit_run_set.2 ⟨i, hplace, ⟨_, List.getElem?_eq_getElem hi,
        CharSet.mem_folded_single.2 hprefix.1⟩, rfl⟩, hprefix.2, ?_⟩
      rw [List.length_cons, Nat.add_right_comm, Nat.add_assoc]

/-- **A literal matches in the texts that have it, up to case.** -/
theorem isMatch_literal_iff {cs text : List Char} : (literal cs).isMatch text = true ↔
    cs.map simpleFold <:+: text.map simpleFold := by
  rw [isMatch, bne_iff_ne]
  constructor
  · intro hne
    obtain ⟨j, hj⟩ := Nat.exists_testBit_of_ne_zero hne
    obtain ⟨i, -, hprefix, -⟩ := (testBit_run_literal cs).1 hj
    rw [List.map_drop] at hprefix
    exact hprefix.isInfix.trans (List.drop_suffix i _).isInfix
  · rintro ⟨before, after, heq⟩ hzero
    have hlength : before.length ≤ text.length := by
      have hmap : (text.map simpleFold).length = text.length := List.length_map simpleFold
      rw [← hmap, ← heq, List.append_assoc, List.length_append]
      exact Nat.le_add_right _ _
    have hprefix : cs.map simpleFold <+: (text.drop before.length).map simpleFold := by
      rw [List.map_drop, ← heq, List.append_assoc, List.drop_left]
      exact List.prefix_append ..
    have hbit := (testBit_run_literal cs).2 ⟨_, testBit_allPlaces.2 hlength, hprefix, rfl⟩
    rw [hzero, Nat.zero_testBit] at hbit
    cases hbit

/-! ## Reading a literal -/

end Regex

/-- A character with a meaning of its own outside brackets. -/
def isSpecial (c : Char) : Bool := "\\.+*?()|[\x7b^$".toList.contains c

/-- The part of a literal character. -/
def literalPart (c : Char) : Part := ⟨some (.set (.folded (.single c))), 0⟩

/-- The reader takes a character that is not special for itself. -/
theorem readBody_cons {c : Char} (h : isSpecial c = false) (cs : List Char)
    (names : List (List Char)) (n : Nat) (branches : List (Regex × Nat)) (parts : List Part) :
    (readBody (n + 1) branches parts).run ⟨c :: cs, { ignoreCase := true }, names⟩ =
      (readBody n branches (literalPart c :: parts)).run ⟨cs, { ignoreCase := true }, names⟩ := by
  simp only [isSpecial, String.reduceToList, List.contains_cons, List.contains_nil,
    Bool.or_eq_false_iff, beq_eq_false_iff_ne, ne_eq] at h
  simp [readBody, Reader.layout, Reader.flags, Reader.peek?, Reader.skip, h, atomPart, literalSet,
    literalPart]

/-- The reader ends at the end of the text. -/
theorem readBody_nil (names : List (List Char)) (n : Nat) (branches : List (Regex × Nat))
    (parts : List Part) :
    (readBody (n + 1) branches parts).run ⟨[], { ignoreCase := true }, names⟩ =
      some (choice (sequence parts :: branches), ⟨[], { ignoreCase := true }, names⟩) := by
  simp [readBody, Reader.layout, Reader.flags, Reader.peek?]

/-- **A literal text is read to its end**, one part for each character. -/
theorem readBody_literal {cs : List Char} (names : List (List Char))
    (branches : List (Regex × Nat)) :
    ∀ (n : Nat) (parts : List Part), (∀ c ∈ cs, isSpecial c = false) → cs.length < n →
      (readBody n branches parts).run ⟨cs, { ignoreCase := true }, names⟩ =
        some (choice (sequence ((cs.map literalPart).reverse ++ parts) :: branches),
          ⟨[], { ignoreCase := true }, names⟩) := by
  induction cs with
  | nil =>
    intro n parts _ hn
    obtain ⟨n, rfl⟩ := Nat.exists_eq_add_one.2 hn
    exact readBody_nil names n branches parts
  | cons c cs ih =>
    intro n parts h hn
    obtain ⟨n, rfl⟩ := Nat.exists_eq_add_one.2 (Nat.zero_lt_of_lt hn)
    rw [List.forall_mem_cons] at h
    rw [readBody_cons h.1, ih n _ h.2 (Nat.lt_of_succ_lt_succ hn), List.map_cons, List.reverse_cons,
      List.append_assoc, List.singleton_append]

/-- Parts without nesting make one sequence. -/
theorem sequence_flat {parts : List Part} (h : ∀ p ∈ parts, p.depth = 0) :
    ∃ depth ≤ 1, sequence parts =
      (.cats (parts.reverse.map fun p => p.regex.getD .empty), depth) := by
  have hmax : ∀ parts : List Part, (∀ p ∈ parts, p.depth = 0) →
      (parts.map Part.depth).foldl max 0 = 0 := by
    intro parts h
    induction parts with
    | nil => rfl
    | cons p parts ih =>
      rw [List.forall_mem_cons] at h
      rw [List.map_cons, List.foldl_cons, h.1]
      exact ih h.2
  match parts, h with
  | [], _ => exact ⟨0, Nat.zero_le 1, rfl⟩
  | [p], h => exact ⟨p.depth, by rw [h p (List.mem_singleton_self p)]; exact Nat.zero_le 1, rfl⟩
  | p :: q :: rest, h => exact ⟨_, by rw [hmax _ h], rfl⟩

/-! ## Size -/

theorem size_folded_single_le (c : Char) : (CharSet.folded (.single c)).size ≤ 176 := by
  rw [CharSet.size, CharSet.single, CharSet.size, if_pos rfl]
  split_ifs <;> decide

theorem Regex.size_literal_le (cs : List Char) : (literal cs).size ≤ 176 * cs.length + 32 := by
  induction cs with
  | nil => exact Nat.le_refl 32
  | cons c cs ih =>
    have hcats : ∀ (r : Regex) (rest : List Regex),
        (cats (r :: rest)).size ≤ r.size + (cats rest).size := by
      intro r rest
      cases rest with
      | nil => exact Nat.le_add_right _ _
      | cons => exact Nat.le_refl _
    have hc := size_folded_single_le c
    have hle := hcats (.set (.folded (.single c))) (cs.map fun c => .set (.folded (.single c)))
    rw [literal] at ih ⊢
    rw [size] at hle
    rw [List.map_cons, List.length_cons]
    omega

/-- **A literal text is read as its pattern**, unless that is too large. -/
theorem Regex.ofText?_literal {cs : List Char} (h : ∀ c ∈ cs, isSpecial c = false) :
    ofText? cs = if (literal cs).size ≤ maxSize then some (literal cs) else none := by
  have hflat : ∀ p ∈ (cs.map literalPart).reverse, p.depth = 0 := by
    intro p hp
    obtain ⟨c, -, rfl⟩ := List.mem_map.1 (List.mem_reverse.1 hp)
    rfl
  have hparts : (cs.map literalPart).reverse.reverse.map (fun p => p.regex.getD .empty) =
      cs.map fun c => .set (.folded (.single c)) := by
    rw [List.reverse_reverse, List.map_map]
    rfl
  obtain ⟨depth, hdepth, hsequence⟩ := sequence_flat hflat
  have hread := readBody_literal [] [] (2 * cs.length + 2) [] h (by omega)
  rw [List.append_nil, hsequence, hparts] at hread
  have hnesting : depth ≤ maxNesting := Nat.le_trans hdepth (by decide)
  simp only [ofText?, hread]
  change (if ([] : List Char).isEmpty ∧ depth ≤ maxNesting ∧ (literal cs).size ≤ maxSize then
    some (literal cs) else none) = _
  simp only [List.isEmpty_nil, hnesting, true_and]

end PageGuard.Pattern
