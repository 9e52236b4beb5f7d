import PageGuard.Json.Reader
import PageGuard.Json.Writer
import Mathlib.Tactic.SplitIfs
import Mathlib.Data.List.TakeWhile
import Mathlib.Tactic.IntervalCases

/-!
# Numbers in JSON text

A number ends where the text cannot go on with it, so what follows it does not count for reading it.

* `readNumberText?_append`: a number is read alike at the end of a text and before what stops it.
* `Number.Whole.readsBack`: a whole number of 64 bits is read back from its text.
* `Number.whole_of_number?`: every number that is read is a whole one of 64 bits or a binary64 value.
-/

namespace PageGuard.Json

open Text

/-! ## Where a number ends -/

/-- Whether a character may go on with a number. -/
def continuesNumber (c : Char) : Bool := isAsciiDigit c || ['.', 'e', 'E', '+', '-'].contains c

/-- A text that does not go on with a number before it. -/
def StopsNumber (rest : List Char) : Prop := ∀ c cs, rest = c :: cs → continuesNumber c = false

theorem stopsNumber_nil : StopsNumber [] := by
  rintro c cs h
  cases h

theorem stopsNumber_cons {c : Char} (h : continuesNumber c = false) (cs : List Char) :
    StopsNumber (c :: cs) := by
  rintro d ds heq
  rwa [← (List.cons.inj heq).1]

theorem StopsNumber.head {c : Char} {cs : List Char} (h : StopsNumber (c :: cs)) :
    isAsciiDigit c = false ∧ c ≠ '.' ∧ c ≠ 'e' ∧ c ≠ 'E' ∧ c ≠ '+' ∧ c ≠ '-' := by
  have hc := h c cs rfl
  simpa [continuesNumber, and_assoc] using hc

variable {rest : List Char}

theorem takeDigits_append (hrest : StopsNumber rest) :
    ∀ cs : List Char, takeDigits (cs ++ rest) = ((takeDigits cs).1, (takeDigits cs).2 ++ rest)
  | [] => by
    cases rest with
    | nil => rfl
    | cons c rest => simp [takeDigits, hrest.head.1]
  | c :: cs => by
    have ih := takeDigits_append hrest cs
    simp only [takeDigits, Prod.mk.injEq] at ih
    simp only [takeDigits, List.cons_append, List.takeWhile_cons, List.dropWhile_cons, ih.1, ih.2]
    split_ifs <;> rfl

theorem readFraction?_point (cs : List Char) : readFraction? ('.' :: cs) =
    if (takeDigits cs).1 = [] then none else some (some (takeDigits cs).1, (takeDigits cs).2) := by
  rw [readFraction?]
  split
  · rename_i h
    rw [h, if_pos rfl]
  · rename_i ds r hne h
    rw [h, if_neg hne]

theorem readFraction?_of_ne {c : Char} (h : c ≠ '.') (cs : List Char) :
    readFraction? (c :: cs) = some (none, c :: cs) := by
  unfold readFraction?
  split
  · rename_i heq
    exact absurd (List.cons.inj heq).1 h
  · rfl

theorem readFraction?_append (hrest : StopsNumber rest) (cs : List Char) :
    readFraction? (cs ++ rest) = (readFraction? cs).map fun p => (p.1, p.2 ++ rest) := by
  cases cs with
  | nil =>
    cases rest with
    | nil => rfl
    | cons c rest => exact readFraction?_of_ne hrest.head.2.1 rest
  | cons c cs =>
    by_cases hc : c = '.'
    · subst hc
      rw [List.cons_append, readFraction?_point, readFraction?_point, takeDigits_append hrest]
      split_ifs <;> rfl
    · rw [List.cons_append, readFraction?_of_ne hc, readFraction?_of_ne hc]
      rfl

theorem readExponentDigits?_append (hrest : StopsNumber rest) (negative : Bool) (cs : List Char) :
    readExponentDigits? negative (cs ++ rest) =
      (readExponentDigits? negative cs).map fun p => (p.1, p.2 ++ rest) := by
  rw [readExponentDigits?, readExponentDigits?, takeDigits_append hrest]
  obtain ⟨ds, r⟩ := takeDigits cs
  cases ds <;> rfl

/-- The exponent after its mark. -/
theorem readExponent?_mark {c : Char} (hc : c = 'e' ∨ c = 'E') (d : Char) (cs : List Char) :
    readExponent? (c :: d :: cs) =
      if d = '+' then readExponentDigits? false cs
      else if d = '-' then readExponentDigits? true cs
      else readExponentDigits? false (d :: cs) := by
  rw [readExponent?.eq_def]
  dsimp only
  rw [if_pos hc]
  split_ifs with hplus hminus
  · subst hplus
    rfl
  · subst hminus
    rfl
  · split
    · rename_i heq
      exact absurd (List.cons.inj heq).1 hplus
    · rename_i heq
      exact absurd (List.cons.inj heq).1 hminus
    · rfl

theorem readExponent?_append (hrest : StopsNumber rest) (cs : List Char) :
    readExponent? (cs ++ rest) = (readExponent? cs).map fun p => (p.1, p.2 ++ rest) := by
  cases cs with
  | nil =>
    cases rest with
    | nil => rfl
    | cons c rest =>
      have hc := hrest.head
      exact if_neg (not_or.2 ⟨hc.2.2.1, hc.2.2.2.1⟩)
  | cons c cs =>
    by_cases hc : c = 'e' ∨ c = 'E'
    · cases cs with
      | cons d cs =>
        rw [List.cons_append, List.cons_append, readExponent?_mark hc, readExponent?_mark hc]
        split_ifs
        · exact readExponentDigits?_append hrest false cs
        · exact readExponentDigits?_append hrest true cs
        · exact readExponentDigits?_append hrest false (d :: cs)
      | nil =>
        have hnone : readExponent? [c] = none := if_pos hc
        rw [hnone]
        cases rest with
        | nil => exact hnone
        | cons d rest =>
          obtain ⟨hdigit, -, -, -, hplus, hminus⟩ := hrest.head
          rw [List.singleton_append, readExponent?_mark hc, if_neg hplus, if_neg hminus,
            readExponentDigits?, takeDigits, List.takeWhile_cons_of_neg (by simp [hdigit])]
          rfl
    · have hnone (ds : List Char) : readExponent? (c :: ds) = some (none, c :: ds) := if_neg hc
      rw [List.cons_append, hnone, hnone]
      rfl

theorem readUnsigned?_append (hrest : StopsNumber rest) (negative : Bool) (cs : List Char) :
    readUnsigned? negative (cs ++ rest) =
      (readUnsigned? negative cs).map fun p => (p.1, p.2 ++ rest) := by
  rw [readUnsigned?, readUnsigned?, takeDigits_append hrest]
  obtain ⟨ds, r⟩ := takeDigits cs
  cases ds with
  | nil => rfl
  | cons d ds =>
    dsimp only
    split_ifs
    · rfl
    · rw [readFraction?_append hrest]
      cases readFraction? r with
      | none => rfl
      | some p =>
        obtain ⟨fraction, r⟩ := p
        simp only [Option.map_some, Option.bind_eq_bind, Option.bind_some]
        rw [readExponent?_append hrest]
        cases readExponent? r <;> rfl

theorem readNumberText?_of_ne {c : Char} (h : c ≠ '-') (cs : List Char) :
    readNumberText? (c :: cs) = readUnsigned? false (c :: cs) := by
  unfold readNumberText?
  split
  · rename_i heq
    exact absurd (List.cons.inj heq).1 h
  · rfl

/-- **What follows a number does not count for reading it.** -/
theorem readNumberText?_append (hrest : StopsNumber rest) (cs : List Char) :
    readNumberText? (cs ++ rest) = (readNumberText? cs).map fun p => (p.1, p.2 ++ rest) := by
  cases cs with
  | nil =>
    cases rest with
    | nil => rfl
    | cons c rest =>
      rw [List.nil_append, readNumberText?_of_ne hrest.head.2.2.2.2.2]
      exact readUnsigned?_append hrest false []
  | cons c cs =>
    by_cases hc : c = '-'
    · subst hc
      exact readUnsigned?_append hrest true cs
    · rw [List.cons_append, readNumberText?_of_ne hc, readNumberText?_of_ne hc]
      exact readUnsigned?_append hrest false (c :: cs)

/-- Whether a character may open a number. -/
def opensNumber (c : Char) : Bool := isAsciiDigit c || c == '-'

/-- A number begins with a digit or a minus sign. -/
theorem exists_opensNumber {cs : List Char} {p : NumberText × List Char}
    (h : readNumberText? cs = some p) : ∃ c ds, cs = c :: ds ∧ opensNumber c = true := by
  cases cs with
  | nil => cases h
  | cons c cs =>
    refine ⟨c, cs, rfl, ?_⟩
    by_contra hopens
    rw [opensNumber, Bool.or_eq_true, beq_iff_eq, not_or] at hopens
    rw [readNumberText?_of_ne hopens.2, readUnsigned?, takeDigits,
      List.takeWhile_cons_of_neg hopens.1] at h
    cases h

/-! ## Whole numbers -/

/-- A number that is read back from its text. -/
def Number.ReadsBack (n : Number) : Prop :=
  ∃ t, readNumberText? n.render = some (t, []) ∧ t.number? = some n

/-- A whole number of 64 bits, with or without a sign. -/
def Number.Whole : Number → Prop
  | .int n => -2 ^ 63 ≤ n ∧ n < 2 ^ 64
  | .double _ => False

theorem isAsciiDigit_of_mem_toDigits {n : Nat} {c : Char} (h : c ∈ Nat.toDigits 10 n) :
    isAsciiDigit c = true := by
  have hdigit := Nat.isDigit_of_mem_toDigits (by decide) (by decide) h
  simp only [Char.isDigit, Bool.and_eq_true, decide_eq_true_eq] at hdigit
  rw [isAsciiDigit, Bool.and_eq_true, decide_eq_true_eq, decide_eq_true_eq]
  exact hdigit

theorem takeDigits_toDigits (n : Nat) :
    takeDigits (Nat.toDigits 10 n) = (Nat.toDigits 10 n, []) := by
  have hdigits : ∀ c ∈ Nat.toDigits 10 n, isAsciiDigit c = true :=
    fun c hc => isAsciiDigit_of_mem_toDigits hc
  rw [takeDigits, List.takeWhile_eq_self_iff.2 hdigits, List.dropWhile_eq_nil_iff.2 hdigits]

/-- A number of more than one digit does not begin with a zero. -/
theorem head?_toDigits_ne_zero {n : Nat} (h : 0 < n) : (Nat.toDigits 10 n).head? ≠ some '0' := by
  induction n using Nat.strongRecOn with
  | ind n ih =>
    by_cases hn : n < 10
    · rw [Nat.toDigits_of_lt_base hn]
      interval_cases n <;> decide
    · have hdiv : 0 < n / 10 := Nat.div_pos (by omega) (by decide)
      have hhead := ih (n / 10) (by omega) hdiv
      rw [Nat.toDigits_of_base_le (by decide) (by omega)]
      cases hdigits : Nat.toDigits 10 (n / 10) with
      | nil => exact absurd hdigits Nat.toDigits_ne_nil
      | cons d ds => rwa [hdigits] at hhead

/-- The digits of a number are read as its whole part. -/
theorem readUnsigned?_toDigits (negative : Bool) (n : Nat) :
    readUnsigned? negative (Nat.toDigits 10 n) =
      some (⟨negative, Nat.toDigits 10 n, none, none⟩, []) := by
  have hzero : ¬ ((Nat.toDigits 10 n).head? = some '0' ∧ (Nat.toDigits 10 n).length > 1) := by
    rintro ⟨hhead, hlength⟩
    cases n with
    | zero => exact absurd hlength (by decide)
    | succ n => exact head?_toDigits_ne_zero (Nat.succ_pos n) hhead
  rw [readUnsigned?, takeDigits_toDigits]
  split
  · rename_i heq
    exact absurd (Prod.mk.inj heq).1 Nat.toDigits_ne_nil
  · rename_i ds r _ heq
    obtain ⟨rfl, rfl⟩ := Prod.mk.inj heq
    rw [if_neg hzero]
    rfl

/-- **A whole number of 64 bits is read back from its text.** -/
theorem Number.Whole.readsBack {n : Number} (h : n.Whole) : n.ReadsBack := by
  cases n with
  | double d => exact absurd h id
  | int n =>
    obtain ⟨hlow, hhigh⟩ := h
    have hvalue : decimalValue (Nat.toDigits 10 n.natAbs) = n.natAbs :=
      Nat.ofDigitChars_toDigits (by decide) (by decide)
    by_cases hn : n < 0
    · refine ⟨⟨true, Nat.toDigits 10 n.natAbs, none, none⟩, ?_, ?_⟩
      · rw [render, if_pos hn]
        exact readUnsigned?_toDigits true n.natAbs
      · have hrange : 0 < n.natAbs ∧ 2 * n.natAbs ≤ UInt64.size := by
          have hsize : UInt64.size = 2 ^ 64 := rfl
          omega
        simp only [NumberText.number?, hvalue, Option.isNone_none, hrange, and_self, if_true]
        congr 2
        omega
    · refine ⟨⟨false, Nat.toDigits 10 n.natAbs, none, none⟩, ?_, ?_⟩
      · have hread := readUnsigned?_toDigits false n.natAbs
        rw [render, if_neg hn, List.nil_append]
        cases hdigits : Nat.toDigits 10 n.natAbs with
        | nil => exact absurd hdigits Nat.toDigits_ne_nil
        | cons d ds =>
          have hdigit : isAsciiDigit d = true :=
            isAsciiDigit_of_mem_toDigits (hdigits ▸ List.mem_cons_self ..)
          rw [readNumberText?_of_ne (by rintro rfl; exact absurd hdigit (by decide)), ← hdigits]
          exact hread
      · have hrange : n.natAbs < UInt64.size := by
          have hsize : UInt64.size = 2 ^ 64 := rfl
          omega
        simp only [NumberText.number?, hvalue, Option.isNone_none, hrange, and_self, if_true,
          Bool.false_eq_true, if_false]
        congr 2
        omega

/-- **Every number that is read is whole and of 64 bits, or a binary64 value.** -/
theorem Number.whole_of_number? {t : NumberText} {n : Number} (h : t.number? = some n) :
    n.Whole ∨ ∃ d, n = .double d := by
  have hsize : UInt64.size = 2 ^ 64 := rfl
  unfold NumberText.number? at h
  dsimp only at h
  split_ifs at h with hnegative hwhole hwhole
  · obtain rfl := Option.some.inj h
    exact Or.inl ⟨by omega, by omega⟩
  · obtain ⟨d, -, rfl⟩ := Option.map_eq_some_iff.1 h
    exact Or.inr ⟨d, rfl⟩
  · obtain rfl := Option.some.inj h
    exact Or.inl ⟨by omega, by omega⟩
  · obtain ⟨d, -, rfl⟩ := Option.map_eq_some_iff.1 h
    exact Or.inr ⟨d, rfl⟩

end PageGuard.Json
