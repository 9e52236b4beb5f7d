import PageGuard.Text.Blank
import Mathlib.Data.List.Basic
import Mathlib.Data.List.TakeWhile

/-!
# Texts without blanks at their ends

* `trimStart_append`, `trimEnd_append`: only the outer end of a text loses blanks, when a character
  that is none stands between.
* `trim_trim`, `trim_trimStart`: what is trimmed has nothing left to trim.
* `exists_trimStart_append`, `exists_append_trimEnd`: what is taken away is blank.
* `trimStart_append_of_ne`, `trimEnd_append_of_ne`: the blanks of a text are those of its first or
  its last part that is not blank.
* `trim_eq_self`: a text has nothing to trim when its ends are those of a trimmed text.
* `isInfix_trim`: a piece that begins and ends with no blank is left after trimming.
-/

namespace PageGuard.Text

/-- A text that begins with a character that is no blank keeps it. -/
theorem trimStart_cons {c : Char} (h : isBlank c = false) (cs : List Char) :
    trimStart (c :: cs) = c :: cs := by
  rw [trimStart, List.dropWhile_cons_of_neg]
  rw [h]
  exact Bool.false_ne_true

/-- The beginning of a text loses its blanks up to a character that is none. -/
theorem trimStart_append {c : Char} (h : isBlank c = false) (cs : List Char) :
    ∀ before : List Char, trimStart (before ++ c :: cs) = trimStart before ++ c :: cs
  | [] => trimStart_cons h cs
  | b :: before => by
    cases hb : isBlank b with
    | true =>
      rw [List.cons_append, trimStart, trimStart, List.dropWhile_cons_of_pos hb,
        List.dropWhile_cons_of_pos hb]
      exact trimStart_append h cs before
    | false => rw [List.cons_append, trimStart_cons hb, trimStart_cons hb, List.cons_append]

/-- The end of a text loses its blanks down to a character that is none. -/
theorem trimEnd_append {c : Char} (h : isBlank c = false) (before cs : List Char) :
    trimEnd (before ++ c :: cs) = before ++ c :: trimEnd cs := by
  have hreverse := trimStart_append h before.reverse cs.reverse
  rw [trimEnd, List.reverse_append, List.reverse_cons, List.append_assoc, List.singleton_append]
  rw [trimStart, trimStart] at hreverse
  rw [hreverse, List.reverse_append, List.reverse_cons, List.reverse_reverse, List.append_assoc,
    List.singleton_append]
  rfl

/-- What is left after the leading blanks is nothing or begins with a character that is none. -/
theorem trimStart_eq_nil_or_cons :
    ∀ cs : List Char, trimStart cs = [] ∨ ∃ c rest, trimStart cs = c :: rest ∧ isBlank c = false
  | [] => Or.inl rfl
  | c :: cs => by
    cases hc : isBlank c with
    | true =>
      rw [trimStart, List.dropWhile_cons_of_pos hc]
      exact trimStart_eq_nil_or_cons cs
    | false => exact Or.inr ⟨c, cs, trimStart_cons hc cs, hc⟩

theorem trimStart_trimStart (cs : List Char) : trimStart (trimStart cs) = trimStart cs := by
  rcases trimStart_eq_nil_or_cons cs with h | ⟨c, rest, h, hc⟩
  · rw [h]
    rfl
  · rw [h, trimStart_cons hc]

theorem trimEnd_trimEnd (cs : List Char) : trimEnd (trimEnd cs) = trimEnd cs := by
  have h := trimStart_trimStart cs.reverse
  rw [trimStart, trimStart] at h
  rw [trimEnd, trimEnd, List.reverse_reverse, h]

/-- Trimming twice is trimming once. -/
theorem trim_trim (cs : List Char) : trim (trim cs) = trim cs := by
  rw [trim, trim]
  rcases trimStart_eq_nil_or_cons cs with h | ⟨c, rest, h, hc⟩
  · rw [h]
    rfl
  · have hend : trimEnd (c :: rest) = c :: trimEnd rest := trimEnd_append hc [] rest
    rw [h, hend, trimStart_cons hc, ← hend, trimEnd_trimEnd]

theorem trim_trimStart (cs : List Char) : trim (trimStart cs) = trim cs := by
  rw [trim, trim, trimStart_trimStart]

theorem mem_of_mem_trimStart {cs : List Char} {c : Char} (h : c ∈ trimStart cs) : c ∈ cs :=
  (List.dropWhile_sublist _).subset h

/-- The leading blanks and the text after them. -/
theorem exists_trimStart_append (cs : List Char) :
    ∃ w, cs = w ++ trimStart cs ∧ ∀ c ∈ w, isBlank c = true :=
  ⟨cs.takeWhile isBlank, List.takeWhile_append_dropWhile.symm, fun _ hc =>
    List.mem_takeWhile_imp hc⟩

/-- The text before the trailing blanks and these blanks. -/
theorem exists_append_trimEnd (cs : List Char) :
    ∃ w, cs = trimEnd cs ++ w ∧ ∀ c ∈ w, isBlank c = true := by
  obtain ⟨w, hw, hblank⟩ := exists_trimStart_append cs.reverse
  refine ⟨w.reverse, ?_, fun c hc => hblank c (List.mem_reverse.1 hc)⟩
  rw [trimEnd, ← List.reverse_append, ← trimStart, ← hw, List.reverse_reverse]

theorem trimEnd_isPrefix (cs : List Char) : trimEnd cs <+: cs := by
  obtain ⟨w, hw, -⟩ := exists_append_trimEnd cs
  exact ⟨w, hw.symm⟩

theorem trimStart_eq_nil_iff {cs : List Char} :
    trimStart cs = [] ↔ ∀ c ∈ cs, isBlank c = true :=
  List.dropWhile_eq_nil_iff

theorem trimEnd_eq_nil_iff {cs : List Char} : trimEnd cs = [] ↔ trimStart cs = [] := by
  rw [trimEnd, List.reverse_eq_nil_iff, trimStart_eq_nil_iff, List.dropWhile_eq_nil_iff]
  simp only [List.mem_reverse]

theorem trimStart_append_of_blank {x : List Char} (hx : trimStart x = []) (y : List Char) :
    trimStart (x ++ y) = trimStart y :=
  List.dropWhile_append_of_pos (trimStart_eq_nil_iff.1 hx)

theorem trimStart_append_of_ne {x : List Char} (hx : trimStart x ≠ []) (y : List Char) :
    trimStart (x ++ y) = trimStart x ++ y := by
  obtain ⟨w, hw, hblank⟩ := exists_trimStart_append x
  rcases trimStart_eq_nil_or_cons x with h | ⟨c, rest, h, hc⟩
  · exact absurd h hx
  · rw [h] at hw ⊢
    have hw' : trimStart w = [] := trimStart_eq_nil_iff.2 hblank
    rw [hw, List.append_assoc, trimStart_append_of_blank hw', List.cons_append, trimStart_cons hc]

theorem trimEnd_append_of_blank {y : List Char} (hy : trimStart y = []) (x : List Char) :
    trimEnd (x ++ y) = trimEnd x := by
  rw [trimEnd, List.reverse_append, List.dropWhile_append_of_pos fun c hc =>
    trimStart_eq_nil_iff.1 hy c (List.mem_reverse.1 hc)]
  rfl

theorem trimEnd_append_of_ne {y : List Char} (hy : trimStart y ≠ []) (x : List Char) :
    trimEnd (x ++ y) = x ++ trimEnd y := by
  have hreverse : trimStart y.reverse ≠ [] := fun h =>
    hy (trimEnd_eq_nil_iff.1 (List.reverse_eq_nil_iff.2 h))
  rw [trimEnd, List.reverse_append, ← trimStart, trimStart_append_of_ne hreverse,
    List.reverse_append, List.reverse_reverse]
  rfl

/-- A trimmed text is empty when the text is blank. -/
theorem trim_eq_nil_iff {cs : List Char} : trim cs = [] ↔ trimStart cs = [] := by
  rw [trim, trimEnd_eq_nil_iff, trimStart_trimStart]

/-- A trimmed text begins where the leading blanks end. -/
theorem head?_trim (cs : List Char) : (trim cs).head? = (trimStart cs).head? := by
  rw [trim]
  rcases trimStart_eq_nil_or_cons cs with h | ⟨c, rest, h, hc⟩
  · rw [h]
    rfl
  · have hend : trimEnd (c :: rest) = c :: trimEnd rest := trimEnd_append hc [] rest
    rw [h, hend, List.head?_cons, List.head?_cons]

/-- A trimmed text ends where the trailing blanks begin. -/
theorem getLast?_trim (cs : List Char) : (trim cs).getLast? = (trimEnd cs).getLast? := by
  by_cases h : trimStart cs = []
  · rw [trimEnd_eq_nil_iff.2 h, trim_eq_nil_iff.2 h]
  · obtain ⟨w, hw, -⟩ := exists_trimStart_append cs
    have hne : trimEnd (trimStart cs) ≠ [] := mt trim_eq_nil_iff.1 h
    have htrim : trimEnd cs = w ++ trimEnd (trimStart cs) :=
      (congrArg trimEnd hw).trans (trimEnd_append_of_ne (by rwa [trimStart_trimStart]) w)
    rw [htrim, List.getLast?_append_of_ne_nil _ hne]
    rfl

/-- A text that begins like one without leading blanks has none. -/
theorem trimStart_eq_self {r cs : List Char} (h : r.head? = (trimStart cs).head?) :
    trimStart r = r := by
  rcases trimStart_eq_nil_or_cons cs with hcs | ⟨c, rest, hcs, hc⟩
  · rw [hcs, List.head?_nil, List.head?_eq_none_iff] at h
    rw [h]
    rfl
  · rw [hcs, List.head?_cons] at h
    obtain ⟨rest', rfl⟩ := List.head?_eq_some_iff.1 h
    exact trimStart_cons hc rest'

/-- A text has nothing to trim when its ends are those of a trimmed text. -/
theorem trim_eq_self {r cs : List Char} (hhead : r.head? = (trimStart cs).head?)
    (hlast : r.getLast? = (trimEnd cs).getLast?) : trim r = r := by
  rw [← List.head?_reverse, trimEnd, List.getLast?_reverse, ← trimStart] at hlast
  rw [trim, trimStart_eq_self hhead, trimEnd, ← trimStart, trimStart_eq_self hlast,
    List.reverse_reverse]

/-- A trimmed text is a piece of the text. -/
theorem trim_isInfix (cs : List Char) : trim cs <:+: cs := by
  obtain ⟨w, hw, -⟩ := exists_trimStart_append cs
  obtain ⟨w', hw', -⟩ := exists_append_trimEnd (trimStart cs)
  exact ⟨w, w', by rw [List.append_assoc, trim, ← hw', ← hw]⟩

/-- Trimming adds no characters. -/
theorem mem_of_mem_trim {cs : List Char} {c : Char} (h : c ∈ trim cs) : c ∈ cs := by
  rw [trim, trimEnd, List.mem_reverse] at h
  exact mem_of_mem_trimStart (List.mem_reverse.1 ((List.dropWhile_sublist _).subset h))

/-- A piece of a text that begins with no blank is left after the leading blanks. -/
theorem isInfix_trimStart {piece cs : List Char} (hpiece : trimStart piece = piece)
    (h : piece <:+: cs) : piece <:+: trimStart cs := by
  obtain ⟨x, y, rfl⟩ := h
  by_cases hnil : piece = []
  · rw [hnil]
    exact List.nil_infix
  rw [← hpiece] at hnil
  by_cases hx : trimStart x = []
  · rw [List.append_assoc, trimStart_append_of_blank hx, trimStart_append_of_ne hnil, hpiece]
    exact (List.prefix_append ..).isInfix
  · rw [List.append_assoc, trimStart_append_of_ne hx, ← List.append_assoc]
    exact List.infix_append ..

/-- A piece of a text that begins and ends with no blank is left after trimming. -/
theorem isInfix_trim {piece cs : List Char} (hpiece : trim piece = piece) (h : piece <:+: cs) :
    piece <:+: trim cs := by
  have hstart : trimStart piece = piece := by
    rw [← hpiece]
    exact trimStart_eq_self (head?_trim piece)
  have hend : trimStart piece.reverse = piece.reverse := by
    rw [← List.reverse_inj, List.reverse_reverse]
    change trimEnd piece = piece
    rw [← hpiece, trim, trimEnd_trimEnd]
  rw [trim, trimEnd, ← List.reverse_infix, List.reverse_reverse]
  exact isInfix_trimStart hend (List.reverse_infix.2 (isInfix_trimStart hstart h))

end PageGuard.Text
