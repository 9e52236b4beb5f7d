import PageGuard.Proofs.Text.Trimming
import PageGuard.Selector.Reader
import Mathlib.Data.List.Basic

/-!
# What the reader of selectors passes over

Between operators the reader takes plain text piece by piece: one character, or one with the
string, the bracket or the parentheses that it opens.  `Meets` follows it over such pieces and says
to which places it comes.

* `readStages_pass`: one piece of plain text.
* `Meets.readStages`: what the reader passes over goes into its segment.
* `readStages_not`: a `:not(…)` at the end of a text is a stage of its own.
* `readSelector_kept`, `readSelector_cut`: so is that of a whole selector, unless the reader passes
  over it; `meets_of_readSelector`: there is no third way to read it.
-/

namespace PageGuard

open Text

/-! ## Pieces of plain text -/

/-- How many characters after `c` the reader takes with it as plain text; none for a parenthesis
without partner. -/
def plainLength? (before : Option Char) (c : Char) (rest : List Char) : Option Nat :=
  if c = '\\' then some 1
  else if isQuote c then some ((stringLength? before c rest).getD 0)
  else if c = '[' then some (bracketLength c rest)
  else if c = '(' then closingParen? 0 c rest
  else if c = ')' then none
  else some 0

/-- An operator opens with a colon. -/
theorem operatorAt?_eq_none {c : Char} (h : c ≠ ':') (rest : List Char) :
    operatorAt? (c :: rest) = none := by
  rw [operatorAt?, List.find?_eq_none]
  intro m hm
  have hcolon : m.1.toList.head? = some ':' := by
    revert m
    decide
  obtain ⟨ds, hds⟩ := List.head?_eq_some_iff.1 hcolon
  rw [hds, List.isPrefixOf, Bool.and_eq_true, beq_iff_eq]
  exact fun hpre => h hpre.1.symm

/-- **Where no operator opens the reader takes one piece of plain text.** -/
theorem readStages_pass {c : Char} {rest : List Char} (hop : operatorAt? (c :: rest) = none)
    (offset : Nat) (before : Option Char) (segment : List Char) (stages : List Stage) :
    readStages offset before segment stages (c :: rest) =
      match plainLength? before c rest with
      | some n =>
        readStages (offset + byteLength (c :: rest.take n)) (some ((rest.take n).getLast?.getD c))
          ((rest.take n).reverse ++ c :: segment) stages (rest.drop n)
      | none => .error (.unbalanced offset) := by
  rw [readStages]
  simp only [hop]
  rw [plainLength?]
  split_ifs with hslash hquote hbracket hcolon hopen hclose
  · rfl
  · rfl
  · rfl
  · exact absurd (hcolon.symm.trans hopen) (by decide)
  · exact absurd (hcolon.symm.trans hclose) (by decide)
  · rfl
  · rfl
  · rfl
  · rfl

/-- The places to which the reader comes from the start of a text over pieces of plain text. -/
inductive Meets : Option Char → List Char → List Char → Prop where
  | here (before : Option Char) (cs : List Char) : Meets before cs cs
  | pass {before : Option Char} {c : Char} {rest target : List Char} {n : Nat}
    (plain : operatorAt? (c :: rest) = none) (length : plainLength? before c rest = some n)
    (more : Meets (some ((rest.take n).getLast?.getD c)) (rest.drop n) target) :
    Meets before (c :: rest) target

/-- **What the reader passes over goes into its segment.** -/
theorem Meets.readStages {before : Option Char} {cs stop : List Char} (h : Meets before cs stop)
    (stages : List Stage) : ∀ (offset : Nat) (segment : List Char),
      ∃ pre offset' before', cs = pre ++ stop ∧
        PageGuard.readStages offset before segment stages cs =
          PageGuard.readStages offset' before' (pre.reverse ++ segment) stages stop := by
  induction h with
  | here before cs => exact fun offset _ => ⟨[], offset, before, rfl, rfl⟩
  | @pass before c rest target n plain length more ih =>
    intro offset segment
    obtain ⟨pre, offset', before', hpre, hread⟩ := ih
      (offset + byteLength (c :: rest.take n)) ((rest.take n).reverse ++ c :: segment)
    refine ⟨c :: (rest.take n ++ pre), offset', before', ?_, ?_⟩
    · have htext : rest = rest.take n ++ (pre ++ target) := by
        rw [← hpre, List.take_append_drop]
      rw [List.cons_append, List.append_assoc, ← htext]
    · rw [readStages_pass plain, length]
      dsimp only
      rw [hread]
      simp

/-- A text that is read to its end has no operator to which the reader comes, or one. -/
theorem meets_of_readStages {stop : List Char} {stages result : List Stage} :
    ∀ {cs : List Char} {offset : Nat} {before : Option Char} {segment : List Char},
      (∀ target, Meets before cs target → operatorAt? target ≠ none → target = stop) →
      readStages offset before segment stages cs = .ok result →
      Meets before cs [] ∨ Meets before cs stop := by
  intro cs
  induction hlength : cs.length using Nat.strongRecOn generalizing cs with
  | ind length ih =>
    intro offset before segment hmeets hread
    cases cs with
    | nil => exact Or.inl (Meets.here before [])
    | cons c rest =>
      by_cases hop : operatorAt? (c :: rest) = none
      · rw [readStages_pass hop] at hread
        cases hn : plainLength? before c rest with
        | none =>
          rw [hn] at hread
          cases hread
        | some n =>
          rw [hn] at hread
          dsimp only at hread
          have hshort : (rest.drop n).length < length := by
            rw [List.length_drop, ← hlength, List.length_cons]
            omega
          rcases ih _ hshort rfl (fun target h => hmeets target (Meets.pass hop hn h)) hread with
            hend | hstop
          · exact Or.inl (Meets.pass hop hn hend)
          · exact Or.inr (Meets.pass hop hn hstop)
      · right
        rw [← hmeets _ (Meets.here before _) hop]
        exact Meets.here before _

/-! ## Ordinary text -/

/-- A character that opens nothing: no escape, quote, bracket, parenthesis, operator or pattern. -/
def isOrdinary (c : Char) : Bool :=
  !(c == '\\' || isQuote c || c == '[' || c == '(' || c == ')' || c == ':' || c == '/')

theorem isOrdinary_iff {c : Char} : isOrdinary c = true ↔
    c ≠ '\\' ∧ isQuote c = false ∧ c ≠ '[' ∧ c ≠ '(' ∧ c ≠ ')' ∧ c ≠ ':' ∧ c ≠ '/' := by
  simp [isOrdinary, and_assoc]

/-- An ordinary character is a piece of plain text. -/
theorem plainLength?_ordinary {c : Char} (h : isOrdinary c = true) (before : Option Char)
    (rest : List Char) : plainLength? before c rest = some 0 := by
  obtain ⟨hslash, hquote, hbracket, hopen, hclose, -, -⟩ := isOrdinary_iff.1 h
  rw [plainLength?, if_neg hslash, hquote, if_neg Bool.false_ne_true, if_neg hbracket,
    if_neg hopen, if_neg hclose]

theorem operatorAt?_ordinary {c : Char} (h : isOrdinary c = true) (rest : List Char) :
    operatorAt? (c :: rest) = none :=
  operatorAt?_eq_none (isOrdinary_iff.1 h).2.2.2.2.2.1 rest

/-- The reader passes over ordinary text. -/
theorem Meets.ordinary (stop : List Char) : ∀ {pre : List Char},
    (∀ c ∈ pre, isOrdinary c = true) → ∀ before : Option Char, Meets before (pre ++ stop) stop
  | [], _, before => Meets.here before stop
  | c :: pre, h, before => by
    have hc := h c (List.mem_cons_self ..)
    refine Meets.pass (operatorAt?_ordinary hc _) (plainLength?_ordinary hc before _) ?_
    rw [List.drop_zero]
    exact Meets.ordinary stop (fun d hd => h d (List.mem_cons_of_mem c hd)) _

/-- Over ordinary text the reader comes to no operator. -/
theorem Meets.of_ordinary {stop target : List Char} (hop : operatorAt? target ≠ none) :
    ∀ {pre : List Char} {before : Option Char}, (∀ c ∈ pre, isOrdinary c = true) →
      Meets before (pre ++ stop) target → ∃ before', Meets before' stop target
  | [], before, _, h => ⟨before, h⟩
  | c :: pre, before, hpre, h => by
    have hc := hpre c (List.mem_cons_self ..)
    rw [List.cons_append] at h
    cases h with
    | here => exact absurd (operatorAt?_ordinary hc _) hop
    | pass plain length more =>
      rw [plainLength?_ordinary hc, Option.some.injEq] at length
      subst length
      rw [List.drop_zero] at more
      exact Meets.of_ordinary hop (fun d hd => hpre d (List.mem_cons_of_mem c hd)) more

/-- A parenthesis closes after ordinary text. -/
theorem closingParen?_ordinary : ∀ {arg : List Char} (before : Char),
    (∀ c ∈ arg, isOrdinary c = true) →
      closingParen? 0 before (arg ++ [')']) = some (arg.length + 1)
  | [], before, _ => by
    rw [List.nil_append, closingParen?.eq_def]
    simp [isQuote]
  | c :: arg, before, h => by
    have hc := h c (List.mem_cons_self ..)
    obtain ⟨hslash, hquote, -, hopen, hclose, -, -⟩ := isOrdinary_iff.1 hc
    rw [List.cons_append, closingParen?.eq_def]
    dsimp only
    rw [if_neg hslash, hquote, if_neg Bool.false_ne_true, if_neg hopen, if_neg hclose,
      closingParen?_ordinary c fun d hd => h d (List.mem_cons_of_mem c hd), Option.map_some,
      List.length_cons]

theorem operatorText?_ordinary {arg : List Char} (h : ∀ c ∈ arg, isOrdinary c = true) :
    operatorText? (arg ++ [')']) = some ⟨arg, []⟩ := by
  rw [operatorText?, closingParen?_ordinary '(' h, Option.map_some, Nat.add_sub_cancel,
    List.take_left, List.drop_eq_nil_of_le (by simp)]

/-! ## Patterns -/

/-- A text between two slashes. -/
theorem eq_of_regexBody?_eq_some {cs body : List Char} (h : regexBody? cs = some body) :
    cs = '/' :: (body ++ ['/']) := by
  unfold regexBody? at h
  split at h
  · split_ifs at h with hlast
    obtain rfl := Option.some.inj h
    obtain ⟨init, rfl⟩ := List.getLast?_eq_some_iff.1 hlast
    rw [List.dropLast_concat]
  · cases h

/-- A pattern keeps its text. -/
theorem source_of_readPattern {cs : List Char} {p : Pattern} (h : readPattern cs = .ok p) :
    p.source = .ofList cs := by
  unfold readPattern at h
  split at h
  · rename_i q hq
    obtain rfl := Except.ok.inj h
    unfold Pattern.ofSource? at hq
    split at hq
    · rw [← Option.some.inj hq]
    · cases hq
  · cases h

/-! ## A native `:not(…)` at the end -/

/-- The text of a native `:not(…)`. -/
def notText (arg : List Char) : List Char := ":not(".toList ++ (arg ++ [')'])

theorem operatorAt?_not (rest : List Char) :
    operatorAt? (":not(".toList ++ rest) = some (":not(", .not) := by
  simp [operatorAt?, operators]

/-- **A `:not(…)` at the end of a text is a stage of its own**, after one for the CSS before it. -/
theorem readStages_not {arg : List Char} (harg : operatorText? (arg ++ [')']) = some ⟨arg, []⟩)
    (offset : Nat) (before : Option Char) (segment : List Char) (stages : List Stage) :
    readStages offset before segment stages (notText arg) =
      if (trim arg).isEmpty then .error (.emptyArgument "not")
      else (readSelector (trim arg)).map fun inner =>
        addPlain segment.reverse stages ++ [.not inner] := by
  have hop := operatorAt?_not (arg ++ [')'])
  have hcons : ":not(".toList ++ (arg ++ [')']) = ':' :: ("not(".toList ++ (arg ++ [')'])) := by
    simp
  have hdrop : ("not(".toList ++ (arg ++ [')'])).drop (":not(".length - 1) = arg ++ [')'] := rfl
  rw [hcons] at hop
  rw [notText, hcons, readStages, if_neg (by decide), if_neg (by decide), if_neg (by decide),
    if_pos rfl]
  simp only [hop]
  split
  · rename_i hnone
    rw [hdrop, harg] at hnone
    cases hnone
  · rename_i t ht
    rw [hdrop, harg] at ht
    obtain rfl := Option.some.inj ht
    -- nothing follows, so the `:not(…)` does not stay in the CSS
    rw [if_neg fun hfollow => hfollow.2.1 rfl]
    split_ifs
    · rfl
    · cases readSelector (trim arg) with
      | error e => rfl
      | ok inner =>
        dsimp only [pure_bind, Except.pure, pure, bind, Except.bind, Except.map]
        rw [readStages]
        rfl

/-! ## Whole selectors -/

/-- A text over which the reader passes and that is no pattern is plain CSS. -/
theorem readSelector_plain {cs : List Char} (hend : Meets none (trim cs) [])
    (hregex : regexBody? (trim cs) = none) (hne : trim cs ≠ []) :
    readSelector cs = .ok [.css (.ofList (trim cs))] := by
  have hempty : (trim cs).isEmpty = false := List.isEmpty_eq_false_iff.2 hne
  obtain ⟨pre, offset, before, hpre, hread⟩ := hend.readStages [] 0 []
  rw [List.append_nil] at hpre
  rw [← hpre, List.append_nil, readStages, List.reverse_reverse, addPlain, trim_trim] at hread
  simp only [hempty, Bool.false_eq_true, if_false, List.nil_append] at hread
  rw [readSelector]
  simp only [hempty, Bool.false_eq_true, if_false, hregex, hread]
  rfl

theorem regexBody?_append_paren (cs : List Char) : regexBody? (cs ++ [')']) = none := by
  unfold regexBody?
  split
  · rename_i rest heq
    have hlast : rest.getLast? ≠ some '/' := by
      intro hrest
      have hend := congrArg List.getLast? heq
      rw [List.getLast?_concat, List.getLast?_cons, hrest] at hend
      exact absurd hend (by decide)
    rw [if_neg hlast]
  · rfl

/-- What ends in a `:not(…)` is no pattern. -/
theorem regexBody?_append_notText (cs arg : List Char) : regexBody? (cs ++ notText arg) = none := by
  rw [notText, ← List.append_assoc, ← List.append_assoc]
  exact regexBody?_append_paren _

theorem append_notText_ne_nil (cs arg : List Char) : cs ++ notText arg ≠ [] :=
  List.append_ne_nil_of_right_ne_nil _ (List.cons_ne_nil _ _)

/-- Blanks go from the beginning of a text that ends in a `:not(…)`. -/
theorem trim_append_notText (cs arg : List Char) :
    trim (cs ++ notText arg) = trimStart cs ++ notText arg := by
  have hstart : trimStart (cs ++ notText arg) = trimStart cs ++ notText arg :=
    trimStart_append rfl ("not(".toList ++ (arg ++ [')'])) cs
  have hend := trimEnd_append (show isBlank ')' = false from rfl)
    (trimStart cs ++ (":not(".toList ++ arg)) []
  rw [trim, hstart, notText, ← List.append_assoc, ← List.append_assoc,
    List.append_assoc (trimStart cs), hend]
  rfl

/-- A selector that ends in a `:not(…)` is no pattern and not empty. -/
theorem readSelector_notText (cs arg : List Char) : readSelector (cs ++ notText arg) =
    (readStages 0 none [] [] (trimStart cs ++ notText arg)).bind fun stages =>
      if stages.isEmpty then .error .empty else .ok stages := by
  have hne : (trimStart cs ++ notText arg).isEmpty = false :=
    List.isEmpty_eq_false_iff.2 (append_notText_ne_nil _ _)
  have hbody := regexBody?_append_notText (trimStart cs) arg
  rw [readSelector]
  simp only [trim_append_notText, hbody, hne, Bool.false_eq_true, if_false]
  rfl

/-- A selector whose `:not(…)` the reader passes over is plain CSS. -/
theorem readSelector_kept {cs arg : List Char}
    (hend : Meets none (trimStart cs ++ notText arg) []) :
    readSelector (cs ++ notText arg) = .ok [.css (.ofList (trim (cs ++ notText arg)))] := by
  have hne := append_notText_ne_nil (trimStart cs) arg
  have hbody := regexBody?_append_notText (trimStart cs) arg
  rw [← trim_append_notText] at hend hbody hne
  exact readSelector_plain hend hbody hne

/-- **A selector with a `:not(…)` at its end to which the reader comes** is the CSS before it and
the negation of its argument. -/
theorem readSelector_cut {cs arg : List Char}
    (harg : operatorText? (arg ++ [')']) = some ⟨arg, []⟩) (hplain : Meets none (trim arg) [])
    (hregex : regexBody? (trim arg) = none) (hne : trim arg ≠ [])
    (hstop : Meets none (trimStart cs ++ notText arg) (notText arg)) :
    readSelector (cs ++ notText arg) =
      .ok (addPlain cs [] ++ [.not [.css (.ofList (trim arg))]]) := by
  have hinner : readSelector (trim arg) = .ok [.css (.ofList (trim arg))] := by
    rw [← trim_trim] at hplain hregex hne
    rw [readSelector_plain hplain hregex hne, trim_trim]
  have hempty : (trim arg).isEmpty = false := List.isEmpty_eq_false_iff.2 hne
  obtain ⟨pre, offset, before, hpre, hread⟩ := hstop.readStages [] 0 []
  obtain rfl := List.append_cancel_right hpre
  rw [readStages_not harg, hempty, if_neg Bool.false_ne_true, hinner, List.append_nil,
    List.reverse_reverse] at hread
  rw [readSelector_notText, hread, Except.map, Except.bind, addPlain, trim_trimStart, ← addPlain]
  rw [if_neg]
  simp

/-- A selector with one `:not(…)`, at its end, is read only when the reader passes over it or comes
to it. -/
theorem meets_of_readSelector {cs arg : List Char} {result : List Stage}
    (honly : ∀ target, Meets none (trimStart cs ++ notText arg) target →
      operatorAt? target ≠ none → target = notText arg)
    (h : readSelector (cs ++ notText arg) = .ok result) :
    Meets none (trimStart cs ++ notText arg) [] ∨
      Meets none (trimStart cs ++ notText arg) (notText arg) := by
  rw [readSelector_notText] at h
  cases hread : readStages 0 none [] [] (trimStart cs ++ notText arg) with
  | error e =>
    rw [hread] at h
    cases h
  | ok stages => exact meets_of_readStages honly hread

/-! ## Ordinary selectors -/

theorem regexBody?_ordinary {cs : List Char} (h : ∀ c ∈ cs, isOrdinary c = true) :
    regexBody? cs = none := by
  unfold regexBody?
  split
  · exact absurd rfl (isOrdinary_iff.1 (h '/' (List.mem_cons_self ..))).2.2.2.2.2.2
  · rfl

theorem Meets.ordinary_nil {cs : List Char} (h : ∀ c ∈ cs, isOrdinary c = true) :
    Meets none cs [] := by
  have hend := Meets.ordinary [] h none
  rwa [List.append_nil] at hend

/-- **Ordinary text is one stage of plain CSS.** -/
theorem readSelector_ordinary {cs : List Char} (h : ∀ c ∈ cs, isOrdinary c = true)
    (hne : trim cs ≠ []) : readSelector cs = .ok [.css (.ofList (trim cs))] := by
  have htrim : ∀ c ∈ trim cs, isOrdinary c = true := fun c hc => h c (mem_of_mem_trim hc)
  exact readSelector_plain (Meets.ordinary_nil htrim) (regexBody?_ordinary htrim) hne

end PageGuard
