import PageGuard.Proofs.XPath.Grammar
import Mathlib.Data.List.Forall2

/-!
# What the reader of location paths takes

A path is written as a sequence of steps: slashes, a name test, and texts between brackets.  A text
has at most one such cut, so whether it is a path is a question about the texts between its
brackets.

* `StepText`, `Path.Written`: the text of a path, for any way to write predicates.
* `Cuts.unique`: a text is cut into steps in one way.
* `ofText_eq_ok_iff`: the reader gives the path that a text writes by the rules of the reader.
* `ofText_of_documented`: what the documentation allows is read as what it writes.
* `ofText_documented_iff`: when the reader takes exactly what the documentation allows.
-/

namespace PageGuard.XPath

open Text

/-! ## The text of a path -/

/-- A name test between blanks. -/
inductive TestWritten (cs : List Char) : Option String → Prop where
  | any (star : trim cs = ['*']) : TestWritten cs none
  | name (plain : isPlainName (trim cs) = true) :
    TestWritten cs (some (.ofList ((trim cs).map asciiLower)))

/-- The parts of the text of a step: its axis, its name test, and what stands between its
brackets. -/
structure StepText where
  axis : Axis
  test : List Char
  bodies : List (List Char)

/-- The slashes of an axis. -/
def Axis.slashes : Axis → List Char
  | .child => ['/']
  | .descendant => ['/', '/']

/-- Texts, each between brackets. -/
def bracketed (bodies : List (List Char)) : List Char :=
  bodies.flatMap fun body => '[' :: (body ++ [']'])

/-- The text of a step. -/
def StepText.text (t : StepText) : List Char := t.axis.slashes ++ (t.test ++ bracketed t.bodies)

/-- The text of a step writes a step when its parts do. -/
structure StepText.Writes (form : List Char → Predicate → Prop) (t : StepText) (s : Step) :
    Prop where
  axis : t.axis = s.axis
  test : TestWritten t.test s.name
  predicates : List.Forall₂ form t.bodies s.predicates

/-- A text writes a path when it consists of the texts of its steps; `form` says how predicates are
written between brackets. -/
def Path.Written (form : List Char → Predicate → Prop) (cs : List Char) (path : Path) : Prop :=
  ∃ cut : List StepText, cs = cut.flatMap StepText.text ∧
    List.Forall₂ (StepText.Writes form) cut path

/-- A documented predicate between blanks. -/
def Documented (isName : List Char → Bool) (body : List Char) (p : Predicate) : Prop :=
  p.Written (documented isName) (trim body)

/-- A predicate by the rules of the reader between blanks, whose end the reader finds. -/
def Taken (body : List Char) (p : Predicate) : Prop :=
  Closed body ∧ p.Written taken (trim body)

/-- A text is cut into steps with name tests and closed texts between brackets. -/
structure Cuts (cut : List StepText) (cs : List Char) : Prop where
  text : cs = cut.flatMap StepText.text
  tests : ∀ t ∈ cut, ∃ name, TestWritten t.test name
  closed : ∀ t ∈ cut, ∀ body ∈ t.bodies, Closed body

/-! ## Reading one step -/

variable {cs rest : List Char}

theorem readTest_eq_ok_iff {name : Option String} :
    readTest (trim cs) = .ok name ↔ TestWritten cs name := by
  rw [readTest]
  constructor
  · intro h
    split_ifs at h with hempty hstar hall
    · rw [← Except.ok.inj h]
      exact .any hstar
    · rw [← Except.ok.inj h]
      refine .name ?_
      rw [isPlainName, hall, Bool.and_true, Bool.not_eq_true', List.isEmpty_eq_false_iff]
      exact hempty
  · intro h
    cases h with
    | any star => rw [star, if_neg (by decide), if_pos rfl]
    | name plain =>
      have hne : trim cs ≠ [] := (freeOfDelimiters_isPlainName _ plain).1
      rw [isPlainName, Bool.and_eq_true] at plain
      have hstar : trim cs ≠ ['*'] := by
        intro hstar
        rw [hstar] at plain
        exact absurd plain.2 (by decide)
      rw [if_neg hne, if_neg hstar, if_pos plain.2]

/-- A name test is not empty, and nothing in it ends it. -/
theorem TestWritten.spec {name : Option String} (h : TestWritten cs name) :
    cs ≠ [] ∧ ∀ c ∈ cs, endsName c = false := by
  have htrim : trim cs ≠ [] ∧ ∀ c ∈ trim cs, endsName c = false := by
    cases h with
    | any star =>
      rw [star]
      exact ⟨List.cons_ne_nil _ _, List.forall_mem_singleton.2 (by decide)⟩
    | name plain =>
      refine ⟨(freeOfDelimiters_isPlainName _ plain).1, fun c hc => ?_⟩
      rw [isPlainName, Bool.and_eq_true, List.all_eq_true] at plain
      have hname := plain.2 c hc
      rw [endsName, Bool.or_eq_false_iff, beq_eq_false_iff_ne, beq_eq_false_iff_ne]
      constructor <;> rintro rfl <;> exact absurd hname (by decide)
  have hblank {c : Char} (hc : isBlank c = true) : endsName c = false := by
    rw [endsName, Bool.or_eq_false_iff, beq_eq_false_iff_ne, beq_eq_false_iff_ne]
    constructor <;> rintro rfl <;> exact absurd hc (by decide)
  constructor
  · rintro rfl
    exact htrim.1 rfl
  · obtain ⟨w, w', hcs, hw, hw'⟩ := exists_blank_trim_blank cs
    intro c hc
    rw [hcs, List.mem_append, List.mem_append] at hc
    rcases hc with hc | hc | hc
    · exact hblank (hw c hc)
    · exact htrim.2 c hc
    · exact hblank (hw' c hc)

/-- What may follow a step: nothing, or the slash of the next one. -/
def EndsStep (rest : List Char) : Prop := rest = [] ∨ ∃ more, rest = '/' :: more

/-- Every step starts with a slash. -/
theorem StepText.exists_text_eq (t : StepText) : ∃ more, t.text = '/' :: more := by
  rw [StepText.text]
  cases t.axis
  · exact ⟨_, rfl⟩
  · exact ⟨_, rfl⟩

theorem StepText.text_append_ne_nil (t : StepText) (rest : List Char) : t.text ++ rest ≠ [] := by
  obtain ⟨more, hmore⟩ := t.exists_text_eq
  rw [hmore]
  exact List.cons_ne_nil _ _

theorem endsStep_flatMap_text (cut : List StepText) : EndsStep (cut.flatMap StepText.text) := by
  cases cut with
  | nil => exact Or.inl rfl
  | cons t cut =>
    obtain ⟨more, hmore⟩ := t.exists_text_eq
    right
    rw [List.flatMap_cons, hmore]
    exact ⟨_, rfl⟩

/-- The axis of a step is read from its slashes. -/
theorem readAxis_text {t : StepText} {name : Option String} (htest : TestWritten t.test name) :
    readAxis (t.text ++ rest) = .ok (t.axis, t.test ++ (bracketed t.bodies ++ rest)) := by
  rw [StepText.text, List.append_assoc, List.append_assoc]
  cases t.axis with
  | descendant => rfl
  | child =>
    -- The test does not start with a slash, so there is no second one.
    obtain ⟨hne, hends⟩ := htest.spec
    obtain ⟨c, test, hcons⟩ := List.exists_cons_of_ne_nil hne
    rw [hcons]
    have hc : c ≠ '/' := by
      rintro rfl
      exact absurd (hends '/' (by rw [hcons]; exact List.mem_cons_self ..)) (by decide)
    show readAxis ('/' :: c :: _) = _
    unfold readAxis
    split
    · rename_i heq
      exact absurd (List.cons.inj (List.cons.inj heq).2).1 hc
    · rename_i heq
      rw [← (List.cons.inj heq).2]
      rfl
    · rename_i hslash
      exact absurd rfl (hslash _)

/-- The name test of a step goes up to its first bracket or to the next step. -/
theorem span_test {test : List Char} {name : Option String} (htest : TestWritten test name)
    (hrest : EndsStep rest) (bodies : List (List Char)) :
    (test ++ (bracketed bodies ++ rest)).takeWhile (fun c => !endsName c) = test ∧
      (test ++ (bracketed bodies ++ rest)).dropWhile (fun c => !endsName c) =
        bracketed bodies ++ rest := by
  have hall : ∀ c ∈ test, (!endsName c) = true := fun c hc => by rw [htest.spec.2 c hc]; rfl
  refine span_iff.2 ⟨rfl, hall, fun c hc => ?_⟩
  cases bodies with
  | nil =>
    rcases hrest with rfl | ⟨more, rfl⟩
    · cases hc
    · obtain rfl := Option.some.inj hc
      rfl
  | cons body bodies =>
    obtain rfl := Option.some.inj hc
    rfl

theorem bracketed_cons_append (body : List Char) (bodies : List (List Char)) :
    bracketed (body :: bodies) ++ rest = '[' :: (body ++ ']' :: (bracketed bodies ++ rest)) := by
  simp [bracketed]

/-- What is read between brackets is written there. -/
theorem written_of_readPredicates {n : Nat} {ps : List Predicate} :
    ∀ {cs : List Char}, readPredicates n cs = .ok (ps, rest) →
      ∃ bodies, cs = bracketed bodies ++ rest ∧ List.Forall₂ Taken bodies ps := by
  induction n generalizing ps with
  | zero =>
    intro cs h
    obtain ⟨rfl, rfl⟩ := Prod.mk.inj (Except.ok.inj h)
    exact ⟨[], rfl, .nil⟩
  | succ n ih =>
    intro cs h
    unfold readPredicates at h
    split at h
    · rename_i inner
      cases hsplit : splitPredicate? none inner with
      | none =>
        rw [hsplit] at h
        cases h
      | some parts =>
        obtain ⟨body, after⟩ := parts
        simp only [hsplit, bind, bind_eq_ok_iff] at h
        obtain ⟨p, hp, ⟨qs, last⟩, hqs, h⟩ := h
        obtain ⟨rfl, rfl⟩ := Prod.mk.inj (Except.ok.inj h)
        obtain ⟨rfl, hclosed⟩ := splitPredicate?_eq_some_iff.1 hsplit
        obtain ⟨bodies, rfl, hbodies⟩ := ih hqs
        refine ⟨body :: bodies, (bracketed_cons_append body bodies).symm, ?_⟩
        exact .cons ⟨hclosed, readPredicate_eq_ok_iff.1 hp⟩ hbodies
    · obtain ⟨rfl, rfl⟩ := Prod.mk.inj (Except.ok.inj h)
      exact ⟨[], rfl, .nil⟩

/-- What is written between brackets is read, up to what is no bracket. -/
theorem readPredicates_bracketed {bodies : List (List Char)} {ps : List Predicate}
    (h : List.Forall₂ Taken bodies ps) (hrest : EndsStep rest) :
    ∀ {n : Nat}, (bracketed bodies ++ rest).length ≤ n →
      readPredicates n (bracketed bodies ++ rest) = .ok (ps, rest) := by
  induction h with
  | nil =>
    intro n _
    rcases hrest with rfl | ⟨more, rfl⟩
    · cases n <;> rfl
    · cases n <;> rfl
  | @cons body p bodies ps hbody _ ih =>
    intro n hn
    rw [bracketed_cons_append] at hn ⊢
    simp only [List.length_cons, List.length_append] at hn ih
    obtain ⟨n, rfl⟩ := Nat.exists_eq_add_of_le' (Nat.le_trans (Nat.succ_le_succ (Nat.zero_le _)) hn)
    rw [readPredicates]
    simp only [hbody.1.splitPredicate?]
    rw [readPredicate_eq_ok_iff.2 hbody.2]
    exact bind_eq_ok_iff.2 ⟨p, rfl, bind_eq_ok_iff.2 ⟨(ps, rest), ih (by omega), rfl⟩⟩

/-- What is read as a step is the text of one. -/
theorem written_of_readStep {s : Step} (h : readStep cs = .ok (s, rest)) :
    ∃ t : StepText, cs = t.text ++ rest ∧ t.Writes Taken s := by
  unfold readStep at h
  simp only [bind, bind_eq_ok_iff] at h
  obtain ⟨⟨axis, after⟩, haxis, name, htest, ⟨ps, last⟩, hps, h⟩ := h
  obtain ⟨rfl, rfl⟩ := Prod.mk.inj (Except.ok.inj h)
  obtain ⟨bodies, hbodies, hwritten⟩ := written_of_readPredicates hps
  have hcs : cs = axis.slashes ++ after := by
    unfold readAxis at haxis
    split at haxis
    · obtain ⟨rfl, rfl⟩ := Prod.mk.inj (Except.ok.inj haxis)
      rfl
    · obtain ⟨rfl, rfl⟩ := Prod.mk.inj (Except.ok.inj haxis)
      rfl
    · cases haxis
  refine ⟨⟨axis, after.takeWhile fun c => !endsName c, bodies⟩, ?_, rfl, ?_, hwritten⟩
  · rw [StepText.text, List.append_assoc, List.append_assoc, ← hbodies,
      List.takeWhile_append_dropWhile, hcs]
  · exact readTest_eq_ok_iff.1 htest

/-- The text of a step is read. -/
theorem readStep_text {t : StepText} {s : Step} (h : t.Writes Taken s) (hrest : EndsStep rest) :
    readStep (t.text ++ rest) = .ok (s, rest) := by
  obtain ⟨htake, hdrop⟩ := span_test h.test hrest t.bodies
  unfold readStep
  refine bind_eq_ok_iff.2 ⟨_, readAxis_text h.test, ?_⟩
  simp only [htake, hdrop]
  refine bind_eq_ok_iff.2 ⟨_, readTest_eq_ok_iff.2 h.test, ?_⟩
  refine bind_eq_ok_iff.2 ⟨_, readPredicates_bracketed h.predicates hrest (Nat.le_refl _), ?_⟩
  rw [h.axis]
  rfl

/-! ## Reading a path -/

theorem StepText.length_text_pos (t : StepText) : 0 < t.text.length := by
  obtain ⟨more, hmore⟩ := t.exists_text_eq
  rw [hmore]
  exact Nat.succ_pos _

/-- What is read as steps is the text of some, if the reader does not stop before the end. -/
theorem written_of_readSteps {n : Nat} {path : Path} :
    ∀ {cs : List Char}, cs.length ≤ n → readSteps n cs = .ok path → path.Written Taken cs := by
  induction n generalizing path with
  | zero =>
    intro cs hn h
    obtain rfl := List.length_eq_zero_iff.1 (Nat.le_zero.1 hn)
    rw [← Except.ok.inj h]
    exact ⟨[], rfl, .nil⟩
  | succ n ih =>
    intro cs hn h
    rw [readSteps] at h
    split_ifs at h with hempty
    · rw [← Except.ok.inj h, List.isEmpty_iff.1 hempty]
      exact ⟨[], rfl, .nil⟩
    · simp only [bind, bind_eq_ok_iff] at h
      obtain ⟨⟨s, rest⟩, hstep, steps, hsteps, h⟩ := h
      obtain ⟨t, rfl, ht⟩ := written_of_readStep hstep
      have hpos := t.length_text_pos
      rw [List.length_append] at hn
      have hlength : rest.length ≤ n := by omega
      obtain ⟨cut, rfl, hcut⟩ := ih hlength hsteps
      rw [← Except.ok.inj h]
      exact ⟨t :: cut, rfl, .cons ht hcut⟩

/-- The texts of steps are read. -/
theorem readSteps_flatMap_text {cut : List StepText} {path : Path}
    (h : List.Forall₂ (StepText.Writes Taken) cut path) :
    ∀ {n : Nat}, (cut.flatMap StepText.text).length ≤ n →
      readSteps n (cut.flatMap StepText.text) = .ok path := by
  induction h with
  | nil =>
    intro n _
    cases n <;> rfl
  | @cons t s cut path ht _ ih =>
    intro n hn
    have hpos := t.length_text_pos
    rw [List.flatMap_cons, List.length_append] at hn
    obtain ⟨n, rfl⟩ := Nat.exists_eq_add_of_le' (show 1 ≤ n by omega)
    have hne : ¬ (t.text ++ cut.flatMap StepText.text).isEmpty = true := by
      rw [List.isEmpty_iff]
      exact t.text_append_ne_nil _
    rw [List.flatMap_cons, readSteps, if_neg hne]
    refine bind_eq_ok_iff.2 ⟨_, readStep_text ht (endsStep_flatMap_text cut), ?_⟩
    exact bind_eq_ok_iff.2 ⟨path, ih (by omega), rfl⟩

/-- **The reader gives the path that a text writes by its rules**, if it has steps. -/
theorem ofText_eq_ok_iff {text : String} {path : Path} :
    Path.ofText text = .ok path ↔ path ≠ [] ∧ path.Written Taken (trim text.toList) := by
  rw [Path.ofText]
  constructor
  · intro h
    split_ifs at h with hslash
    have hwritten := written_of_readSteps (Nat.le_refl _) h
    refine ⟨?_, hwritten⟩
    rintro rfl
    obtain ⟨cut, hcut, ⟨⟩⟩ := hwritten
    rw [hcut] at hslash
    cases hslash
  · rintro ⟨hne, cut, hcut, hwrites⟩
    have hslash : (trim text.toList).head? = some '/' := by
      cases hwrites with
      | nil => exact absurd rfl hne
      | @cons t s cut path _ _ =>
        obtain ⟨more, hmore⟩ := t.exists_text_eq
        rw [hcut, List.flatMap_cons, hmore]
        rfl
    rw [if_pos hslash, hcut]
    exact readSteps_flatMap_text hwrites (Nat.le_refl _)

/-! ## One cut -/

/-- Texts between brackets are told apart by where they end. -/
theorem bracketed_append_inj {bodies : List (List Char)} (hrest : EndsStep rest) :
    ∀ {bodies' : List (List Char)} {rest' : List Char}, EndsStep rest' →
      (∀ body ∈ bodies, Closed body) → (∀ body ∈ bodies', Closed body) →
      bracketed bodies ++ rest = bracketed bodies' ++ rest' → bodies = bodies' ∧ rest = rest' := by
  have hbracket {r : List Char} (hr : EndsStep r) {cs : List Char} : r ≠ '[' :: cs := by
    rintro rfl
    rcases hr with h | ⟨more, h⟩
    · cases h
    · exact absurd (List.cons.inj h).1 (by decide)
  induction bodies with
  | nil =>
    intro bodies' rest' _ _ _ h
    cases bodies' with
    | nil => exact ⟨rfl, h⟩
    | cons body' bodies' =>
      rw [bracketed_cons_append] at h
      exact absurd h (hbracket hrest)
  | cons body bodies ih =>
    intro bodies' rest' hrest' hclosed hclosed' h
    cases bodies' with
    | nil =>
      rw [bracketed_cons_append] at h
      exact absurd h.symm (hbracket hrest')
    | cons body' bodies' =>
      rw [List.forall_mem_cons] at hclosed hclosed'
      rw [bracketed_cons_append, bracketed_cons_append] at h
      -- Both closed texts are what the reader finds before the first end of a predicate.
      have hsplit := hclosed.1.splitPredicate? (bracketed bodies ++ rest)
      rw [(List.cons.inj h).2, hclosed'.1.splitPredicate?] at hsplit
      obtain ⟨rfl, hmore⟩ := Prod.mk.inj (Option.some.inj hsplit)
      obtain ⟨rfl, rfl⟩ := ih hrest' hclosed.2 hclosed'.2 hmore.symm
      exact ⟨rfl, rfl⟩

/-- The text of a step is told from what follows it. -/
theorem StepText.text_append_inj {t t' : StepText} {rest' : List Char} (hrest : EndsStep rest)
    (hrest' : EndsStep rest') (htest : ∃ name, TestWritten t.test name)
    (htest' : ∃ name, TestWritten t'.test name) (hclosed : ∀ body ∈ t.bodies, Closed body)
    (hclosed' : ∀ body ∈ t'.bodies, Closed body) (h : t.text ++ rest = t'.text ++ rest') :
    t = t' ∧ rest = rest' := by
  obtain ⟨name, htest⟩ := htest
  obtain ⟨name', htest'⟩ := htest'
  have hread : readAxis (t.text ++ rest) =
      .ok (t.axis, t.test ++ (bracketed t.bodies ++ rest)) := readAxis_text htest
  rw [h, readAxis_text htest'] at hread
  obtain ⟨haxis, hafter⟩ := Prod.mk.inj (Except.ok.inj hread)
  obtain ⟨htake, hdrop⟩ := span_test htest hrest t.bodies
  rw [← hafter, (span_test htest' hrest' t'.bodies).1] at htake
  rw [← hafter, (span_test htest' hrest' t'.bodies).2] at hdrop
  obtain ⟨hbodies, rfl⟩ := bracketed_append_inj hrest hrest' hclosed hclosed' hdrop.symm
  cases t
  cases t'
  exact ⟨by rw [StepText.mk.injEq]; exact ⟨haxis.symm, htake.symm, hbodies⟩, rfl⟩

/-- **A text is cut into steps in one way.** -/
theorem Cuts.unique {cut cut' : List StepText} (h : Cuts cut cs) (h' : Cuts cut' cs) :
    cut = cut' := by
  induction cut generalizing cut' cs with
  | nil =>
    cases cut' with
    | nil => rfl
    | cons t' cut' => exact absurd (h'.text.symm.trans h.text) (t'.text_append_ne_nil _)
  | cons t cut ih =>
    cases cut' with
    | nil => exact absurd (h.text.symm.trans h'.text) (t.text_append_ne_nil _)
    | cons t' cut' =>
      have htests := List.forall_mem_cons.1 h.tests
      have htests' := List.forall_mem_cons.1 h'.tests
      have hclosed := List.forall_mem_cons.1 h.closed
      have hclosed' := List.forall_mem_cons.1 h'.closed
      obtain ⟨rfl, hmore⟩ := StepText.text_append_inj (endsStep_flatMap_text cut)
        (endsStep_flatMap_text cut') htests.1 htests'.1 hclosed.1 hclosed'.1
        (h.text.symm.trans h'.text)
      rw [ih ⟨rfl, htests.2, hclosed.2⟩ ⟨hmore, htests'.2, hclosed'.2⟩]

/-- Each member is related to something when the whole list is related to another one. -/
theorem exists_forall₂_iff {α β : Type} {R : α → β → Prop} {l : List α} :
    (∃ l', List.Forall₂ R l l') ↔ ∀ a ∈ l, ∃ b, R a b := by
  induction l with
  | nil =>
    constructor
    · exact fun _ a ha => absurd ha List.not_mem_nil
    · exact fun _ => ⟨[], .nil⟩
  | cons a l ih =>
    rw [List.forall_mem_cons, ← ih]
    constructor
    · rintro ⟨_, hcons⟩
      obtain ⟨b, l', hb, hl', -⟩ := List.forall₂_cons_left_iff.1 hcons
      exact ⟨⟨b, hb⟩, l', hl'⟩
    · rintro ⟨⟨b, hb⟩, l', hl'⟩
      exact ⟨b :: l', .cons hb hl'⟩

variable {form : List Char → Predicate → Prop}

/-- The text of a step writes one when its name test and all that stands between its brackets do. -/
theorem StepText.exists_writes_iff {t : StepText} :
    (∃ s, t.Writes form s) ↔
      (∃ name, TestWritten t.test name) ∧ ∀ body ∈ t.bodies, ∃ p, form body p := by
  rw [← exists_forall₂_iff]
  constructor
  · rintro ⟨s, hs⟩
    exact ⟨⟨s.name, hs.test⟩, s.predicates, hs.predicates⟩
  · rintro ⟨⟨name, hname⟩, ps, hps⟩
    exact ⟨⟨t.axis, name, ps⟩, rfl, hname, hps⟩

/-- **A text writes a path when it is cut into steps with a predicate between all brackets.** -/
theorem exists_written_iff (hform : ∀ body p, form body p → Closed body) :
    (∃ path : Path, path ≠ [] ∧ path.Written form cs) ↔
      ∃ cut, cut ≠ [] ∧ Cuts cut cs ∧ ∀ t ∈ cut, ∀ body ∈ t.bodies, ∃ p, form body p := by
  constructor
  · rintro ⟨path, hpath, cut, hcs, hwrites⟩
    have hparts (t : StepText) (ht : t ∈ cut) :=
      StepText.exists_writes_iff.1 (exists_forall₂_iff.1 ⟨path, hwrites⟩ t ht)
    refine ⟨cut, ?_, ⟨hcs, fun t ht => (hparts t ht).1, fun t ht body hbody => ?_⟩,
      fun t ht => (hparts t ht).2⟩
    · rintro rfl
      exact hpath (List.forall₂_nil_left_iff.1 hwrites)
    · obtain ⟨p, hp⟩ := (hparts t ht).2 body hbody
      exact hform body p hp
  · rintro ⟨cut, hcut, hcuts, hbodies⟩
    have hsteps : ∀ t ∈ cut, ∃ s, t.Writes form s :=
      fun t ht => StepText.exists_writes_iff.2 ⟨hcuts.tests t ht, hbodies t ht⟩
    obtain ⟨path, hwrites⟩ := exists_forall₂_iff.2 hsteps
    refine ⟨path, ?_, cut, hcuts.text, hwrites⟩
    rintro rfl
    exact hcut (List.forall₂_nil_right_iff.1 hwrites)

/-- Of a cut text it only has to be seen what stands between its brackets. -/
theorem Cuts.exists_written_iff (hform : ∀ body p, form body p → Closed body)
    {cut : List StepText} (hcuts : Cuts cut cs) :
    (∃ path : Path, path ≠ [] ∧ path.Written form cs) ↔
      cut ≠ [] ∧ ∀ t ∈ cut, ∀ body ∈ t.bodies, ∃ p, form body p := by
  rw [XPath.exists_written_iff hform]
  constructor
  · rintro ⟨cut', hne, hcuts', hbodies⟩
    rw [hcuts.unique hcuts']
    exact ⟨hne, hbodies⟩
  · rintro ⟨hne, hbodies⟩
    exact ⟨cut, hne, hcuts, hbodies⟩

/-! ## Documented paths -/

theorem Documented.closed {isName : List Char → Bool} (hnames : FreeOfDelimiters isName)
    (body : List Char) (p : Predicate) (h : Documented isName body p) : Closed body :=
  closed_of_trim (Predicate.Written.closed hnames h)

/-- A path whose positions are numbers of 64 bits. -/
def Path.InRange (path : Path) : Prop := ∀ s ∈ path, ∀ p ∈ s.predicates, p.InRange

/-- A relation of lists that implies another one on what is in the second list. -/
theorem forall₂_imp_of_mem {α β : Type} {R S : α → β → Prop} {l : List α} {l' : List β}
    (h : List.Forall₂ R l l') (himp : ∀ b ∈ l', ∀ a, R a b → S a b) : List.Forall₂ S l l' := by
  induction h with
  | nil => exact .nil
  | cons hab _ ih =>
    rw [List.forall_mem_cons] at himp
    exact .cons (himp.1 _ hab) (ih himp.2)

/-- **A documented text is read as the path that it writes** if no position is too large. -/
theorem ofText_of_documented {isName : List Char → Bool} (hnames : FreeOfDelimiters isName)
    {text : String} {path : Path} (hne : path ≠ []) (hrange : path.InRange)
    (h : path.Written (Documented isName) (trim text.toList)) : Path.ofText text = .ok path := by
  obtain ⟨cut, hcut, hwrites⟩ := h
  refine ofText_eq_ok_iff.2 ⟨hne, cut, hcut, forall₂_imp_of_mem hwrites fun s hs t hwrites => ?_⟩
  refine ⟨hwrites.axis, hwrites.test, forall₂_imp_of_mem hwrites.predicates fun p hp body h => ?_⟩
  exact ⟨Documented.closed hnames body p h, Predicate.Written.taken hnames h (hrange s hs p hp)⟩

/-- **When the paths that are read are the documented ones.**  The reader gives the path that a text
writes by its own rules, and the one that it writes by the documentation unless a position in it is
too large.  It takes the text exactly if the documentation allows it, exactly if that is so of what
stands between the brackets: in the cut of the text into steps the reader takes all of it exactly if
all of it is documented.  A text without such a cut is no path for either of them. -/
theorem ofText_documented_iff (text : String) :
    (∀ path : Path, Path.ofText text = .ok path ↔
        path ≠ [] ∧ path.Written Taken (trim text.toList)) ∧
      (∀ path : Path, path ≠ [] → path.InRange →
        path.Written (Documented isXmlName) (trim text.toList) → Path.ofText text = .ok path) ∧
      (((∃ path, Path.ofText text = .ok path) ↔
          ∃ path : Path, path ≠ [] ∧ path.Written (Documented isXmlName) (trim text.toList)) ↔
        ∀ cut, Cuts cut (trim text.toList) →
          ((∀ t ∈ cut, ∀ body ∈ t.bodies, ∃ p, Taken body p) ↔
            ∀ t ∈ cut, ∀ body ∈ t.bodies, ∃ p, Documented isXmlName body p)) := by
  have hnames := freeOfDelimiters_isXmlName
  have htaken : ∀ body p, Taken body p → Closed body := fun _ _ h => h.1
  refine ⟨fun path => ofText_eq_ok_iff, fun path => ofText_of_documented hnames, ?_⟩
  simp only [ofText_eq_ok_iff]
  constructor
  · intro h cut hcuts
    rw [hcuts.exists_written_iff htaken, hcuts.exists_written_iff (Documented.closed hnames)] at h
    by_cases hcut : cut = []
    · rw [hcut]
      exact iff_of_true (fun _ ht => absurd ht List.not_mem_nil)
        fun _ ht => absurd ht List.not_mem_nil
    · rwa [and_iff_right hcut, and_iff_right hcut] at h
  · intro h
    rw [exists_written_iff htaken, exists_written_iff (Documented.closed hnames)]
    constructor
    · rintro ⟨cut, hne, hcuts, hbodies⟩
      exact ⟨cut, hne, hcuts, (h cut hcuts).1 hbodies⟩
    · rintro ⟨cut, hne, hcuts, hbodies⟩
      exact ⟨cut, hne, hcuts, (h cut hcuts).2 hbodies⟩

/-- Blanks around the parts of a predicate are documented, and so they are read. -/
theorem blanks_around_parts_read :
    let path : Path := [⟨.child, some "p", [.equals (.attr "id") "x"]⟩]
    path ≠ [] ∧ path.InRange ∧
      path.Written (Documented isXmlName) (trim "/p[ @id = 'x' ]".toList) ∧
      Path.ofText "/p[ @id = 'x' ]" = .ok path := by
  intro path
  have hne : path ≠ [] := List.cons_ne_nil _ _
  have hrange : path.InRange := by
    unfold Path.InRange
    rw [List.forall_mem_singleton, List.forall_mem_singleton]
    exact fun _ h => nomatch h
  have hbody : Documented isXmlName " @id = 'x' ".toList (.equals (.attr "id") "x") := by
    have htrim : trim " @id = 'x' ".toList = "@id ".toList ++ '=' :: " 'x'".toList := by decide
    have hsubject : (Subject.attr "id").Written (documented isXmlName) (trim "@id ".toList) :=
      .attr (show isXmlName "id".toList = true by decide +kernel)
    have hfree : '\'' ∉ ['x'] := by decide
    have hliteral : LiteralWritten (documented isXmlName) (trim " 'x'".toList) "x" :=
      @LiteralWritten.quoted (documented isXmlName) '\'' ['x'] (Or.inl rfl) hfree
    unfold Documented
    rw [htrim]
    exact .equals (by decide) hsubject hliteral
  have hwritten : path.Written (Documented isXmlName) (trim "/p[ @id = 'x' ]".toList) := by
    refine ⟨[⟨.child, ['p'], [" @id = 'x' ".toList]⟩], by decide, .cons ⟨rfl, ?_, ?_⟩ .nil⟩
    · exact .name (by decide)
    · exact .cons hbody .nil
  exact ⟨hne, hrange, hwritten, (ofText_documented_iff _).2.1 path hne hrange hwritten⟩

/-- Two conditions joined by `and` are taken for the name of one attribute, which is none in XML. -/
theorem joined_conditions_taken :
    Path.ofText "//p[@a and @b]" = .ok [⟨.descendant, some "p", [.present "a and @b"]⟩] ∧
      ¬ ((∃ path, Path.ofText "//p[@a and @b]" = .ok path) ↔
        ∃ path : Path, path ≠ [] ∧
          path.Written (Documented isXmlName) (trim "//p[@a and @b]".toList)) := by
  have hread : Path.ofText "//p[@a and @b]" =
      .ok [⟨.descendant, some "p", [.present "a and @b"]⟩] := by decide +kernel
  have hbody : ¬ ∃ p, Documented isXmlName "@a and @b".toList p := by
    have htrim : trim "@a and @b".toList = '@' :: "a and @b".toList := by decide
    unfold Documented
    rw [htrim, exists_written_at_iff (by decide)]
    decide +kernel
  have hcuts : Cuts [⟨.descendant, ['p'], ["@a and @b".toList]⟩]
      (trim "//p[@a and @b]".toList) := by
    refine ⟨by decide, ?_, ?_⟩
    · rw [List.forall_mem_singleton]
      exact ⟨some "p", .name (by decide)⟩
    · rw [List.forall_mem_singleton, List.forall_mem_singleton]
      exact closed_of_inert (by decide)
  refine ⟨hread, fun h => hbody ?_⟩
  rw [hcuts.exists_written_iff (Documented.closed freeOfDelimiters_isXmlName)] at h
  obtain ⟨-, hbodies⟩ := h.1 ⟨_, hread⟩
  rw [List.forall_mem_singleton, List.forall_mem_singleton] at hbodies
  exact hbodies

end PageGuard.XPath
