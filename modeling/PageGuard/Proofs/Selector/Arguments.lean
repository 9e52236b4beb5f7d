import PageGuard.Proofs.Selector.Tiling
import PageGuard.Selector.Evaluation

/-!
# Operators have arguments

An operator without an argument is an error.  The reader tells so from the argument as it is written
between the parentheses; the quotes and the slashes around it are taken off later, so that an
argument of nothing but these leaves an empty text.

* `ComesTo`, `Uses`: the operators to which the reader comes, in a text and at any depth below it.
* `emptyArgument_iff`: the error is that of an operator without argument to which the reader comes.
* `Stage.Within`: the stages of a chain at any depth; `Uses.exists_of_within`, `Uses.exists_within`:
  these are the operators in the text.
* `Stage.HasArgument`, `OperatorUse.IsHollow`: stages with something in them, and arguments that
  leave nothing.
* `parseSelector_arguments`: the theorem.
-/

namespace PageGuard

open Text

/-! ## The operators to which the reader comes -/

/-- Whether the reader goes on behind an operator with this plain text before it. -/
inductive OperatorUse.IsTaken (u : OperatorUse) (gap : List Char) : Prop where
  | stage {s : Stage} (argument : trim u.argument ≠ []) (gives : u.Gives s)
  | action {a : Action} (op : u.op = .act a) (nonblank : trim gap ≠ [])

/-- The operators to which the reader comes in a text, with the character before it. -/
inductive ComesTo : Option Char → List Char → OperatorUse → Prop where
  | here {before : Option Char} {gap rest : List Char} {u : OperatorUse}
    (plain : Gap (bracketLength '[') before gap (u.text ++ rest)) (written : u.IsWritten rest)
    (cut : ¬ u.StaysInCss rest) : ComesTo before (gap ++ (u.text ++ rest)) u
  | later {before : Option Char} {gap rest : List Char} {u v : OperatorUse}
    (plain : Gap (bracketLength '[') before gap (v.text ++ rest)) (written : v.IsWritten rest)
    (cut : ¬ v.StaysInCss rest) (taken : v.IsTaken gap) (more : ComesTo (some ')') rest u) :
    ComesTo before (gap ++ (v.text ++ rest)) u

/-- The operators to which the reader comes in a selector, at any depth. -/
inductive Uses : List Char → OperatorUse → Prop where
  | here {cs : List Char} {u : OperatorUse} (pattern : regexBody? (trim cs) = none)
    (comes : ComesTo none (trim cs) u) : Uses cs u
  | inside {cs : List Char} {u v : OperatorUse} (pattern : regexBody? (trim cs) = none)
    (comes : ComesTo none (trim cs) v) (op : v.op = .has ∨ v.op = .not)
    (inner : Uses (trim v.argument) u) : Uses cs u

/-- The argument of an operator is shorter than the text. -/
theorem ComesTo.length_argument {before : Option Char} {cs : List Char} {u : OperatorUse}
    (h : ComesTo before cs u) : u.argument.length < cs.length := by
  induction h with
  | here plain written cut =>
    rw [OperatorUse.text]
    simp only [List.length_append, List.length_cons]
    omega
  | later plain written cut taken more ih =>
    simp only [List.length_append]
    omega

/-- What stages become behind an operator that is taken. -/
theorem OperatorUse.IsTaken.pushed {u : OperatorUse} {gap : List Char} (h : u.IsTaken gap)
    (stages : List Stage) : ∃ stages', u.pushed (addPlain gap stages) = .ok stages' := by
  cases h with
  | stage argument gives =>
    exact ⟨_, OperatorUse.pushed_eq_ok_iff.2 (OperatorUse.Pushes.stage argument gives)⟩
  | action op nonblank =>
    rw [addPlain_eq, plainStages, if_neg nonblank]
    exact ⟨_, OperatorUse.pushed_eq_ok_iff.2 (OperatorUse.Pushes.action op)⟩

/-- At an operator that does not stay in the CSS the stages change, or the reader fails. -/
theorem OperatorUse.readStages_eq_pushed {u : OperatorUse} {rest : List Char}
    (h : u.IsWritten rest) (hcut : ¬ u.StaysInCss rest) {before : Option Char} {gap : List Char}
    (plain : Gap (bracketLength '[') before gap (u.text ++ rest)) (offset : Nat)
    (stages : List Stage) :
    readStages offset before [] stages (gap ++ (u.text ++ rest)) =
      (u.pushed (addPlain gap stages)).bind fun stages =>
        readStages (offset + byteLength (gap ++ u.text)) (some ')') [] stages rest := by
  obtain ⟨before', hgap⟩ := plain.readStages stages offset []
  rw [hgap, readStages_text h, if_neg fun hcond => hcut ((staysInCss_iff h).1 hcond),
    List.append_nil, List.reverse_reverse, byteLength_append, Nat.add_assoc]

/-- **The reader comes to an operator**: what it gives depends on what the stages become there. -/
theorem ComesTo.readStages {before : Option Char} {cs : List Char} {u : OperatorUse}
    (h : ComesTo before cs u) : ∀ (offset : Nat) (stages : List Stage),
      ∃ stages' offset' rest, PageGuard.readStages offset before [] stages cs =
        (u.pushed stages').bind fun stages =>
          PageGuard.readStages offset' (some ')') [] stages rest := by
  induction h with
  | @here before gap rest u plain written cut =>
    intro offset stages
    exact ⟨_, _, rest, OperatorUse.readStages_eq_pushed written cut plain offset stages⟩
  | @later before gap rest u v plain written cut taken more ih =>
    intro offset stages
    have hread := OperatorUse.readStages_eq_pushed written cut plain offset stages
    obtain ⟨stages₁, hpushed⟩ := taken.pushed stages
    obtain ⟨stages₂, offset', rest', hmore⟩ :=
      ih (offset + byteLength (gap ++ v.text)) stages₁
    rw [hpushed] at hread
    exact ⟨stages₂, offset', rest', hread.trans hmore⟩

/-- What an operator pushes behind closed stages is closed, and the operator is taken. -/
theorem OperatorUse.Pushes.isTaken {u : OperatorUse} {gap : List Char}
    {stages stages' : List Stage} (hclosed : ¬ OpenAtEnd stages)
    (h : u.Pushes (addPlain gap stages) stages') : u.IsTaken gap ∧ ¬ OpenAtEnd stages' := by
  rw [addPlain_eq] at h
  generalize hbase : stages ++ plainStages gap = base at h
  cases h with
  | stage argument gives =>
    exact ⟨.stage argument gives, not_openAtEnd_concat fun target => gives.ne_plain target none⟩
  | @action init a target op =>
    refine ⟨.action op fun hblank => hclosed ⟨init, target, ?_⟩, not_openAtEnd_concat (by simp)⟩
    rwa [plainStages, if_pos hblank, List.append_nil] at hbase

/-- **A text that is not read fails at a parenthesis without partner or at an operator to which the
reader comes.** -/
theorem loose_or_comesTo_of_error {e : SelectorError} :
    ∀ {cs : List Char} {offset : Nat} {before : Option Char} {stages : List Stage},
      ¬ OpenAtEnd stages → readStages offset before [] stages cs = .error e →
      (∃ pre c rest, cs = pre ++ c :: rest ∧ IsLoose c rest ∧
        e = .unbalanced (offset + byteLength pre)) ∨
      ∃ u stages', ComesTo before cs u ∧ u.pushed stages' = .error e := by
  intro cs
  induction hlength : cs.length using Nat.strongRecOn generalizing cs with
  | ind length ih =>
    intro offset before stages hclosed h
    rcases exists_gap_or_stopsAtLoose cs before with
      ⟨gap, after, rfl, hgap, rfl | ⟨u, rest, rfl, hwritten, hcut⟩⟩ |
      ⟨pre, c, rest, rfl, hloose, hread⟩
    · obtain ⟨before', hread⟩ := hgap.readStages stages offset []
      rw [hread, readStages] at h
      cases h
    · rw [OperatorUse.readStages_eq_pushed hwritten hcut hgap] at h
      cases hpushed : u.pushed (addPlain gap stages) with
      | error e' =>
        rw [hpushed] at h
        exact .inr ⟨u, _, .here hgap hwritten hcut, hpushed.trans h⟩
      | ok stages' =>
        rw [hpushed] at h
        obtain ⟨htaken, hclosed'⟩ := (OperatorUse.pushed_eq_ok_iff.1 hpushed).isTaken hclosed
        have hshort : rest.length < length := hlength ▸ u.length_rest_lt gap rest
        rcases ih _ hshort rfl hclosed' h with
          ⟨pre, c, rest', rfl, hloose, he⟩ | ⟨v, stages'', hcomes, hfails⟩
        · refine .inl ⟨gap ++ u.text ++ pre, c, rest', by simp, hloose, ?_⟩
          rw [he, byteLength_append (gap ++ u.text), Nat.add_assoc]
        · exact .inr ⟨v, stages'', .later hgap hwritten hcut htaken hcomes, hfails⟩
    · exact .inl ⟨pre, c, rest, rfl, hloose, Except.error.inj (h.symm.trans (hread ..))⟩

/-! ## Operators without argument -/

/-- Whether an operator needs an argument and has none. -/
def OperatorUse.LacksArgument (u : OperatorUse) : Prop :=
  (∀ a, u.op ≠ .act a) ∧ trim u.argument = []

/-- An operator without argument is an error. -/
theorem OperatorUse.LacksArgument.pushed {u : OperatorUse} (h : u.LacksArgument)
    (stages : List Stage) :
    u.pushed stages = .error (.emptyArgument (operatorName u.marker)) := by
  have hempty : (trim u.argument).isEmpty = true := List.isEmpty_iff.2 h.2
  rw [OperatorUse.pushed]
  cases hop : u.op with
  | act a => exact absurd hop (h.1 a)
  | _ => simp only [hempty, if_true]

/-- The error of the argument of a `:has(…)` or a `:not(…)` is that of the operator. -/
theorem OperatorUse.pushed_of_error {u : OperatorUse} (hop : u.op = .has ∨ u.op = .not)
    {e : SelectorError} (h : readSelector (trim u.argument) = .error e)
    (hargument : trim u.argument ≠ []) (stages : List Stage) : u.pushed stages = .error e := by
  have hempty : (trim u.argument).isEmpty = false := List.isEmpty_eq_false_iff.2 hargument
  rw [OperatorUse.pushed]
  rcases hop with hop | hop <;> simp only [hop, hempty, h] <;> rfl

/-- A text that is no pattern is reported with the pattern. -/
theorem exists_invalidRegex_of_readPattern {cs : List Char} {e : SelectorError}
    (h : readPattern cs = .error e) : ∃ pattern, e = .invalidRegex pattern := by
  unfold readPattern at h
  split at h
  · cases h
  · exact ⟨_, (Except.error.inj h).symm⟩

theorem eq_danglingAction_of_attachAction {a : Action} {operator : String} {stages : List Stage}
    {e : SelectorError} (h : attachAction a operator stages = .error e) :
    e = .danglingAction operator := by
  unfold attachAction at h
  split at h
  · cases h
  · exact (Except.error.inj h).symm

/-- A step fails in its first part, or in its second part. -/
theorem bind_eq_error_iff {ε α β : Type} {x : Except ε α} {f : α → Except ε β} {e : ε} :
    x.bind f = .error e ↔ x = .error e ∨ ∃ a, x = .ok a ∧ f a = .error e := by
  cases x <;> simp [Except.bind]

/-- **Why an operator fails**: it lacks its argument, it has no plain stage to act on, its pattern
is none, or its argument is a selector that fails. -/
theorem OperatorUse.error_of_pushed {u : OperatorUse} {stages : List Stage} {e : SelectorError}
    (h : u.pushed stages = .error e) :
    u.LacksArgument ∧ e = .emptyArgument (operatorName u.marker) ∨
      e = .danglingAction (operatorName u.marker) ∨ (∃ pattern, e = .invalidRegex pattern) ∨
      (u.op = .has ∨ u.op = .not) ∧ readSelector (trim u.argument) = .error e := by
  by_cases hlacks : u.LacksArgument
  · exact .inl ⟨hlacks, (Except.error.inj ((hlacks.pushed stages).symm.trans h)).symm⟩
  · right
    have hempty (hop : ∀ a, u.op ≠ .act a) : (trim u.argument).isEmpty = false :=
      List.isEmpty_eq_false_iff.2 fun hnil => hlacks ⟨hop, hnil⟩
    rw [OperatorUse.pushed] at h
    cases hop : u.op with
    | act a =>
      rw [hop] at h
      exact .inl (eq_danglingAction_of_attachAction h)
    | contains =>
      simp only [hop, hempty (by simp [hop])] at h
      rcases bind_eq_error_iff.1 h with hread | ⟨p, -, hp⟩
      · exact .inr (.inl (exists_invalidRegex_of_readPattern hread))
      · cases hp
    | has =>
      simp only [hop, hempty (by simp [hop])] at h
      rcases bind_eq_error_iff.1 h with hread | ⟨chain, -, hchain⟩
      · exact .inr (.inr ⟨.inl rfl, hread⟩)
      · cases hchain
    | not =>
      simp only [hop, hempty (by simp [hop])] at h
      rcases bind_eq_error_iff.1 h with hread | ⟨chain, -, hchain⟩
      · exact .inr (.inr ⟨.inr rfl, hread⟩)
      · cases hchain
    | properties =>
      simp only [hop, hempty (by simp [hop])] at h
      cases h
    | xpath =>
      simp only [hop, hempty (by simp [hop])] at h
      cases h

/-- A selector fails when it is no pattern and its stages do, unless it is empty or a pattern that
is none. -/
theorem readSelector_eq_error_iff {cs : List Char} {e : SelectorError} (hempty : e ≠ .empty)
    (hregex : ∀ pattern, e ≠ .invalidRegex pattern) :
    readSelector cs = .error e ↔
      regexBody? (trim cs) = none ∧ readStages 0 none [] [] (trim cs) = .error e := by
  rw [readSelector]
  by_cases hnil : trim cs = []
  · rw [hnil, readStages]
    simp [addPlain, regexBody?, Ne.symm hempty]
  · simp only [List.isEmpty_eq_false_iff.2 hnil, Bool.false_eq_true, if_false]
    cases regexBody? (trim cs) with
    | some body =>
      simp only [reduceCtorEq, false_and, iff_false]
      intro h
      rcases bind_eq_error_iff.1 h with hread | ⟨p, -, hp⟩
      · obtain ⟨pattern, he⟩ := exists_invalidRegex_of_readPattern hread
        exact hregex pattern he
      · cases hp
    | none =>
      simp only [true_and]
      refine bind_eq_error_iff.trans ⟨?_, Or.inl⟩
      rintro (h | ⟨stages, -, h⟩)
      · exact h
      · split_ifs at h
        exact absurd (Except.error.inj h).symm hempty

/-- The reader comes to no operator in an empty text. -/
theorem not_comesTo_nil {before : Option Char} {u : OperatorUse} : ¬ ComesTo before [] u :=
  fun h => absurd h.length_argument (Nat.not_lt_zero _)

/-- The argument of an operator that uses another one is not blank. -/
theorem Uses.ne_nil {cs : List Char} {u : OperatorUse} (h : Uses cs u) : trim cs ≠ [] := by
  intro hnil
  cases h with
  | here pattern comes => exact not_comesTo_nil (hnil ▸ comes)
  | inside pattern comes op inner => exact not_comesTo_nil (hnil ▸ comes)

/-- **An empty argument is reported exactly when the reader comes to an operator without one**, at
any depth, and under the name of that operator. -/
theorem emptyArgument_iff {name : String} :
    ∀ {cs : List Char}, readSelector cs = .error (.emptyArgument name) ↔
      ∃ u, Uses cs u ∧ u.LacksArgument ∧ operatorName u.marker = name := by
  intro cs
  constructor
  · induction hlength : cs.length using Nat.strongRecOn generalizing cs with
    | ind length ih =>
      intro h
      obtain ⟨hpattern, hread⟩ := (readSelector_eq_error_iff (by simp) (by simp)).1 h
      rcases loose_or_comesTo_of_error not_openAtEnd_nil hread with
        ⟨pre, c, rest, -, -, he⟩ | ⟨u, stages, hcomes, hfails⟩
      · cases he
      rcases OperatorUse.error_of_pushed hfails with
        ⟨hlacks, he⟩ | he | ⟨pattern, he⟩ | ⟨hop, hinner⟩
      · exact ⟨u, .here hpattern hcomes, hlacks, (SelectorError.emptyArgument.inj he).symm⟩
      · cases he
      · cases he
      · have hshort : (trim u.argument).length < length := by
          have := hcomes.length_argument
          have := length_trim_le u.argument
          have := length_trim_le cs
          omega
        obtain ⟨v, huses, hlacks, hname⟩ := ih _ hshort rfl hinner
        exact ⟨v, .inside hpattern hcomes hop huses, hlacks, hname⟩
  · rintro ⟨u, huses, hlacks, rfl⟩
    induction huses with
    | here pattern comes =>
      obtain ⟨stages, offset, rest, hread⟩ := comes.readStages 0 []
      rw [hlacks.pushed] at hread
      exact (readSelector_eq_error_iff (by simp) (by simp)).2 ⟨pattern, hread⟩
    | @inside cs u v pattern comes op inner ih =>
      obtain ⟨stages, offset, rest, hread⟩ := comes.readStages 0 []
      have hne : trim v.argument ≠ [] := trim_trim v.argument ▸ inner.ne_nil
      rw [OperatorUse.pushed_of_error op (ih hlacks) hne] at hread
      exact (readSelector_eq_error_iff (by simp) (by simp)).2 ⟨pattern, hread⟩

/-! ## Stages at any depth -/

/-- The stages of a chain and of the chains in it. -/
inductive Stage.Within : List Stage → Stage → Prop where
  | here {chain : List Stage} {s : Stage} (mem : s ∈ chain) : Within chain s
  | has {chain inner : List Stage} {s : Stage} (mem : .has inner ∈ chain)
    (within : Within inner s) : Within chain s
  | not {chain inner : List Stage} {s : Stage} (mem : .not inner ∈ chain)
    (within : Within inner s) : Within chain s

/-- Whether a stage comes from an operator. -/
def Stage.IsOperator : Stage → Prop
  | .plain .. => False
  | _ => True

theorem not_isOperator_of_mem_plainStages {gap : List Char} {s : Stage} (h : s ∈ plainStages gap) :
    ¬ s.IsOperator := by
  unfold plainStages at h
  split_ifs at h
  · cases h
  · obtain rfl := List.mem_singleton.1 h
    exact id

/-- The stages of operators that tile a text come from operators to which the reader comes. -/
theorem Tiled.exists_comesTo {before : Option Char} {cs : List Char} {chain : List Stage}
    (h : Tiled (bracketLength '[') before cs chain) {s : Stage} (hs : s ∈ chain)
    (hoperator : s.IsOperator) :
    ∃ u, ComesTo before cs u ∧ trim u.argument ≠ [] ∧ u.Gives s := by
  induction h with
  | last plain => exact absurd hoperator (not_isOperator_of_mem_plainStages hs)
  | @operator before gap rest u t stages plain written cut argument gives more ih =>
    rcases List.mem_append.1 hs with hgap | htail
    · exact absurd hoperator (not_isOperator_of_mem_plainStages hgap)
    · rcases List.mem_cons.1 htail with rfl | hmore
      · exact ⟨u, .here plain written cut, argument, gives⟩
      · obtain ⟨v, hcomes, hv⟩ := ih hmore
        exact ⟨v, .later plain written cut (.stage argument gives) hcomes, hv⟩
  | @action before gap rest u a stages plain written op nonblank more ih =>
    rcases List.mem_cons.1 hs with rfl | hmore
    · exact absurd hoperator id
    · obtain ⟨v, hcomes, hv⟩ := ih hmore
      exact ⟨v, .later plain written (OperatorUse.not_staysInCss written op)
        (.action op nonblank) hcomes, hv⟩

/-- An operator to which the reader comes in a text that it reads is an action or gives a stage. -/
theorem ComesTo.exists_mem {before : Option Char} {cs : List Char} {u : OperatorUse}
    (h : ComesTo before cs u) {offset : Nat} {stages result : List Stage}
    (hread : PageGuard.readStages offset before [] stages cs = .ok result) :
    (∃ a, u.op = .act a) ∨ trim u.argument ≠ [] ∧ ∃ s ∈ result, u.Gives s := by
  obtain ⟨stages', offset', rest, hcomes⟩ := h.readStages offset stages
  rw [hcomes] at hread
  obtain ⟨pushed, hpushed, hrest⟩ := bind_eq_ok_iff.1 hread
  cases OperatorUse.pushed_eq_ok_iff.1 hpushed with
  | action op => exact .inl ⟨_, op⟩
  | stage argument gives =>
    obtain ⟨chain, rfl, -⟩ :=
      exists_tiled (not_openAtEnd_concat fun target => gives.ne_plain target none) hrest
    exact .inr ⟨argument, _, by simp, gives⟩

/-- A selector is a pattern, or it is read as stages; there are some. -/
theorem readSelector_eq_ok {cs : List Char} {chain : Chain} (h : readSelector cs = .ok chain) :
    chain ≠ [] ∧
      ((∃ body p, regexBody? (trim cs) = some body ∧ chain = [.plain (.textMatch p) none]) ∨
        regexBody? (trim cs) = none ∧ readStages 0 none [] [] (trim cs) = .ok chain) := by
  rw [readSelector] at h
  split_ifs at h
  cases hpattern : regexBody? (trim cs) with
  | some body =>
    rw [hpattern] at h
    obtain ⟨p, -, hp⟩ := bind_eq_ok_iff.1 h
    obtain rfl := Except.ok.inj hp
    exact ⟨List.cons_ne_nil _ _, .inl ⟨body, p, rfl, rfl⟩⟩
  | none =>
    rw [hpattern] at h
    obtain ⟨stages, hread, hif⟩ := bind_eq_ok_iff.1 h
    split_ifs at hif with hempty
    obtain rfl := Except.ok.inj hif
    exact ⟨mt List.isEmpty_iff.2 hempty, .inr ⟨rfl, hread⟩⟩

/-- A selector that is no pattern is read as stages. -/
theorem readStages_of_readSelector {cs : List Char} (hpattern : regexBody? (trim cs) = none)
    {chain : Chain} (h : readSelector cs = .ok chain) :
    readStages 0 none [] [] (trim cs) = .ok chain := by
  rcases (readSelector_eq_ok h).2 with ⟨body, p, hbody, -⟩ | ⟨-, hread⟩
  · rw [hpattern] at hbody
    cases hbody
  · exact hread

/-- The stages of operators of a selector come from operators to which the reader comes. -/
theorem exists_comesTo_of_mem {cs : List Char} {chain : Chain} (h : readSelector cs = .ok chain)
    {s : Stage} (hs : s ∈ chain) (hoperator : s.IsOperator) :
    regexBody? (trim cs) = none ∧
      ∃ u, ComesTo none (trim cs) u ∧ trim u.argument ≠ [] ∧ u.Gives s := by
  rcases (readSelector_eq_ok h).2 with ⟨body, p, -, rfl⟩ | ⟨hpattern, hread⟩
  · obtain rfl := List.mem_singleton.1 hs
    exact absurd hoperator id
  · exact ⟨hpattern, (readStages_eq_ok_iff.1 hread).exists_comesTo hs hoperator⟩

/-- **Every stage of an operator, at any depth, comes from an operator to which the reader comes**,
whose argument is not blank. -/
theorem Stage.Within.exists_uses {chain : Chain} {s : Stage} (h : Stage.Within chain s) :
    ∀ {cs : List Char}, readSelector cs = .ok chain → s.IsOperator →
      ∃ u, Uses cs u ∧ trim u.argument ≠ [] ∧ u.Gives s := by
  induction h with
  | here mem =>
    intro cs hread hoperator
    obtain ⟨hpattern, u, hcomes, hu⟩ := exists_comesTo_of_mem hread mem hoperator
    exact ⟨u, .here hpattern hcomes, hu⟩
  | has mem within ih =>
    intro cs hread hoperator
    obtain ⟨hpattern, v, hcomes, -, hgives⟩ := exists_comesTo_of_mem hread mem trivial
    cases hgives with
    | has op read =>
      obtain ⟨u, huses, hu⟩ := ih read hoperator
      exact ⟨u, .inside hpattern hcomes (.inl op) huses, hu⟩
  | not mem within ih =>
    intro cs hread hoperator
    obtain ⟨hpattern, v, hcomes, -, hgives⟩ := exists_comesTo_of_mem hread mem trivial
    cases hgives with
    | not op read =>
      obtain ⟨u, huses, hu⟩ := ih read hoperator
      exact ⟨u, .inside hpattern hcomes (.inr op) huses, hu⟩

/-- **Every operator to which the reader comes, at any depth, is an action or gives a stage**, and
then its argument is not blank. -/
theorem Uses.exists_within {cs : List Char} {u : OperatorUse} (h : Uses cs u) :
    ∀ {chain : Chain}, readSelector cs = .ok chain →
      (∃ a, u.op = .act a) ∨
        trim u.argument ≠ [] ∧ ∃ s, Stage.Within chain s ∧ u.Gives s := by
  induction h with
  | here pattern comes =>
    intro chain hread
    rcases comes.exists_mem (readStages_of_readSelector pattern hread) with
      hact | ⟨hargument, s, hs, hgives⟩
    · exact .inl hact
    · exact .inr ⟨hargument, s, .here hs, hgives⟩
  | @inside cs u v pattern comes op inner ih =>
    intro chain hread
    rcases comes.exists_mem (readStages_of_readSelector pattern hread) with
      ⟨a, hact⟩ | ⟨-, s, hs, hgives⟩
    · rw [hact] at op
      simp at op
    · cases hgives with
      | has hop read =>
        refine (ih read).imp_right fun ⟨hargument, t, ht, htgives⟩ => ?_
        exact ⟨hargument, t, .has hs ht, htgives⟩
      | not hop read =>
        refine (ih read).imp_right fun ⟨hargument, t, ht, htgives⟩ => ?_
        exact ⟨hargument, t, .not hs ht, htgives⟩
      | contains hop read => simp [hop] at op
      | properties hop => simp [hop] at op
      | xpath hop => simp [hop] at op

/-! ## Arguments that leave nothing -/

/-- Whether there is something in a stage: a text that is not blank and a pattern that is not empty,
or a chain with stages. -/
def Stage.HasArgument : Stage → Prop
  | .plain .. => True
  | .contains text pattern => trim text.toList ≠ [] ∧ pattern.source ≠ ""
  | .has chain => chain ≠ []
  | .not chain => chain ≠ []
  | .properties declarations => trim declarations.toList ≠ []
  | .xpath expression => trim expression.toList ≠ []

/-- Two equal quotes with nothing or blanks between them. -/
def QuotesBlank (cs : List Char) : Prop :=
  ∃ quote blanks, isQuote quote = true ∧ trim blanks = [] ∧ cs = quote :: (blanks ++ [quote])

/-- Whether nothing is left of an argument that is there: it is quotes around blanks, or a pattern
is two slashes. -/
def OperatorUse.IsHollow (u : OperatorUse) : Prop :=
  (u.op = .contains ∨ u.op = .properties ∨ u.op = .xpath) ∧ QuotesBlank (trim u.argument) ∨
    u.op = .contains ∧ unquoted (trim u.argument) = ['/', '/']

/-- A text is blank without its quotes exactly when it is quotes around blanks. -/
theorem trim_unquoted_eq_nil_iff {cs : List Char} (htrim : trim cs = cs) (hne : cs ≠ []) :
    trim (unquoted cs) = [] ↔ QuotesBlank cs := by
  obtain ⟨q, rest, rfl⟩ := List.exists_cons_of_ne_nil hne
  rw [unquoted]
  by_cases hquoted : (isQuote q && rest.getLast? == some q) = true
  · rw [if_pos hquoted]
    rw [Bool.and_eq_true, beq_iff_eq] at hquoted
    obtain ⟨body, rfl⟩ := List.getLast?_eq_some_iff.1 hquoted.2
    rw [List.dropLast_concat]
    constructor
    · exact fun hblank => ⟨q, body, hquoted.1, hblank, rfl⟩
    · rintro ⟨quote, blanks, -, hblank, heq⟩
      obtain ⟨rfl, -⟩ := List.append_inj' (List.cons.inj heq).2 rfl
      exact hblank
  · rw [if_neg hquoted, htrim]
    refine iff_of_false hne ?_
    rintro ⟨quote, blanks, hquote, -, heq⟩
    obtain ⟨rfl, rfl⟩ := List.cons.inj heq
    exact hquoted (by simp [hquote])

/-- The text of a pattern is empty exactly when it is written as nothing or as two slashes. -/
theorem regexBody?_getD_eq_nil_iff {cs : List Char} :
    (regexBody? cs).getD cs = [] ↔ cs = [] ∨ cs = ['/', '/'] := by
  cases hbody : regexBody? cs with
  | none =>
    rw [Option.getD_none]
    refine ⟨.inl, ?_⟩
    rintro (hnil | rfl)
    · exact hnil
    · cases hbody
  | some body =>
    rw [Option.getD_some, eq_of_regexBody?_eq_some hbody]
    simp

/-- **There is something in the stage of an operator exactly when something is left of its
argument.** -/
theorem OperatorUse.Gives.hasArgument_iff {u : OperatorUse} {s : Stage} (h : u.Gives s)
    (hne : trim u.argument ≠ []) : s.HasArgument ↔ ¬ u.IsHollow := by
  have hblank := trim_unquoted_eq_nil_iff (trim_trim u.argument) hne
  cases h with
  | @contains pattern op read =>
    have hsource : pattern.source = "" ↔ unquoted (trim u.argument) = [] ∨
        unquoted (trim u.argument) = ['/', '/'] := by
      rw [source_of_readPattern read, ← regexBody?_getD_eq_nil_iff]
      simp
    rw [Stage.HasArgument, String.toList_ofList]
    constructor
    · rintro ⟨hnotBlank, hnotEmpty⟩ (⟨-, hquotes⟩ | ⟨-, hslashes⟩)
      · exact hnotBlank (hblank.2 hquotes)
      · exact hnotEmpty (hsource.2 (.inr hslashes))
    · intro hhollow
      have hnotBlank : trim (unquoted (trim u.argument)) ≠ [] :=
        fun hnil => hhollow (.inl ⟨.inl op, hblank.1 hnil⟩)
      refine ⟨hnotBlank, fun hempty => ?_⟩
      rcases hsource.1 hempty with hnil | hslashes
      · exact hnotBlank (by rw [hnil]; rfl)
      · exact hhollow (.inr ⟨op, hslashes⟩)
  | has op read => simp [Stage.HasArgument, IsHollow, op, (readSelector_eq_ok read).1]
  | not op read => simp [Stage.HasArgument, IsHollow, op, (readSelector_eq_ok read).1]
  | properties op => simp [Stage.HasArgument, IsHollow, op, hblank]
  | xpath op => simp [Stage.HasArgument, IsHollow, op, hblank]

/-! ## Selectors -/

/-- What becomes of the operators of a selector with and without argument. -/
structure ArgumentsRead (text : String) : Prop where
  /-- An empty argument is reported exactly when the reader comes to an operator without one, under
  the name of that operator. -/
  missing : ∀ name, parseSelector text = .error (.emptyArgument name) ↔
    ∃ u, Uses text.toList u ∧ u.LacksArgument ∧ operatorName u.marker = name
  /-- Each operator to which the reader comes has an argument and gives a stage, actions apart. -/
  taken : ∀ chain, parseSelector text = .ok chain → ∀ u, Uses text.toList u →
    (∃ a, u.op = .act a) ∨ trim u.argument ≠ [] ∧ ∃ s, Stage.Within chain s ∧ u.Gives s
  /-- The stages of operators are given by these operators. -/
  given : ∀ chain, parseSelector text = .ok chain → ∀ s, Stage.Within chain s → s.IsOperator →
    ∃ u, Uses text.toList u ∧ trim u.argument ≠ [] ∧ u.Gives s
  /-- No chain is empty. -/
  chains : ∀ chain, parseSelector text = .ok chain →
    chain ≠ [] ∧ ∀ inner, Stage.Within chain (.has inner) ∨ Stage.Within chain (.not inner) →
      inner ≠ []
  /-- There is something in every stage unless the argument of an operator leaves nothing. -/
  full : ∀ chain, parseSelector text = .ok chain →
    ((∀ s, Stage.Within chain s → s.HasArgument) ↔ ∀ u, Uses text.toList u → ¬ u.IsHollow)

/-- **Operators without argument are reported**, at any depth, and the others give stages with
something in them, except for arguments of quotes or slashes with nothing or blanks in them. -/
theorem parseSelector_arguments (text : String) : ArgumentsRead text where
  missing _ := emptyArgument_iff
  taken _ h _ huses := huses.exists_within h
  given _ h _ hwithin hoperator := hwithin.exists_uses h hoperator
  chains chain h := by
    refine ⟨(readSelector_eq_ok h).1, ?_⟩
    rintro inner (hwithin | hwithin)
    · obtain ⟨u, -, hargument, hgives⟩ := hwithin.exists_uses h trivial
      cases hgives with
      | has op read => exact (readSelector_eq_ok read).1
    · obtain ⟨u, -, hargument, hgives⟩ := hwithin.exists_uses h trivial
      cases hgives with
      | not op read => exact (readSelector_eq_ok read).1
  full chain h := by
    constructor
    · intro hfull u huses hhollow
      rcases huses.exists_within h with ⟨a, hact⟩ | ⟨hargument, s, hs, hgives⟩
      · simp [OperatorUse.IsHollow, hact] at hhollow
      · exact (hgives.hasArgument_iff hargument).1 (hfull s hs) hhollow
    · intro hhollow s hs
      by_cases hoperator : s.IsOperator
      · obtain ⟨u, huses, hargument, hgives⟩ := hs.exists_uses h hoperator
        exact (hgives.hasArgument_iff hargument).2 (hhollow u huses)
      · cases s with
        | plain target action => trivial
        | _ => exact absurd trivial hoperator

/-! ## A filter of texts that keeps everything -/

/-- The pattern of an empty text. -/
def emptyPattern : Pattern := ⟨"", .empty, by decide⟩

/-- A pattern is read from its text. -/
theorem readPattern_source (p : Pattern) : readPattern p.source.toList = .ok p := by
  have hsource : Pattern.ofSource? p.source = some p := by
    unfold Pattern.ofSource?
    split
    · exact congrArg some (Pattern.ext_source rfl)
    · next hnone => cases hnone.symm.trans p.compiles
  rw [readPattern, String.ofList_toList, hsource]

/-- The empty pattern matches every text. -/
theorem isMatch_emptyPattern (text : String) : emptyPattern.isMatch text = true := by
  have hplaces : 1 < 1 <<< (text.toList.length + 1) := by
    rw [Nat.one_shiftLeft]
    exact Nat.one_lt_two_pow (Nat.succ_ne_zero _)
  change (Pattern.allPlaces text.toList != 0) = true
  rw [bne_iff_ne, Pattern.allPlaces]
  omega

/-- A filter of texts by the empty pattern keeps every element. -/
theorem Stage.narrow_emptyPattern {D N : Type} [Document D N] [DecidableEq N] (text : String)
    (elements : List N) :
    ((Stage.contains text emptyPattern).narrow elements : Visit D (List N)) = pure elements := by
  rw [narrow]
  funext d
  simp only [isMatch_emptyPattern, List.filter_true]
  rfl

/-- **Two quotes are taken for an argument**: nothing is left of it, and the stage keeps every
element of every document. -/
theorem quotes_kept_as_argument :
    parseSelector "p:has-text(\"\")" = .ok [.css "p", .contains "" emptyPattern] ∧
      ¬ (Stage.contains "" emptyPattern).HasArgument ∧
      ∀ (D N : Type) [Document D N] [DecidableEq N] (elements : List N),
        ((Stage.contains "" emptyPattern).narrow elements : Visit D (List N)) = pure elements := by
  refine ⟨?_, fun hargument => hargument.2 rfl, fun D N _ _ elements =>
    Stage.narrow_emptyPattern "" elements⟩
  have htrim : trim "p:has-text(\"\")".toList = "p:has-text(\"\")".toList := by decide
  have hpattern : regexBody? "p:has-text(\"\")".toList = none := by decide
  have hgap : Gap (bracketLength '[') none ("p".toList ++ []) ":has-text(\"\")".toList :=
    Gap.ordinary (fun before => Gap.nil before _) (List.all_eq_true.1 (by decide)) none
  have htiled : Tiled (bracketLength '[') none "p:has-text(\"\")".toList
      [.css "p", .contains "" emptyPattern] :=
    Tiled.operator (u := ⟨":has-text(", .contains, "\"\"".toList⟩) hgap
      ⟨by decide, by simp [closingParen?, isQuote, stringLength?, closingQuote?, isAsciiAlnum,
        isAscii, isAsciiLetter, isAsciiDigit]⟩
      (fun hstays => hstays.more rfl) (by decide)
      (OperatorUse.Gives.contains rfl (readPattern_source emptyPattern))
      (Tiled.last (Gap.nil _ _))
  exact (readSelector_eq_ok_iff htrim hpattern _).2 ⟨List.cons_ne_nil _ _, htiled⟩

end PageGuard
