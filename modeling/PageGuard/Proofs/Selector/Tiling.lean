import PageGuard.Proofs.Selector.Gaps

/-!
# Chains tile the text of a selector

A selector that is no pattern is plain text, an operator, plain text, an operator, and so on up to
plain text at its end.  `Tiled` says which stages that gives: one for every stretch of plain text
that is not blank and one for every operator, in this order, where an action goes to the stretch
right before it.

* `Tiled.readStages`, `exists_tiled`: a text is read exactly when stages tile it.
* `Gap.congr`, `Tiled.congr`: it matters only how far the brackets of the text itself reach.
* `parseSelector_tiled`: the theorem for selectors, under the rule for brackets that the reader has
  and under the one that heeds escapes.
* `escaped_quote_swallows`: the two rules differ, and the reader's loses an operator.
-/

namespace PageGuard

open Text

/-- The stage of plain text; blank text has none. -/
def plainStages (gap : List Char) : List Stage :=
  if trim gap = [] then [] else [.css (.ofList (trim gap))]

/-- The stages that tile a text, with the character before it. -/
inductive Tiled (extent : List Char → Nat) : Option Char → List Char → List Stage → Prop where
  | last {before : Option Char} {gap : List Char} (plain : Gap extent before gap []) :
    Tiled extent before gap (plainStages gap)
  | operator {before : Option Char} {gap rest : List Char} {u : OperatorUse} {s : Stage}
    {stages : List Stage} (plain : Gap extent before gap (u.text ++ rest))
    (written : u.IsWritten rest) (cut : ¬ u.StaysInCss rest) (argument : trim u.argument ≠ [])
    (gives : u.Gives s) (more : Tiled extent (some ')') rest stages) :
    Tiled extent before (gap ++ (u.text ++ rest)) (plainStages gap ++ s :: stages)
  | action {before : Option Char} {gap rest : List Char} {u : OperatorUse} {a : Action}
    {stages : List Stage} (plain : Gap extent before gap (u.text ++ rest))
    (written : u.IsWritten rest) (op : u.op = .act a) (nonblank : trim gap ≠ [])
    (more : Tiled extent (some ')') rest stages) :
    Tiled extent before (gap ++ (u.text ++ rest))
      (.plain (.css (.ofList (trim gap))) (some a) :: stages)

/-! ## Reading and tiling -/

theorem addPlain_eq (gap : List Char) (stages : List Stage) :
    addPlain gap stages = stages ++ plainStages gap := by
  rw [addPlain, plainStages]
  by_cases h : trim gap = []
  · rw [if_pos h, h, List.append_nil]
    rfl
  · rw [if_neg h]
    simp only [List.isEmpty_eq_false_iff.2 h, Bool.false_eq_true, if_false]

/-- An action does not stay in the CSS. -/
theorem OperatorUse.not_staysInCss {u : OperatorUse} {rest : List Char} {a : Action}
    (h : u.IsWritten rest) (hop : u.op = .act a) : ¬ u.StaysInCss rest := by
  intro hstays
  have hall : ∀ m ∈ operators, m.1 = ":not(" ∨ m.1 = ":has(" → m.2 = .not ∨ m.2 = .has := by
    decide
  rcases hall _ h.listed hstays.native with hnot | hhas
  · exact absurd (hop.symm.trans hnot) Operator.noConfusion
  · exact absurd (hop.symm.trans hhas) Operator.noConfusion

/-- **Stages that tile a text are what is read there.** -/
theorem Tiled.readStages {before : Option Char} {cs : List Char} {chain : List Stage}
    (h : Tiled (bracketLength '[') before cs chain) : ∀ (offset : Nat) (stages : List Stage),
      PageGuard.readStages offset before [] stages cs = .ok (stages ++ chain) := by
  induction h with
  | @last before gap plain =>
    intro offset stages
    obtain ⟨before', hread⟩ := plain.readStages stages offset []
    rw [List.append_nil, List.append_nil] at hread
    rw [hread, PageGuard.readStages, List.reverse_reverse, addPlain_eq]
  | @operator before gap rest u s chain plain written cut argument gives more ih =>
    intro offset stages
    obtain ⟨before', hread⟩ := plain.readStages stages offset []
    obtain ⟨offset'', hcut⟩ :=
      OperatorUse.readStages_cut written cut (offset + byteLength gap) before' (gap.reverse ++ []) stages
    rw [hread, hcut, List.append_nil, List.reverse_reverse, addPlain_eq]
    refine ⟨_, OperatorUse.Pushes.stage argument gives, ?_⟩
    rw [ih, List.append_assoc, List.append_assoc, List.singleton_append]
  | @action before gap rest u a chain plain written op nonblank more ih =>
    intro offset stages
    obtain ⟨before', hread⟩ := plain.readStages stages offset []
    obtain ⟨offset'', hcut⟩ := OperatorUse.readStages_cut written
      (OperatorUse.not_staysInCss written op) (offset + byteLength gap) before'
      (gap.reverse ++ []) stages
    rw [hread, hcut, List.append_nil, List.reverse_reverse, addPlain_eq, plainStages,
      if_neg nonblank]
    refine ⟨_, OperatorUse.Pushes.action op, ?_⟩
    rw [ih, List.append_assoc, List.singleton_append]

/-- Whether stages end in a plain one to which an action can go. -/
def OpenAtEnd (stages : List Stage) : Prop :=
  ∃ init target, stages = init ++ [.plain target none]

theorem not_openAtEnd_nil : ¬ OpenAtEnd [] := by
  rintro ⟨init, target, h⟩
  cases init <;> cases h

/-- No operator gives a plain stage. -/
theorem OperatorUse.Gives.ne_plain {u : OperatorUse} {s : Stage} (h : u.Gives s) (target : Target)
    (action : Option Action) : s ≠ .plain target action := by
  cases h <;> exact Stage.noConfusion

theorem not_openAtEnd_concat {stages : List Stage} {s : Stage}
    (h : ∀ target, s ≠ .plain target none) : ¬ OpenAtEnd (stages ++ [s]) := by
  rintro ⟨init, target, heq⟩
  exact h target (List.append_inj_right' heq rfl |> List.singleton_inj.1)

/-- **What is read tiles the text.**  The stages before it are closed: an action finds plain text of
its own before it. -/
theorem exists_tiled {result : List Stage} :
    ∀ {cs : List Char} {offset : Nat} {before : Option Char} {stages : List Stage},
      ¬ OpenAtEnd stages → readStages offset before [] stages cs = .ok result →
      ∃ chain, result = stages ++ chain ∧ Tiled (bracketLength '[') before cs chain := by
  intro cs
  induction hlength : cs.length using Nat.strongRecOn generalizing cs with
  | ind length ih =>
    intro offset before stages hclosed h
    obtain ⟨gap, after, rfl, hgap, hafter⟩ := exists_gap h
    obtain ⟨before', hread⟩ := hgap.readStages stages offset []
    rw [hread] at h
    rcases hafter with rfl | ⟨u, rest, rfl, hwritten, hcut⟩
    · rw [readStages, List.append_nil, List.reverse_reverse, addPlain_eq] at h
      rw [List.append_nil]
      exact ⟨_, (Except.ok.inj h).symm, Tiled.last hgap⟩
    · obtain ⟨offset'', hiff⟩ :=
        OperatorUse.readStages_cut hwritten hcut (offset + byteLength gap) before'
          (gap.reverse ++ []) stages
      obtain ⟨stages', hpushes, hrest⟩ := (hiff result).1 h
      rw [List.append_nil, List.reverse_reverse, addPlain_eq] at hpushes
      have hshort : rest.length < length := hlength ▸ u.length_rest_lt gap rest
      generalize hbase : stages ++ plainStages gap = base at hpushes
      cases hpushes with
      | @stage _ s argument gives =>
        obtain ⟨chain, rfl, htiled⟩ := ih _ hshort rfl
          (not_openAtEnd_concat fun target => gives.ne_plain target none) hrest
        refine ⟨plainStages gap ++ s :: chain, ?_,
          Tiled.operator hgap hwritten hcut argument gives htiled⟩
        rw [← hbase, List.append_assoc, List.append_assoc, List.singleton_append]
      | @action init a target op =>
        obtain ⟨chain, rfl, htiled⟩ := ih _ hshort rfl (not_openAtEnd_concat (by simp)) hrest
        by_cases hblank : trim gap = []
        · rw [plainStages, if_pos hblank, List.append_nil] at hbase
          exact absurd ⟨init, target, hbase⟩ hclosed
        · rw [plainStages, if_neg hblank] at hbase
          obtain ⟨rfl, hlast⟩ := List.append_inj' hbase rfl
          obtain ⟨rfl, -⟩ := Stage.plain.inj (List.singleton_inj.1 hlast)
          refine ⟨_, ?_, Tiled.action hgap hwritten op hblank htiled⟩
          rw [List.append_assoc, List.singleton_append]

/-! ## How far brackets reach -/

section Extent

variable {extent extent' : List Char → Nat}

theorem Piece.congr {before : Option Char} {p after : List Char}
    (h : Piece extent before p after)
    (heq : ∀ rest, '[' :: rest <:+ p ++ after → extent rest = extent' rest) :
    Piece extent' before p after := by
  cases h with
  | escape c after => exact Piece.escape c after
  | backslash => exact Piece.backslash
  | string opens length => exact Piece.string opens length
  | quote opens alone => exact Piece.quote opens alone
  | brackets length =>
    exact Piece.brackets ((heq _ (List.suffix_refl _)).symm.trans length)
  | parens length => exact Piece.parens length
  | char slash quote bracket opening closing =>
    exact Piece.char slash quote bracket opening closing

/-- **A gap depends only on how far the brackets of its text reach.** -/
theorem Gap.congr {before : Option Char} {gap after : List Char} (h : Gap extent before gap after)
    (heq : ∀ rest, '[' :: rest <:+ gap ++ after → extent rest = extent' rest) :
    Gap extent' before gap after := by
  induction h with
  | nil before after => exact Gap.nil before after
  | @piece before p gap after piece noOperator more ih =>
    rw [List.append_assoc] at heq
    exact Gap.piece (piece.congr heq) noOperator
      (ih fun rest hrest => heq rest (hrest.trans (List.suffix_append ..)))
  | @native before u gap after written stays more ih =>
    rw [List.append_assoc] at heq
    exact Gap.native written stays
      (ih fun rest hrest => heq rest (hrest.trans (List.suffix_append ..)))

/-- **Which stages tile a text depends only on how far its brackets reach.** -/
theorem Tiled.congr {before : Option Char} {cs : List Char} {chain : List Stage}
    (h : Tiled extent before cs chain)
    (heq : ∀ rest, '[' :: rest <:+ cs → extent rest = extent' rest) :
    Tiled extent' before cs chain := by
  induction h with
  | last plain =>
    refine Tiled.last (plain.congr ?_)
    rwa [List.append_nil]
  | @operator before gap rest u s chain plain written cut argument gives more ih =>
    refine Tiled.operator (plain.congr heq) written cut argument gives (ih fun cs hcs => ?_)
    rw [← List.append_assoc] at heq
    exact heq cs (hcs.trans (List.suffix_append ..))
  | @action before gap rest u a chain plain written op nonblank more ih =>
    refine Tiled.action (plain.congr heq) written op nonblank (ih fun cs hcs => ?_)
    rw [← List.append_assoc] at heq
    exact heq cs (hcs.trans (List.suffix_append ..))

end Extent

/-- How far a bracket reaches when escapes are heeded in it as elsewhere: what follows a backslash
neither closes the bracket nor opens a string. -/
def escapingBracketLength (before : Char) (cs : List Char) : Nat :=
  match cs with
  | [] => 0
  | c :: rest =>
    if c = '\\' then
      match rest with
      | [] => 1
      | e :: rest => escapingBracketLength e rest + 2
    else if isQuote c then
      match stringLength? (some before) c rest with
      | some n => escapingBracketLength c (rest.drop n) + n + 1
      | none => escapingBracketLength c rest + 1
    else if c = ']' then 1
    else escapingBracketLength c rest + 1
termination_by cs.length
decreasing_by
  all_goals simp only [List.length_drop, List.length_cons]; omega

theorem escapingBracketLength_cons {c : Char} (h : c ≠ '\\') (before : Char) (rest : List Char) :
    escapingBracketLength before (c :: rest) =
      if isQuote c then
        match stringLength? (some before) c rest with
        | some n => escapingBracketLength c (rest.drop n) + n + 1
        | none => escapingBracketLength c rest + 1
      else if c = ']' then 1
      else escapingBracketLength c rest + 1 := by
  rw [escapingBracketLength.eq_def]
  exact if_neg h

/-- Without a backslash there is nothing to heed. -/
theorem bracketLength_eq_escaping {before : Char} {cs : List Char} (h : '\\' ∉ cs) :
    bracketLength before cs = escapingBracketLength before cs := by
  fun_induction bracketLength before cs with
  | case1 => rw [escapingBracketLength]
  | case2 before c rest hquote n hn ih =>
    obtain ⟨hslash, hrest⟩ := not_or.1 (mt List.mem_cons.2 h)
    rw [escapingBracketLength_cons (Ne.symm hslash), if_pos hquote, hn,
      ih fun hmem => hrest (List.mem_of_mem_drop hmem)]
  | case3 before c rest hquote hn ih =>
    obtain ⟨hslash, hrest⟩ := not_or.1 (mt List.mem_cons.2 h)
    rw [escapingBracketLength_cons (Ne.symm hslash), if_pos hquote, hn, ih hrest]
  | case4 before rest hquote =>
    rw [escapingBracketLength_cons (by decide), if_neg hquote, if_pos rfl]
  | case5 before c rest hquote hclose ih =>
    obtain ⟨hslash, hrest⟩ := not_or.1 (mt List.mem_cons.2 h)
    rw [escapingBracketLength_cons (Ne.symm hslash), if_neg hquote, if_neg hclose, ih hrest]

/-! ## Selectors -/

/-- A text is read from its start exactly when stages tile it. -/
theorem readStages_eq_ok_iff {cs : List Char} {chain : List Stage} :
    readStages 0 none [] [] cs = .ok chain ↔ Tiled (bracketLength '[') none cs chain := by
  constructor
  · intro h
    obtain ⟨stages, rfl, htiled⟩ := exists_tiled not_openAtEnd_nil h
    exact htiled
  · exact fun h => h.readStages 0 []

/-- A selector that is no pattern is read exactly when stages tile it, and there are some. -/
theorem readSelector_eq_ok_iff {cs : List Char} (htrim : trim cs = cs)
    (hpattern : regexBody? cs = none) (chain : Chain) :
    readSelector cs = .ok chain ↔ chain ≠ [] ∧ Tiled (bracketLength '[') none cs chain := by
  rw [readSelector, ← readStages_eq_ok_iff]
  simp only [htrim, hpattern]
  by_cases hempty : cs = []
  · subst hempty
    have hnil : readStages 0 none [] [] [] = .ok [] := by
      rw [readStages]
      rfl
    rw [hnil]
    constructor
    · intro h
      cases h
    · rintro ⟨hne, h⟩
      exact absurd (Except.ok.inj h).symm hne
  · rw [if_neg (mt List.isEmpty_iff.1 hempty)]
    constructor
    · intro h
      obtain ⟨stages, hread, hif⟩ := bind_eq_ok_iff.1 h
      split_ifs at hif with hnone
      obtain rfl := Except.ok.inj hif
      exact ⟨mt List.isEmpty_iff.2 hnone, hread⟩
    · rintro ⟨hne, hread⟩
      exact bind_eq_ok_iff.2 ⟨chain, hread, if_neg (mt List.isEmpty_iff.1 hne)⟩

/-- **The chain of a selector tiles its text**: a text without blanks at its ends that is no pattern
is read exactly when there are stages that tile it, and as these.  The brackets end where the reader
ends them; if that is where they end with escapes heeded, the stages tile the text in this sense as
well. -/
theorem parseSelector_tiled {text : String} (htrim : trim text.toList = text.toList)
    (hpattern : regexBody? text.toList = none) (chain : Chain) :
    (parseSelector text = .ok chain ↔
      chain ≠ [] ∧ Tiled (bracketLength '[') none text.toList chain) ∧
    ((∀ rest, '[' :: rest <:+ text.toList →
        bracketLength '[' rest = escapingBracketLength '[' rest) →
      (parseSelector text = .ok chain ↔
        chain ≠ [] ∧ Tiled (escapingBracketLength '[') none text.toList chain)) := by
  have hread := readSelector_eq_ok_iff htrim hpattern chain
  refine ⟨hread, fun hsame => hread.trans (and_congr_right fun _ => ?_)⟩
  constructor
  · exact fun h => h.congr hsame
  · exact fun h => h.congr fun rest hrest => (hsame rest hrest).symm

/-- A selector with a marker in a string, a `:not(…)` that stays in the CSS and an action. -/
theorem italics_removed_tiled :
    trim "p[a=\":not(\"]:not(.b) i:remove():has(u)".toList =
        "p[a=\":not(\"]:not(.b) i:remove():has(u)".toList ∧
      regexBody? "p[a=\":not(\"]:not(.b) i:remove():has(u)".toList = none ∧
      (∀ rest, '[' :: rest <:+ "p[a=\":not(\"]:not(.b) i:remove():has(u)".toList →
        bracketLength '[' rest = escapingBracketLength '[' rest) ∧
      parseSelector "p[a=\":not(\"]:not(.b) i:remove():has(u)" =
        .ok [.plain (.css "p[a=\":not(\"]:not(.b) i") (some .remove), .has [.css "u"]] := by
  have htrim : trim "p[a=\":not(\"]:not(.b) i:remove():has(u)".toList =
      "p[a=\":not(\"]:not(.b) i:remove():has(u)".toList := by decide
  have hpattern : regexBody? "p[a=\":not(\"]:not(.b) i:remove():has(u)".toList = none := by decide
  have hsame : ∀ rest, '[' :: rest <:+ "p[a=\":not(\"]:not(.b) i:remove():has(u)".toList →
      bracketLength '[' rest = escapingBracketLength '[' rest := fun rest hrest =>
    bracketLength_eq_escaping fun hslash =>
      absurd (hrest.subset (List.mem_cons_of_mem _ hslash)) (by decide)
  have hlength : escapingBracketLength '[' ("a=\":not(\"]".toList ++
      ((":not(.b)".toList ++ " i".toList) ++ ":remove():has(u)".toList)) = 10 := by
    simp [escapingBracketLength, isQuote, stringLength?, closingQuote?, isAsciiAlnum, isAscii,
      isAsciiLetter, isAsciiDigit]
  have hb : readSelector (trim ".b".toList) = .ok [.css ".b"] :=
    readSelector_ordinary (List.all_eq_true.1 (by decide)) (by decide)
  have hu : readSelector (trim "u".toList) = .ok [.css "u"] :=
    readSelector_ordinary (List.all_eq_true.1 (by decide)) (by decide)
  -- The gap before the action, from its end: ordinary text, a `:not(…)` that stays, a bracket.
  have hend : ∀ before, Gap (escapingBracketLength '[') before (" i".toList ++ [])
      ":remove():has(u)".toList :=
    Gap.ordinary (fun before => Gap.nil before _) (List.all_eq_true.1 (by decide))
  have hnot : ∀ before, Gap (escapingBracketLength '[') before
      (OperatorUse.text ⟨":not(", .not, ".b".toList⟩ ++ (" i".toList ++ []))
      ":remove():has(u)".toList := fun before =>
    Gap.native ⟨by decide, by simp [closingParen?, isQuote]⟩
      ⟨Or.inl rfl, ⟨".b", hb⟩, by decide, by decide⟩ (hend _)
  have hgap : Gap (escapingBracketLength '[') none
      ("p".toList ++ (('[' :: "a=\":not(\"]".toList) ++
        (OperatorUse.text ⟨":not(", .not, ".b".toList⟩ ++ (" i".toList ++ []))))
      ":remove():has(u)".toList :=
    Gap.ordinary (fun before => Gap.piece (Piece.brackets hlength)
      (operatorAt?_eq_none (by decide) _) (hnot _)) (List.all_eq_true.1 (by decide)) none
  have hhas : Tiled (escapingBracketLength '[') (some ')')
      ([] ++ (OperatorUse.text ⟨":has(", .has, "u".toList⟩ ++ []))
      (plainStages [] ++ .has [.css "u"] :: plainStages []) :=
    Tiled.operator (Gap.nil _ _) ⟨by decide, by simp [closingParen?, isQuote]⟩
      (fun hstays => hstays.more rfl) (by decide) (OperatorUse.Gives.has rfl hu)
      (Tiled.last (Gap.nil _ _))
  have htiled : Tiled (escapingBracketLength '[') none
      "p[a=\":not(\"]:not(.b) i:remove():has(u)".toList
      [.plain (.css "p[a=\":not(\"]:not(.b) i") (some .remove), .has [.css "u"]] :=
    Tiled.action (u := ⟨":remove(", .act .remove, []⟩) hgap
      ⟨by decide, by simp [closingParen?, isQuote]⟩ rfl (by decide) hhas
  exact ⟨htrim, hpattern, hsame,
    ((parseSelector_tiled htrim hpattern _).2 hsame).2 ⟨List.cons_ne_nil _ _, htiled⟩⟩

/-! ## A bracket with an escaped quote -/

/-- One plain stage without action is a gap up to the end. -/
theorem Tiled.gap_of_css {extent : List Char → Nat} {before : Option Char} {cs : List Char}
    {css : String} (h : Tiled extent before cs [.css css]) : Gap extent before cs [] := by
  generalize hchain : [Stage.css css] = chain at h
  cases h with
  | last plain => exact plain
  | @operator _ gap rest u s stages plain written cut argument gives more =>
    rw [plainStages] at hchain
    split_ifs at hchain
    · rw [List.nil_append] at hchain
      exact absurd (List.cons.inj hchain).1.symm (gives.ne_plain _ _)
    · cases (List.cons.inj hchain).2
  | action plain written op nonblank more =>
    exact absurd (List.cons.inj hchain).1 (by simp [Stage.css])

theorem Piece.extent_eq {extent : List Char → Nat} {before : Option Char} {body after : List Char}
    (h : Piece extent before ('[' :: body) after) : extent (body ++ after) = body.length := by
  cases h with
  | string opens length => cases opens
  | quote opens alone => cases opens
  | brackets length => exact length
  | char slash quote bracket opening closing => exact absurd rfl bracket

/-- A gap that begins with a bracket goes on where the bracket ends. -/
theorem Gap.after_brackets {extent : List Char → Nat} {before : Option Char}
    {body gap after : List Char} (hlength : extent (body ++ (gap ++ after)) = body.length)
    (h : Gap extent before ('[' :: (body ++ gap)) after) :
    ∃ before', Gap extent before' gap after := by
  generalize hcs : '[' :: (body ++ gap) = cs at h
  cases h with
  | nil => cases hcs
  | @piece _ p gap' _ piece noOperator more =>
    obtain ⟨c, taken, rfl⟩ := piece.exists_cons
    obtain rfl := (List.cons.inj hcs).1
    have htext : body ++ gap = taken ++ gap' := (List.cons.inj hcs).2
    have htaken : body.length = taken.length := by
      rw [← hlength, ← piece.extent_eq, ← List.append_assoc, htext, List.append_assoc]
    obtain ⟨-, rfl⟩ := List.append_inj htext htaken
    exact ⟨_, more⟩
  | @native _ u gap' _ written stays more =>
    obtain ⟨name, hname, -⟩ := exists_colon_cons written.listed
    rw [OperatorUse.text, hname] at hcs
    cases (List.cons.inj hcs).1

/-- A gap that begins with an operator begins with a native one. -/
theorem Gap.native_of_operatorAt? {extent : List Char → Nat} {before : Option Char}
    {gap after : List Char} {m : String × Operator} (h : Gap extent before gap after)
    (hgap : gap ≠ []) (hop : operatorAt? (gap ++ after) = some m) :
    m.1 = ":not(" ∨ m.1 = ":has(" := by
  cases h with
  | nil => exact absurd rfl hgap
  | piece piece noOperator more =>
    rw [List.append_assoc, noOperator] at hop
    cases hop
  | native written stays more =>
    rw [List.append_assoc, OperatorUse.operatorAt?_text written] at hop
    rw [← Option.some.inj hop]
    exact stays.native

/-- **An escaped quote in a bracket opens a string for the reader**, which so loses the operator
after the bracket. -/
theorem escaped_quote_swallows :
    parseSelector "[a=\\\"]:has-text(\"win\")" = .ok [.css "[a=\\\"]:has-text(\"win\")"] ∧
      ¬ Tiled (escapingBracketLength '[') none "[a=\\\"]:has-text(\"win\")".toList
        [.css "[a=\\\"]:has-text(\"win\")"] := by
  constructor
  · have hlength : bracketLength '[' "a=\\\"]:has-text(\"win\")".toList = 21 := by
      simp [bracketLength, isQuote, stringLength?, closingQuote?, isAsciiAlnum, isAscii,
        isAsciiLetter, isAsciiDigit]
    have hplain : plainLength? none '[' "a=\\\"]:has-text(\"win\")".toList = some 21 := by
      rw [plainLength?, if_neg (by decide), if_neg (by decide), if_pos rfl, hlength]
    have hmeets : Meets none "[a=\\\"]:has-text(\"win\")".toList [] :=
      Meets.pass (operatorAt?_eq_none (by decide) _) hplain (Meets.here _ _)
    have htrim : trim "[a=\\\"]:has-text(\"win\")".toList =
        "[a=\\\"]:has-text(\"win\")".toList := by decide
    rw [parseSelector, readSelector_plain (htrim ▸ hmeets) (by decide) (by decide), htrim,
      String.ofList_toList]
  · intro h
    have hlength : escapingBracketLength '['
        ("a=\\\"]".toList ++ (":has-text(\"win\")".toList ++ [])) = "a=\\\"]".toList.length := by
      simp [escapingBracketLength, isQuote]
    have hbracket : Gap (escapingBracketLength '[') none
        ('[' :: ("a=\\\"]".toList ++ ":has-text(\"win\")".toList)) [] := h.gap_of_css
    obtain ⟨before, hgap⟩ := hbracket.after_brackets hlength
    have hop : operatorAt? (":has-text(\"win\")".toList ++ []) =
        some (":has-text(", .contains) := by decide
    exact absurd (hgap.native_of_operatorAt? (by decide) hop) (by decide)

end PageGuard
