import PageGuard.Pattern.CharSet
import PageGuard.Proofs.Rules.Decompile
import Mathlib.Order.Bounds.Basic

/-!
# Where a rule is cut

The text of a rule is cut at the first place where a separator stands.  The same cut is described
by the pattern `^(.*?)(#\?#|##)(.*)$`, whose groups are the domain, the separator and the selector.

* `firstSeparator?_eq_some_iff`, `firstSeparator?_eq_none_iff`: the cut by its position.
* `GroupPattern`: patterns with groups, and the ways in which they match, the preferred ones first.
* `captures?_separatorPattern`: the groups of the pattern are the parts of the cut.
* `splitRule_least`: what splitting a rule gives.
-/

namespace PageGuard

open Text

/-! ## Positions of separators -/

/-- The separator stands at a position of a text. -/
def SelectorKind.StandsAt (kind : SelectorKind) (cs : List Char) (i : Nat) : Prop :=
  kind.token.toList <+: cs.drop i

/-- The positions of a text at which a separator stands. -/
def separatorPositions (cs : List Char) : Set Nat :=
  {i | ∃ kind : SelectorKind, kind.StandsAt cs i}

theorem separatorAt?_eq_some_iff {cs rest : List Char} {k : SelectorKind} :
    separatorAt? cs = some (k, rest) ↔ cs = k.token.toList ++ rest :=
  ⟨separatorAt?_eq_some, fun h => h ▸ separatorAt?_token k rest⟩

theorem zero_mem_separatorPositions_iff {cs : List Char} :
    0 ∈ separatorPositions cs ↔ separatorAt? cs ≠ none := by
  constructor
  · rintro ⟨k, rest, hrest⟩
    have hcut : cs = k.token.toList ++ rest := hrest.symm
    rw [separatorAt?_eq_some_iff.2 hcut]
    exact Option.some_ne_none _
  · intro h
    obtain ⟨⟨k, rest⟩, hsome⟩ := Option.ne_none_iff_exists'.1 h
    exact ⟨k, rest, (separatorAt?_eq_some hsome).symm⟩

theorem succ_mem_separatorPositions_iff {c : Char} {cs : List Char} {i : Nat} :
    i + 1 ∈ separatorPositions (c :: cs) ↔ i ∈ separatorPositions cs := Iff.rfl

theorem separatorPositions_nil : separatorPositions [] = ∅ := by
  refine Set.eq_empty_of_forall_notMem fun i ⟨k, hk⟩ => ?_
  rw [SelectorKind.StandsAt, List.drop_nil, List.prefix_nil] at hk
  cases k <;> simp [SelectorKind.token] at hk

/-- **There is no cut exactly when no separator stands anywhere.** -/
theorem firstSeparator?_eq_none_iff {cs : List Char} :
    firstSeparator? cs = none ↔ separatorPositions cs = ∅ := by
  induction cs with
  | nil => exact iff_of_true rfl separatorPositions_nil
  | cons c cs ih =>
    rw [firstSeparator?, Set.eq_empty_iff_forall_notMem]
    cases hat : separatorAt? (c :: cs) with
    | some p =>
      refine iff_of_false (Option.some_ne_none _) fun h => h 0 ?_
      rw [zero_mem_separatorPositions_iff, hat]
      exact Option.some_ne_none _
    | none =>
      rw [Option.map_eq_none_iff, ih, Set.eq_empty_iff_forall_notMem]
      constructor
      · rintro h (_ | i)
        · rw [zero_mem_separatorPositions_iff, hat]
          exact fun hne => hne rfl
        · exact h i
      · exact fun h i => h (i + 1)

/-- **A cut is made at the least position at which a separator stands.** -/
theorem firstSeparator?_eq_some_iff {cs before rest : List Char} {k : SelectorKind} :
    firstSeparator? cs = some (before, k, rest) ↔
      cs = before ++ (k.token.toList ++ rest) ∧ IsLeast (separatorPositions cs) before.length := by
  induction cs generalizing before with
  | nil =>
    refine iff_of_false (Option.some_ne_none _).symm fun h => ?_
    exact (separatorPositions_nil ▸ h.2.1 : before.length ∈ (∅ : Set Nat))
  | cons c cs ih =>
    rw [firstSeparator?]
    cases hat : separatorAt? (c :: cs) with
    | some p =>
      obtain ⟨k', rest'⟩ := p
      have hcut := separatorAt?_eq_some hat
      have hzero : 0 ∈ separatorPositions (c :: cs) := ⟨k', rest', hcut.symm⟩
      simp only [Option.some.injEq, Prod.mk.injEq]
      constructor
      · rintro ⟨rfl, rfl, rfl⟩
        exact ⟨hcut, hzero, fun _ _ => Nat.zero_le _⟩
      · rintro ⟨heq, hleast⟩
        have hnil : before = [] := List.eq_nil_of_length_eq_zero (Nat.le_zero.1 (hleast.2 hzero))
        subst hnil
        rw [List.nil_append, ← separatorAt?_eq_some_iff, hat, Option.some.injEq,
          Prod.mk.injEq] at heq
        exact ⟨rfl, heq.1, heq.2⟩
    | none =>
      have hzero : 0 ∉ separatorPositions (c :: cs) := by
        rw [zero_mem_separatorPositions_iff, hat]
        exact fun hne => hne rfl
      rw [Option.map_eq_some_iff]
      constructor
      · rintro ⟨⟨before', k', rest'⟩, hcs, heq⟩
        simp only [Prod.mk.injEq] at heq
        obtain ⟨rfl, rfl, rfl⟩ := heq
        obtain ⟨hcut, hmem, hlower⟩ := ih.1 hcs
        refine ⟨congrArg (c :: ·) hcut, hmem, ?_⟩
        rintro (_ | i) hi
        · exact absurd hi hzero
        · exact Nat.succ_le_succ (hlower hi)
      · rintro ⟨hcut, hmem, hlower⟩
        cases before with
        | nil => exact absurd hmem hzero
        | cons d before =>
          obtain ⟨rfl, htail⟩ := List.cons.inj hcut
          refine ⟨(before, k, rest), ih.2 ⟨htail, hmem, fun i hi => ?_⟩, rfl⟩
          exact Nat.le_of_succ_le_succ (hlower (succ_mem_separatorPositions_iff.2 hi))

/-! ## Patterns with groups -/

/-- A pattern whose groups are numbered. -/
inductive GroupPattern where
  | textStart
  | textEnd
  | literal (text : List Char)
  /-- Any number of characters of a set: the longest run is preferred if `greedy`, and the shortest
  one otherwise. -/
  | many (set : Pattern.CharSet) (greedy : Bool)
  | cat (a b : GroupPattern)
  /-- The first choice is preferred. -/
  | alt (a b : GroupPattern)
  | group (index : Nat) (a : GroupPattern)

namespace GroupPattern

/-- A place in a text. -/
structure Place where
  before : List Char
  rest : List Char
deriving DecidableEq

/-- The texts of groups by their numbers. -/
abbrev Groups := List (Nat × List Char)

/-- The places to which a run of characters of a set leads, the nearest ones first. -/
def runs (set : Pattern.CharSet) : List Char → List Char → List Place
  | before, [] => [⟨before, []⟩]
  | before, c :: rest =>
    ⟨before, c :: rest⟩ :: if set.mem c then runs set (before ++ [c]) rest else []

/-- The ways in which a pattern matches from a place on: where the match ends, and what its groups
hold.  The preferred ways come first. -/
def ways : GroupPattern → Place → List (Place × Groups)
  | textStart, p => if p.before.isEmpty then [(p, [])] else []
  | textEnd, p => if p.rest.isEmpty then [(p, [])] else []
  | literal text, p =>
    match afterStart? text p.rest with
    | some rest => [(⟨p.before ++ text, rest⟩, [])]
    | none => []
  | many set greedy, p =>
    let ends := runs set p.before p.rest
    (if greedy then ends.reverse else ends).map fun q => (q, [])
  | cat a b, p => (a.ways p).flatMap fun (q, gs) => (b.ways q).map fun (r, hs) => (r, gs ++ hs)
  | alt a b, p => a.ways p ++ b.ways p
  | group index a, p =>
    (a.ways p).map fun (q, gs) => (q, (index, q.before.drop p.before.length) :: gs)

/-- The groups of the leftmost match, in the preferred one of its ways.  The search goes on from a
place in the text. -/
def captures? (a : GroupPattern) (before : List Char) : List Char → Option Groups
  | [] => (a.ways ⟨before, []⟩).head?.map Prod.snd
  | c :: rest =>
    match (a.ways ⟨before, c :: rest⟩).head? with
    | some way => some way.2
    | none => captures? a (before ++ [c]) rest

/-- The text of a group. -/
def groupText? (index : Nat) (groups : Groups) : Option (List Char) :=
  (groups.find? fun g => g.1 = index).map Prod.snd

end GroupPattern

open GroupPattern

/-- What follows the domain in the pattern of a rule: `(#\?#|##)(.*)$`. -/
def separatorAndSelector : GroupPattern :=
  .cat (.group 2 (.alt (.literal SelectorKind.extended.token.toList)
    (.literal SelectorKind.hide.token.toList)))
    (.cat (.group 3 (.many .notNewline true)) .textEnd)

/-- The pattern of a rule: `^(.*?)(#\?#|##)(.*)$`. -/
def separatorPattern : GroupPattern :=
  .cat .textStart (.cat (.group 1 (.many .notNewline false)) separatorAndSelector)

/-- Splits the text of a rule by the groups of its pattern. -/
def splitByPattern (text : String) : Except RuleIssue RuleParts :=
  match separatorPattern.captures? [] text.toList with
  | none => .error (.noSeparator text)
  | some groups =>
    match groupText? 1 groups, groupText? 2 groups, groupText? 3 groups with
    | some domain, some separator, some selector =>
      match SelectorKind.ofToken? (.ofList separator) with
      | none => .error (.noSeparator text)
      | some kind =>
        if selector.isEmpty then .error (.emptySelector text)
        else
          .ok {
            domain := if domain.isEmpty then "*" else .ofList domain
            kind
            selector := .ofList selector }
    | _, _, _ => .error (.noSeparator text)

/-! ## The groups of the pattern of a rule -/

theorem mem_notNewline_iff {c : Char} : Pattern.CharSet.notNewline.mem c = true ↔ c ≠ '\n' := by
  simp only [Pattern.CharSet.notNewline, Pattern.CharSet.single, Pattern.CharSet.mem,
    Bool.not_eq_true', Bool.and_eq_false_iff, decide_eq_false_iff_not, ne_eq]
  rw [← not_and_or, ← le_antisymm_iff, eq_comm]

/-- The one run of characters without a line feed that reaches the end of a text. -/
theorem filter_runs (before rest : List Char) :
    (runs .notNewline before rest).filter (fun q => q.rest.isEmpty) =
      if '\n' ∈ rest then [] else [⟨before ++ rest, []⟩] := by
  induction rest generalizing before with
  | nil => rw [runs, List.append_nil]; rfl
  | cons c rest ih =>
    rw [runs, List.filter_cons_of_neg Bool.false_ne_true]
    by_cases hc : c = '\n'
    · rw [if_neg fun h => mem_notNewline_iff.1 h hc, hc, if_pos (List.mem_cons_self ..)]
      rfl
    · rw [if_pos (mem_notNewline_iff.2 hc), ih, List.append_assoc, List.singleton_append]
      simp only [List.mem_cons, Ne.symm hc, false_or]

/-- A pattern at whose end the text must end as well. -/
theorem ways_cat_textEnd (a : GroupPattern) (p : Place) :
    (cat a .textEnd).ways p = (a.ways p).filter fun way => way.1.rest.isEmpty := by
  rw [ways]
  induction a.ways p with
  | nil => rfl
  | cons way rest ih =>
    obtain ⟨q, gs⟩ := way
    rw [List.flatMap_cons, ih]
    cases hq : q.rest.isEmpty with
    | true => simp [ways, hq]
    | false => simp [ways, hq]

/-- The last part of the pattern takes all that is left, if this has no line feed. -/
theorem ways_selector (p : Place) :
    (cat (.group 3 (.many .notNewline true)) .textEnd).ways p =
      if '\n' ∈ p.rest then [] else [(⟨p.before ++ p.rest, []⟩, [(3, p.rest)])] := by
  have hgroup : (group 3 (.many .notNewline true)).ways p =
      (runs .notNewline p.before p.rest).reverse.map fun q =>
        (q, [(3, q.before.drop p.before.length)]) := by
    simp only [ways, if_true, List.map_map, Function.comp_def]
  rw [ways_cat_textEnd, hgroup, List.filter_map, List.filter_reverse]
  have hends := filter_runs p.before p.rest
  simp only [Function.comp_def]
  rw [hends]
  split_ifs
  · rfl
  · simp

/-- Of the two separators, the one that stands at a place is found, and no other one does. -/
theorem ways_separator (p : Place) :
    (alt (.literal SelectorKind.extended.token.toList)
        (.literal SelectorKind.hide.token.toList)).ways p =
      match separatorAt? p.rest with
      | some (kind, rest) => [(⟨p.before ++ kind.token.toList, rest⟩, [])]
      | none => [] := by
  rw [ways, ways, ways, separatorAt?]
  cases hextended : afterStart? SelectorKind.extended.token.toList p.rest with
  | none => cases afterStart? SelectorKind.hide.token.toList p.rest <;> rfl
  | some rest =>
    have hat : separatorAt? p.rest = some (.extended, rest) := by rw [separatorAt?, hextended]
    have hhide : afterStart? SelectorKind.hide.token.toList p.rest = none := by
      rw [separatorAt?_eq_some hat]
      simp [afterStart?, SelectorKind.token]
    rw [hhide]
    rfl

/-- The separator and the selector of the pattern stand where a separator does, and take all that
is left. -/
theorem ways_separatorAndSelector (p : Place) :
    separatorAndSelector.ways p =
      match separatorAt? p.rest with
      | some (kind, rest) =>
        if '\n' ∈ rest then []
        else [(⟨p.before ++ p.rest, []⟩, [(2, kind.token.toList), (3, rest)])]
      | none => [] := by
  rw [separatorAndSelector, ways, ways, ways_separator]
  cases hat : separatorAt? p.rest with
  | none => rfl
  | some found =>
    obtain ⟨kind, rest⟩ := found
    simp only [List.map_cons, List.map_nil, List.flatMap_cons, List.flatMap_nil, List.append_nil,
      ways_selector, List.drop_left]
    rw [separatorAt?_eq_some hat, ← List.append_assoc]
    split_ifs
    · rfl
    · rfl

theorem newline_mem_token_append {kind : SelectorKind} {rest : List Char} :
    '\n' ∈ kind.token.toList ++ rest ↔ '\n' ∈ rest := by
  cases kind <;> simp [SelectorKind.token]

/-- The groups that a cut stands for: the domain, the separator and the selector. -/
def cutGroups (cut : List Char × SelectorKind × List Char) : Groups :=
  [(1, cut.1), (2, cut.2.1.token.toList), (3, cut.2.2)]

/-- The domain of the pattern grows until a separator stands behind it. -/
theorem head?_ways_domain (before cs : List Char) :
    (((runs .notNewline before cs).flatMap fun q =>
        (separatorAndSelector.ways q).map fun way => (1, q.before) :: way.2).head?) =
      if '\n' ∈ cs then none
      else (firstSeparator? cs).map fun cut => cutGroups (before ++ cut.1, cut.2) := by
  -- The domain so far varies, since each step adds one character to it.
  induction cs generalizing before with
  | nil =>
    rw [runs, List.flatMap_singleton, ways_separatorAndSelector]
    rfl
  | cons c cs ih =>
    rw [runs, List.flatMap_cons, ways_separatorAndSelector, firstSeparator?]
    by_cases hc : c = '\n'
    · subst hc
      have hat : separatorAt? ('\n' :: cs) = none := by
        simp [separatorAt?, afterStart?, SelectorKind.token]
      rw [if_neg fun h => mem_notNewline_iff.1 h rfl, if_pos (List.mem_cons_self ..), hat]
      rfl
    · have hline : '\n' ∈ c :: cs ↔ '\n' ∈ cs := by
        rw [List.mem_cons, or_iff_right (Ne.symm hc)]
      rw [if_pos (mem_notNewline_iff.2 hc)]
      cases hat : separatorAt? (c :: cs) with
      | none =>
        simp only [hline, List.map_nil, List.nil_append, ih, Option.map_map]
        congr 2
        funext cut
        simp [cutGroups]
      | some found =>
        obtain ⟨kind, rest⟩ := found
        have hrest : '\n' ∈ rest ↔ '\n' ∈ cs := by
          rw [← hline, separatorAt?_eq_some hat, newline_mem_token_append]
        simp only [hline, hrest]
        split_ifs with hnewline
        · simp only [List.map_nil, List.nil_append, ih, if_pos hnewline]
        · simp [cutGroups]

/-- A match that begins at the start of the text begins nowhere else. -/
theorem captures?_cat_textStart_of_ne_nil (a : GroupPattern) {before : List Char}
    (hbefore : before ≠ []) (cs : List Char) : (cat .textStart a).captures? before cs = none := by
  have hways (before cs : List Char) (hbefore : before ≠ []) :
      (cat .textStart a).ways ⟨before, cs⟩ = [] := by
    have hstart : textStart.ways ⟨before, cs⟩ = [] :=
      if_neg fun h => hbefore (List.isEmpty_iff.1 h)
    rw [ways, hstart, List.flatMap_nil]
  induction cs generalizing before with
  | nil => rw [captures?, hways before [] hbefore]; rfl
  | cons c cs ih =>
    rw [captures?, hways before (c :: cs) hbefore]
    exact ih (List.append_ne_nil_of_left_ne_nil hbefore _)

theorem captures?_cat_textStart (a : GroupPattern) (cs : List Char) :
    (cat .textStart a).captures? [] cs = (a.ways ⟨[], cs⟩).head?.map Prod.snd := by
  have hways : (cat .textStart a).ways ⟨[], cs⟩ = a.ways ⟨[], cs⟩ := by
    simp [ways]
  cases cs with
  | nil => rw [captures?, hways]
  | cons c cs =>
    have hlater : (cat .textStart a).captures? ([] ++ [c]) cs = none :=
      captures?_cat_textStart_of_ne_nil a (List.cons_ne_nil c []) cs
    rw [captures?, hways, hlater]
    cases (a.ways ⟨[], c :: cs⟩).head? <;> rfl

/-- **The groups of the pattern of a rule are the parts of the first cut.**  A text with a line feed
does not match. -/
theorem captures?_separatorPattern (cs : List Char) :
    separatorPattern.captures? [] cs =
      if '\n' ∈ cs then none else (firstSeparator? cs).map cutGroups := by
  have hfirst := head?_ways_domain [] cs
  have hgroups : ((cat (.group 1 (.many .notNewline false)) separatorAndSelector).ways
      ⟨[], cs⟩).head?.map Prod.snd =
        ((runs .notNewline [] cs).flatMap fun q =>
          (separatorAndSelector.ways q).map fun way => (1, q.before) :: way.2).head? := by
    rw [← List.head?_map, ways, List.map_flatMap]
    simp [ways, List.flatMap_map, Function.comp_def]
  rw [separatorPattern, captures?_cat_textStart, hgroups, hfirst]
  rfl

/-- **Splitting by the pattern is splitting at the first separator.** -/
theorem splitByPattern_eq (text : String) : splitByPattern text = splitRule text := by
  rw [splitByPattern, splitRule, captures?_separatorPattern]
  by_cases hline : '\n' ∈ text.toList
  · rw [if_pos hline, if_pos hline]
  · rw [if_neg hline, if_neg hline]
    cases hcut : firstSeparator? text.toList with
    | none => rfl
    | some parts =>
      obtain ⟨domain, kind, selector⟩ := parts
      simp only [Option.map_some, cutGroups, groupText?]
      cases selector <;> simp [SelectorKind.ofToken?_token]

/-! ## Splitting a rule -/

/-- What splitting makes of a cut. -/
theorem splitRule_of_cut {text : String} {domain selector : List Char} {kind : SelectorKind}
    (hline : '\n' ∉ text.toList)
    (hcut : firstSeparator? text.toList = some (domain, kind, selector)) :
    splitRule text =
      if selector = [] then .error (.emptySelector text)
      else .ok ⟨if domain.isEmpty then "*" else .ofList domain, kind, .ofList selector⟩ := by
  rw [splitRule, if_neg hline, hcut]
  cases selector <;> rfl

/-- A text that cannot be split has no separator or no selector. -/
theorem splitRule_eq_error {text : String} {issue : RuleIssue} (h : splitRule text = .error issue) :
    issue = .noSeparator text ∨ issue = .emptySelector text := by
  rw [splitRule] at h
  split_ifs at h with hline
  · exact Or.inl (Except.error.inj h).symm
  · split at h
    · exact Or.inl (Except.error.inj h).symm
    · exact Or.inr (Except.error.inj h).symm
    · cases h

/-- **Where the text of a rule is split.**  A text with a line feed has no separator.  Otherwise let
`k` be the least position at which `##` or `#?#` stands.  If there is none the text has no
separator, if nothing follows the one at `k` it has no selector, and else it is split there: what
stands before is the domain, which is `*` for `k = 0`, and what follows is the selector.  So the
parts make up the text, and no separator begins before the one that splits it.  The same parts are
the groups of the leftmost match of `^(.*?)(#\?#|##)(.*)$`. -/
theorem splitRule_least (text : String) :
    let cs := text.toList
    let after (kind : SelectorKind) (k : Nat) := cs.drop (k + kind.token.toList.length)
    splitByPattern text = splitRule text ∧
      ('\n' ∈ cs → splitRule text = .error (.noSeparator text)) ∧
      ('\n' ∉ cs → separatorPositions cs = ∅ → splitRule text = .error (.noSeparator text)) ∧
      ('\n' ∉ cs → ∀ kind k, IsLeast (separatorPositions cs) k →
        SelectorKind.StandsAt kind cs k →
          splitRule text =
            if after kind k = [] then .error (.emptySelector text)
            else .ok ⟨if k = 0 then "*" else .ofList (cs.take k), kind, .ofList (after kind k)⟩) ∧
      ∀ parts, splitRule text = .ok parts →
        ∃ k, IsLeast (separatorPositions cs) k ∧ parts.kind.StandsAt cs k ∧
          (k = 0 → parts.domain = "*") ∧
          (if k = 0 then "" else parts.domain) ++ parts.kind.token ++ parts.selector = text := by
  intro cs after
  refine ⟨splitByPattern_eq text, fun hline => if_pos hline, fun hline hnone => ?_,
    fun hline kind k hleast hstands => ?_, fun parts hparts => ?_⟩
  · rw [splitRule, if_neg hline, firstSeparator?_eq_none_iff.2 hnone]
  · obtain ⟨rest, hrest⟩ := hstands
    have hle : k ≤ cs.length := by
      by_contra hlt
      rw [List.drop_eq_nil_of_le (Nat.le_of_not_le hlt)] at hrest
      cases kind <;> simp [SelectorKind.token] at hrest
    have hlength : (cs.take k).length = k := List.length_take_of_le hle
    have hcut : firstSeparator? cs = some (cs.take k, kind, rest) := by
      refine firstSeparator?_eq_some_iff.2 ⟨?_, hlength.symm ▸ hleast⟩
      rw [hrest, List.take_append_drop]
    have hafter : after kind k = rest := by
      have hdrop : after kind k = (cs.drop k).drop kind.token.toList.length := List.drop_drop.symm
      rw [hdrop, ← hrest, List.drop_left]
    have hempty : (cs.take k).isEmpty = true ↔ k = 0 := by
      rw [List.isEmpty_iff, ← List.length_eq_zero_iff, hlength]
    rw [splitRule_of_cut hline hcut, hafter]
    simp only [hempty]
  · obtain ⟨hline, before, rest, hcut, -, hselector, hdomain⟩ := splitRule_eq_ok hparts
    obtain ⟨htext, hleast⟩ := firstSeparator?_eq_some_iff.1 hcut
    refine ⟨before.length, hleast, ⟨rest, ?_⟩, fun hzero => ?_, ?_⟩
    · have hcs : cs = before ++ (parts.kind.token.toList ++ rest) := htext
      rw [hcs, List.drop_left]
    · rw [hdomain, List.eq_nil_of_length_eq_zero hzero]
      rfl
    · have hstart : (if before.length = 0 then "" else parts.domain).toList = before := by
        cases before with
        | nil => rfl
        | cons c before =>
          have hne : (c :: before).length ≠ 0 := Nat.succ_ne_zero before.length
          rw [if_neg hne, hdomain, List.isEmpty_cons, if_neg Bool.false_ne_true,
            String.toList_ofList]
      refine String.toList_injective ?_
      rw [String.toList_append, String.toList_append, hstart, hselector, String.toList_ofList,
        List.append_assoc, ← htext]

end PageGuard
