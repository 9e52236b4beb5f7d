import PageGuard.Proofs.Selector.Bare

/-!
# Chains are read back from their text

The text of a chain drops the blanks between its stages and opens every operator in one way.  For a
selector without quotes and escapes this changes none of the reader's decisions: the same operators
are met, and the same ones stay in the CSS around them.

* `Alike`: what the text of a chain has in common with the selector it was read from.
* `OperatorUse.Gives.exists_renders`: the text of a stage is an operator that gives it.
* `Tiled.render`: a chain tiles its own text.
* `parseSelector_renderChain`: the theorem for selectors.
-/

namespace PageGuard

open Text

/-! ## The text of a chain -/

theorem renderChain_append (a b : List Stage) :
    Stage.renderChain (a ++ b) = Stage.renderChain a ++ Stage.renderChain b := by
  induction a with
  | nil => rw [Stage.renderChain, List.nil_append, List.nil_append]
  | cons s a ih =>
    rw [List.cons_append, Stage.renderChain, Stage.renderChain, ih, List.append_assoc]

/-- The text of a plain stage without action. -/
theorem Stage.render_css (text : String) : (Stage.css text).render = text.toList := by
  rw [Stage.css, Stage.render.eq_def]
  exact List.append_nil _

/-- The stage of plain text is written as this text without the blanks at its ends. -/
theorem renderChain_plainStages (gap : List Char) :
    Stage.renderChain (plainStages gap) = trim gap := by
  rw [plainStages]
  split_ifs with h
  · rw [h, Stage.renderChain]
  · rw [Stage.renderChain, Stage.renderChain, List.append_nil, Stage.render_css,
      String.toList_ofList]

theorem plainStages_trim (gap : List Char) : plainStages (trim gap) = plainStages gap := by
  rw [plainStages, plainStages, trim_trim]

/-- What the text of a chain has in common with the text it was read from: the same ends, as many
parentheses, and no operator at its start when there was none. -/
structure Alike (r cs : List Char) : Prop where
  bare : Bare r
  head : r.head? = (trimStart cs).head?
  last : r.getLast? = (trimEnd cs).getLast?
  parens : ∀ depth, unclosed depth r = unclosed depth cs
  operator : operatorAt? r = none → operatorAt? (trimStart cs) = none
  short : cs.length < 2 → r.length < 2

namespace Alike

variable {r cs : List Char}

theorem trim_eq (h : Alike r cs) : trim r = r := trim_eq_self h.head h.last

theorem eq_nil_iff (h : Alike r cs) : r = [] ↔ trimStart cs = [] := by
  rw [← List.head?_eq_none_iff, h.head, List.head?_eq_none_iff]

/-- A text without the blanks at its ends is like the text. -/
theorem trim (hbare : Bare cs) : Alike (Text.trim cs) cs where
  bare := hbare.trim
  head := head?_trim cs
  last := getLast?_trim cs
  parens := unclosed_trim cs
  operator h := by
    by_cases hnil : trimStart cs = []
    · rw [hnil]
      rfl
    · rw [← List.append_nil (trimStart cs)]
      exact operatorAt?_eq_none_of_trimEnd hnil (Or.inl rfl) (List.prefix_refl _) h
  short h := (length_trim_le cs).trans_lt h

/-- Plain text and an operator before texts that are alike. -/
theorem append {gap rest : List Char} {u u' : OperatorUse} (h : Alike r rest) (hgap : Bare gap)
    (hu : u.Balanced) (hu' : u'.Balanced) :
    Alike (Text.trim gap ++ (u'.text ++ r)) (gap ++ (u.text ++ rest)) := by
  have hplain := Alike.trim hgap
  -- Both operators begin with a colon and end with a parenthesis.
  have hcolon {v : OperatorUse} (hv : v.Balanced) : ∃ name, v.text = ':' :: name := by
    obtain ⟨name, hname, -⟩ := exists_colon_cons hv.listed
    exact ⟨_, by rw [OperatorUse.text, hname, List.cons_append]⟩
  have hclose (v : OperatorUse) : v.text = (v.marker.toList ++ v.argument) ++ [')'] := by
    rw [OperatorUse.text, List.append_assoc]
  obtain ⟨name, hname⟩ := hcolon hu
  obtain ⟨name', hname'⟩ := hcolon hu'
  refine ⟨?_, ?_, ?_, fun depth => ?_, fun hnone => ?_, fun hshort => ?_⟩
  · rw [Bare.append_iff, Bare.append_iff]
    exact ⟨hplain.bare, hu'.bare_text, h.bare⟩
  · by_cases hblank : trimStart gap = []
    · rw [trim_eq_nil_iff.2 hblank, trimStart_append_of_blank hblank, hname, hname',
        List.cons_append, List.cons_append, trimStart_cons (by decide)]
      rfl
    · rw [trimStart_append_of_ne hblank, List.head?_append_of_ne_nil _ hblank,
        List.head?_append_of_ne_nil _ (mt trim_eq_nil_iff.1 hblank), hplain.head]
  · by_cases hblank : trimStart rest = []
    · have hend : trimEnd (gap ++ ((u.marker.toList ++ u.argument) ++ [')'])) =
          gap ++ ((u.marker.toList ++ u.argument) ++ [')']) := by
        rw [← List.append_assoc gap]
        exact trimEnd_append (by decide) _ []
      rw [h.eq_nil_iff.2 hblank, List.append_nil, ← List.append_assoc gap,
        trimEnd_append_of_blank hblank, hclose, hclose, hend, ← List.append_assoc gap,
        ← List.append_assoc (Text.trim gap), List.getLast?_concat, List.getLast?_concat]
    · rw [← List.append_assoc, ← List.append_assoc gap, trimEnd_append_of_ne hblank,
        List.getLast?_append_of_ne_nil _ (mt h.eq_nil_iff.1 hblank),
        List.getLast?_append_of_ne_nil _ (mt trimEnd_eq_nil_iff.1 hblank), h.last]
  · rw [unclosed_append, unclosed_append, hplain.parens]
    refine congrArg (Option.bind _) (funext fun d => ?_)
    rw [unclosed_append, unclosed_append, hu.unclosed_text, hu'.unclosed_text, Option.bind_some,
      Option.bind_some, h.parens]
  · by_cases hblank : trimStart gap = []
    · rw [trim_eq_nil_iff.2 hblank, List.nil_append,
        OperatorUse.operatorAt?_text (hu'.isWritten r)] at hnone
      cases hnone
    · rw [trimStart_append_of_ne hblank]
      exact operatorAt?_eq_none_of_trimEnd hblank (EndsPlain.text hu rest)
        (List.prefix_append _ (u'.text ++ r)) hnone
  · have hlong : 2 ≤ u.text.length := by
      obtain ⟨name, hmarker, -⟩ := exists_colon_cons hu.listed
      rw [OperatorUse.text, hmarker, List.length_append, List.length_append, List.length_cons,
        List.length_singleton]
      omega
    rw [List.length_append, List.length_append] at hshort
    omega

end Alike

/-! ## The text of a stage -/

namespace OperatorUse

variable {u : OperatorUse}

/-- The operator `u'` is the text of the stage `s` that `u` gives: it gives the stage again, and it
stays in the CSS only where `u` did. -/
structure Renders (u u' : OperatorUse) (s : Stage) : Prop where
  balanced : u'.Balanced
  text : u'.text = s.render
  argument : trim u'.argument ≠ []
  gives : u'.Gives s
  stays {r rest : List Char} : Alike r rest → u'.StaysInCss r → u.StaysInCss rest

/-- An operator whose argument is like the one of `u` is closed as `u` is, and it stays in the CSS
as `u` does if it has the same opening text and its argument is read alike. -/
theorem Renders.of_alike {s : Stage} (m : String × Operator) {a : List Char} (hu : u.Balanced)
    (hargument : trim u.argument ≠ []) (hm : m ∈ operators) (ha : Alike a (trim u.argument))
    (htext : OperatorUse.text ⟨m.1, m.2, a⟩ = s.render)
    (hgives : trim a = a → Gives ⟨m.1, m.2, a⟩ s)
    (hnative : m.1 = ":not(" ∨ m.1 = ":has(" →
      m.1 = u.marker ∧ readSelector (trim u.argument) = readSelector a) :
    u.Renders ⟨m.1, m.2, a⟩ s where
  balanced := ⟨hm, ha.bare, by rw [ha.parens, unclosed_trim, hu.balanced]⟩
  text := htext
  argument := by
    rw [ha.trim_eq]
    intro hnil
    rw [ha.eq_nil_iff, ← trim_eq_nil_iff, trim_trim] at hnil
    exact hargument hnil
  gives := hgives ha.trim_eq
  stays {r rest} hrest h := by
    obtain ⟨hmarker, hread⟩ := hnative h.native
    obtain ⟨css, hcss⟩ := h.plain
    have hmore := h.more
    have hnone := h.noOperator
    rw [ha.trim_eq, ← hread] at hcss
    rw [trimStart_eq_self hrest.head] at hmore hnone
    exact ⟨hmarker ▸ h.native, ⟨css, hcss⟩, mt hrest.eq_nil_iff.2 hmore, hrest.operator hnone⟩

/-- An operator that keeps the argument of `u` and never stays in the CSS. -/
theorem Renders.of_argument {s : Stage} (m : String × Operator) (hu : u.Balanced)
    (hargument : trim u.argument ≠ []) (hm : m ∈ operators)
    (hnative : ¬ (m.1 = ":not(" ∨ m.1 = ":has("))
    (htext : OperatorUse.text ⟨m.1, m.2, trim u.argument⟩ = s.render)
    (hgives : Gives ⟨m.1, m.2, trim u.argument⟩ s) : u.Renders ⟨m.1, m.2, trim u.argument⟩ s := by
  have hself := Alike.trim hu.bare.trim
  rw [trim_trim] at hself
  exact of_alike m hu hargument hm hself htext (fun _ => hgives) fun h => absurd h hnative

/-- **The text of a stage is an operator that gives the stage.** -/
theorem Gives.exists_renders {s : Stage} (h : u.Gives s) (hu : u.Balanced)
    (hargument : trim u.argument ≠ []) (hhas : u.marker ≠ ":-abp-has(")
    (hread : ∀ chain, readSelector (trim u.argument) = .ok chain →
      readSelector (Stage.renderChain chain) = .ok chain ∧
        Alike (Stage.renderChain chain) (trim u.argument)) :
    ∃ u', u.Renders u' s := by
  have hquoted := hu.bare.trim.unquoted_eq
  cases h with
  | @contains pattern op read =>
    rw [hquoted] at read ⊢
    have hgives : Gives ⟨":has-text(", .contains, trim u.argument⟩
        (.contains (.ofList (unquoted (trim (trim u.argument)))) pattern) :=
      Gives.contains rfl (by rwa [trim_trim, hquoted])
    rw [trim_trim, hquoted] at hgives
    refine ⟨_, Renders.of_argument (":has-text(", .contains) hu hargument (by decide) (by decide)
      ?_ hgives⟩
    rw [Stage.render.eq_def, OperatorUse.text]
    simp
  | properties op =>
    have hgives := Gives.properties (u := ⟨":matches-css(", .properties, trim u.argument⟩) rfl
    rw [trim_trim, hquoted] at hgives
    rw [hquoted]
    refine ⟨_, Renders.of_argument (":matches-css(", .properties) hu hargument (by decide)
      (by decide) ?_ hgives⟩
    rw [Stage.render.eq_def, OperatorUse.text]
    simp
  | xpath op =>
    have hgives := Gives.xpath (u := ⟨":xpath(", .xpath, trim u.argument⟩) rfl
    rw [trim_trim, hquoted] at hgives
    rw [hquoted]
    refine ⟨_, Renders.of_argument (":xpath(", .xpath) hu hargument (by decide) (by decide)
      ?_ hgives⟩
    rw [Stage.render.eq_def, OperatorUse.text]
    simp
  | @has chain op read =>
    obtain ⟨hagain, halike⟩ := hread chain read
    have hmarker : ∀ m ∈ operators, m.2 = .has → m.1 = ":-abp-has(" ∨ m.1 = ":has(" := by decide
    refine ⟨_, Renders.of_alike (":has(", .has) hu hargument (by decide) halike ?_
      (fun htrim => Gives.has rfl (by rwa [htrim])) fun _ =>
        ⟨((hmarker _ hu.listed op).resolve_left hhas).symm, read.trans hagain.symm⟩⟩
    rw [Stage.render.eq_def, OperatorUse.text]
    simp
  | @not chain op read =>
    obtain ⟨hagain, halike⟩ := hread chain read
    have hmarker := (op_eq_not_iff (hu.isWritten [])).1 op
    refine ⟨_, Renders.of_alike (":not(", .not) hu hargument (by decide) halike ?_
      (fun htrim => Gives.not rfl (by rwa [htrim])) fun _ =>
        ⟨hmarker.symm, read.trans hagain.symm⟩⟩
    rw [Stage.render.eq_def, OperatorUse.text]
    simp

/-- The text of an action is an operator without argument. -/
theorem exists_action_render (a : Action) :
    ∃ u : OperatorUse, u.Balanced ∧ u.op = .act a ∧ u.text = a.render := by
  cases a with
  | click => exact ⟨⟨":click(", .act .click, []⟩, ⟨by decide, List.forall_mem_nil _, rfl⟩, rfl, rfl⟩
  | remove =>
    exact ⟨⟨":remove(", .act .remove, []⟩, ⟨by decide, List.forall_mem_nil _, rfl⟩, rfl, rfl⟩

end OperatorUse

/-! ## Chains -/

section Chains

variable {n : Nat}
  (hread : ∀ cs : List Char, cs.length < n → trim cs = cs → Bare cs →
    ¬ ":-abp-has(".toList <:+: cs → ∀ chain, readSelector cs = .ok chain →
      readSelector (Stage.renderChain chain) = .ok chain ∧ Alike (Stage.renderChain chain) cs)

include hread

/-- **A chain tiles its own text**, when the chains of shorter texts are read back. -/
theorem Tiled.render {before : Option Char} {cs : List Char} {chain : List Stage}
    (h : Tiled (bracketLength '[') before cs chain) :
    cs.length ≤ n → Bare cs → ¬ ":-abp-has(".toList <:+: cs →
      (∀ before', Tiled (bracketLength '[') before' (Stage.renderChain chain) chain) ∧
        Alike (Stage.renderChain chain) cs := by
  induction h with
  | @last before gap plain =>
    intro _ hbare _
    rw [renderChain_plainStages]
    refine ⟨fun before' => ?_, Alike.trim hbare⟩
    have hgap := plain.trim (by rwa [List.append_nil]) (Or.inl rfl) (Or.inl rfl) id before'
    rw [← plainStages_trim]
    exact Tiled.last hgap
  | @operator before gap rest u s chain plain written cut argument gives more ih =>
    intro hlength hbare hhas
    obtain ⟨hgap, hu, hrest⟩ : Bare gap ∧ Bare u.text ∧ Bare rest := by
      rwa [Bare.append_iff, Bare.append_iff] at hbare
    have hbalanced := written.balanced hu
    have hpiece {x : List Char} (hx : x <:+: gap ++ (u.text ++ rest)) :
        ¬ ":-abp-has(".toList <:+: x := fun hpart => hhas (hpart.trans hx)
    have htext : u.text <:+: gap ++ (u.text ++ rest) := ⟨gap, rest, List.append_assoc ..⟩
    have hargument : u.argument <:+: u.text := ⟨u.marker.toList, [')'], List.append_assoc ..⟩
    have hmarker : u.marker ≠ ":-abp-has(" := by
      intro heq
      rw [← heq] at hpiece
      exact hpiece htext (List.prefix_append ..).isInfix
    rw [List.length_append, List.length_append] at hlength
    have hshort : (trim u.argument).length < n := by
      have htrim := length_trim_le u.argument
      have hlong : u.argument.length < u.text.length := by
        rw [OperatorUse.text, List.length_append, List.length_append, List.length_singleton]
        omega
      omega
    obtain ⟨u', hu'⟩ := gives.exists_renders hbalanced argument hmarker fun chain hchain =>
      hread _ hshort (trim_trim _) hbalanced.bare.trim
        (hpiece (((trim_isInfix _).trans hargument).trans htext)) chain hchain
    obtain ⟨htiled, halike⟩ := ih (by omega) hrest
      (hpiece ((List.suffix_append ..).trans (List.suffix_append ..)).isInfix)
    have hrender : Stage.renderChain (plainStages gap ++ s :: chain) =
        trim gap ++ (u'.text ++ Stage.renderChain chain) := by
      rw [renderChain_append, renderChain_plainStages, Stage.renderChain, hu'.text]
    rw [hrender]
    refine ⟨fun before' => ?_, halike.append hgap hbalanced hu'.balanced⟩
    have hplain := plain.trim_text hgap hrest hbalanced hu'.balanced (Stage.renderChain chain)
      before'
    rw [← plainStages_trim]
    exact Tiled.operator hplain (hu'.balanced.isWritten _) (mt (hu'.stays halike) cut)
      hu'.argument hu'.gives (htiled _)
  | @action before gap rest u a chain plain written op nonblank more ih =>
    intro hlength hbare hhas
    obtain ⟨hgap, hu, hrest⟩ : Bare gap ∧ Bare u.text ∧ Bare rest := by
      rwa [Bare.append_iff, Bare.append_iff] at hbare
    have hbalanced := written.balanced hu
    rw [List.length_append, List.length_append] at hlength
    obtain ⟨u', hu', hop, htext⟩ := OperatorUse.exists_action_render a
    obtain ⟨htiled, halike⟩ := ih (by omega) hrest fun hpart =>
      hhas (hpart.trans ((List.suffix_append ..).trans (List.suffix_append ..)).isInfix)
    have hrender : Stage.renderChain (.plain (.css (.ofList (trim gap))) (some a) :: chain) =
        trim gap ++ (u'.text ++ Stage.renderChain chain) := by
      rw [Stage.renderChain, Stage.render.eq_def, htext, ← List.append_assoc]
      simp [Target.render]
    rw [hrender]
    refine ⟨fun before' => ?_, halike.append hgap hbalanced hu'⟩
    have hplain := plain.trim_text hgap hrest hbalanced hu' (Stage.renderChain chain) before'
    have htiled' := Tiled.action hplain (hu'.isWritten _) hop (by rwa [trim_trim]) (htiled _)
    rwa [trim_trim] at htiled'

end Chains

/-! ## Selectors -/

/-- The text of a chain is no pattern when the text it was read from is none. -/
theorem Alike.regexBody?_eq_none {r cs : List Char} (h : Alike r cs) (htrim : Text.trim cs = cs)
    (hnone : regexBody? cs = none) : regexBody? r = none := by
  cases hr : regexBody? r with
  | none => rfl
  | some body =>
    have hhead := h.head
    have hlast := h.last
    rw [eq_of_regexBody?_eq_some hr, ← head?_trim, htrim, List.head?_cons] at hhead
    rw [eq_of_regexBody?_eq_some hr, ← getLast?_trim, htrim, ← List.cons_append,
      List.getLast?_concat] at hlast
    obtain ⟨rest, rfl⟩ := List.head?_eq_some_iff.1 hhead.symm
    cases rest with
    | nil =>
      have hshort := h.short (by decide)
      rw [eq_of_regexBody?_eq_some hr, List.length_cons, List.length_append,
        List.length_singleton] at hshort
      omega
    | cons c rest =>
      rw [List.getLast?_cons_cons] at hlast
      rw [regexBody?, if_pos hlast.symm] at hnone
      cases hnone

/-- **The chain of a text is read back from its own text**, which is like the text that it was read
from. -/
theorem readSelector_renderChain : ∀ {cs : List Char}, trim cs = cs → Bare cs →
    ¬ ":-abp-has(".toList <:+: cs → ∀ chain, readSelector cs = .ok chain →
      readSelector (Stage.renderChain chain) = .ok chain ∧ Alike (Stage.renderChain chain) cs := by
  intro cs
  induction hlength : cs.length using Nat.strongRecOn generalizing cs with
  | ind n ih =>
    intro htrim hbare hhas chain h
    cases hpattern : regexBody? cs with
    | none =>
      obtain ⟨hne, htiled⟩ := (readSelector_eq_ok_iff htrim hpattern chain).1 h
      obtain ⟨hback, halike⟩ := htiled.render
        (fun _ hshort htrim hbare hhas => ih _ hshort rfl htrim hbare hhas) hlength.le hbare hhas
      have hpattern' := halike.regexBody?_eq_none htrim hpattern
      exact ⟨(readSelector_eq_ok_iff halike.trim_eq hpattern' chain).2 ⟨hne, hback none⟩, halike⟩
    | some body =>
      have hcs := eq_of_regexBody?_eq_some hpattern
      have hread := h
      rw [readSelector] at hread
      simp only [htrim, hpattern] at hread
      rw [if_neg (by rw [hcs]; exact Bool.false_ne_true)] at hread
      obtain ⟨p, hp, hchain⟩ := bind_eq_ok_iff.1 hread
      have hrender : Stage.renderChain chain = cs := by
        rw [← Except.ok.inj hchain, Stage.renderChain, Stage.renderChain, Stage.render.eq_def, hcs]
        simp [Target.render, source_of_readPattern hp]
      have hself := Alike.trim hbare
      rw [htrim] at hself
      rw [hrender]
      exact ⟨h, hself⟩

/-- **A selector without quotes and escapes is read back from the text of its chain.**  The blanks
between its stages are dropped and its operators are written in one way, and the chain is the same
at every depth.  Only `:-abp-has(` is left out: it is written as `:has(`, which stays in the CSS
where the other does not. -/
theorem parseSelector_renderChain {text : String} {chain : Chain}
    (hquote : ∀ c ∈ text.toList, isQuote c = false) (hslash : '\\' ∉ text.toList)
    (hhas : ¬ ":-abp-has(".toList <:+: text.toList) (h : parseSelector text = .ok chain) :
    parseSelector (.ofList (Stage.renderChain chain)) = .ok chain := by
  have hbare : Bare text.toList := fun c hc => ⟨hquote c hc, fun heq => hslash (heq ▸ hc)⟩
  have htrim : readSelector (trim text.toList) = .ok chain := by
    rw [parseSelector, readSelector] at h
    rwa [readSelector, trim_trim]
  rw [parseSelector, String.toList_ofList]
  exact (readSelector_renderChain (trim_trim _) hbare.trim
    (fun hpart => hhas (hpart.trans (trim_isInfix _))) chain htrim).1

/-- A selector with blanks around its operators and an argument that is not kept. -/
theorem italics_removed_rendered :
    let text := "i:remove( now ) :not( .b )"
    let chain : Chain := [.plain (.css "i") (some .remove), .not [.css ".b"]]
    (∀ c ∈ text.toList, isQuote c = false) ∧ '\\' ∉ text.toList ∧
      ¬ ":-abp-has(".toList <:+: text.toList ∧ parseSelector text = .ok chain ∧
      String.ofList (Stage.renderChain chain) = "i:remove():not(.b)" ∧
      parseSelector (.ofList (Stage.renderChain chain)) = .ok chain := by
  intro text chain
  have hquote : ∀ c ∈ text.toList, isQuote c = false := by simp [text, isQuote]
  have hslash : '\\' ∉ text.toList := by decide
  have hhas : ¬ ":-abp-has(".toList <:+: text.toList := fun hpart =>
    absurd (hpart.subset (by decide : '-' ∈ ":-abp-has(".toList)) (by decide)
  have hb : readSelector (trim " .b ".toList) = .ok [.css ".b"] := by
    have htrim : trim " .b ".toList = trim ".b".toList := by decide
    rw [htrim]
    exact readSelector_ordinary (List.all_eq_true.1 (by decide)) (by decide)
  have hgap (gap : List Char) (hgap : ∀ c ∈ gap, isOrdinary c = true) (before : Option Char)
      (after : List Char) : Gap (bracketLength '[') before gap after := by
    rw [← List.append_nil gap]
    exact Gap.ordinary (fun before => Gap.nil before after) hgap before
  -- The stages from the end of the text: the `:not(…)` after a blank, then the action.
  have hnot := Tiled.operator (u := ⟨":not(", .not, " .b ".toList⟩)
    (hgap " ".toList (List.all_eq_true.1 (by decide)) (some ')') _)
    ⟨by decide, by simp [closingParen?, isQuote]⟩ (fun hstays => hstays.more rfl) (by decide)
    (OperatorUse.Gives.not rfl hb) (Tiled.last (Gap.nil _ []))
  have htiled := Tiled.action (u := ⟨":remove(", .act .remove, " now ".toList⟩) (a := .remove)
    (hgap "i".toList (List.all_eq_true.1 (by decide)) none _)
    ⟨by decide, by simp [closingParen?, isQuote]⟩ rfl (by decide) hnot
  have htext : text.toList = "i".toList ++
      (OperatorUse.text ⟨":remove(", .act .remove, " now ".toList⟩ ++
        (" ".toList ++ (OperatorUse.text ⟨":not(", .not, " .b ".toList⟩ ++ []))) := by decide
  have hi : trim "i".toList = "i".toList := by decide
  have hblank : plainStages " ".toList = [] := if_pos (by decide)
  have hnil : plainStages [] = [] := if_pos rfl
  rw [hi, hblank, hnil, ← htext, String.ofList_toList, List.nil_append] at htiled
  have hread : parseSelector text = .ok chain :=
    (readSelector_eq_ok_iff (by decide) (by decide) chain).2 ⟨List.cons_ne_nil _ _, htiled⟩
  have hrender : String.ofList (Stage.renderChain chain) = "i:remove():not(.b)" := by decide +kernel
  exact ⟨hquote, hslash, hhas, hread, hrender,
    parseSelector_renderChain hquote hslash hhas hread⟩

end PageGuard
