import PageGuard.Proofs.Css.Appended
import PageGuard.Proofs.Page.Places
import PageGuard.Proofs.Selector.Reading
import PageGuard.Proofs.Selector.Visits

/-!
# A native `:not(…)` that is cut off

The reader cuts a `:not(…)` at the end of a selector off its CSS and makes it a stage that takes
away what its argument finds on the whole page.

* `MemoryPage.evaluate_css_not`: what the two stages find.
* `parseSelector_kept`, `parseSelector_cut`: the two ways to read a selector `css:not(arg)`.
* `cut_not_iff`: when its chain finds what its text finds as CSS; after a cut, exactly when no
  element matches both the argument and one of the selectors before the last comma of `css`.
-/

namespace PageGuard

open Markup Text

/-- Whether an element matches the CSS of a text; none matches a text that is no list of
selectors. -/
def Css.textMatches (css : String) (q : Place) : Bool :=
  (Css.ofText? css).any fun selectors => Css.Selector.anyMatches selectors q

namespace MemoryPage

theorem query_eq_ok {css : String} {selectors : List Css.Selector}
    (h : Css.ofText? css = some selectors) (p : MemoryPage) :
    p.query css = .ok (p.found (Css.Selector.anyMatches selectors)) := by
  rw [query, readCss, h]
  rfl

/-- Bad CSS finds nothing. -/
theorem find_css (css : String) (p : MemoryPage) :
    (Target.css css).find p = .ok (p.found (Css.textMatches css)) := by
  have hquery : Document.query p css = p.query css := rfl
  rw [Target.find]
  simp only [hquery]
  cases h : Css.ofText? css with
  | some selectors =>
    have hmatches : Css.textMatches css = Css.Selector.anyMatches selectors := by
      funext q
      rw [Css.textMatches, h, Option.any_some]
    rw [query_eq_ok h, hmatches]
  | none =>
    have hnone : p.found (Css.textMatches css) = [] := by
      rw [found, List.map_eq_nil_iff, List.filter_eq_nil_iff]
      intro q _
      rw [Css.textMatches, h]
      exact Bool.false_ne_true
    rw [query, readCss, h, hnone]
    rfl

/-- A plain stage finds what its CSS finds. -/
theorem seed_css (css : String) (p : MemoryPage) :
    (Stage.css css).seed p = (.ok (p.found (Css.textMatches css)), p) := by
  have hask : Visit.ask (Target.css css).find p = (.ok (p.found (Css.textMatches css)), p) := by
    rw [Visit.ask, find_css]
  rw [Stage.css, Stage.seed, Visit.bind_ok hask]
  rfl

/-- A chain of one plain stage finds what its CSS finds. -/
theorem evaluate_css (css : String) (p : MemoryPage) :
    Stage.evaluate [.css css] p = (.ok (p.found (Css.textMatches css)), p) := by
  rw [Stage.evaluate, Visit.bind_ok (seed_css css p)]
  rfl

/-- **A negation after a plain stage keeps what the first CSS finds and the second does not.** -/
theorem evaluate_css_not (css excluded : String) {p : MemoryPage}
    (hnodup : (p.heldPlaces.map Place.key).Nodup) :
    Stage.evaluate [.css css, .not [.css excluded]] p =
      (.ok (p.found fun q => Css.textMatches css q && !Css.textMatches excluded q), p) := by
  have hfilter := filter_notMem_found hnodup (Css.textMatches css) (Css.textMatches excluded)
  rw [Stage.evaluate, Visit.bind_ok (seed_css css p), Stage.narrowAll]
  split_ifs with hempty
  · rw [List.isEmpty_iff.1 hempty, List.filter_nil] at hfilter
    rw [← hfilter]
    rfl
  · have hnarrow : (Stage.not [.css excluded]).narrow (p.found (Css.textMatches css)) p =
        (.ok (p.found fun q => Css.textMatches css q && !Css.textMatches excluded q), p) := by
      rw [Stage.narrow, Visit.bind_ok (evaluate_css excluded p), ← hfilter]
      rfl
    rw [Visit.bind_ok hnarrow]
    rfl

end MemoryPage

/-! ## Selectors that end in a native `:not(…)` -/

/-- The selector with a native `:not(…)` after it. -/
def withNot (css arg : String) : String := css ++ ":not(" ++ arg ++ ")"

theorem toList_withNot (css arg : String) :
    (withNot css arg).toList = css.toList ++ notText arg.toList := by
  simp [withNot, notText, String.toList_append]

/-- The `:not(…)` at the end is the only operator to which the reader of selectors comes, and its
argument is plain CSS. -/
structure EndsInNot (css arg : String) : Prop where
  argument : operatorText? (arg.toList ++ [')']) = some ⟨arg.toList, []⟩
  plain : Meets none (trim arg.toList) []
  noPattern : regexBody? (trim arg.toList) = none
  notBlank : trim arg.toList ≠ []
  only : ∀ target, Meets none (trimStart css.toList ++ notText arg.toList) target →
    operatorAt? target ≠ none → target = notText arg.toList

/-- The reader passes over the whole selector. -/
def KeepsNot (css arg : String) : Prop :=
  Meets none (trimStart css.toList ++ notText arg.toList) []

/-- The reader comes to the `:not(…)` at the end. -/
def CutsNot (css arg : String) : Prop :=
  Meets none (trimStart css.toList ++ notText arg.toList) (notText arg.toList)

theorem CutsNot.of_ordinary {css : String} (h : ∀ c ∈ css.toList, isOrdinary c = true)
    (arg : String) : CutsNot css arg :=
  Meets.ordinary _ (fun c hc => h c (mem_of_mem_trimStart hc)) none

/-- Ordinary text before and in a `:not(…)` holds no other operator. -/
theorem EndsInNot.of_ordinary {css arg : String} (hcss : ∀ c ∈ css.toList, isOrdinary c = true)
    (harg : ∀ c ∈ arg.toList, isOrdinary c = true) (hne : trim arg.toList ≠ []) :
    EndsInNot css arg where
  argument := operatorText?_ordinary harg
  plain := Meets.ordinary_nil fun c hc => harg c (mem_of_mem_trim hc)
  noPattern := regexBody?_ordinary fun c hc => harg c (mem_of_mem_trim hc)
  notBlank := hne
  only target hmeets hop := by
    obtain ⟨before, hstop⟩ :=
      hmeets.of_ordinary hop fun c hc => hcss c (mem_of_mem_trimStart hc)
    cases hstop with
    | here => rfl
    | pass plain =>
      exact absurd ((operatorAt?_not (arg.toList ++ [')'])).symm.trans plain)
        (Option.some_ne_none _)

/-- A `:not(…)` that the reader passes over stays in the CSS. -/
theorem parseSelector_kept {css arg : String} (hkept : KeepsNot css arg) :
    parseSelector (withNot css arg) = .ok [.css (trimmed (withNot css arg))] := by
  rw [parseSelector, trimmed, toList_withNot]
  exact readSelector_kept hkept

/-- A `:not(…)` to which the reader comes is cut off. -/
theorem parseSelector_cut {css arg : String} (h : EndsInNot css arg) (hcut : CutsNot css arg) :
    parseSelector (withNot css arg) =
      .ok (addPlain css.toList [] ++ [.not [.css (trimmed arg)]]) := by
  rw [parseSelector, toList_withNot]
  exact readSelector_cut h.argument h.plain h.noPattern h.notBlank hcut

/-- What a selector finds whose `:not(…)` is cut off. -/
theorem evaluate_withNot (css arg : String) {p : MemoryPage}
    (hnodup : (p.heldPlaces.map Place.key).Nodup) :
    evaluate (addPlain css.toList [] ++ [.not [.css (trimmed arg)]]) p =
      (.ok (p.found fun q => Css.textMatches (trimmed css) q &&
        !Css.textMatches (trimmed arg) q), p) := by
  rw [evaluate, addPlain]
  split_ifs with hblank
  · have hnone (q : Place) : Css.textMatches (trimmed css) q = false := by
      rw [trimmed, List.isEmpty_iff.1 hblank]
      rfl
    have hfound : (p.found fun q => Css.textMatches (trimmed css) q &&
        !Css.textMatches (trimmed arg) q) = [] := by
      rw [MemoryPage.found, List.map_eq_nil_iff, List.filter_eq_nil_iff]
      intro q _
      rw [hnone]
      exact Bool.false_ne_true
    rw [hfound]
    rfl
  · exact MemoryPage.evaluate_css_not (trimmed css) (trimmed arg) hnodup

/-- The texts of a list of selectors and of an argument that keep their tokens when one is put into
a `:not(…)` after the other: brackets are closed, and no white space ends them. -/
structure Css.Separate (css arg : String) (left excluded : List Css.Selector) : Prop where
  tokens : Css.tokens (withNot css arg).toList = Css.tokens css.toList ++
    .colon :: .function "not" :: (Css.tokens arg.toList ++ [.closeParen])
  left : Css.ofText? css = some left
  leftEnd : Css.NoSpaceEnd (Css.tokens css.toList)
  leftLevels : Css.levels (Css.tokens css.toList) = 0
  leftTrimmed : trimmed css = css
  excluded : Css.ofText? arg = some excluded
  excludedEnd : Css.NoSpaceEnd (Css.tokens arg.toList)
  excludedLevels : Css.levels (Css.tokens arg.toList) = 0
  excludedTrimmed : trimmed arg = arg

/-- The selector is read, and its chain finds what its text finds as CSS. -/
def SameAsCss (text : String) (page : MemoryPage) : Prop :=
  ∃ chain, parseSelector text = .ok chain ∧ (evaluate chain page).1 = page.query text

/-- A selector whose chain finds the elements that pass a test finds what its text finds as CSS
exactly when the test and the CSS agree on every element. -/
theorem sameAsCss_iff {text html : String} {chain : Chain} {selectors : List Css.Selector}
    {test : Place → Bool} (hparse : parseSelector text = .ok chain)
    (hvalid : Css.ofText? text = some selectors)
    (hfound : (evaluate chain (MemoryPage.ofText html)).1 =
      .ok ((MemoryPage.ofText html).found test)) :
    SameAsCss text (MemoryPage.ofText html) ↔
      ∀ q ∈ (MemoryPage.ofText html).allPlaces,
        test q = Css.Selector.anyMatches selectors q := by
  have hagree : (evaluate chain (MemoryPage.ofText html)).1 =
      (MemoryPage.ofText html).query text ↔
        ∀ q ∈ (MemoryPage.ofText html).allPlaces,
          test q = Css.Selector.anyMatches selectors q := by
    rw [hfound, MemoryPage.query_eq_ok hvalid, Except.ok.injEq,
      MemoryPage.found_eq_found_iff (MemoryPage.nodup_keys_heldPlaces_ofText html)]
    simp only [(MemoryPage.ofText html).heldPlaces_perm.mem_iff]
  rw [← hagree]
  constructor
  · rintro ⟨chain', hparse', hsame⟩
    obtain rfl := Except.ok.inj (hparse.symm.trans hparse')
    exact hsame
  · exact fun hsame => ⟨chain, hparse, hsame⟩

section Cutting

variable {css arg : String} {selectors : List Css.Selector}

theorem sameAsCss_kept (hvalid : Css.ofText? (withNot css arg) = some selectors)
    (hkept : KeepsNot css arg) (html : String) :
    SameAsCss (withNot css arg) (MemoryPage.ofText html) ↔
      ∀ q ∈ (MemoryPage.ofText html).allPlaces,
        Css.textMatches (trimmed (withNot css arg)) q = Css.Selector.anyMatches selectors q := by
  refine sameAsCss_iff (parseSelector_kept hkept) hvalid ?_
  rw [evaluate, MemoryPage.evaluate_css]

theorem sameAsCss_cut (h : EndsInNot css arg)
    (hvalid : Css.ofText? (withNot css arg) = some selectors) (hcut : CutsNot css arg)
    (html : String) :
    SameAsCss (withNot css arg) (MemoryPage.ofText html) ↔
      ∀ q ∈ (MemoryPage.ofText html).allPlaces,
        (Css.textMatches (trimmed css) q && !Css.textMatches (trimmed arg) q) =
          Css.Selector.anyMatches selectors q := by
  refine sameAsCss_iff (parseSelector_cut h hcut) hvalid ?_
  rw [evaluate_withNot css arg (MemoryPage.nodup_keys_heldPlaces_ofText html)]

/-- **When a `:not(…)` may be cut off.**  For a selector that ends in its one operator, a native
`:not(…)`, the chain finds what the CSS finds exactly when the reader gets to the end of the
selector or to the `:not(…)` and the two agree on every element.  When the text before the `:not(…)`
is no CSS, as a blank text and one that ends in a combinator, a cut changes nothing only if the CSS
finds nothing; when the texts before it and in it are lists of selectors of their own, only if no
element matches both the argument and one of the selectors before the last one. -/
theorem cut_not_iff (h : EndsInNot css arg)
    (hvalid : Css.ofText? (withNot css arg) = some selectors) (html : String) :
    let page := MemoryPage.ofText html
    (SameAsCss (withNot css arg) page ↔
      (KeepsNot css arg ∧ ∀ q ∈ page.allPlaces,
        Css.textMatches (trimmed (withNot css arg)) q = Css.Selector.anyMatches selectors q) ∨
      (CutsNot css arg ∧ ∀ q ∈ page.allPlaces,
        (Css.textMatches (trimmed css) q && !Css.textMatches (trimmed arg) q) =
          Css.Selector.anyMatches selectors q)) ∧
    (CutsNot css arg →
      (Css.ofText? (trimmed css) = none →
        (SameAsCss (withNot css arg) page ↔
          ∀ q ∈ page.allPlaces, Css.Selector.anyMatches selectors q = false)) ∧
      ∀ left excluded, Css.Separate css arg left excluded → ∃ init last, left = init ++ [last] ∧
        (SameAsCss (withNot css arg) page ↔ ∀ q ∈ page.allPlaces,
          ¬(Css.Selector.anyMatches init q = true ∧
            Css.Selector.anyMatches excluded q = true))) := by
  intro page
  refine ⟨⟨?_, ?_⟩, fun hcut => ⟨fun hnone => ?_, fun left excluded hseparate => ?_⟩⟩
  · intro hsame
    obtain ⟨chain, hparse, -⟩ := id hsame
    rw [parseSelector, toList_withNot] at hparse
    rcases meets_of_readSelector h.only hparse with hkept | hcut
    · exact Or.inl ⟨hkept, (sameAsCss_kept hvalid hkept html).1 hsame⟩
    · exact Or.inr ⟨hcut, (sameAsCss_cut h hvalid hcut html).1 hsame⟩
  · rintro (⟨hkept, hagree⟩ | ⟨hcut, hagree⟩)
    · exact (sameAsCss_kept hvalid hkept html).2 hagree
    · exact (sameAsCss_cut h hvalid hcut html).2 hagree
  · rw [sameAsCss_cut h hvalid hcut]
    refine forall₂_congr fun q _ => ?_
    rw [Css.textMatches, hnone, Option.any_none, Bool.false_and, eq_comm]
  · obtain ⟨init, last, hleft, htext⟩ := Css.ofText?_not hseparate.tokens hseparate.left
      hseparate.leftEnd hseparate.leftLevels hseparate.excluded hseparate.excludedEnd
      hseparate.excludedLevels
    obtain rfl := Option.some.inj (hvalid.symm.trans htext)
    refine ⟨init, last, hleft, ?_⟩
    rw [sameAsCss_cut h hvalid hcut]
    refine forall₂_congr fun q _ => ?_
    rw [hseparate.leftTrimmed, hseparate.excludedTrimmed, Css.textMatches, Css.textMatches,
      hseparate.left, hseparate.excluded, Option.any_some, Option.any_some, hleft,
      Css.anyMatches_append, Css.anyMatches_refine_not, Css.Selector.anyMatches,
      Css.Selector.anyMatches, Bool.or_false]
    cases Css.Selector.anyMatches init q <;> cases Css.Selector.anyMatches excluded q <;>
      cases last.matches q <;> simp

end Cutting

/-- A compound selector and a class: the `:not(…)` may be cut off. -/
theorem cut_div_not_x :
    SameAsCss (withNot "div" ".x") (MemoryPage.ofText "<div class=x></div>") := by
  have hcss : ∀ c ∈ "div".toList, isOrdinary c = true :=
    List.all_eq_true.1 (by decide)
  have harg : ∀ c ∈ ".x".toList, isOrdinary c = true :=
    List.all_eq_true.1 (by decide)
  have hends : EndsInNot "div" ".x" := EndsInNot.of_ordinary hcss harg (by decide)
  have hvalid : (Css.ofText? (withNot "div" ".x")).isSome = true := by decide +kernel
  obtain ⟨selectors, hselectors⟩ := Option.isSome_iff_exists.1 hvalid
  have hseparate : Css.Separate "div" ".x" [.compound [.type "div"]] [.compound [.class "x"]] :=
    { tokens := rfl
      left := rfl
      leftEnd := by rw [Css.NoSpaceEnd]; decide
      leftLevels := rfl
      leftTrimmed := rfl
      excluded := rfl
      excludedEnd := by rw [Css.NoSpaceEnd]; decide
      excludedLevels := rfl
      excludedTrimmed := rfl }
  have hcut := (cut_not_iff hends hselectors "<div class=x></div>").2
    (CutsNot.of_ordinary hcss ".x")
  obtain ⟨init, last, hleft, hsame⟩ := hcut.2 _ _ hseparate
  obtain rfl : init = [] := by
    cases init with
    | nil => rfl
    | cons S init => simp at hleft
  exact hsame.2 fun q _ hboth => Bool.false_ne_true hboth.1

/-- A list of two selectors: cutting the `:not(…)` off takes an element away that the CSS finds. -/
theorem cut_div_p_not_x : EndsInNot "div, p" ".x" ∧ CutsNot "div, p" ".x" ∧
    (Css.ofText? (withNot "div, p" ".x")).isSome = true ∧
      ¬SameAsCss (withNot "div, p" ".x") (MemoryPage.ofText "<div class=x></div>") := by
  have hcss : ∀ c ∈ "div, p".toList, isOrdinary c = true :=
    List.all_eq_true.1 (by decide)
  have harg : ∀ c ∈ ".x".toList, isOrdinary c = true :=
    List.all_eq_true.1 (by decide)
  have hends : EndsInNot "div, p" ".x" := EndsInNot.of_ordinary hcss harg (by decide)
  have hcut : CutsNot "div, p" ".x" := CutsNot.of_ordinary hcss ".x"
  have hvalid : (Css.ofText? (withNot "div, p" ".x")).isSome = true := by decide +kernel
  obtain ⟨selectors, hselectors⟩ := Option.isSome_iff_exists.1 hvalid
  refine ⟨hends, hcut, hvalid, fun hsame => ?_⟩
  have hdiffer : ∃ q ∈ (MemoryPage.ofText "<div class=x></div>").allPlaces,
      (Css.textMatches (trimmed "div, p") q && !Css.textMatches (trimmed ".x") q) = false ∧
        Css.textMatches (withNot "div, p" ".x") q = true := by decide +kernel
  obtain ⟨q, hq, hleft, hwhole⟩ := hdiffer
  have hagree := (sameAsCss_cut hends hselectors hcut "<div class=x></div>").1 hsame q hq
  rw [Css.textMatches, hselectors, Option.any_some] at hwhole
  rw [hleft, hwhole] at hagree
  cases hagree

end PageGuard
