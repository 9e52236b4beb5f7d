import PageGuard.Proofs.Page.Reachable
import PageGuard.Proofs.Selector.Narrowing
import PageGuard.Proofs.Selector.Negation

/-!
# A plain stage seeds, filters and is negated alike

As the first stage of a chain a plain stage asks the whole page, as a later one it asks the elements
one by one, and in a negation what it finds on the whole page is taken away.  On a page in memory
these are three ways to ask whether an element is among those that its CSS finds.

* `MemoryPage.elementMatches_eq`: an element matches exactly when it is found.
* `MemoryPage.narrow_css`, `MemoryPage.narrow_not_css`: what a plain stage keeps and what its negation
  keeps.
* `MemoryPage.plain_stages_agree`: chains of two stages, in either order.
-/

namespace PageGuard

/-- A chain of two stages that leave the document as it is. -/
theorem evaluate_pair {D N : Type} [Document D N] [DecidableEq N] {s t : Stage} {d : D}
    {found kept : List N} (hs : s.seed d = (.ok found, d))
    (ht : t.narrow found d = (.ok kept, d)) : evaluate [s, t] d = (.ok kept, d) := by
  rw [evaluate, Stage.evaluate, Visit.bind_ok hs, Stage.narrowAll]
  split_ifs with hempty
  · have hkept : kept.Sublist found := Stage.narrow_sublist (d := d) (by rw [ht])
    rw [List.isEmpty_iff.1 hempty, List.sublist_nil] at hkept
    rw [hkept]
    rfl
  · rw [Visit.bind_ok ht, Stage.narrowAll]
    rfl

namespace MemoryPage

open Markup Markup.Node

variable {p : MemoryPage}

/-- The elements that something holds have distinct keys. -/
theorem Reachable.nodup_keys_heldPlaces (h : Reachable p) :
    (p.heldPlaces.map Place.key).Nodup :=
  MemoryPage.nodup_keys_heldPlaces h.nodup_allKeys h.isElement

/-- A plain stage alone finds what its CSS finds. -/
theorem answer_css (css : String) (p : MemoryPage) :
    (evaluate [.css css] p).1 = .ok (p.found (Css.textMatches css)) :=
  congrArg Prod.fst (evaluate_css css p)

/-- Nothing is found twice. -/
theorem Reachable.nodup_found (h : Reachable p) (f : Place → Bool) : (p.found f).Nodup := by
  have hkeys : ((p.heldPlaces.filter f).map Place.key).Nodup :=
    h.nodup_keys_heldPlaces.sublist (List.filter_sublist.map Place.key)
  have hfound : p.found f = ((p.heldPlaces.filter f).map Place.key).map Handle.element := by
    rw [found, List.map_map]
    rfl
  rw [hfound]
  exact hkeys.map fun _ _ => Handle.element.inj

/-- What a CSS text finds is held by something. -/
theorem found_subset_made (p : MemoryPage) (f : Place → Bool) : p.found f ⊆ p.made :=
  List.map_subset _ List.filter_sublist.subset

/-- **An element that something holds matches a CSS text exactly when the text finds it.** -/
theorem elementMatches_eq (h : Reachable p) {css : String} (hcss : (Css.ofText? css).isSome = true)
    {e : Handle} (he : e ∈ p.made) :
    p.elementMatches e css = .ok (decide (e ∈ p.found (Css.textMatches css))) := by
  obtain ⟨q, hq, rfl⟩ := List.mem_map.1 he
  obtain ⟨selectors, hselectors⟩ := Option.isSome_iff_exists.1 hcss
  have hread : readCss css = .ok selectors := by rw [readCss, hselectors]
  have hmatches : Css.textMatches css q = Css.Selector.anyMatches selectors q := by
    rw [Css.textMatches, hselectors, Option.any_some]
  have hany : p.elementMatches (.element q.key) css =
      .ok ((p.place? q.key).any (Css.Selector.anyMatches selectors)) := by
    rw [elementMatches, hread, Except.map]
  rw [hany, place?_of_mem h.nodup_allKeys hq, Option.any_some, ← hmatches]
  simp only [element_mem_found_iff h.nodup_keys_heldPlaces hq, Bool.decide_eq_true]

/-- **A plain stage keeps the elements that its CSS finds.** -/
theorem narrow_css (h : Reachable p) {css : String} (hcss : (Css.ofText? css).isSome = true)
    {elements : List Handle} (helements : elements ⊆ p.made) :
    (Stage.css css).narrow elements p =
      (.ok (elements.filter fun e => e ∈ p.found (Css.textMatches css)), p) := by
  have hask : Visit.ask (fun d => filterExcept ((Target.css css).hits d) elements) p =
      (.ok (elements.filter fun e => e ∈ p.found (Css.textMatches css)), p) := by
    rw [Visit.ask, ← filterExcept_ok, Prod.mk.injEq]
    exact ⟨filterExcept_congr fun e he => elementMatches_eq h hcss (helements he), rfl⟩
  rw [Stage.css, Stage.narrow, Visit.bind_ok hask]
  rfl

/-- **The negation of a plain stage keeps the elements that its CSS does not find.** -/
theorem narrow_not_css (p : MemoryPage) (css : String) (elements : List Handle) :
    (Stage.not [.css css]).narrow elements p =
      (.ok (elements.filter fun e => e ∉ p.found (Css.textMatches css)), p) := by
  rw [Stage.narrow, Visit.bind_ok (evaluate_css css p)]
  rfl

/-- What an XPath leads to is held by something. -/
theorem xpathElements_subset_made (p : MemoryPage) (expression : String) :
    xpathElements expression p ⊆ p.made := by
  intro e he
  have hquery : Document.queryXPath p expression = p.queryXPath expression := rfl
  rw [xpathElements, hquery, queryXPath] at he
  cases hpath : XPath.Path.ofText expression with
  | error _ => rw [hpath] at he; exact absurd he List.not_mem_nil
  | ok path =>
    rw [hpath] at he
    obtain ⟨x, hx, rfl⟩ := List.mem_map.1 he
    have hkey : x.key ∈ keysOf p.nodes := List.mem_map_of_mem (XPath.evaluate_subset _ path hx)
    rw [← placesIn_keys .page [] [] p.nodes] at hkey
    obtain ⟨q, hq, hkey⟩ := List.mem_map.1 hkey
    rw [← hkey]
    exact List.mem_map_of_mem (List.mem_mergeSort.2 (List.mem_append_left _ hq))

/-- **A plain stage means the same as a first stage, as a later one and in a negation.**  Of two plain
stages it does not matter which one comes first; the elements that the first one finds fall into those
that the second one finds as well, which it keeps, and the others, which its negation keeps, both in
the order in which they were found; and it does not matter to the set of what is found whether a plain
stage stands before an XPath or behind it. -/
theorem plain_stages_agree (h : Reachable p) {a b : String}
    (ha : (Css.ofText? a).isSome = true) (hb : (Css.ofText? b).isSome = true) (x : String) :
    (evaluate [.css a, .css b] p).1 = (evaluate [.css b, .css a] p).1 ∧
      (∃ all other both rest, (evaluate [.css a] p).1 = .ok all ∧ all.Nodup ∧
        (evaluate [.css b] p).1 = .ok other ∧
        (evaluate [.css a, .css b] p).1 = .ok both ∧
        (evaluate [.css a, .not [.css b]] p).1 = .ok rest ∧
        all.partition (fun e => e ∈ other) = (both, rest)) ∧
      ∃ first last, (evaluate [.xpath x, .css b] p).1 = .ok first ∧
        (evaluate [.css b, .xpath x] p).1 = .ok last ∧ ∀ e, e ∈ first ↔ e ∈ last := by
  have hpair (s t : String) (ht : (Css.ofText? t).isSome = true) : evaluate [.css s, .css t] p =
      (.ok ((p.found (Css.textMatches s)).filter fun e => e ∈ p.found (Css.textMatches t)), p) :=
    evaluate_pair (seed_css s p) (narrow_css h ht (found_subset_made p _))
  have hrest := evaluate_pair (seed_css a p) (narrow_not_css p b (p.found (Css.textMatches a)))
  have hfirst := evaluate_pair (s := .xpath x) rfl
    (narrow_css h hb (xpathElements_subset_made p x))
  have hlast : evaluate [.css b, .xpath x] p =
      (.ok ((p.found (Css.textMatches b)).filter fun e => e ∈ xpathElements x p), p) :=
    evaluate_pair (seed_css b p) rfl
  rw [hpair a b hb, hpair b a ha, hrest, hfirst, hlast]
  refine ⟨?_, ⟨_, _, _, _, answer_css a p, h.nodup_found _,
    answer_css b p, rfl, rfl, ?_⟩, _, _, rfl, rfl, fun e => ?_⟩
  · have hswap : (fun q => Css.textMatches a q && Css.textMatches b q) =
        fun q => Css.textMatches b q && Css.textMatches a q :=
      funext fun q => Bool.and_comm ..
    rw [filter_mem_found h.nodup_keys_heldPlaces, filter_mem_found h.nodup_keys_heldPlaces, hswap]
  · rw [List.partition_eq_filter_filter]
    simp [Function.comp_def]
  · rw [List.mem_filter, List.mem_filter, decide_eq_true_iff, decide_eq_true_iff, and_comm]

/-- Of a paragraph and the ones that a removed block beside it still holds, a class keeps one and its
negation the others. -/
theorem held_paragraphs_agree :
    let page :=
      (ofText "<p>x</p><div><p class=\"k\">y</p><p>z</p></div>").remove (.element 4)
    Reachable page ∧ (Css.ofText? "p").isSome = true ∧ (Css.ofText? ".k").isSome = true ∧
      (evaluate [.css "p", .css ".k"] page).1 = (evaluate [.css ".k", .css "p"] page).1 ∧
      (evaluate [.css "p", .css ".k"] page).1 = .ok [.element 5] ∧
      (evaluate [.css "p", .not [.css ".k"]] page).1 = .ok [.element 3, .element 6] := by
  intro page
  have hpage : Reachable page := .remove (.ofText _) (.element 4)
  have hp : (Css.ofText? "p").isSome = true := by decide +kernel
  have hk : (Css.ofText? ".k").isSome = true := by decide +kernel
  obtain ⟨hswap, ⟨all, other, both, rest, hall, -, hother, hboth, hrest, hparts⟩, -⟩ :=
    plain_stages_agree hpage hp hk "//p"
  have hheld := heldPlaces_of_ascending (p := page) (by decide +kernel)
  have hfoundAll : page.found (Css.textMatches "p") = [.element 3, .element 5, .element 6] := by
    rw [found, hheld]
    decide +kernel
  have hfoundOther : page.found (Css.textMatches ".k") = [.element 5] := by
    rw [found, hheld]
    decide +kernel
  rw [answer_css, hfoundAll, Except.ok.injEq] at hall
  rw [answer_css, hfoundOther, Except.ok.injEq] at hother
  subst hall hother
  rw [List.partition_eq_filter_filter, Prod.mk.injEq] at hparts
  obtain ⟨rfl, rfl⟩ := hparts
  exact ⟨hpage, hp, hk, hswap, hboth, hrest⟩

end MemoryPage

end PageGuard
