import PageGuard.Proofs.Navigation.Applicable
import PageGuard.Proofs.Navigation.Candidates
import PageGuard.Proofs.Selector.Negation

/-!
# Rules with ordinary selectors

A selector of ordinary text is one stage of plain CSS, so on a parsed page it neither fails nor
changes anything.

* `tryEntries_css`, `tryEntries_ordinary`: what such rules find on a page.
* `process_ordinary`: the candidates of a page on which only such rules apply are those of the
  blocking rules that match an element of it, `Database.cssCandidates`.
-/

namespace PageGuard

open Markup Text

/-- The selector is ordinary text that is not blank. -/
def Entry.hasOrdinarySelector (e : Entry) : Bool :=
  e.selector.toList.all isOrdinary && !(trim e.selector.toList).isEmpty

/-- What the selector of an entry matches when it is plain CSS. -/
def Entry.matchesPlace (e : Entry) (q : Place) : Bool := Css.textMatches (trimmed e.selector) q

theorem parseSelector_ordinary {e : Entry} (h : e.hasOrdinarySelector = true) :
    parseSelector e.selector = .ok [.css (trimmed e.selector)] := by
  rw [Entry.hasOrdinarySelector, Bool.and_eq_true, List.all_eq_true, Bool.not_eq_true',
    List.isEmpty_eq_false_iff] at h
  rw [parseSelector, trimmed]
  exact readSelector_ordinary h.1 h.2

/-- Rules with ordinary selectors find what their CSS finds, and leave a document as it is on which
CSS neither fails nor changes anything. -/
theorem tryEntries_css {D N : Type} [Document D N] [DecidableEq N] {d : D} {find : String → List N}
    (hfind : ∀ css, evaluate [.css css] d = (.ok (find css), d))
    {entries : List (RuleType × Entry)} (h : ∀ p ∈ entries, p.2.hasOrdinarySelector = true) :
    tryEntries entries d =
      (entries.map fun p => .evaluated p.1 p.2 (.ok (find (trimmed p.2.selector))), d) := by
  induction entries with
  | nil => rfl
  | cons p rest ih =>
    obtain ⟨type, entry⟩ := p
    have hparse := parseSelector_ordinary (h (type, entry) (List.mem_cons_self ..))
    have htry : tryEntry type entry d =
        (.evaluated type entry (.ok (find (trimmed entry.selector))), d) := by
      rw [tryEntry, hparse]
      dsimp only
      rw [hfind]
    have hrest := ih fun p hp => h p (List.mem_cons_of_mem _ hp)
    rw [tryEntries, htry]
    dsimp only
    rw [hrest]
    rfl

/-- Rules with ordinary selectors find what their CSS finds and leave the page as it is. -/
theorem tryEntries_ordinary (page : MemoryPage) {entries : List (RuleType × Entry)}
    (h : ∀ p ∈ entries, p.2.hasOrdinarySelector = true) :
    tryEntries entries page =
      (entries.map fun p => .evaluated p.1 p.2 (.ok (page.found p.2.matchesPlace)), page) :=
  tryEntries_css (fun css => MemoryPage.evaluate_css css page) h

/-- The candidates of the blocking rules that apply to a URL and whose CSS matches an element of the
page, in order, each once. -/
def Database.cssCandidates (rules : Database) (url html : String) : List Block :=
  (((rules.applying url).filter fun p => p.1.isPageBlock &&
    (MemoryPage.ofText html).allPlaces.any p.2.matchesPlace).map fun p =>
      p.2.block ((Url.pageHost? url).getD "") p.1).foldl enqueue []

/-- **On a page where only rules with ordinary selectors apply, the candidates are those of the
blocking rules that match an element.** -/
theorem process_ordinary {rules : Database} {url : String}
    (h : ∀ p ∈ rules.applying url, p.2.hasOrdinarySelector = true) (patterns : PatternCache)
    (html : String) :
    (process rules url patterns (MemoryPage.ofText html) ({} : Context Handle)).context.blocks =
      rules.cssCandidates url html := by
  rw [process_blocks, applicable_fst, tryEntries_ordinary _ h, List.filterMap_map,
    Database.cssCandidates, ← List.filterMap_eq_map, List.filterMap_filter]
  refine congrArg (List.foldl enqueue []) (List.filterMap_congr fun p _ => ?_)
  rw [Function.comp_apply, Trial.candidate?, MemoryPage.not_isEmpty_found]
  rfl

/-- Every rule that applies to the URL is a blocking rule with an ordinary selector that matches an
element of the page, and no two of them give the same candidate. -/
structure Database.Distinguishes (rules : Database) (url html : String) : Prop where
  ordinary : ∀ p ∈ rules.applying url, p.2.hasOrdinarySelector = true
  matched : ∀ p ∈ rules.applying url, (p.1.isPageBlock &&
    (MemoryPage.ofText html).allPlaces.any p.2.matchesPlace) = true
  distinct : ((rules.applying url).map fun p =>
    p.2.block ((Url.pageHost? url).getD "") p.1).Nodup

/-- On such a page every rule gives its candidate. -/
theorem Database.Distinguishes.process_blocks {rules : Database} {url html : String}
    (h : rules.Distinguishes url html) (patterns : PatternCache) :
    (process rules url patterns (MemoryPage.ofText html) ({} : Context Handle)).context.blocks =
      (rules.applying url).map fun p => p.2.block ((Url.pageHost? url).getD "") p.1 := by
  rw [process_ordinary h.ordinary, cssCandidates, List.filter_eq_self.2 h.matched]
  exact foldl_enqueue_of_nodup h.distinct

end PageGuard
