import PageGuard.Navigation.Engine
import PageGuard.Proofs.Navigation.Collecting
import PageGuard.Proofs.Threat.ForeignDomain
import PageGuard.Proofs.Threat.Traces

/-!
# Hiding and blocking are separate

A navigation evaluates all entries before it hides an element or scans a candidate.  So when no
selector acts, what a navigation blocks depends on the scam and phishing rules alone, and what it
hides on the adserver rules alone.

* `Database.candidates_congr`, `Database.elementsFound_congr`: which buckets the finds come from.
* `navigate_separates`: two databases that agree on the buckets for blocking block alike, and two
  that agree on the bucket for hiding hide alike.
-/

namespace PageGuard

/-! ## Where the finds come from -/

section Buckets

variable {D N : Type} [Document D N] [DecidableEq N] {rules rules' : Database}

theorem Database.entriesFor_congr {t : RuleType} (h : rules.bucket t = rules'.bucket t)
    (url : String) : rules.entriesFor t url = rules'.entriesFor t url := by
  rw [entriesFor, entriesFor, h]

/-- The elements found come from the adserver bucket. -/
theorem Database.elementsFound_congr (h : rules.adserver = rules'.adserver) (url : String) (d : D) :
    (rules.elementsFound url d : List N) = rules'.elementsFound url d := by
  have hentries := entriesFor_congr (t := .adserver) h url
  rw [elementsFound, elementsFound, hentries]

/-- The candidates come from the scam and phishing buckets. -/
theorem Database.candidates_congr (hscam : rules.scam = rules'.scam)
    (hphishing : rules.phishing = rules'.phishing) (url : String) (d : D) :
    rules.candidates url d = rules'.candidates url d := by
  have hscams := entriesFor_congr (t := .scam) hscam url
  have hphishings := entriesFor_congr (t := .phishing) hphishing url
  simp only [candidates, List.flatMap_cons, List.flatMap_nil, hscams, hphishings]

end Buckets

/-! ## The two halves of a navigation -/

/-- Documents that are the same stay so when the same elements are removed from both. -/
theorem foldl_remove_congr {D N : Type} [Document D N] [SteadyDocument D N] (elements : List N)
    {d d' : D} (h : d ≈ d') :
    elements.foldl Document.remove d ≈ elements.foldl Document.remove d' := by
  induction elements generalizing d d' with
  | nil => exact h
  | cons e rest ih => exact ih (SteadyDocument.remove_congr h e)

section Navigating

variable {D N H : Type} [Document D N] [DecidableEq N] [Host H]

/-- The elements that a navigation takes off a page, in order. -/
def Engine.hides (e : Engine) (url : String) (d : D) : List N :=
  (e.process url d ({} : Context N)).1.context.elements

/-- A navigation removes the elements that it found from the page as processing left it. -/
theorem Engine.hidden_navigate (e : Engine) (url : String) (tab : Int) (d : D) (host : H) :
    (e.navigate url tab d host).outcome.hidden = (e.hides url d : List N).length ∧
      (e.navigate url tab d host).document =
        (e.hides url d).foldl Document.remove (e.process url d ({} : Context N)).1.document :=
  ⟨rfl, rfl⟩

/-- Engines with the same configuration that report the same block the same, with the same calls. -/
theorem Engine.blocking_congr (e e' : Engine) (hconfig : e.config = e'.config) {url : String}
    {tab : Int} {d d' : D} {host : H}
    (h : (e.navigate url tab d host).outcome.report =
      (e'.navigate url tab d' host).outcome.report) :
    (e.navigate url tab d host).outcome.scan = (e'.navigate url tab d' host).outcome.scan ∧
      (e.navigate url tab d host).host = (e'.navigate url tab d' host).host := by
  have hscan := scan_navigate e url tab d host
  rw [h, hconfig, ← scan_navigate e' url tab d' host] at hscan
  exact Prod.mk.inj hscan

variable [SteadyDocument D N]

/-- What a navigation reports and hands to the scan. -/
theorem Engine.report_navigate (e : Engine) (h : e.rules.NeverActs) (url : String) (tab : Int)
    (d : D) (host : H) :
    (e.navigate url tab d host).outcome.report =
      .ofBlocks (newItems [] (e.rules.candidates url d)) := by
  have hcollected := process_collects h url e.patterns d ({} : Context N)
  exact congrArg Context.report hcollected

theorem Engine.hides_eq (e : Engine) (h : e.rules.NeverActs) (url : String) (d : D) :
    e.hides url d = (newItems [] (e.rules.elementsFound url d) : List N) :=
  congrArg Context.elements (process_collects h url e.patterns d ({} : Context N))

/-- **Hiding and blocking are separate.**  Take two databases of which no selector acts, one page
and one configuration.  If the databases agree on the scam and phishing rules, the reports, the
scans, the hosts after them and the calls that the hosts got are the same, whatever is hidden.  If
they agree on the adserver rules, the same elements are hidden and the pages after it are the same,
whatever is blocked. -/
theorem navigate_separates {rules rules' : Database} (h : rules.NeverActs) (h' : rules'.NeverActs)
    (config : Config) (patterns patterns' : PatternCache) (url : String) (tab : Int) (d : D)
    (host : H) :
    let e : Engine := ⟨rules, config, patterns⟩
    let e' : Engine := ⟨rules', config, patterns'⟩
    (rules.scam = rules'.scam → rules.phishing = rules'.phishing →
      (e.navigate url tab d host).outcome.report = (e'.navigate url tab d host).outcome.report ∧
        (e.navigate url tab d host).outcome.scan = (e'.navigate url tab d host).outcome.scan ∧
        (e.navigate url tab d host).host = (e'.navigate url tab d host).host ∧
        (e.navigate url tab d (Watched.start host)).host.events =
          (e'.navigate url tab d (Watched.start host)).host.events) ∧
      (rules.adserver = rules'.adserver →
        (e.hides url d : List N) = e'.hides url d ∧
          (e.navigate url tab d host).outcome.hidden =
            (e'.navigate url tab d host).outcome.hidden ∧
          (e.navigate url tab d host).document ≈ (e'.navigate url tab d host).document) := by
  intro e e'
  refine ⟨fun hscam hphishing => ?_, fun hadserver => ?_⟩
  · have hcandidates := Database.candidates_congr hscam hphishing url d
    have hreport {G : Type} [Host G] (host : G) :
        (e.navigate url tab d host).outcome.report =
          (e'.navigate url tab d host).outcome.report := by
      rw [e.report_navigate h, e'.report_navigate h', hcandidates]
    have hplain := Engine.blocking_congr e e' rfl (hreport host)
    have hwatched := Engine.blocking_congr e e' rfl (hreport (Watched.start host))
    exact ⟨hreport host, hplain.1, hplain.2, congrArg Watched.events hwatched.2⟩
  · have hhides : (e.hides url d : List N) = e'.hides url d := by
      rw [e.hides_eq h, e'.hides_eq h', Database.elementsFound_congr hadserver]
    refine ⟨hhides, congrArg List.length hhides, ?_⟩
    have hprocessed : (e.process url d ({} : Context N)).1.document ≈
        (e'.process url d ({} : Context N)).1.document :=
      Setoid.trans (process_document h url patterns d {})
        (Setoid.symm (process_document h' url patterns' d {}))
    rw [(e.hidden_navigate url tab d host).2, (e'.hidden_navigate url tab d host).2, hhides]
    exact foldl_remove_congr _ hprocessed

end Navigating

/-- A page is blocked alike with a rule that hides and without it. -/
theorem separates_without_hiding :
    let hider := (buildDatabase [⟨"##p", none, .adserver, none, ""⟩,
      ⟨"##body", none, .scam, none, "1"⟩]).database
    let plain := (buildDatabase [⟨"##body", none, .scam, none, "1"⟩]).database
    let page := MemoryPage.ofText "<p>x</p>"
    let n := (Engine.mk hider {} .empty).navigate "https://a.test/" 1 page ({} : MemoryHost)
    let n' := (Engine.mk plain {} .empty).navigate "https://a.test/" 1 page ({} : MemoryHost)
    hider.NeverActs ∧ plain.NeverActs ∧ hider.adserver ≠ plain.adserver ∧
      n.outcome.report = n'.outcome.report ∧ n.outcome.scan = n'.outcome.scan ∧
      n.host = n'.host := by
  intro hider plain page n n'
  have hactsHiding : hider.NeverActs := Database.neverActs_of_ordinary (by decide +kernel)
  have hactsPlain : plain.NeverActs := Database.neverActs_of_ordinary (by decide +kernel)
  have hscam : hider.scam = plain.scam := by decide +kernel
  have hphishing : hider.phishing = plain.phishing := by decide +kernel
  obtain ⟨hreport, hscan, hhost, -⟩ :=
    (navigate_separates hactsHiding hactsPlain {} .empty .empty "https://a.test/" 1 page
      ({} : MemoryHost)).1 hscam hphishing
  exact ⟨hactsHiding, hactsPlain, by decide +kernel, hreport, hscan, hhost⟩

end PageGuard
