import PageGuard.Proofs.Browser.Calls
import PageGuard.Proofs.Browser.Pages
import PageGuard.Proofs.Navigation.OrdinaryRules
import PageGuard.Proofs.Selector.Narrowing
import PageGuard.Proofs.Threat.Traces

/-!
# Scans and the pages before them

Candidates outlive the page on which they were found, and a scan knows them by their domain alone:
it passes over those whose domain is not in its URL.

* `JudgeTrace.asks_iff`: the host hears of a candidate exactly when the URL mentions its domain.
* `ContentScript.scan_mentions`: after any calls, a candidate for which a scan calls the host comes
  from a page whose host is mentioned in the URL of the scan.
* `ContentScript.mentioned_host_blocked`: it need not be the host of that URL.
-/

namespace PageGuard

open Text

/-- The host is asked about a candidate exactly when the URL mentions the domain of the candidate;
all others are passed over as foreign. -/
theorem JudgeTrace.asks_iff {config : Config} {url domain : String} {tab : Int} {b : Block}
    {events : List HostEvent} {verdict : Verdict}
    (h : JudgeTrace config url domain tab b events verdict) :
    (events ≠ [] ↔ occursIn b.domain url = true) ∧
      (events = [] → verdict = .skipped .foreignDomain) := by
  cases h with
  | foreign h => simp [h]
  | inactive h => simp [h]
  | excluded h => simp [h]
  | blocked h => simp [h]
  | failed h => simp [h]

namespace Browser

namespace ContentScript

/-! ## Scans of a content script -/

/-- A scan with a loaded database scans the queued candidates. -/
theorem scan_of_loaded {N H : Type} [Host H] {s : ContentScript N} {l : Loaded N}
    (h : s.loaded = some l) (url : String) (tab : Int) (host : H) :
    (s.scan url tab host).1 = .ok ((PageGuard.scan l.engine.config s.queue url tab).run host).1 ∧
      (s.scan url tab host).2.2 =
        ((PageGuard.scan l.engine.config s.queue url tab).run host).2 := by
  obtain ⟨loaded, console⟩ := s
  obtain rfl : loaded = some l := h
  exact ⟨rfl, rfl⟩

/-- **A scan acts on what its URL mentions.**  After any calls, each candidate of a scan was queued
by a call that processed a page, and stayed queued since.  The host is called for the candidate
exactly when the host of that page, or the empty text if it has none, occurs in the URL of the scan;
otherwise the candidate is passed over as foreign. -/
theorem scan_mentions {W N : Type} [WebPage W N] [DecidableEq N] {H : Type} [Host H]
    (calls : List (Call W)) (url : String) (tab : Int) (host : H) :
    ∃ ts : List Treatment, ts.map Treatment.block = (run calls).queue ∧
      ((run calls).scan url tab (Watched.start host)).2.2.events =
        ts.flatMap Treatment.events ∧
      (∀ l, (run calls).loaded = some l →
        ((run calls).scan url tab host).1 = .ok (.ofTreatments ts) ∧
          ∀ t ∈ ts, JudgeTrace l.engine.config url (Url.normalizedDomain url) tab t.block t.events
            t.verdict) ∧
      ∀ t ∈ ts, ∃ before page w later, calls = before ++ .process page w :: later ∧
        Origin t.block before page w later ∧
        (t.events ≠ [] ↔ occursIn ((Url.pageHost? page).getD "") url = true) ∧
        (t.events = [] → t.verdict = .skipped .foreignDomain) := by
  cases hloaded : (run calls).loaded with
  | none =>
    have hqueue : (run calls).queue = [] := by rw [queue, hloaded]
    refine ⟨[], hqueue.symm, ?_, fun l hl => (nomatch hl), fun t ht => absurd ht List.not_mem_nil⟩
    rw [scan, hloaded]
    rfl
  | some l =>
    obtain ⟨ts, hblocks, htraces, hwatched, hreport, -⟩ :=
      scan_trace l.engine.config (run calls).queue url tab host
    refine ⟨ts, hblocks, ?_, ?_, fun t ht => ?_⟩
    · rw [(scan_of_loaded hloaded url tab (Watched.start host)).2, hwatched]
    · rintro l' hl
      obtain rfl := Option.some.inj hl
      exact ⟨(scan_of_loaded hloaded url tab host).1.trans (congrArg Except.ok hreport), htraces⟩
    · have hqueued : t.block ∈ (run calls).queue := hblocks ▸ List.mem_map_of_mem ht
      obtain ⟨before, page, w, later, hcalls, horigin⟩ := exists_origin hqueued
      obtain ⟨hasks, hforeign⟩ := (htraces t ht).asks_iff
      rw [horigin.domain] at hasks
      exact ⟨before, page, w, later, hcalls, horigin, hasks, hforeign⟩

end ContentScript

/-! ## Rules with ordinary selectors in a browser -/

namespace BrowserPage

/-- On a page without faults CSS finds what it finds on the page in memory. -/
theorem evaluate_css (css : String) (p : MemoryPage) :
    evaluate [.css css] ({ page := p } : BrowserPage) =
      (.ok (p.found (Css.textMatches css)), { page := p }) := by
  have hquery : Document.query ({ page := p } : BrowserPage) css =
      (p.query css).mapError fun _ => .invalidSelector css "SyntaxError" :=
    query_of_ok rfl css
  have hfind : (Target.css css).find ({ page := p } : BrowserPage) = (Target.css css).find p := by
    have hmemory : Document.query p css = p.query css := rfl
    rw [Target.find, Target.find]
    simp only [hquery, hmemory]
    cases p.query css <;> rfl
  rw [MemoryPage.find_css] at hfind
  have hask : Visit.ask (Target.css css).find ({ page := p } : BrowserPage) =
      (.ok (p.found (Css.textMatches css)), { page := p }) := by
    rw [Visit.ask, hfind]
  rw [evaluate_singleton, Stage.css, Stage.seed, Visit.bind_ok hask]
  rfl

/-- Rules with ordinary selectors hit in a browser what they hit on the page in memory. -/
theorem hits_ordinary {rules : Database} {url : String}
    (h : ∀ p ∈ rules.applying url, p.2.hasOrdinarySelector = true) (p : MemoryPage) :
    rules.hits url ({ page := p } : BrowserPage) = rules.hits url p := by
  rw [Database.hits, Database.hits, tryEntries_css (fun css => evaluate_css css p) h,
    tryEntries_ordinary p h]
  rfl

end BrowserPage

namespace ContentScript

/-- After a load and a page without faults, the candidates of rules with ordinary selectors are
queued and the configuration is the loaded one. -/
theorem run_load_process {feed : String} {compiled : Compiled} (html url : String)
    (hload : loadDatabase feed = .ok compiled)
    (hordinary : ∀ p ∈ compiled.database.applying url, p.2.hasOrdinarySelector = true) :
    let page : BrowserPage := { page := MemoryPage.ofText html }
    let s := run [.load feed none, .process url (some page)]
    s.queue = compiled.database.cssCandidates url html ∧
      ∃ l, s.loaded = some l ∧ l.engine.config = {} := by
  intro page s
  have hloaded : (({} : ContentScript).after (.load feed none : Call BrowserPage)).loaded =
      some { engine := { rules := compiled.database, config := {} } } := by
    rw [after, load, readLoad, hload]
    rfl
  have hs : s = (({} : ContentScript).after (.load feed none : Call BrowserPage)).after
      (.process url (some page)) := rfl
  generalize ({} : ContentScript).after (.load feed none : Call BrowserPage) = start
    at hloaded hs
  obtain ⟨loaded, console⟩ := start
  obtain rfl : loaded = some { engine := { rules := compiled.database, config := {} } } := hloaded
  constructor
  · have hblocks := process_ordinary hordinary .empty html
    rw [process_blocks, applicable_fst] at hblocks
    have hhits := BrowserPage.hits_ordinary hordinary (MemoryPage.ofText html)
    rw [hs, queue_after, ← hblocks]
    exact congrArg (List.foldl enqueue []) hhits
  · rw [hs]
    exact ⟨_, rfl, rfl⟩

/-- A candidate of one page blocks another one that only mentions its host in the query. -/
theorem mentioned_host_blocked :
    let feed := "[\x7b\"r\":\"##body\",\"s\":false,\"t\":\"scam\",\"id\":\"1\"\x7d]"
    let page : BrowserPage := { page := MemoryPage.ofText "<p>x</p>" }
    let calls : List (Call BrowserPage) :=
      [.load feed none, .process "https://evil.test/" (some page)]
    let source := "https://good.test/?from=evil.test"
    let host : ScriptHost := { members := some [
      ("isProtectionActive", .returns (.json (.bool true))),
      ("recordAll", .returns .undefined), ("updateBadgeCount", .returns .undefined),
      ("onScam", .returns (.json (.object [("redirectUrl", .string "https://stop.test/")]))),
      ("navigate", .returns .undefined)] }
    let scanned := (run calls).scan source 1 host
    (∀ url w, Call.process url w ∈ calls → Url.pageHost? url ≠ Url.pageHost? source) ∧
      (∃ report, scanned.1 = .ok report ∧ report.blocked = ["https://stop.test/"]) ∧
      scanned.2.2.calls.map Prod.fst =
        ["isProtectionActive", "recordAll", "updateBadgeCount", "onScam", "navigate"] := by
  intro feed page calls source host scanned
  have hload : loadDatabase feed =
      .ok (buildDatabase [⟨"##body", some false, .scam, none, "1"⟩]) := by decide +kernel
  obtain ⟨hqueue, l, hloaded, hconfig⟩ :=
    run_load_process "<p>x</p>" "https://evil.test/" hload (by decide +kernel)
  obtain ⟨hreport, hhost⟩ := scan_of_loaded hloaded source 1 host
  rw [hqueue, hconfig] at hreport hhost
  refine ⟨fun url w hmem => ?_, ⟨_, hreport, by decide +kernel⟩, ?_⟩
  · have hprocess : url = "https://evil.test/" ∧ w = some page := by simpa [calls] using hmem
    rw [hprocess.1]
    decide +kernel
  · change (((run calls).scan source 1 host).2.2).calls.map Prod.fst = _
    rw [hhost]
    decide +kernel

end ContentScript

end Browser

end PageGuard
