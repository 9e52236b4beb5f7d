import PageGuard.Navigation.Engine
import PageGuard.Proofs.Navigation.OrdinaryRules
import PageGuard.Proofs.Text.Hosts
import PageGuard.Rules.Compile
import PageGuard.Threat.MemoryHost

/-!
# Candidates of a foreign domain

A navigation gives every candidate the lower-cased host of the page, and the scan looks for this
domain in the URL as it was written.

* `scanFrom_foreign`: the candidates a scan passes over as foreign are, in order, those whose domain
  is not in the URL.
* `navigate_foreignDomain`: when a navigation passes a candidate over as foreign.
-/

namespace PageGuard

open Text

/-! ## What a scan passes over -/

/-- What no continuation of a computation answers, the computation does not answer. -/
theorem run_bind_ne {H α β : Type} {x : StateM H α} {f : α → StateM H β} {v : β}
    (h : ∀ a host, ((f a).run host).1 ≠ v) (host : H) : ((x >>= f).run host).1 ≠ v :=
  h _ _

section Scanning

variable {H : Type} [Host H] {config : Config} {url domain : String} {tab : Int}

/-- A candidate whose domain is not in the URL is passed over, and the host is not asked. -/
theorem judge_foreign {b : Block} (h : occursIn b.domain url = false) (host : H) :
    (judge config url domain tab b).run host = (.skipped .foreignDomain, host) := by
  rw [judge, h]
  rfl

/-- A candidate whose domain is in the URL is never passed over as foreign. -/
theorem judge_ne_foreign {b : Block} (h : occursIn b.domain url = true) (host : H) :
    ((judge config url domain tab b).run host).1 ≠ .skipped .foreignDomain := by
  have hreason {reason : SkipReason} (hne : reason ≠ .foreignDomain) :
      Verdict.skipped reason ≠ .skipped .foreignDomain :=
    fun heq => hne (Verdict.skipped.inj heq)
  unfold judge
  rw [h, Bool.not_true, if_neg Bool.false_ne_true]
  refine run_bind_ne (fun active host => ?_) host
  cases active with
  | false => exact hreason SkipReason.noConfusion
  | true =>
    refine run_bind_ne (fun excluded host => ?_) host
    cases excluded with
    | true => exact hreason SkipReason.noConfusion
    | false =>
      refine run_bind_ne (fun answer host => ?_) host
      cases answer with
      | ok redirect => exact Verdict.noConfusion
      | error e => exact Verdict.noConfusion

/-- The candidates that a report holds as foreign, in order. -/
def ScanReport.foreign (r : ScanReport) : List Block :=
  (r.skipped.filter fun s => s.2 = .foreignDomain).map Prod.fst

theorem ScanReport.foreign_add_foreign (r : ScanReport) (b : Block) :
    (r.add b (.skipped .foreignDomain)).foreign = r.foreign ++ [b] := by
  rw [foreign, add, List.filter_append, List.map_append]
  rfl

theorem ScanReport.foreign_add_of_ne (r : ScanReport) (b : Block) {v : Verdict}
    (h : v ≠ .skipped .foreignDomain) : (r.add b v).foreign = r.foreign := by
  cases v with
  | blocked redirect => rfl
  | failed e => rfl
  | skipped reason =>
    have hne : reason ≠ .foreignDomain := fun heq => h (congrArg Verdict.skipped heq)
    rw [foreign, add, List.filter_append, List.map_append]
    simp [hne, foreign]

/-- **A scan passes over as foreign, in order, the candidates whose domain is not in the URL.** -/
theorem scanFrom_foreign (blocks : List Block) (r : ScanReport) (host : H) :
    ((scanFrom config url tab blocks r).run host).1.foreign =
      r.foreign ++ blocks.filter fun b => !occursIn b.domain url := by
  induction blocks generalizing r host with
  | nil => rw [List.filter_nil, List.append_nil]; rfl
  | cons b rest ih =>
    have hstep : ((scanFrom config url tab (b :: rest) r).run host).1.foreign =
        (r.add b ((judge config url (Url.normalizedDomain url) tab b).run host).1).foreign ++
          rest.filter fun b => !occursIn b.domain url :=
      ih _ _
    rw [hstep]
    cases hb : occursIn b.domain url with
    | false =>
      rw [judge_foreign hb, ScanReport.foreign_add_foreign, List.append_assoc,
        List.singleton_append, List.filter_cons_of_pos]
      rw [hb, Bool.not_false]
    | true =>
      rw [ScanReport.foreign_add_of_ne r b (judge_ne_foreign hb host), List.filter_cons_of_neg]
      rw [hb, Bool.not_true]
      exact Bool.false_ne_true

/-- A scan that finds no domain of a candidate in the URL passes all of them over and leaves the
host alone. -/
theorem scanFrom_of_foreign {blocks : List Block}
    (h : ∀ b ∈ blocks, occursIn b.domain url = false) (r : ScanReport) (host : H) :
    (scanFrom config url tab blocks r).run host =
      ({ r with skipped := r.skipped ++ blocks.map fun b => (b, .foreignDomain) }, host) := by
  induction blocks generalizing r host with
  | nil => rw [List.map_nil, List.append_nil]; rfl
  | cons b rest ih =>
    have hjudge : (judge config url (Url.normalizedDomain url) tab b).run host =
        (.skipped .foreignDomain, host) :=
      judge_foreign (h b (List.mem_cons_self ..)) host
    have hstep : (scanFrom config url tab (b :: rest) r).run host =
        (scanFrom config url tab rest
          (r.add b ((judge config url (Url.normalizedDomain url) tab b).run host).1)).run
            ((judge config url (Url.normalizedDomain url) tab b).run host).2 := rfl
    rw [hstep, hjudge, ih fun c hc => h c (List.mem_cons_of_mem b hc)]
    rw [ScanReport.add, List.append_assoc, List.singleton_append, List.map_cons]

end Scanning

/-! ## Navigations -/

namespace ScanReport

theorem foreign_eq_nil_iff (r : ScanReport) :
    r.foreign = [] ↔ ∀ s ∈ r.skipped, s.2 ≠ .foreignDomain := by
  rw [foreign, List.map_eq_nil_iff, List.filter_eq_nil_iff]
  simp only [decide_eq_true_eq, ne_eq]

end ScanReport

section Navigating

variable {D N H : Type} [Document D N] [DecidableEq N] [Host H]

/-- A navigation scans what it reports. -/
theorem scan_navigate (e : Engine) (url : String) (tab : Int) (d : D) (host : H) :
    ((e.navigate url tab d host).outcome.scan, (e.navigate url tab d host).host) =
      (scanFrom e.config url tab (e.navigate url tab d host).outcome.report.blocks {}).run host := by
  have hscan : ((e.navigate url tab d host).outcome.scan, (e.navigate url tab d host).host) =
      (e.scan (e.navigate url tab d host).outcome.report.blocks url tab).run host := rfl
  rw [hscan, Engine.scan, scan]

theorem foreign_navigate (e : Engine) (url : String) (tab : Int) (d : D) (host : H) :
    (e.navigate url tab d host).outcome.scan.foreign =
      (e.navigate url tab d host).outcome.report.blocks.filter fun b => !occursIn b.domain url := by
  have hscan := congrArg Prod.fst (scan_navigate e url tab d host)
  dsimp only at hscan
  rw [hscan, scanFrom_foreign]
  rfl

/-- **When a navigation passes a candidate over as foreign.**  Its candidates carry the lower-cased
host of the page.  None of them is passed over as foreign exactly when there is none or this host
occurs in the URL; it does when the host as written has no upper-case ASCII letter, whatever blanks,
userinfo and port the URL has.  When it does not, every candidate is passed over, nothing is
blocked, and the host of the engine stays as it is. -/
theorem navigate_foreignDomain (e : Engine) (url : String) (tab : Int) (d : D) (host : H) :
    let domain := (Url.pageHost? url).getD ""
    let n := e.navigate url tab d host
    (∀ b ∈ n.outcome.report.blocks, b.domain = domain) ∧
      ((∀ s ∈ n.outcome.scan.skipped, s.2 ≠ .foreignDomain) ↔
        n.outcome.report.blocks = [] ∨ occursIn domain url = true) ∧
      ((∀ written, Url.host? (trimmed url) = some written → lowerAscii written = written) →
        occursIn domain url = true) ∧
      (occursIn domain url = false →
        n.outcome.scan =
            { skipped := n.outcome.report.blocks.map fun b => (b, .foreignDomain) } ∧
          n.host = host) := by
  intro domain n
  have hdomain : ∀ b ∈ n.outcome.report.blocks, b.domain = domain := by
    rw [Engine.blocks_navigate]
    exact process_domain e.rules url e.patterns d
  have hscan := scan_navigate e url tab d host
  refine ⟨hdomain, ?_, Url.occursIn_pageHost, fun habsent => ?_⟩
  · rw [← ScanReport.foreign_eq_nil_iff, foreign_navigate, List.filter_eq_nil_iff]
    constructor
    · intro hnone
      cases hblocks : n.outcome.report.blocks with
      | nil => exact Or.inl rfl
      | cons b rest =>
        have hb : b ∈ n.outcome.report.blocks := by
          rw [hblocks]
          exact List.mem_cons_self ..
        have hoccurs := hnone b hb
        rw [hdomain b hb, Bool.not_eq_true', Bool.not_eq_false] at hoccurs
        exact Or.inr hoccurs
    · rintro (hnone | hoccurs) b hb
      · rw [hnone] at hb
        cases hb
      · rw [hdomain b hb, hoccurs]
        exact Bool.false_ne_true
  · rw [scanFrom_of_foreign fun b hb => (hdomain b hb).symm ▸ habsent] at hscan
    exact Prod.mk.inj hscan

end Navigating

/-- A host with upper-case letters: the candidate of its page is passed over as foreign. -/
theorem foreign_upperCase :
    let rules := (buildDatabase [⟨"##body", none, .scam, none, "1"⟩]).database
    let page := MemoryPage.ofText "<p>x</p>"
    let n := (Engine.mk rules {} .empty).navigate "https://EXAMPLE.com/" 1 page ({} : MemoryHost)
    n.outcome.report.blocks ≠ [] ∧ ∃ s ∈ n.outcome.scan.skipped, s.2 = .foreignDomain := by
  intro rules page n
  have hordinary : ∀ p ∈ rules.applying "https://EXAMPLE.com/",
      p.2.hasOrdinarySelector = true := by decide +kernel
  have hblocks : n.outcome.report.blocks =
      rules.cssCandidates "https://EXAMPLE.com/" "<p>x</p>" := by
    rw [Engine.blocks_navigate]
    dsimp only
    rw [process_ordinary hordinary]
  have hsome : n.outcome.report.blocks ≠ [] := by
    rw [hblocks]
    decide +kernel
  have hforeign : n.outcome.scan.foreign ≠ [] := by
    rw [foreign_navigate, hblocks]
    decide +kernel
  by_contra hnot
  exact hforeign ((ScanReport.foreign_eq_nil_iff _).2 fun s hs hreason =>
    hnot ⟨hsome, s, hs, hreason⟩)

end PageGuard
