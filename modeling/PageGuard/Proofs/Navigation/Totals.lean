import PageGuard.Proofs.Navigation.Applicable
import PageGuard.Proofs.Navigation.Candidates
import PageGuard.Proofs.Threat.Traces

/-!
# The counts of a navigation add up

Processing counts trials, finds and new items while it merges, hiding counts elements, and a scan
sorts candidates into three lists.  Whatever the rules do to the page and whichever calls of the
document or of the host fail, every entry that applies is counted once and every item that is
queued comes out at the other end.

* `ProcessReport.AddsUp`: the counts of a report against the context that was filled with it.
* `mergeTrial_addsUp`, `process_addsUp`: one trial keeps them right, and so does a whole page.
* `Engine.navigate_addsUp`: the counts of a navigation, from its rules to its scan.
-/

namespace PageGuard

/-! ## New items -/

section Queues

variable {α N : Type}

theorem length_enqueue [DecidableEq α] (l : List α) (a : α) :
    (enqueue l a).length = if a ∉ l then l.length + 1 else l.length := by
  rw [enqueue]
  by_cases h : a ∈ l
  · rw [if_pos h, if_neg (not_not_intro h)]
  · rw [if_neg h, if_pos h, List.length_append, List.length_singleton]

/-- A candidate is counted when the queue grows by it. -/
theorem Context.length_addBlock (c : Context N) (b : Block) :
    (c.addBlock b).2.blocks.length =
      if (c.addBlock b).1 then c.blocks.length + 1 else c.blocks.length := by
  simp only [addBlock, decide_eq_true_eq]
  exact length_enqueue c.blocks b

/-- As many elements are counted as the queue grows by. -/
theorem Context.length_addElements [DecidableEq N] (c : Context N) (found : List N) :
    (c.addElements found).2.elements.length =
      c.elements.length + (c.addElements found).1 := by
  induction found generalizing c with
  | nil => rfl
  | cons e rest ih =>
    have hrest := ih (c.addElement e).2
    have hqueue : (c.addElement e).2.elements.length =
        if e ∉ c.elements then c.elements.length + 1 else c.elements.length :=
      length_enqueue c.elements e
    simp only [addElements]
    rw [hrest, hqueue]
    by_cases he : e ∈ c.elements
    · simp [addElement, he]
    · simp [addElement, he]
      omega

end Queues

/-! ## Merging -/

section Merging

variable {N : Type}

/-- The counts of a report are those of `n` trials whose finds took the queues from `start` to
`c`. -/
structure ProcessReport.AddsUp (n : Nat) (start : Context N) (r : ProcessReport) (c : Context N) :
    Prop where
  trials : r.evaluated + r.skipped = n
  results : r.matched + r.failures.length ≤ r.evaluated
  elements : c.elements.length = start.elements.length + r.elementsQueued
  blocks : c.blocks.length = start.blocks.length + r.urlsQueued

/-- Before the first trial nothing is counted. -/
theorem ProcessReport.addsUp_empty (start : Context N) :
    AddsUp 0 start ({} : ProcessReport) start :=
  ⟨rfl, Nat.le_refl 0, rfl, rfl⟩

variable [DecidableEq N]

/-- **One trial is counted once**, and so is every item that is new in a queue. -/
theorem mergeTrial_addsUp {n : Nat} {start : Context N} {acc : ProcessReport × Context N}
    (h : acc.1.AddsUp n start acc.2) (domain : String) (t : Trial N) :
    (mergeTrial domain acc t).1.AddsUp (n + 1) start (mergeTrial domain acc t).2 := by
  obtain ⟨r, c⟩ := acc
  obtain ⟨htrials, hresults, helements, hblocks⟩ := h
  dsimp only at htrials hresults helements hblocks
  cases t with
  | skipped => exact ⟨by simp only [mergeTrial]; omega, hresults, helements, hblocks⟩
  | evaluated type entry result =>
    cases result with
    | error e =>
      refine ⟨?_, ?_, helements, hblocks⟩
      · simp only [mergeTrial]
        omega
      · simp only [mergeTrial, List.length_append, List.length_singleton]
        omega
    | ok found =>
      by_cases hfound : found.isEmpty = true
      · have hmerge : mergeTrial domain (r, c) (.evaluated type entry (.ok found)) =
            ({ r with evaluated := r.evaluated + 1 }, c) := if_pos hfound
        rw [hmerge]
        exact ⟨by dsimp only; omega, Nat.le_succ_of_le hresults, helements, hblocks⟩
      · by_cases htype : type.isPageBlock = true
        · have hmerge : mergeTrial domain (r, c) (.evaluated type entry (.ok found)) =
              ({ r with
                  evaluated := r.evaluated + 1
                  matched := r.matched + 1
                  urlsQueued := if (c.addBlock (entry.block domain type)).1 then
                    r.urlsQueued + 1 else r.urlsQueued },
                (c.addBlock (entry.block domain type)).2) :=
            (if_neg hfound).trans (if_pos htype)
          rw [hmerge]
          refine ⟨by dsimp only; omega, by dsimp only; omega, helements, ?_⟩
          rw [c.length_addBlock, hblocks]
          split_ifs <;> rfl
        · have hmerge : mergeTrial domain (r, c) (.evaluated type entry (.ok found)) =
              ({ r with
                  evaluated := r.evaluated + 1
                  matched := r.matched + 1
                  elementsQueued := r.elementsQueued + (c.addElements found).1 },
                (c.addElements found).2) := (if_neg hfound).trans (if_neg htype)
          rw [hmerge]
          refine ⟨by dsimp only; omega, by dsimp only; omega, ?_, ?_⟩
          · rw [c.length_addElements found, helements, Nat.add_assoc]
          · rw [c.blocks_addElements found, hblocks]

/-- Trials are counted one after the other. -/
theorem foldl_mergeTrial_addsUp {n : Nat} {start : Context N} (acc : ProcessReport × Context N)
    (h : acc.1.AddsUp n start acc.2) (domain : String) (trials : List (Trial N)) :
    (trials.foldl (mergeTrial domain) acc).1.AddsUp (n + trials.length) start
      (trials.foldl (mergeTrial domain) acc).2 := by
  induction trials generalizing n acc with
  | nil => exact h
  | cons t rest ih =>
    rw [List.foldl_cons, List.length_cons, Nat.add_comm rest.length, ← Nat.add_assoc]
    exact ih _ (mergeTrial_addsUp h domain t)

end Merging

/-! ## Pages and navigations -/

section Pages

variable {D N : Type} [Document D N] [DecidableEq N]

/-- Every entry is tried once, whatever comes of the others. -/
theorem length_tryEntries (entries : List (RuleType × Entry)) (d : D) :
    (tryEntries entries d).1.length = entries.length := by
  induction entries generalizing d with
  | nil => rfl
  | cons p rest ih =>
    obtain ⟨type, entry⟩ := p
    rw [tryEntries, List.length_cons, List.length_cons, ih]

/-- **The counts of a page add up**: its trials are the stored entries that apply to its URL. -/
theorem process_addsUp (rules : Database) (url : String) (patterns : PatternCache) (d : D)
    (c : Context N) :
    (process rules url patterns d c).report.AddsUp
      (rules.stored.countP fun s => s.appliesTo url) c (process rules url patterns d c).context := by
  have hcount : (tryEntries (applicable rules url patterns).1 d).1.length =
      rules.stored.countP fun s => s.appliesTo url := by
    rw [length_tryEntries, applicable_fst, Database.applying, List.length_map,
      List.countP_eq_length_filter]
  have hmerged := foldl_mergeTrial_addsUp ({}, c) (ProcessReport.addsUp_empty c)
    ((Url.pageHost? url).getD "") (tryEntries (applicable rules url patterns).1 d).1
  rwa [hcount, Nat.zero_add] at hmerged

/-- Every candidate of a scan has one place in its report. -/
theorem length_scan {H : Type} [Host H] (config : Config) (blocks : List Block) (url : String)
    (tab : Int) (host : H) :
    let report := ((scan config blocks url tab).run host).1
    report.blocked.length + report.skipped.length + report.failures.length = blocks.length := by
  obtain ⟨ts, -, -, -, hreport, hlength, -⟩ := scan_trace config blocks url tab host
  rw [hreport]
  exact hlength

/-- **A navigation has an outcome whose counts add up**, whatever its rules do and whatever fails.
The entries evaluated or skipped are those under a separator, outside the whitelist, whose domain
pattern applies to the URL; finds and failures are of evaluated entries; as many elements are hidden
as were queued; and as many candidates are reported as were queued, each of which the scan blocks,
skips or fails on. -/
theorem Engine.navigate_addsUp {H : Type} [Host H] (e : Engine) (url : String) (tab : Int) (d : D)
    (host : H) :
    let outcome := (e.navigate url tab d host).outcome
    outcome.process.evaluated + outcome.process.skipped =
        (e.rules.stored.countP fun s => s.appliesTo url) ∧
      outcome.process.matched + outcome.process.failures.length ≤ outcome.process.evaluated ∧
      outcome.hidden = outcome.process.elementsQueued ∧
      outcome.report.blocks.length = outcome.process.urlsQueued ∧
      outcome.scan.blocked.length + outcome.scan.skipped.length + outcome.scan.failures.length =
        outcome.report.blocks.length := by
  intro outcome
  obtain ⟨htrials, hresults, helements, hblocks⟩ :=
    process_addsUp e.rules url e.patterns d ({} : Context N)
  refine ⟨htrials, hresults, ?_, ?_, length_scan e.config outcome.report.blocks url tab host⟩
  · exact helements.trans (Nat.zero_add _)
  · rw [e.blocks_navigate url tab d host, hblocks]
    exact Nat.zero_add _

end Pages

end PageGuard
