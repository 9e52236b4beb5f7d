import PageGuard.Proofs.Threat.MemoryScan

/-!
# Candidates are scanned independently

A host in memory answers by its tables and switches, and all that a scan changes of it is the log.
So what becomes of a candidate is settled before the scan, whatever else is scanned and whatever
becomes of it.

* `MemoryHost.Logs`: a computation whose answer does not depend on the log, and which only adds to
  it.  `Logs.pure`, `Logs.bind` and one lemma for each call give it for whole computations.
* `MemoryHost.scanFrom_eq`: a scan reports the verdict on each candidate alone, and logs the calls
  for each candidate alone.
* `MemoryHost.scan_append`: the scan of two lists, one after the other.
-/

namespace PageGuard

/-! ## Reports -/

namespace ScanReport

/-- The entries of one report and then those of another one. -/
protected def append (r s : ScanReport) : ScanReport where
  blocked := r.blocked ++ s.blocked
  skipped := r.skipped ++ s.skipped
  failures := r.failures ++ s.failures

instance : Append ScanReport := ⟨ScanReport.append⟩

theorem append_def (r s : ScanReport) :
    r ++ s = ⟨r.blocked ++ s.blocked, r.skipped ++ s.skipped, r.failures ++ s.failures⟩ := rfl

theorem append_empty (r : ScanReport) : r ++ ({} : ScanReport) = r := by
  simp only [append_def, List.append_nil]

theorem append_assoc (r s t : ScanReport) : r ++ s ++ t = r ++ (s ++ t) := by
  simp only [append_def, List.append_assoc]

theorem add_eq_append (r : ScanReport) (b : Block) (v : Verdict) :
    r.add b v = r ++ ({} : ScanReport).add b v := by
  cases v <;> simp only [add, append_def, List.nil_append, List.append_nil]

/-- The report on candidates that were judged one after the other. -/
def ofVerdicts (judged : List (Block × Verdict)) : ScanReport :=
  judged.foldl (fun r p => r.add p.1 p.2) {}

theorem foldl_add_eq (judged : List (Block × Verdict)) (r : ScanReport) :
    judged.foldl (fun r p => r.add p.1 p.2) r = r ++ ofVerdicts judged := by
  induction judged generalizing r with
  | nil => exact (append_empty r).symm
  | cons p judged ih =>
    have hfirst : ofVerdicts (p :: judged) = ({} : ScanReport).add p.1 p.2 ++ ofVerdicts judged :=
      ih _
    rw [List.foldl_cons, ih, hfirst, add_eq_append r, append_assoc]

theorem ofVerdicts_append (judged more : List (Block × Verdict)) :
    ofVerdicts (judged ++ more) = ofVerdicts judged ++ ofVerdicts more := by
  rw [ofVerdicts, List.foldl_append, foldl_add_eq more]
  rfl

end ScanReport

namespace MemoryHost

/-! ## Computations that only log -/

section Logging

variable {α β : Type}

/-- A computation that gives the same answer whatever the log holds, and changes nothing but the
log, to which it adds the same calls. -/
def Logs (x : StateM MemoryHost α) : Prop :=
  ∀ h : MemoryHost, ∃ answer calls,
    ∀ before, x.run (h.logging before) = (answer, h.logging (before ++ calls))

/-- What a computation adds to the log of a host. -/
def addedBy (h : MemoryHost) (x : StateM MemoryHost α) : List LoggedCall :=
  (x.run h).2.log.drop h.log.length

namespace Logs

/-- A question is answered without the log. -/
theorem ask {answer : MemoryHost → α}
    (h : ∀ (host : MemoryHost) before, answer (host.logging before) = answer host) :
    Logs fun host => (answer host, host) := by
  intro host
  refine ⟨answer host, [], fun before => ?_⟩
  rw [List.append_nil, ← h host before]
  rfl

theorem pure (a : α) : Logs (Pure.pure a) := by
  intro host
  refine ⟨a, [], fun before => ?_⟩
  rw [List.append_nil]
  rfl

theorem bind {x : StateM MemoryHost α} {f : α → StateM MemoryHost β} (hx : Logs x)
    (hf : ∀ a, Logs (f a)) : Logs (x >>= f) := by
  intro h
  obtain ⟨a, calls, hrun⟩ := hx h
  obtain ⟨b, more, hmore⟩ := hf a h
  refine ⟨b, calls ++ more, fun before => ?_⟩
  rw [run_bind_of_run_eq (hrun before), hmore, List.append_assoc]

/-- A call that may fail goes on with its answer, or ends with its failure. -/
theorem bindCall {x : HostCall MemoryHost α} {f : α → HostCall MemoryHost β} (hx : Logs x.run)
    (hf : ∀ a, Logs (f a).run) : Logs (x >>= f).run := by
  refine Logs.bind (f := ExceptT.bindCont f) hx fun answer => ?_
  cases answer with
  | ok a => exact hf a
  | error e => exact pure (Except.error e)

/-- A call is logged with its answer, unless it is the one that fails. -/
theorem perform {effect : HostEffect} {call : LoggedCall} {answer : MemoryHost → α}
    (h : ∀ (host : MemoryHost) before, answer (host.logging before) = answer host) :
    Logs (MemoryHost.perform effect call answer).run := by
  intro host
  have hfailing (before : List LoggedCall) : (host.logging before).failing = host.failing := rfl
  by_cases hfails : host.failing = some effect
  · refine ⟨.error ⟨effect, "injected failure"⟩, [], fun before => ?_⟩
    have hrun : (MemoryHost.perform effect call answer) (host.logging before) = _ :=
      if_pos ((hfailing before).trans hfails)
    rw [List.append_nil]
    exact hrun
  · refine ⟨.ok (answer host), [call], fun before => ?_⟩
    have hrun : (MemoryHost.perform effect call answer) (host.logging before) = _ :=
      if_neg fun heq => hfails ((hfailing before).symm.trans heq)
    rw [← logging_logging, ← h host before]
    exact hrun

/-- **How a computation runs that only logs.** -/
theorem run {x : StateM MemoryHost α} (hx : Logs x) (h : MemoryHost) (before : List LoggedCall) :
    x.run (h.logging before) = ((x.run h).1, h.logging (before ++ h.addedBy x)) := by
  obtain ⟨answer, calls, hrun⟩ := hx h
  have hself := hrun []
  rw [logging_nil, List.nil_append] at hself
  have hadded : h.addedBy x = calls := by
    rw [addedBy, hself]
    exact List.drop_left
  rw [hrun, hself, hadded]

end Logs

end Logging

/-! ## Scans -/

section Scanning

variable {config : Config} {url domain : String} {tab : Int}

theorem logs_isExcluded (aggressive : Bool) (threat : RuleType) :
    Logs (isExcluded config domain aggressive threat) := by
  intro h
  refine ⟨h.excludes config domain aggressive threat, [], fun before => ?_⟩
  rw [isExcluded_run, List.append_nil]
  rfl

theorem logs_act (b : Block) :
    Logs (act config b url domain tab : HostCall MemoryHost String).run := by
  unfold act
  refine .bindCall (.perform fun _ _ => rfl) fun _ => ?_
  refine .bindCall (.perform fun _ _ => rfl) fun _ => ?_
  refine .bindCall (.perform fun _ _ => rfl) fun redirect => ?_
  refine .bindCall (.perform fun _ _ => rfl) fun _ => ?_
  exact .pure (Except.ok redirect)

theorem logs_judge (b : Block) : Logs (judge config url domain tab b) := by
  unfold judge
  cases Text.occursIn b.domain url with
  | false => exact .pure _
  | true =>
    refine .bind (.ask fun _ _ => rfl) fun active => ?_
    cases active with
    | false => exact .pure _
    | true =>
      refine .bind (logs_isExcluded _ _) fun excluded => ?_
      cases excluded with
      | true => exact .pure _
      | false =>
        refine .bind (logs_act b) fun answer => ?_
        cases answer with
        | ok redirect => exact .pure _
        | error e => exact .pure _

/-- What becomes of a candidate that is scanned alone. -/
def verdictOn (h : MemoryHost) (config : Config) (url : String) (tab : Int) (b : Block) : Verdict :=
  ((judge config url (Url.normalizedDomain url) tab b).run h).1

/-- The calls for a candidate that is scanned alone. -/
def callsOn (h : MemoryHost) (config : Config) (url : String) (tab : Int) (b : Block) :
    List LoggedCall :=
  h.addedBy (judge config url (Url.normalizedDomain url) tab b)

/-- **What a scan does, candidate by candidate.**  Each gets the verdict and the calls that it gets
alone. -/
theorem scanFrom_eq (h : MemoryHost) (config : Config) (url : String) (tab : Int)
    (blocks : List Block) (r : ScanReport) (before : List LoggedCall) :
    (scanFrom config url tab blocks r).run (h.logging before) =
      (r ++ .ofVerdicts (blocks.map fun b => (b, h.verdictOn config url tab b)),
        h.logging (before ++ blocks.flatMap (h.callsOn config url tab))) := by
  -- Report and log grow candidate by candidate, so both vary.
  induction blocks generalizing r before with
  | nil =>
    rw [List.map_nil, List.flatMap_nil, List.append_nil, ScanReport.ofVerdicts, List.foldl_nil,
      ScanReport.append_empty]
    rfl
  | cons b rest ih =>
    have hlogs : Logs (judge config url (Url.normalizedDomain url) tab b) := logs_judge b
    rw [scanFrom, run_bind_of_run_eq (hlogs.run h before), ih, List.map_cons, List.flatMap_cons,
      List.append_assoc, ScanReport.add_eq_append, ScanReport.append_assoc,
      ← List.singleton_append (l := rest.map _), ScanReport.ofVerdicts_append]
    rfl

/-- A whole scan, with a host that has logged some calls already. -/
theorem scan_eq (h : MemoryHost) (config : Config) (url : String) (tab : Int)
    (blocks : List Block) (before : List LoggedCall) :
    (scan config blocks url tab).run (h.logging before) =
      (.ofVerdicts (blocks.map fun b => (b, h.verdictOn config url tab b)),
        h.logging (before ++ blocks.flatMap (h.callsOn config url tab))) := by
  rw [scan, scanFrom_eq]
  rfl

theorem scan_eq_start (h : MemoryHost) (config : Config) (url : String) (tab : Int)
    (blocks : List Block) :
    (scan config blocks url tab).run h =
      (.ofVerdicts (blocks.map fun b => (b, h.verdictOn config url tab b)),
        h.logging (blocks.flatMap (h.callsOn config url tab))) := by
  have hrun := h.scan_eq config url tab blocks []
  rwa [logging_nil, List.nil_append] at hrun

theorem addedBy_scan (h : MemoryHost) (config : Config) (url : String) (tab : Int)
    (blocks : List Block) :
    h.addedBy (scan config blocks url tab) = blocks.flatMap (h.callsOn config url tab) := by
  rw [addedBy, scan_eq_start]
  exact List.drop_left

/-- **Candidates are scanned independently.**  The report on two lists of candidates holds, in each
of its lists, what the report on the first one holds and then what the report on the second one
holds, and the calls are those for the first list and then those for the second one; nothing but
the log of the host changes.  Among whatever others, a candidate gets the one place in the report,
and the calls, that it gets when it is scanned alone.  And the second list is scanned as before by
the host that is left after the first one, whatever was blocked or failed there. -/
theorem scan_append (h : MemoryHost) (config : Config) (url : String) (tab : Int)
    (xs ys : List Block) :
    let report blocks := ((scan config blocks url tab).run h).1
    let after blocks := ((scan config blocks url tab).run h).2
    let calls blocks := h.addedBy (scan config blocks url tab)
    (report (xs ++ ys) = ⟨(report xs).blocked ++ (report ys).blocked,
        (report xs).skipped ++ (report ys).skipped,
        (report xs).failures ++ (report ys).failures⟩ ∧
      calls (xs ++ ys) = calls xs ++ calls ys) ∧
      (∀ blocks, after blocks = h.logging (calls blocks)) ∧
      (∀ b, (∃ v, report [b] = ({} : ScanReport).add b v) ∧
        report (xs ++ b :: ys) = report xs ++ report [b] ++ report ys ∧
        calls (xs ++ b :: ys) = calls xs ++ calls [b] ++ calls ys) ∧
      (scan config ys url tab).run (after xs) = (report ys, (after xs).logging (calls ys)) := by
  intro report after calls
  have hreport (blocks : List Block) :
      report blocks = .ofVerdicts (blocks.map fun b => (b, h.verdictOn config url tab b)) :=
    congrArg Prod.fst (h.scan_eq_start config url tab blocks)
  have hcalls (blocks : List Block) : calls blocks = blocks.flatMap (h.callsOn config url tab) :=
    h.addedBy_scan config url tab blocks
  have hafter (blocks : List Block) : after blocks = h.logging (calls blocks) := by
    rw [hcalls]
    exact congrArg Prod.snd (h.scan_eq_start config url tab blocks)
  have happend (xs ys : List Block) :
      report (xs ++ ys) = report xs ++ report ys ∧ calls (xs ++ ys) = calls xs ++ calls ys := by
    rw [hreport, hreport, hreport, hcalls, hcalls, hcalls, List.map_append,
      ScanReport.ofVerdicts_append, List.flatMap_append]
    exact ⟨rfl, rfl⟩
  refine ⟨happend xs ys, hafter, fun b => ⟨⟨h.verdictOn config url tab b, hreport [b]⟩, ?_, ?_⟩, ?_⟩
  · rw [(happend xs (b :: ys)).1, ← List.singleton_append, (happend [b] ys).1,
      ScanReport.append_assoc]
  · rw [(happend xs (b :: ys)).2, ← List.singleton_append, (happend [b] ys).2, List.append_assoc]
  · rw [hafter, scan_eq, logging_logging, hreport, hcalls ys]

end Scanning

end MemoryHost

end PageGuard
