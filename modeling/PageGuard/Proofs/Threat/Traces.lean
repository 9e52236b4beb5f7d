import PageGuard.Browser.ScriptHost
import PageGuard.Proofs.Threat.Watched
import PageGuard.Threat.MemoryHost
import PageGuard.Threat.Scan

/-!
# The calls of a scan

A scan talks to its host candidate by candidate.  The calls for one candidate follow a fixed order:
questions first, each asked only when the answers before it leave the matter open, and then the
effects, as far as they succeed.

* `ExclusionTrace`, `ActionTrace`, `JudgeTrace`: the calls that lead to an answer.
* `isExcluded_follows`, `act_follows`, `judge_follows`: every host is called in this order.
* `scan_trace`: the calls of a scan are those of its candidates, one after the other, and every
  candidate ends in one place of the report.
* `MemoryHost.namesFailures`, `Browser.ScriptHost.namesFailures`: the failures of both hosts name
  the calls that failed.
-/

namespace PageGuard

open Text

/-! ## The order of the calls -/

/-- The questions that decide whether a domain is excluded. -/
inductive ExclusionTrace (config : Config) (domain : String) (aggressive : Bool)
    (threat : RuleType) : List HostEvent → Bool → Prop where
  | harmless (h : threat.isPageBlock = false) :
      ExclusionTrace config domain aggressive threat [] false
  | listed (h : threat.isPageBlock = true) :
      ExclusionTrace config domain aggressive threat
        [.isListed domain config.tables.manual config.category true] true
  | exempt (h : threat.isPageBlock = true) :
      ExclusionTrace config domain aggressive threat
        [.isListed domain config.tables.manual config.category false, .isExempt domain true] true
  | unspared (h : threat.isPageBlock = true) (haggressive : aggressive = true) :
      ExclusionTrace config domain aggressive threat
        [.isListed domain config.tables.manual config.category false, .isExempt domain false] false
  | popular (h : threat.isPageBlock = true) (haggressive : aggressive = false) (answer : Bool) :
      ExclusionTrace config domain aggressive threat
        [.isListed domain config.tables.manual config.category false, .isExempt domain false,
          .isListed domain config.tables.popular config.category answer] answer

/-- The effects for a candidate: each is asked for when the one before succeeded.  The tab goes
where the host decided. -/
inductive ActionTrace (config : Config) (url domain : String) (tab : Int) (b : Block) :
    List HostEvent → Except HostError String → Prop where
  | recordFails (e : HostError) :
      ActionTrace config url domain tab b [.recordAll .scam tab domain domain true (.error e)]
        (.error e)
  | badgeFails (e : HostError) :
      ActionTrace config url domain tab b
        [.recordAll .scam tab domain domain true (.ok ()), .updateBadge tab (.error e)] (.error e)
  | decisionFails (e : HostError) :
      ActionTrace config url domain tab b
        [.recordAll .scam tab domain domain true (.ok ()), .updateBadge tab (.ok ()),
          .onScam (b.scamContext config url domain tab) (.error e)] (.error e)
  | navigationFails (redirect : String) (e : HostError) :
      ActionTrace config url domain tab b
        [.recordAll .scam tab domain domain true (.ok ()), .updateBadge tab (.ok ()),
          .onScam (b.scamContext config url domain tab) (.ok redirect),
          .navigate tab redirect (.error e)] (.error e)
  | done (redirect : String) :
      ActionTrace config url domain tab b
        [.recordAll .scam tab domain domain true (.ok ()), .updateBadge tab (.ok ()),
          .onScam (b.scamContext config url domain tab) (.ok redirect),
          .navigate tab redirect (.ok ())] (.ok redirect)

/-- The calls for a candidate, with what becomes of it. -/
inductive JudgeTrace (config : Config) (url domain : String) (tab : Int) (b : Block) :
    List HostEvent → Verdict → Prop where
  | foreign (h : occursIn b.domain url = false) :
      JudgeTrace config url domain tab b [] (.skipped .foreignDomain)
  | inactive (h : occursIn b.domain url = true) :
      JudgeTrace config url domain tab b [.protectionActive config.feature url tab false]
        (.skipped .protectionInactive)
  | excluded (h : occursIn b.domain url = true) {questions : List HostEvent}
      (hquestions :
        ExclusionTrace config domain (config.aggressive || b.aggressive) b.type questions true) :
      JudgeTrace config url domain tab b
        (.protectionActive config.feature url tab true :: questions) (.skipped .excluded)
  | blocked (h : occursIn b.domain url = true) {questions effects : List HostEvent}
      {redirect : String}
      (hquestions :
        ExclusionTrace config domain (config.aggressive || b.aggressive) b.type questions false)
      (heffects : ActionTrace config url domain tab b effects (.ok redirect)) :
      JudgeTrace config url domain tab b
        (.protectionActive config.feature url tab true :: (questions ++ effects))
        (.blocked redirect)
  | failed (h : occursIn b.domain url = true) {questions effects : List HostEvent} {e : HostError}
      (hquestions :
        ExclusionTrace config domain (config.aggressive || b.aggressive) b.type questions false)
      (heffects : ActionTrace config url domain tab b effects (.error e)) :
      JudgeTrace config url domain tab b
        (.protectionActive config.feature url tab true :: (questions ++ effects)) (.failed e)

/-! ## Every host is called in this order -/

section Following

variable {H : Type} [Host H] {config : Config} {url domain : String} {tab : Int}

open Watched

theorem isExcluded_follows (aggressive : Bool) (threat : RuleType) :
    Follows (isExcluded config domain aggressive threat)
      (isExcluded config domain aggressive threat : StateM H Bool)
      (ExclusionTrace config domain aggressive threat) := by
  unfold isExcluded
  cases h : threat.isPageBlock with
  | false => exact .pure (.harmless h)
  | true =>
    refine (Follows.isListed _ _ _).bind fun _ listed hlisted => ?_
    subst hlisted
    cases listed with
    | true => exact .pure (.listed h)
    | false =>
      refine (Follows.isExempt _).bind fun _ exempt hexempt => ?_
      subst hexempt
      cases exempt with
      | true => exact .pure (.exempt h)
      | false =>
        cases haggressive : aggressive with
        | true => exact .pure (.unspared h rfl)
        | false =>
          refine (Follows.isListed ..).mono ?_
          rintro _ answer rfl
          exact .popular h rfl answer

theorem act_follows (b : Block) :
    Follows (act config b url domain tab).run (act config b url domain tab : HostCall H String).run
      (ActionTrace config url domain tab b) := by
  unfold act
  refine .bindCall (Follows.recordAll ..) ?_ ?_
  · rintro _ ⟨⟩ rfl
    refine .bindCall (Follows.updateBadge _) ?_ ?_
    · rintro _ ⟨⟩ rfl
      refine .bindCall (Follows.onScam _) ?_ ?_
      · rintro _ redirect rfl
        refine .bindCall (Follows.navigate ..) ?_ ?_
        · rintro _ ⟨⟩ rfl
          exact .pure (.done redirect)
        · rintro _ e rfl
          exact .navigationFails redirect e
      · rintro _ e rfl
        exact .decisionFails e
    · rintro _ e rfl
      exact .badgeFails e
  · rintro _ e rfl
    exact .recordFails e

theorem judge_follows (b : Block) :
    Follows (judge config url domain tab b) (judge config url domain tab b : StateM H Verdict)
      (JudgeTrace config url domain tab b) := by
  unfold judge
  cases hurl : occursIn b.domain url with
  | false => exact .pure (.foreign hurl)
  | true =>
    refine (Follows.protectionActive ..).bind ?_
    rintro _ active rfl
    cases active with
    | false => exact .pure (.inactive hurl)
    | true =>
      refine (isExcluded_follows ..).bind fun questions excluded hquestions => ?_
      cases excluded with
      | true =>
        refine .pure ?_
        rw [List.append_nil]
        exact .excluded hurl hquestions
      | false =>
        refine (act_follows b).bind fun effects answer heffects => ?_
        cases answer with
        | ok redirect =>
          refine .pure ?_
          rw [List.append_nil, List.singleton_append]
          exact .blocked hurl hquestions heffects
        | error e =>
          refine .pure ?_
          rw [List.append_nil, List.singleton_append]
          exact .failed hurl hquestions heffects

end Following

/-! ## What the order implies -/

section Consequences

variable {config : Config} {url domain : String} {tab : Int} {b : Block} {events : List HostEvent}

/-- Deciding whether a domain is excluded has no effect. -/
theorem ExclusionTrace.effect?_eq_none {aggressive answer : Bool} {threat : RuleType}
    (h : ExclusionTrace config domain aggressive threat events answer) :
    ∀ event ∈ events, event.effect? = none ∧ event.failure? = none := by
  cases h <;> simp [HostEvent.effect?, HostEvent.failure?]

/-- The effects for a candidate that fails end with the call that failed, the only one. -/
theorem ActionTrace.ends_of_error {e : HostError}
    (h : ActionTrace config url domain tab b events (.error e)) :
    ∃ before last, events = before ++ [last] ∧ last.failure? = some e ∧
      ∀ event ∈ before, event.failure? = none := by
  cases h with
  | recordFails => exact ⟨[], _, rfl, rfl, by simp⟩
  | badgeFails => exact ⟨[_], _, rfl, rfl, by simp [HostEvent.failure?, HostEvent.errorOf?]⟩
  | decisionFails => exact ⟨[_, _], _, rfl, rfl, by simp [HostEvent.failure?, HostEvent.errorOf?]⟩
  | navigationFails =>
    exact ⟨[_, _, _], _, rfl, rfl, by simp [HostEvent.failure?, HostEvent.errorOf?]⟩

/-- A candidate that is skipped has no effect. -/
theorem JudgeTrace.effect?_eq_none_of_skipped {reason : SkipReason}
    (h : JudgeTrace config url domain tab b events (.skipped reason)) :
    ∀ event ∈ events, event.effect? = none := by
  cases h with
  | foreign => exact fun event hevent => absurd hevent List.not_mem_nil
  | inactive => simp [HostEvent.effect?]
  | excluded _ hquestions =>
    intro event hevent
    rcases List.mem_cons.1 hevent with rfl | hevent
    · rfl
    · exact (hquestions.effect?_eq_none event hevent).1

/-- The calls for a candidate that fails end with the call that failed, the only one. -/
theorem JudgeTrace.ends_of_failed {e : HostError}
    (h : JudgeTrace config url domain tab b events (.failed e)) :
    ∃ before last, events = before ++ [last] ∧ last.failure? = some e ∧
      ∀ event ∈ before, event.failure? = none := by
  cases h with
  | @failed _ questions _ _ hquestions heffects =>
    obtain ⟨before, last, rfl, hlast, hbefore⟩ := heffects.ends_of_error
    refine ⟨.protectionActive config.feature url tab true :: (questions ++ before), last, ?_,
      hlast, fun event hevent => ?_⟩
    · rw [List.cons_append, List.append_assoc]
    · rcases List.mem_cons.1 hevent with rfl | hevent
      · rfl
      · rcases List.mem_append.1 hevent with hevent | hevent
        · exact (hquestions.effect?_eq_none event hevent).2
        · exact hbefore event hevent

end Consequences

/-! ## Whole scans -/

/-- A candidate with the calls for it and what became of it. -/
structure Treatment where
  block : Block
  events : List HostEvent
  verdict : Verdict

namespace Treatment

/-- The URL to which the tab went. -/
def redirect? (t : Treatment) : Option String :=
  match t.verdict with
  | .blocked redirect => some redirect
  | _ => none

def skip? (t : Treatment) : Option (Block × SkipReason) :=
  match t.verdict with
  | .skipped reason => some (t.block, reason)
  | _ => none

def failure? (t : Treatment) : Option (Block × HostError) :=
  match t.verdict with
  | .failed e => some (t.block, e)
  | _ => none

end Treatment

/-- The report on treated candidates: each of them has one place in it, and the order is kept. -/
def ScanReport.ofTreatments (ts : List Treatment) : ScanReport where
  blocked := ts.filterMap Treatment.redirect?
  skipped := ts.filterMap Treatment.skip?
  failures := ts.filterMap Treatment.failure?

namespace ScanReport

/-- Adding treated candidates one by one reports on them. -/
theorem foldl_add (ts : List Treatment) (r : ScanReport) :
    ts.foldl (fun r t => r.add t.block t.verdict) r =
      ⟨r.blocked ++ (ofTreatments ts).blocked, r.skipped ++ (ofTreatments ts).skipped,
        r.failures ++ (ofTreatments ts).failures⟩ := by
  induction ts generalizing r with
  | nil => simp [ofTreatments]
  | cons t ts ih =>
    obtain ⟨b, events, verdict⟩ := t
    rw [List.foldl_cons, ih]
    cases verdict <;>
      simp [ofTreatments, add, List.filterMap_cons, Treatment.redirect?, Treatment.skip?,
        Treatment.failure?]

theorem length_ofTreatments (ts : List Treatment) :
    (ofTreatments ts).blocked.length + (ofTreatments ts).skipped.length +
      (ofTreatments ts).failures.length = ts.length := by
  induction ts with
  | nil => rfl
  | cons t ts ih =>
    obtain ⟨b, events, verdict⟩ := t
    simp only [ofTreatments] at ih
    cases verdict <;>
      simp only [ofTreatments, List.filterMap_cons, Treatment.redirect?, Treatment.skip?,
        Treatment.failure?, List.length_cons] <;> omega

end ScanReport

section Scanning

variable {H : Type} [Host H] (config : Config)

open Watched

theorem scanFrom_follows (url : String) (tab : Int) (blocks : List Block) (r : ScanReport) :
    Follows (scanFrom config url tab blocks r)
      (scanFrom config url tab blocks r : StateM H ScanReport) fun events report =>
        ∃ ts : List Treatment, ts.map Treatment.block = blocks ∧
          (∀ t ∈ ts,
            JudgeTrace config url (Url.normalizedDomain url) tab t.block t.events t.verdict) ∧
          ts.flatMap Treatment.events = events ∧
          report = ts.foldl (fun r t => r.add t.block t.verdict) r := by
  -- The report so far varies: each candidate is added before the rest is scanned.
  induction blocks generalizing r with
  | nil => exact .pure ⟨[], rfl, fun t ht => absurd ht List.not_mem_nil, rfl, rfl⟩
  | cons b rest ih =>
    refine (judge_follows b).bind fun events verdict hjudge => (ih (r.add b verdict)).mono ?_
    rintro more report ⟨ts, hblocks, htraces, hevents, hreport⟩
    refine ⟨⟨b, events, verdict⟩ :: ts, ?_, ?_, ?_, ?_⟩
    · rw [List.map_cons, hblocks]
    · exact List.forall_mem_cons.2 ⟨hjudge, htraces⟩
    · rw [List.flatMap_cons, hevents]
    · rw [List.foldl_cons, hreport]

/-- **The calls of a scan.**  Whatever the host answers, the calls of a scan are those for its
candidates, one after the other, and each candidate has one place in the report, in order.  A
candidate that is skipped has no effect, and the calls for a candidate that fails end with the call
whose failure the report gives. -/
theorem scan_trace (blocks : List Block) (url : String) (tab : Int) (host : H) :
    ∃ ts : List Treatment, ts.map Treatment.block = blocks ∧
      (∀ t ∈ ts,
        JudgeTrace config url (Url.normalizedDomain url) tab t.block t.events t.verdict) ∧
      (scan config blocks url tab).run (Watched.start host) =
        (.ofTreatments ts,
          ⟨((scan config blocks url tab).run host).2, ts.flatMap Treatment.events⟩) ∧
      ((scan config blocks url tab).run host).1 = .ofTreatments ts ∧
      (ScanReport.ofTreatments ts).blocked.length + (ScanReport.ofTreatments ts).skipped.length +
        (ScanReport.ofTreatments ts).failures.length = blocks.length ∧
      (∀ t ∈ ts, ∀ reason, t.verdict = .skipped reason → ∀ event ∈ t.events,
        event.effect? = none) ∧
      ∀ t ∈ ts, ∀ e, t.verdict = .failed e → ∃ before last, t.events = before ++ [last] ∧
        last.failure? = some e ∧ (∀ event ∈ before, event.failure? = none) ∧
        (Host.NamesFailures H → last.effect? = some e.call) := by
  obtain ⟨events, hrun, hnamed, ts, hblocks, htraces, hevents, hreport⟩ :=
    (scanFrom_follows config url tab blocks {}).out (Watched.start host)
  rw [ScanReport.foldl_add] at hreport
  have hreport : ((scan config blocks url tab).run host).1 = .ofTreatments ts := hreport
  refine ⟨ts, hblocks, htraces, ?_, hreport, ?_, ?_, ?_⟩
  · rw [← hreport, hevents]
    exact hrun
  · rw [ScanReport.length_ofTreatments, ← hblocks, List.length_map]
  · intro t ht reason hreason
    exact JudgeTrace.effect?_eq_none_of_skipped (hreason ▸ htraces t ht)
  · intro t ht e he
    obtain ⟨before, last, hends, hlast, hbefore⟩ :=
      JudgeTrace.ends_of_failed (he ▸ htraces t ht)
    refine ⟨before, last, hends, hlast, hbefore, fun hnames => hnamed hnames last ?_ e hlast⟩
    rw [← hevents]
    refine List.mem_flatMap.2 ⟨t, ht, ?_⟩
    rw [hends]
    exact List.mem_append_right before (List.mem_singleton_self last)

end Scanning

/-! ## The failures of the hosts -/

theorem MemoryHost.failsAs_perform {α : Type} {effect : HostEffect} {call : LoggedCall}
    {answer : MemoryHost → α} : HostCall.FailsAs effect (perform effect call answer) := by
  intro host e h
  unfold perform at h
  split at h
  · rw [← Except.error.inj h]
  · cases h

theorem MemoryHost.namesFailures : Host.NamesFailures MemoryHost where
  recordAll _ _ _ _ _ := failsAs_perform
  updateBadge _ := failsAs_perform
  onScam _ := failsAs_perform
  navigate _ _ := failsAs_perform

namespace Browser.ScriptHost

theorem failsAs_perform {effect : HostEffect} {method : String} {arguments : List Json.Value} :
    HostCall.FailsAs effect (perform effect method arguments) := by
  intro host e h
  have hcall (f : Except CallError ScriptValue → HostCall ScriptHost ScriptValue) :
      ((call method arguments : StateM ScriptHost _) >>= f : HostCall ScriptHost ScriptValue) host =
        f (call method arguments host).1 (call method arguments host).2 := rfl
  rw [perform, hcall] at h
  cases hanswer : (call method arguments host).1 with
  | ok v =>
    rw [hanswer] at h
    cases h
  | error reason =>
    rw [hanswer] at h
    rw [← Except.error.inj h]

theorem namesFailures : Host.NamesFailures ScriptHost where
  recordAll _ _ _ _ _ := failsAs_perform.bind fun _ => .pure ()
  updateBadge _ := failsAs_perform.bind fun _ => .pure ()
  onScam _ := by
    refine failsAs_perform.bind fun v => ?_
    cases hredirect : redirectOf v with
    | ok url => exact .pure url
    | error e =>
      unfold redirectOf at hredirect
      split at hredirect
      · cases hredirect
      · intro host e' h
        rw [← Except.error.inj h, ← Except.error.inj hredirect]
  navigate _ _ := failsAs_perform.bind fun _ => .pure ()

end Browser.ScriptHost

end PageGuard
