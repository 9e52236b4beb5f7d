import PageGuard.Proofs.Threat.Independence
import Mathlib.Data.List.Flatten

/-!
# Aggressive scans

The aggressive mode, of the engine or of a single candidate, keeps the popularity of a domain from
sparing it.  Turning it on therefore leaves every candidate where it was, except for those that
popularity alone had spared, and these are acted on.

* `Config.raised`, `Block.raised`: the mode turned on, or left as it is.
* `MemoryHost.judge_eq`: the verdict of a host in memory, by the reason to skip a candidate.
* `MemoryHost.skipReason?_raised_of_not_unspared`, `MemoryHost.skipReason?_raised_of_unspared`: what
  turning the mode on does to this reason.
* `MemoryHost.judged_raised`: what it does to one candidate.
* `MemoryHost.scan_raised`: what it does to a scan.
-/

namespace PageGuard

open Text

/-- The configuration with the aggressive mode turned on if `on`, and as it is otherwise. -/
def Config.raised (config : Config) (on : Bool) : Config :=
  { config with aggressive := config.aggressive || on }

/-- The candidate with its aggressive flag turned on if `on`, and as it is otherwise. -/
def Block.raised (b : Block) (on : Bool) : Block := { b with aggressive := b.aggressive || on }

/-- What becomes of a candidate that was acted on. -/
def Verdict.ofAnswer : Except HostError String → Verdict
  | .ok redirect => .blocked redirect
  | .error e => .failed e

theorem Verdict.ofAnswer_cases (answer : Except HostError String) :
    (∃ redirect, ofAnswer answer = .blocked redirect) ∨ ∃ e, ofAnswer answer = .failed e := by
  cases answer with
  | ok redirect => exact Or.inl ⟨redirect, rfl⟩
  | error e => exact Or.inr ⟨e, rfl⟩

namespace MemoryHost

variable {h : MemoryHost} {config : Config} {url domain : String} {tab : Int}

/-! ## One candidate -/

/-- Why a candidate is skipped, if it is. -/
def skipReason? (h : MemoryHost) (config : Config) (url domain : String) (b : Block) :
    Option SkipReason :=
  if !occursIn b.domain url then some .foreignDomain
  else if !h.active then some .protectionInactive
  else if h.excludes config domain (config.aggressive || b.aggressive) b.type then some .excluded
  else none

/-- **The verdict on a candidate.**  Either there is a reason to skip it, and the host stays as it
is, or it is acted on. -/
theorem judge_eq (h : MemoryHost) (config : Config) (url domain : String) (tab : Int) (b : Block) :
    (judge config url domain tab b).run h =
      match h.skipReason? config url domain b with
      | some reason => (.skipped reason, h)
      | none =>
        let answered := (act config b url domain tab : HostCall MemoryHost String) h
        (.ofAnswer answered.1, answered.2) := by
  unfold judge skipReason?
  cases occursIn b.domain url with
  | false => rfl
  | true =>
    simp only [Bool.not_true, Bool.false_eq_true, if_false]
    rw [run_bind_of_run_eq (protectionActive_run ..)]
    cases h.active with
    | false => rfl
    | true =>
      simp only [Bool.not_true, Bool.false_eq_true, if_false]
      rw [run_bind_of_run_eq (isExcluded_run ..)]
      cases h.excludes config domain (config.aggressive || b.aggressive) b.type with
      | true => rfl
      | false =>
        simp only [Bool.false_eq_true, if_false]
        generalize hrun : (act config b url domain tab : HostCall MemoryHost String) h = answered
        have hact : (act config b url domain tab).run.run h = answered := hrun
        rw [run_bind_of_run_eq hact]
        cases answered.1 <;> rfl

theorem verdictOn_eq (h : MemoryHost) (config : Config) (url : String) (tab : Int) (b : Block) :
    h.verdictOn config url tab b =
      match h.skipReason? config url (Url.normalizedDomain url) b with
      | some reason => .skipped reason
      | none => .ofAnswer
          ((act config b url (Url.normalizedDomain url) tab : HostCall MemoryHost String) h).1 := by
  rw [verdictOn, judge_eq]
  cases h.skipReason? config url (Url.normalizedDomain url) b <;> rfl

theorem callsOn_eq (h : MemoryHost) (config : Config) (url : String) (tab : Int) (b : Block) :
    h.callsOn config url tab b =
      match h.skipReason? config url (Url.normalizedDomain url) b with
      | some _ => []
      | none => h.addedBy
          (act config b url (Url.normalizedDomain url) tab : HostCall MemoryHost String).run := by
  rw [callsOn, addedBy, judge_eq]
  cases h.skipReason? config url (Url.normalizedDomain url) b with
  | some reason => exact List.drop_length
  | none => rfl

/-- A verdict tells the reason to skip a candidate, if there is one. -/
theorem verdictOn_eq_skipped_iff (h : MemoryHost) (config : Config) (url : String) (tab : Int)
    (b : Block) (reason : SkipReason) :
    h.verdictOn config url tab b = .skipped reason ↔
      h.skipReason? config url (Url.normalizedDomain url) b = some reason := by
  rw [verdictOn_eq]
  cases h.skipReason? config url (Url.normalizedDomain url) b with
  | some other => rw [Verdict.skipped.injEq, Option.some.injEq]
  | none =>
    refine iff_of_false (fun heq => ?_) (Option.some_ne_none _).symm
    rcases Verdict.ofAnswer_cases
      ((act config b url (Url.normalizedDomain url) tab : HostCall MemoryHost String) h).1 with
      ⟨redirect, hanswer⟩ | ⟨e, hanswer⟩
    all_goals exact Verdict.noConfusion (hanswer.symm.trans heq)

/-! ## Turning the mode on -/

/-- The candidate is spared by the popularity of the domain alone, and no more so once the mode is
turned on. -/
structure Unspared (h : MemoryHost) (config : Config) (url domain : String) (on : Bool)
    (c : Block × Bool) : Prop where
  calm : (config.aggressive || c.1.aggressive) = false
  raised : ((config.raised on).aggressive || (c.1.raised c.2).aggressive) = true
  excluded : h.skipReason? config url domain c.1 = some .excluded
  unlisted : h.lists domain config.tables.manual = false
  notExempt : h.exempts domain = false

/-- What is aggressive stays so. -/
theorem aggressive_raised {b : Block} {on flag : Bool}
    (haggressive : (config.aggressive || b.aggressive) = true) :
    ((config.raised on).aggressive || (b.raised flag).aggressive) = true := by
  simp only [Config.raised, Block.raised, Bool.or_eq_true] at haggressive ⊢
  exact haggressive.imp Or.inl Or.inl

/-- A domain that neither whitelist nor pattern covers is excluded for its popularity, unless the
mode is aggressive. -/
theorem excludes_eq_popular {threat : RuleType} (aggressive : Bool)
    (hthreat : threat.isPageBlock = true) (hlisted : h.lists domain config.tables.manual = false)
    (hexempt : h.exempts domain = false) :
    h.excludes config domain aggressive threat =
      (!aggressive && h.lists domain config.tables.popular) := by
  rw [excludes, hthreat, hlisted, hexempt, Bool.true_and, Bool.false_or, Bool.false_or]

/-- The mode does not matter where whitelist or pattern decide, or nothing is ever excluded. -/
theorem excludes_eq_of_decided {threat : RuleType} (aggressive raised : Bool)
    (hdecided : threat.isPageBlock = false ∨ h.lists domain config.tables.manual = true ∨
      h.exempts domain = true) :
    h.excludes config domain aggressive threat = h.excludes config domain raised threat := by
  rcases hdecided with hdecided | hdecided | hdecided <;> simp [excludes, hdecided]

theorem skipReason?_eq_excluded_iff {b : Block} :
    h.skipReason? config url domain b = some .excluded ↔
      occursIn b.domain url = true ∧ h.active = true ∧
        h.excludes config domain (config.aggressive || b.aggressive) b.type = true := by
  unfold skipReason?
  split_ifs <;> simp_all

/-- The reason to skip a candidate changes only with the exclusion of the domain. -/
theorem skipReason?_raised_congr {b : Block} {on flag : Bool}
    (hexcludes : occursIn b.domain url = true → h.active = true →
      h.excludes config domain ((config.raised on).aggressive || (b.raised flag).aggressive)
          b.type =
        h.excludes config domain (config.aggressive || b.aggressive) b.type) :
    h.skipReason? (config.raised on) url domain (b.raised flag) =
      h.skipReason? config url domain b := by
  have hafter : h.skipReason? (config.raised on) url domain (b.raised flag) =
      if !occursIn b.domain url then some .foreignDomain
      else if !h.active then some .protectionInactive
      else if h.excludes config domain
          ((config.raised on).aggressive || (b.raised flag).aggressive) b.type then some .excluded
      else none := rfl
  rw [hafter, skipReason?]
  split_ifs with hurl hactive <;> simp_all

/-- A candidate keeps its reason, unless popularity alone had spared it. -/
theorem skipReason?_raised_of_not_unspared {on : Bool} {c : Block × Bool}
    (hspared : ¬ h.Unspared config url domain on c) :
    h.skipReason? (config.raised on) url domain (c.1.raised c.2) =
      h.skipReason? config url domain c.1 := by
  refine skipReason?_raised_congr fun hurl hactive => ?_
  by_cases hdecided : c.1.type.isPageBlock = false ∨ h.lists domain config.tables.manual = true ∨
      h.exempts domain = true
  · exact excludes_eq_of_decided _ _ hdecided
  · simp only [not_or, Bool.not_eq_false, Bool.not_eq_true] at hdecided
    obtain ⟨hthreat, hlisted, hexempt⟩ := hdecided
    rw [excludes_eq_popular _ hthreat hlisted hexempt,
      excludes_eq_popular _ hthreat hlisted hexempt]
    cases hbefore : config.aggressive || c.1.aggressive with
    | true => rw [aggressive_raised hbefore]
    | false =>
      cases hafter : (config.raised on).aggressive || (c.1.raised c.2).aggressive with
      | false => rfl
      | true =>
        cases hpopular : h.lists domain config.tables.popular with
        | false => rfl
        | true =>
          refine absurd ⟨hbefore, hafter, skipReason?_eq_excluded_iff.2 ⟨hurl, hactive, ?_⟩,
            hlisted, hexempt⟩ hspared
          rw [excludes_eq_popular _ hthreat hlisted hexempt, hbefore, hpopular]
          rfl

/-- A candidate that popularity alone had spared has no reason to be skipped any more. -/
theorem skipReason?_raised_of_unspared {on : Bool} {c : Block × Bool}
    (hspared : h.Unspared config url domain on c) :
    h.lists domain config.tables.popular = true ∧
      h.skipReason? (config.raised on) url domain (c.1.raised c.2) = none := by
  obtain ⟨hurl, hactive, hexcludes⟩ := skipReason?_eq_excluded_iff.1 hspared.excluded
  have hthreat : c.1.type.isPageBlock = true := (Bool.and_eq_true_iff.1 hexcludes).1
  rw [excludes_eq_popular _ hthreat hspared.unlisted hspared.notExempt,
    Bool.and_eq_true] at hexcludes
  have hfree : h.excludes (config.raised on) domain
      ((config.raised on).aggressive || (c.1.raised c.2).aggressive)
      (c.1.raised c.2).type = false := by
    rw [hspared.raised]
    exact excludes_eq_popular true hthreat hspared.unlisted hspared.notExempt
  have hurl' : occursIn (c.1.raised c.2).domain url = true := hurl
  refine ⟨hexcludes.2, ?_⟩
  simp [skipReason?, hurl', hactive, hfree]

/-- A candidate that is acted on is treated alike whatever the mode. -/
theorem act_raised (on flag : Bool) (b : Block) :
    (act (config.raised on) (b.raised flag) url domain tab : HostCall MemoryHost String) =
      act config b url domain tab := rfl

/-- **Turning the mode on leaves every candidate where it was, or acts on it.**  It acts on those
that popularity alone had spared. -/
theorem judged_raised (h : MemoryHost) (config : Config) (url : String) (tab : Int) (on : Bool)
    (c : Block × Bool) :
    (¬ h.Unspared config url (Url.normalizedDomain url) on c ∧
        h.verdictOn (config.raised on) url tab (c.1.raised c.2) = h.verdictOn config url tab c.1 ∧
        h.callsOn (config.raised on) url tab (c.1.raised c.2) = h.callsOn config url tab c.1) ∨
      (h.Unspared config url (Url.normalizedDomain url) on c ∧
        h.callsOn config url tab c.1 = [] ∧
        ((∃ redirect,
            h.verdictOn (config.raised on) url tab (c.1.raised c.2) = .blocked redirect) ∨
          ∃ e, h.verdictOn (config.raised on) url tab (c.1.raised c.2) = .failed e)) := by
  by_cases hspared : h.Unspared config url (Url.normalizedDomain url) on c
  · refine Or.inr ⟨hspared, ?_, ?_⟩
    · rw [callsOn_eq, hspared.excluded]
    · rw [verdictOn_eq, (skipReason?_raised_of_unspared hspared).2]
      exact Verdict.ofAnswer_cases _
  · have hreason := skipReason?_raised_of_not_unspared hspared
    refine Or.inl ⟨hspared, ?_, ?_⟩
    · rw [verdictOn_eq, verdictOn_eq, hreason, act_raised]
    · rw [callsOn_eq, callsOn_eq, hreason, act_raised]

/-! ## Whole scans -/

/-- **Turning the aggressive mode on spares no page.**  The mode is turned on in the configuration,
or for some of the candidates, or both.  Both scans report one verdict for each candidate.  A
candidate that was blocked goes to the same URL, one that failed fails alike, and one that was
skipped as foreign or for want of protection still is.  A verdict changes exactly when the candidate
was not aggressive and now is, and was excluded although neither the whitelist nor a pattern covers
the domain; then the popularity table had covered it, and it is blocked or fails now.  Every call of
the first scan is made in the second one as well, in the same order. -/
theorem scan_raised (h : MemoryHost) (config : Config) (url : String) (tab : Int) (on : Bool)
    (candidates : List (Block × Bool)) :
    let domain := Url.normalizedDomain url
    let scanBefore : StateM MemoryHost ScanReport :=
      scan config (candidates.map Prod.fst) url tab
    let scanAfter : StateM MemoryHost ScanReport :=
      scan (config.raised on) (candidates.map fun c => c.1.raised c.2) url tab
    let before (c : Block × Bool) := h.verdictOn config url tab c.1
    let after (c : Block × Bool) := h.verdictOn (config.raised on) url tab (c.1.raised c.2)
    (scanBefore.run h).1 = .ofVerdicts (candidates.map fun c => (c.1, before c)) ∧
      (scanAfter.run h).1 = .ofVerdicts (candidates.map fun c => (c.1.raised c.2, after c)) ∧
      (∀ c ∈ candidates,
        (∀ redirect, before c = .blocked redirect → after c = .blocked redirect) ∧
        (∀ e, before c = .failed e → after c = .failed e) ∧
        (∀ reason, reason ≠ .excluded → before c = .skipped reason → after c = .skipped reason) ∧
        (after c ≠ before c ↔
          (config.aggressive || c.1.aggressive) = false ∧
            ((config.raised on).aggressive || (c.1.raised c.2).aggressive) = true ∧
            before c = .skipped .excluded ∧ h.lists domain config.tables.manual = false ∧
            h.exempts domain = false) ∧
        (after c ≠ before c → h.lists domain config.tables.popular = true ∧
          ((∃ redirect, after c = .blocked redirect) ∨ ∃ e, after c = .failed e))) ∧
      (h.addedBy scanBefore).Sublist (h.addedBy scanAfter) := by
  intro domain scanBefore scanAfter before after
  refine ⟨?_, ?_, fun c _ => ?_, ?_⟩
  · rw [scan_eq_start, List.map_map]
    rfl
  · rw [scan_eq_start, List.map_map]
    rfl
  · have hspared : h.Unspared config url domain on c ↔
        (config.aggressive || c.1.aggressive) = false ∧
          ((config.raised on).aggressive || (c.1.raised c.2).aggressive) = true ∧
          before c = .skipped .excluded ∧ h.lists domain config.tables.manual = false ∧
          h.exempts domain = false := by
      rw [verdictOn_eq_skipped_iff]
      exact ⟨fun s => ⟨s.calm, s.raised, s.excluded, s.unlisted, s.notExempt⟩,
        fun ⟨hcalm, hraised, hexcluded, hunlisted, hnotExempt⟩ =>
          ⟨hcalm, hraised, hexcluded, hunlisted, hnotExempt⟩⟩
    rw [← hspared]
    rcases h.judged_raised config url tab on c with ⟨hnot, hsame, -⟩ | ⟨hun, -, hacted⟩
    · have hsame : after c = before c := hsame
      rw [hsame]
      exact ⟨fun _ => id, fun _ => id, fun _ _ => id, iff_of_false (fun hne => hne rfl) hnot,
        fun hne => absurd rfl hne⟩
    · have hexcluded : before c = .skipped .excluded := (hspared.1 hun).2.2.1
      have hne : after c ≠ before c := by
        rw [hexcluded]
        rcases hacted with ⟨redirect, hacted⟩ | ⟨e, hacted⟩
        all_goals exact fun heq => Verdict.noConfusion (hacted.symm.trans heq)
      rw [hexcluded] at hne ⊢
      refine ⟨fun _ => nofun, fun _ => nofun, fun reason hreason heq => ?_, iff_of_true hne hun,
        fun _ => ⟨(skipReason?_raised_of_unspared hun).1, hacted⟩⟩
      exact absurd (Verdict.skipped.inj heq).symm hreason
  · rw [addedBy_scan, addedBy_scan, List.flatMap_map, List.flatMap_map]
    refine List.Sublist.flatMap_right candidates fun c _ => ?_
    rcases h.judged_raised config url tab on c with ⟨-, -, hcalls⟩ | ⟨-, hnone, -⟩
    · rw [hcalls]
    · rw [hnone]
      exact List.nil_sublist _

end MemoryHost

end PageGuard
