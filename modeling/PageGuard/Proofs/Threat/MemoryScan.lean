import PageGuard.Threat.MemoryHost
import PageGuard.Threat.Scan
import Mathlib.Data.List.Basic

/-!
# Scans with a host in memory

A host in memory gives the same answers throughout a scan, and no call fails unless it was made to.
So what a scan does is known from the host before it.

* `MemoryHost.actsOn`: whether a candidate is acted on.
* `MemoryHost.scanFrom_run`: a scan blocks the candidates that are acted on, with four calls for
  each.
* `MemoryHost.scan_quiet_iff`: when a scan does nothing at all.
-/

namespace PageGuard

open Text

/-- A computation goes on with the answer of its first part. -/
theorem run_bind_of_run_eq {H α β : Type} {x : StateM H α} {f : α → StateM H β} {h h' : H} {a : α}
    (hx : x.run h = (a, h')) : (x >>= f).run h = (f a).run h' := by
  have hstep : (x >>= f).run h = (f (x.run h).1).run (x.run h).2 := rfl
  rw [hstep, hx]

/-- A call that succeeds goes on with its answer. -/
theorem HostCall.bind_of_ok {H α β : Type} {x : HostCall H α} {f : α → HostCall H β} {h h' : H}
    {a : α} (hx : x h = (.ok a, h')) : (x >>= f) h = f a h' :=
  run_bind_of_run_eq (f := ExceptT.bindCont f) hx

namespace MemoryHost

/-- Whether a host excludes a domain from a type of threat. -/
def excludes (h : MemoryHost) (config : Config) (domain : String) (aggressive : Bool)
    (threat : RuleType) : Bool :=
  threat.isPageBlock && (h.lists domain config.tables.manual || h.exempts domain ||
    !aggressive && h.lists domain config.tables.popular)

/-- Whether a candidate is acted on. -/
def actsOn (h : MemoryHost) (config : Config) (url domain : String) (b : Block) : Bool :=
  occursIn b.domain url && h.active &&
    !h.excludes config domain (config.aggressive || b.aggressive) b.type

/-- The effects for a candidate that is acted on. -/
def callsFor (h : MemoryHost) (config : Config) (url domain : String) (tab : Int) (b : Block) :
    List LoggedCall :=
  [.recordAll tab domain domain true, .updateBadge tab,
    .onScam (b.scamContext config url domain tab),
    .navigate tab (h.redirect (b.scamContext config url domain tab))]

/-- A host with more calls in its log. -/
def logging (h : MemoryHost) (calls : List LoggedCall) : MemoryHost :=
  { h with log := h.log ++ calls }

variable {h : MemoryHost} {config : Config} {url domain : String} {tab : Int}

theorem logging_nil : h.logging [] = h := by rw [logging, List.append_nil]

theorem logging_logging (calls more : List LoggedCall) :
    (h.logging calls).logging more = h.logging (calls ++ more) := by
  rw [logging, logging, logging, List.append_assoc]

/-! ## One candidate -/

theorem protectionActive_run (feature : String) :
    (Host.protectionActive feature url tab).run h = (h.active, h) := rfl

theorem isListed_run (table category : String) :
    (Host.isListed domain table category).run h = (h.lists domain table, h) := rfl

theorem isExempt_run : (Host.isExempt domain).run h = (h.exempts domain, h) := rfl

theorem isExcluded_run (aggressive : Bool) (threat : RuleType) :
    (isExcluded config domain aggressive threat).run h =
      (h.excludes config domain aggressive threat, h) := by
  unfold isExcluded excludes
  cases threat.isPageBlock with
  | false => rfl
  | true =>
    refine (run_bind_of_run_eq (isListed_run ..)).trans ?_
    cases h.lists domain config.tables.manual with
    | true => rfl
    | false =>
      refine (run_bind_of_run_eq isExempt_run).trans ?_
      cases h.exempts domain with
      | true => rfl
      | false => cases aggressive <;> rfl

/-- A call that does not fail is logged. -/
theorem perform_ok {α : Type} (hfailing : h.failing = none) (effect : HostEffect)
    (call : LoggedCall) (answer : MemoryHost → α) :
    perform effect call answer h = (.ok (answer h), h.logging [call]) := by
  have hne : h.failing ≠ some effect := by
    rw [hfailing]
    exact nofun
  rw [perform, if_neg hne]
  rfl

/-- Without a call that fails, acting on a candidate makes all four calls. -/
theorem act_run (hfailing : h.failing = none) (b : Block) :
    (act config b url domain tab : HostCall MemoryHost String) h =
      (.ok (h.redirect (b.scamContext config url domain tab)),
        h.logging (h.callsFor config url domain tab b)) := by
  have hlogging (calls : List LoggedCall) : (h.logging calls).failing = none := hfailing
  -- The calls as this host performs them, so that `perform_ok` applies to each in turn.
  change (perform .recordAll (.recordAll tab domain domain true) (fun _ => ()) >>= fun _ =>
    perform .updateBadge (.updateBadge tab) (fun _ => ()) >>= fun _ =>
    perform .onScam (.onScam (b.scamContext config url domain tab))
      (fun h => h.redirect (b.scamContext config url domain tab)) >>= fun redirect =>
    perform .navigate (.navigate tab redirect) (fun _ => ()) >>= fun _ =>
    (pure redirect : HostCall MemoryHost String)) h = _
  rw [HostCall.bind_of_ok (perform_ok hfailing ..),
    HostCall.bind_of_ok (perform_ok (hlogging _) ..), logging_logging,
    HostCall.bind_of_ok (perform_ok (hlogging _) ..), logging_logging,
    HostCall.bind_of_ok (perform_ok (hlogging _) ..), logging_logging]
  rfl

/-- A candidate is blocked with its calls if it is acted on, and skipped without any otherwise. -/
theorem judge_run (config : Config) (url domain : String) (tab : Int) (hfailing : h.failing = none)
    (b : Block) :
    (h.actsOn config url domain b = true ∧ (judge config url domain tab b).run h =
        (.blocked (h.redirect (b.scamContext config url domain tab)),
          h.logging (h.callsFor config url domain tab b))) ∨
      (h.actsOn config url domain b = false ∧
        ∃ reason, (judge config url domain tab b).run h = (.skipped reason, h)) := by
  unfold judge actsOn
  cases occursIn b.domain url with
  | false => exact Or.inr ⟨rfl, _, rfl⟩
  | true =>
    rw [Bool.not_true, if_neg Bool.false_ne_true, run_bind_of_run_eq (protectionActive_run ..)]
    cases h.active with
    | false => exact Or.inr ⟨rfl, _, rfl⟩
    | true =>
      rw [Bool.not_true, if_neg Bool.false_ne_true, run_bind_of_run_eq (isExcluded_run ..)]
      cases h.excludes config domain (config.aggressive || b.aggressive) b.type with
      | true => exact Or.inr ⟨rfl, _, rfl⟩
      | false =>
        have hact : (act config b url domain tab).run.run h = _ := act_run hfailing b
        rw [if_neg Bool.false_ne_true, run_bind_of_run_eq hact]
        exact Or.inl ⟨rfl, rfl⟩

/-! ## Whole scans -/

/-- **What a scan does with a host in memory.**  When no call fails, it blocks the candidates that
are acted on, in order, and makes the calls for these and no others. -/
theorem scanFrom_run (config : Config) (url : String) (tab : Int) (hfailing : h.failing = none)
    (blocks : List Block) (r : ScanReport) :
    ((scanFrom config url tab blocks r).run h).1.blocked =
        r.blocked ++ (blocks.filter (h.actsOn config url (Url.normalizedDomain url))).map
          (fun b => h.redirect (b.scamContext config url (Url.normalizedDomain url) tab)) ∧
      ((scanFrom config url tab blocks r).run h).2 =
        h.logging ((blocks.filter (h.actsOn config url (Url.normalizedDomain url))).flatMap
          (h.callsFor config url (Url.normalizedDomain url) tab)) := by
  induction blocks generalizing r h with
  | nil => exact ⟨(List.append_nil _).symm, logging_nil.symm⟩
  | cons b rest ih =>
    rw [scanFrom]
    rcases judge_run config url (Url.normalizedDomain url) tab hfailing b with
      ⟨hacts, hjudge⟩ | ⟨hacts, reason, hjudge⟩
    · rw [run_bind_of_run_eq hjudge, List.filter_cons_of_pos hacts]
      obtain ⟨hblocked, hhost⟩ := ih (h := h.logging
        (h.callsFor config url (Url.normalizedDomain url) tab b)) hfailing (r.add b _)
      rw [hblocked, hhost, logging_logging, List.map_cons, List.flatMap_cons, ScanReport.add,
        List.append_assoc, List.singleton_append]
      exact ⟨rfl, rfl⟩
    · rw [run_bind_of_run_eq hjudge, List.filter_cons_of_neg (by rw [hacts]; exact nofun)]
      exact ih hfailing _

/-- A scan without a failing call does nothing at all exactly when no candidate is acted on. -/
theorem scan_quiet_iff (config : Config) (url : String) (tab : Int) (hfailing : h.failing = none)
    (blocks : List Block) :
    (((scan config blocks url tab).run h).2.log = h.log ∧
        ((scan config blocks url tab).run h).1.blocked = []) ↔
      ∀ b ∈ blocks, h.actsOn config url (Url.normalizedDomain url) b = false := by
  obtain ⟨hblocked, hhost⟩ := scanFrom_run config url tab hfailing blocks {}
  have hnone : blocks.filter (h.actsOn config url (Url.normalizedDomain url)) = [] ↔
      ∀ b ∈ blocks, h.actsOn config url (Url.normalizedDomain url) b = false := by
    simp only [List.filter_eq_nil_iff, Bool.not_eq_true]
  rw [← hnone, scan, hblocked, hhost]
  constructor
  · rintro ⟨-, hnil⟩
    exact List.map_eq_nil_iff.1 (List.append_eq_nil_iff.1 hnil).2
  · intro hnil
    rw [hnil]
    exact ⟨List.append_nil _, rfl⟩

end MemoryHost

end PageGuard
