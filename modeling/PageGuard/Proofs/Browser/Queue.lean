import PageGuard.Proofs.Browser.Scanning
import PageGuard.Proofs.Navigation.Collecting
import Mathlib.Data.List.DropRight

/-!
# The queue in terms of the calls made so far

What the content script holds after some calls can be told from the calls alone: its database is
that of the last load that succeeded, and its queue holds what the pages processed since the last
scan or load have given, under that database.

* `lastLoad`, `sinceReset`, `candidates`: the database and the candidates that calls leave behind.
* `ContentScript.loads_run`: the database and the configuration after any calls.
* `ContentScript.queue_run`: the queue after any calls.
* `ContentScript.queue_invariant`: the queue between and during the calls, all together.
-/

namespace PageGuard.Browser

/-! ## What calls leave behind -/

variable {W N : Type} [WebPage W N] [DecidableEq N]

namespace Call

/-- Whether a call scans the queue. -/
def isScan : Call W → Bool
  | @Call.scan _ _ _ _ _ _ => true
  | _ => false

/-- Whether a call begins the queue anew: a scan, or a load that succeeds. -/
def resets (c : Call W) : Bool := c.isScan || c.loads?.isSome

/-- The candidates that a call gives under a database; only pages give any. -/
def hits (rules : Database) : Call W → List Block
  | .process url w =>
    match w.current with
    | .ok page => rules.hits url page
    | .error _ => []
  | _ => []

end Call

/-- What the last of the loads that succeed has loaded. -/
def lastLoad (calls : List (Call W)) : Option (Database × Config) :=
  (calls.filterMap Call.loads?).getLast?

/-- The calls after the last one that begins the queue anew. -/
def sinceReset (calls : List (Call W)) : List (Call W) := calls.rtakeWhile fun c => !c.resets

/-- The candidates that calls leave behind: those of the pages processed since the queue began anew,
each once, in the order of the first hits. -/
def candidates (calls : List (Call W)) : List Block :=
  match lastLoad calls with
  | some (rules, _) => ((sinceReset calls).flatMap (Call.hits rules)).eraseDups
  | none => []

theorem lastLoad_concat_of_some {c : Call W} {l : Database × Config} (h : c.loads? = some l)
    (calls : List (Call W)) : lastLoad (calls ++ [c]) = some l := by
  rw [lastLoad, List.filterMap_append, List.filterMap_cons_some h, List.filterMap_nil,
    List.getLast?_concat]

theorem lastLoad_concat_of_none {c : Call W} (h : c.loads? = none) (calls : List (Call W)) :
    lastLoad (calls ++ [c]) = lastLoad calls := by
  rw [lastLoad, List.filterMap_append, List.filterMap_cons_none h, List.filterMap_nil,
    List.append_nil, lastLoad]

theorem candidates_concat_of_resets {c : Call W} (h : c.resets = true) (calls : List (Call W)) :
    candidates (calls ++ [c]) = [] := by
  have hreset : sinceReset (calls ++ [c]) = [] :=
    List.rtakeWhile_concat_neg _ _ _ (by simp [h])
  rw [candidates, hreset]
  cases lastLoad (calls ++ [c]) <;> rfl

/-- A call that does not begin the queue anew adds its candidates. -/
theorem candidates_concat {c : Call W} (h : c.resets = false) (calls : List (Call W)) :
    candidates (calls ++ [c]) =
      match lastLoad calls with
      | some (rules, _) => (c.hits rules).foldl enqueue (candidates calls)
      | none => [] := by
  have hnone : c.loads? = none :=
    Option.isNone_iff_eq_none.1 (Option.isSome_eq_false_iff.1 (Bool.or_eq_false_iff.1 h).2)
  have hmore : sinceReset (calls ++ [c]) = sinceReset calls ++ [c] :=
    List.rtakeWhile_concat_pos _ _ _ (by simp [h])
  rw [candidates, candidates, lastLoad_concat_of_none hnone, hmore]
  cases lastLoad calls with
  | none => rfl
  | some l =>
    dsimp only
    rw [List.flatMap_append, eraseDups_eq_foldl, eraseDups_eq_foldl, List.foldl_append,
      List.flatMap_singleton]

namespace ContentScript

/-! ## The database after some calls -/

/-- The database and the configuration that are loaded. -/
def loads (s : ContentScript N) : Option (Database × Config) :=
  s.loaded.map fun l => (l.engine.rules, l.engine.config)

/-- Calls that load nothing keep the database and the configuration. -/
theorem loads_loadedAfter (l : Loaded N) (c : Call W) :
    (l.after c).engine.rules = l.engine.rules ∧ (l.after c).engine.config = l.engine.config := by
  cases c with
  | process url w =>
    rw [Loaded.after]
    cases w.current <;> exact ⟨rfl, rfl⟩
  | navigate url tab w host =>
    rw [Loaded.after]
    cases w.current <;> exact ⟨rfl, rfl⟩
  | _ => exact ⟨rfl, rfl⟩

/-- Only a load that succeeds changes what is loaded. -/
theorem loads_after (s : ContentScript N) (c : Call W) :
    (s.after c).loads = (c.loads?).or s.loads := by
  rw [loads, loaded_after, loads]
  cases c.loads? with
  | some l => rfl
  | none =>
    cases s.loaded with
    | none => rfl
    | some l =>
      obtain ⟨hrules, hconfig⟩ := loads_loadedAfter l c
      simp [hrules, hconfig]

/-- **What is loaded after some calls is what the last successful load among them has loaded.** -/
theorem loads_run (calls : List (Call W)) : (run calls).loads = lastLoad calls := by
  induction calls using List.reverseRecOn with
  | nil => rfl
  | append_singleton calls c ih =>
    rw [run_concat, loads_after, ih]
    cases h : c.loads? with
    | none => rw [lastLoad_concat_of_none h, Option.none_or]
    | some l => rw [lastLoad_concat_of_some h, Option.some_or]

/-- **Something is loaded from the first successful load on.** -/
theorem isLoaded_run (calls : List (Call W)) :
    (run calls).isLoaded = calls.any fun c => c.loads?.isSome := by
  have hloads (s : ContentScript N) : s.isLoaded = s.loads.isSome := Option.isSome_map.symm
  induction calls using List.reverseRecOn with
  | nil => rfl
  | append_singleton calls c ih =>
    rw [List.any_append, ← ih, run_concat, hloads, hloads, loads_after, Option.isSome_or,
      List.any_cons, List.any_nil, Bool.or_false, Bool.or_comm]

/-! ## The queue after some calls -/

theorem queueAfter_of_resets (s : ContentScript N) {c : Call W} (h : c.resets = true) :
    s.queueAfter c = [] := by
  cases c with
  | scan url tab host => rfl
  | load database config =>
    rw [Call.resets, Call.loads?] at h
    rw [queueAfter]
    cases hload : readLoad database config with
    | ok l => rfl
    | error e =>
      rw [hload] at h
      cases h
  | startLogging level => cases h
  | compileFeed feed => cases h
  | isLoaded => cases h
  | report => cases h
  | process url w => cases h
  | navigate url tab w host => cases h

/-- A call that does not begin the queue anew adds its candidates to it. -/
theorem queueAfter_of_not_resets (s : ContentScript N) {c : Call W} (h : c.resets = false) :
    s.queueAfter c =
      match s.loads with
      | some (rules, _) => (c.hits rules).foldl enqueue s.queue
      | none => [] := by
  obtain ⟨loaded, console⟩ := s
  cases c with
  | scan url tab host => cases h
  | load database config =>
    rw [queueAfter]
    rw [Call.resets, Call.loads?] at h
    cases hload : readLoad database config with
    | ok l =>
      rw [hload] at h
      cases h
    | error e => cases loaded <;> rfl
  | process url w =>
    rw [queueAfter, ContentScript.hits]
    cases loaded with
    | none => cases w.current <;> rfl
    | some l =>
      change _ = (Call.hits l.engine.rules (.process url w)).foldl enqueue l.context.blocks
      rw [Call.hits]
      cases w.current <;> rfl
  | startLogging level => cases loaded <;> rfl
  | compileFeed feed => cases loaded <;> rfl
  | isLoaded => cases loaded <;> rfl
  | report => cases loaded <;> rfl
  | navigate url tab w host => cases loaded <;> rfl

/-- **The queue holds what the calls leave behind.** -/
theorem queue_run (calls : List (Call W)) : (run calls).queue = candidates calls := by
  induction calls using List.reverseRecOn with
  | nil => rfl
  | append_singleton calls c ih =>
    rw [run_concat, queue_after]
    cases h : c.resets with
    | true => rw [queueAfter_of_resets _ h, candidates_concat_of_resets h]
    | false => rw [queueAfter_of_not_resets _ h, candidates_concat h, loads_run, ih]

/-! ## Elements -/

/-- The elements that are queued for hiding. -/
def elements (s : ContentScript N) : List N :=
  match s.loaded with
  | none => []
  | some l => l.context.elements

/-- No call leaves elements queued that were not queued before. -/
theorem elements_loadedAfter {l : Loaded N} (h : l.context.elements = []) (c : Call W) :
    (l.after c).context.elements = [] := by
  cases c with
  | process url w =>
    rw [Loaded.after]
    cases w.current with
    | error e => exact h
    | ok page => rfl
  | navigate url tab w host =>
    rw [Loaded.after]
    cases w.current <;> exact h
  | _ => exact h

theorem elements_after {s : ContentScript N} (h : s.elements = []) (c : Call W) :
    (s.after c).elements = [] := by
  rw [elements, loaded_after]
  cases c.loads? with
  | some l => rfl
  | none =>
    rw [elements] at h
    cases hloaded : s.loaded with
    | none => rfl
    | some l =>
      rw [hloaded] at h
      exact elements_loadedAfter h c

theorem elements_run (calls : List (Call W)) : (run calls).elements = [] := by
  induction calls using List.reverseRecOn with
  | nil => rfl
  | append_singleton calls c ih =>
    rw [run_concat]
    exact elements_after ih c

/-! ## Scans -/

/-- A scan treats its candidates one after the other. -/
theorem exists_treatments {H : Type} [Host H] (config : Config) (blocks : List Block)
    (url : String) (tab : Int) (host : H) :
    ∃ ts : List Treatment, ts.map Treatment.block = blocks ∧
      ((PageGuard.scan config blocks url tab).run (Watched.start host)).2.events =
        ts.flatMap Treatment.events ∧
      ((PageGuard.scan config blocks url tab).run host).1 = .ofTreatments ts ∧
      ∀ t ∈ ts,
        JudgeTrace config url (Url.normalizedDomain url) tab t.block t.events t.verdict := by
  obtain ⟨events, hrun, -, ts, hblocks, htraces, hevents, hreport⟩ :=
    (scanFrom_follows config url tab blocks {}).out (Watched.start host)
  rw [ScanReport.foldl_add] at hreport
  refine ⟨ts, hblocks, ?_, hreport, htraces⟩
  rw [hevents]
  exact congrArg (fun r => r.2.events) hrun

/-- **A scan acts on the queue and empties it**, whatever the host does: the candidates of the queue
are treated one after the other, and the report is of these.  Without a database there are none. -/
theorem scan_run {H : Type} [Host H] (calls : List (Call W)) (url : String) (tab : Int) (host : H) :
    ((run calls).scan url tab host).2.1.queue = [] ∧
      ∃ ts : List Treatment, ts.map Treatment.block = (run calls).queue ∧
        ((run calls).scan url tab (Watched.start host)).2.2.events =
          ts.flatMap Treatment.events ∧
        match lastLoad calls with
        | none => ((run calls).scan url tab host).1 = .error .notLoaded
        | some (_, config) =>
          ((run calls).scan url tab host).1 = .ok (.ofTreatments ts) ∧
            ∀ t ∈ ts, JudgeTrace config url (Url.normalizedDomain url) tab t.block t.events
              t.verdict := by
  refine ⟨(run calls).queue_after (.scan url tab host : Call W), ?_⟩
  rw [← loads_run, loads]
  cases hloaded : (run calls).loaded with
  | none =>
    refine ⟨[], ?_, ?_, ?_⟩
    · rw [queue, hloaded]
      rfl
    · rw [scan, hloaded]
      rfl
    · rw [Option.map_none, scan, hloaded]
  | some l =>
    obtain ⟨ts, hblocks, hevents, hreport, htraces⟩ :=
      exists_treatments l.engine.config (run calls).queue url tab host
    refine ⟨ts, hblocks, ?_, ?_, htraces⟩
    · rw [(scan_of_loaded hloaded url tab (Watched.start host)).2, hevents]
    · rw [(scan_of_loaded hloaded url tab host).1, hreport]

/-! ## All together -/

/-- **The queue at every time.**  After any calls the queue holds the candidates of the pages
processed since the last scan or successful load, each once, in the order of the first hits, and no
element is left to be hidden.  A database is loaded from the first successful load on.  Compiling,
reporting, navigating, asking and logging leave the queue as it is; a scan treats the candidates of
the queue one after the other and empties it. -/
theorem queue_invariant (calls : List (Call W)) :
    let s := run calls
    s.queue = candidates calls ∧ s.elements = [] ∧
      s.isLoaded = (calls.any fun c => c.loads?.isSome) ∧
      (∀ feed, (s.after (.compileFeed feed : Call W)).queue = s.queue) ∧
      (s.after (.report : Call W)).queue = s.queue ∧
      (s.after (.isLoaded : Call W)).queue = s.queue ∧
      (∀ {H : Type} [Host H] (url : String) (tab : Int) (w : Window W) (host : H),
        (s.after (.navigate url tab w host)).queue = s.queue) ∧
      (∀ level, (s.after (.startLogging level : Call W)).queue = s.queue) ∧
      ∀ {H : Type} [Host H] (url : String) (tab : Int) (host : H),
        (s.scan url tab host).2.1.queue = [] ∧
          ∃ ts : List Treatment, ts.map Treatment.block = s.queue ∧
            (s.scan url tab (Watched.start host)).2.2.events = ts.flatMap Treatment.events ∧
            match lastLoad calls with
            | none => (s.scan url tab host).1 = .error .notLoaded
            | some (_, config) =>
              (s.scan url tab host).1 = .ok (.ofTreatments ts) ∧
                ∀ t ∈ ts, JudgeTrace config url (Url.normalizedDomain url) tab t.block t.events
                  t.verdict := by
  intro s
  exact ⟨queue_run calls, elements_run calls, isLoaded_run calls,
    fun feed => s.queue_after (.compileFeed feed : Call W), s.queue_after (.report : Call W),
    s.queue_after (.isLoaded : Call W),
    fun url tab w host => s.queue_after (.navigate url tab w host),
    fun level => s.queue_after (.startLogging level : Call W),
    fun url tab host => scan_run calls url tab host⟩

end ContentScript

end PageGuard.Browser
