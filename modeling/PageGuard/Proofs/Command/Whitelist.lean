import PageGuard.Command.Program
import PageGuard.Proofs.Text.LetterCase
import PageGuard.Proofs.Threat.ForeignDomain
import PageGuard.Proofs.Threat.MemoryScan

/-!
# Whitelists of a run

A run knows the domains of its lists in lower case, and looks a page up under its host in lower case
and without a leading `www.`.  So a line that spells the host of a page spares the page unless the
host starts with `www.`.

* `listedLines`: the lines of a list that count.
* `readInputs`, `run_eq`: a run reads its files first, and the rest depends on what it read.
* `RunInputs.quiet_iff`: when a run acts on no candidate.
* `run_spares`: a listed host without `www.` is spared.
-/

namespace PageGuard.Command

open Text

/-! ## Lists of domains -/

/-- The lines of a list that count, trimmed: blank lines and comments do not. -/
def listedLines (content : String) : List String :=
  (((lines content.toList).map trim).filter fun line =>
    !line.isEmpty && line.head? ≠ some '#').map String.ofList

/-- Whether a list has a domain, up to letter case. -/
def Listed (content domain : String) : Prop :=
  ∃ line ∈ listedLines content, lowercased line = lowercased domain

instance (content domain : String) : Decidable (Listed content domain) :=
  inferInstanceAs (Decidable (∃ line ∈ listedLines content, lowercased line = lowercased domain))

theorem domainList_eq (content : String) :
    domainList content = (listedLines content).map lowercased := by
  unfold domainList listedLines
  generalize (lines content.toList).map trim = all
  rw [List.map_map, ← List.filterMap_eq_map, List.filterMap_filter]
  refine List.filterMap_congr fun line _ => ?_
  match line with
  | [] => rfl
  | c :: rest =>
    by_cases hc : c = '#'
    · subst hc
      rfl
    · simp [hc, lowercased]

/-- A table made of a list knows the domains that the list has. -/
theorem contains_domainList {content domain : String} :
    ((domainList content).map lowercased).contains (lowercased domain) = true ↔
      Listed content domain := by
  have hlower : (lowercased ∘ lowercased) = lowercased := funext lowercased_lowercased
  rw [domainList_eq, List.map_map, hlower, List.contains_iff_mem, List.mem_map]
  rfl

/-! ## What a run reads -/

/-- What a run reads: the rules, the configuration, the lists that were given and the page. -/
structure RunInputs where
  rules : Database
  config : Config
  whitelist : Option String
  popular : Option String
  html : String
deriving DecidableEq

namespace RunInputs

variable (inputs : RunInputs)

/-- The lists with the names of their tables. -/
def lists : List (String × String) :=
  inputs.whitelist.toList.map (inputs.config.tables.manual, ·) ++
    inputs.popular.toList.map (inputs.config.tables.popular, ·)

/-- Whether a table lists a domain, up to letter case. -/
def Lists (table domain : String) : Prop := ∃ l ∈ inputs.lists, l.1 = table ∧ Listed l.2 domain

instance (table domain : String) : Decidable (inputs.Lists table domain) :=
  inferInstanceAs (Decidable (∃ l ∈ inputs.lists, l.1 = table ∧ Listed l.2 domain))

/-- The host of a run. -/
def host : MemoryHost := inputs.lists.foldl (fun h l => h.addTable l.1 (domainList l.2)) {}

theorem host_eq : inputs.host =
    { tables := inputs.lists.map fun l => (l.1, (domainList l.2).map lowercased) } := by
  have hfold (lists : List (String × String)) (h : MemoryHost) :
      lists.foldl (fun h l => h.addTable l.1 (domainList l.2)) h =
        { h with tables :=
            h.tables ++ lists.map fun l => (l.1, (domainList l.2).map lowercased) } := by
    induction lists generalizing h with
    | nil => rw [List.map_nil, List.append_nil]; rfl
    | cons l rest ih =>
      rw [List.foldl_cons, ih, MemoryHost.addTable, List.map_cons, List.append_assoc,
        List.singleton_append]
  exact hfold inputs.lists {}

theorem lists_host {table domain : String} :
    inputs.host.lists domain table = true ↔ inputs.Lists table domain := by
  rw [host_eq, MemoryHost.lists, List.any_map, List.any_eq_true]
  refine exists_congr fun l => and_congr_right fun _ => ?_
  rw [Function.comp_apply, Bool.and_eq_true, decide_eq_true_eq]
  exact and_congr_right fun _ => contains_domainList

/-- The navigation of a run. -/
def navigated (options : RunOptions) : Navigated MemoryPage MemoryHost :=
  (Engine.mk inputs.rules inputs.config .empty).navigate options.url options.tab
    (MemoryPage.ofText inputs.html) inputs.host

end RunInputs

section Running

variable {m : Type → Type} [Monad m] [World m]

/-- Reads a file if there is a path to it. -/
def readContent : Option String → Task m (Option String)
  | none => return none
  | some path => return some (← readFile path)

/-- Reads what a run needs. -/
def readInputs (options : RunOptions) : Task m RunInputs := do
  let rules ← readDatabase options.database
  let config ← readConfig options
  let whitelist ← readContent options.whitelist
  let popular ← readContent options.popular
  let html ← readFile options.html
  return { rules, config, whitelist, popular, html }

/-- Says what a navigation gave. -/
def sayNavigated (options : RunOptions) (after : Navigated MemoryPage MemoryHost) :
    Task m Unit := do
  let start ← (World.clock : m Nat)
  let done ← (World.clock : m Nat)
  sayAll (outcomeLines options.url after.outcome)
  say ("  Time:        " ++ milliseconds 2 (done - start))
  sayAll (after.outcome.process.failures.map fun f =>
    "  failed: " ++ f.type.name ++ " '" ++ f.selector ++ "': " ++ f.error.message)
  sayAll ["", "Report: " ++ after.outcome.report.toValue.pretty]
  sayAll (after.host.log.map callLine)

variable [LawfulMonad m]

theorem readTable_eq (table : String) (path : Option String) (host : MemoryHost) :
    (readTable table path host : Task m MemoryHost) = (do
      let content ← readContent path
      return (content.toList.map (table, ·)).foldl
        (fun h l => h.addTable l.1 (domainList l.2)) host) := by
  cases path with
  | none => simp [readTable, readContent]
  | some path => simp [readTable, readContent]

/-- **A run reads its files and then says what the navigation on them gave.** -/
theorem run_eq (options : RunOptions) :
    (run options : Task m Unit) = (do
      let inputs ← readInputs options
      sayNavigated options (inputs.navigated options)) := by
  unfold run readInputs
  simp only [readTable_eq, bind_assoc, pure_bind, ← List.foldl_append]
  rfl

end Running

/-! ## When a run is quiet -/

section Quiet

variable (inputs : RunInputs) (options : RunOptions)

/-- A run acts on no candidate: it makes no call with an effect, and its scan blocks nothing.  No
call of its host fails, so the log has all of them. -/
def RunInputs.Quiet : Prop :=
  (inputs.navigated options).host.log = [] ∧ (inputs.navigated options).outcome.scan.blocked = []

/-- Whether the host of a run acts on a candidate of the page. -/
theorem RunInputs.actsOn_host {b : Block} {url : String} (htype : b.type.isPageBlock = true) :
    inputs.host.actsOn inputs.config url (Url.normalizedDomain url) b = false ↔
      occursIn b.domain url = false ∨
        inputs.Lists inputs.config.tables.manual (Url.normalizedDomain url) ∨
        (inputs.config.aggressive || b.aggressive) = false ∧
          inputs.Lists inputs.config.tables.popular (Url.normalizedDomain url) := by
  have hactive : inputs.host.active = true := by rw [host_eq]
  have hexempts : inputs.host.exempts (Url.normalizedDomain url) = false := by rw [host_eq]; rfl
  rw [MemoryHost.actsOn, MemoryHost.excludes, hactive, hexempts, htype, ← lists_host, ← lists_host]
  simp only [Bool.and_true, Bool.true_and, Bool.or_false, Bool.and_eq_false_iff, Bool.not_eq_false',
    Bool.or_eq_true, Bool.and_eq_true, Bool.not_eq_true']

/-- The candidates of a run carry the host of the page and are for blocking it. -/
theorem RunInputs.candidates_navigated : ∀ b ∈ (inputs.navigated options).outcome.report.blocks,
    b.domain = (Url.pageHost? options.url).getD "" ∧ b.type.isPageBlock = true := by
  intro b hb
  rw [navigated, Engine.blocks_navigate] at hb
  exact ⟨process_domain _ _ _ _ b hb, process_isPageBlock _ _ _ _ b hb⟩

/-- A run is quiet when its host acts on no candidate. -/
theorem RunInputs.quiet_iff_forall_actsOn :
    inputs.Quiet options ↔ ∀ b ∈ (inputs.navigated options).outcome.report.blocks,
      inputs.host.actsOn inputs.config options.url (Url.normalizedDomain options.url) b = false := by
  have hfailing : inputs.host.failing = none := by rw [host_eq]
  have hlog : inputs.host.log = [] := by rw [host_eq]
  have hscan : ((inputs.navigated options).outcome.scan, (inputs.navigated options).host) =
      (scan inputs.config (inputs.navigated options).outcome.report.blocks options.url
        options.tab).run inputs.host :=
    scan_navigate (Engine.mk inputs.rules inputs.config .empty) options.url options.tab
      (MemoryPage.ofText inputs.html) inputs.host
  have hquiet := MemoryHost.scan_quiet_iff inputs.config options.url options.tab hfailing
    (inputs.navigated options).outcome.report.blocks
  rwa [← hscan, hlog] at hquiet

/-- **When a run is quiet**: when it has no candidate, or the host of the page does not occur in the
URL, or the whitelist has the domain of the page, or the list of popular domains has it and neither
the run nor a candidate is aggressive. -/
theorem RunInputs.quiet_iff :
    inputs.Quiet options ↔
      (inputs.navigated options).outcome.report.blocks = [] ∨
        occursIn ((Url.pageHost? options.url).getD "") options.url = false ∨
        inputs.Lists inputs.config.tables.manual (Url.normalizedDomain options.url) ∨
        inputs.Lists inputs.config.tables.popular (Url.normalizedDomain options.url) ∧
          ∀ b ∈ (inputs.navigated options).outcome.report.blocks,
            (inputs.config.aggressive || b.aggressive) = false := by
  have hcandidates := inputs.candidates_navigated options
  rw [quiet_iff_forall_actsOn]
  constructor
  · intro hacts
    cases hblocks : (inputs.navigated options).outcome.report.blocks with
    | nil => exact Or.inl rfl
    | cons b rest =>
      refine Or.inr (or_iff_not_imp_left.2 fun hoccurs => or_iff_not_imp_left.2 fun hunlisted => ?_)
      have hspared : ∀ c ∈ b :: rest, (inputs.config.aggressive || c.aggressive) = false ∧
          inputs.Lists inputs.config.tables.popular (Url.normalizedDomain options.url) := by
        intro c hc
        rw [← hblocks] at hc
        obtain ⟨hdomain, htype⟩ := hcandidates c hc
        have hspared := (inputs.actsOn_host htype).1 (hacts c hc)
        rw [hdomain] at hspared
        exact (hspared.resolve_left hoccurs).resolve_left hunlisted
      exact ⟨(hspared b (List.mem_cons_self ..)).2, fun c hc => (hspared c hc).1⟩
  · rintro (hnone | hquiet) b hb
    · rw [hnone] at hb
      cases hb
    · obtain ⟨hdomain, htype⟩ := hcandidates b hb
      rw [inputs.actsOn_host htype, hdomain]
      rcases hquiet with habsent | hlisted | ⟨hpopular, hcalm⟩
      · exact Or.inl habsent
      · exact Or.inr (Or.inl hlisted)
      · exact Or.inr (Or.inr ⟨hcalm b hb, hpopular⟩)

/-- A whitelist with the host of the page spares the page, unless the host starts with `www.`. -/
theorem RunInputs.quiet_of_listed {content written : String}
    (hwhitelist : inputs.whitelist = some content)
    (hhost : Url.host? (trimmed options.url) = some written) (hne : written ≠ "")
    (hwww : Url.withoutWww (lowerAscii written).toList = (lowerAscii written).toList)
    (hlisted : Listed content written) : inputs.Quiet options := by
  refine (inputs.quiet_iff options).2 (Or.inr (Or.inr (Or.inl ?_)))
  refine ⟨(inputs.config.tables.manual, content), ?_, rfl, ?_⟩
  · rw [lists, hwhitelist]
    exact List.mem_append_left _ (List.mem_singleton_self _)
  · obtain ⟨line, hline, hsame⟩ := hlisted
    refine ⟨line, hline, ?_⟩
    rw [hsame, Url.normalizedDomain_of_host? hhost hne, hwww, String.ofList_toList,
      lowercased_lowerAscii]

end Quiet

/-- **Whom the lists of a run spare.**  A run reads its files and says what the navigation on them
gave.  The navigation is quiet exactly when it has no candidate, the host of the page does not occur
in the URL, the whitelist has the domain of the page, or the list of popular domains has it and
nothing is aggressive.  So it is quiet when the whitelist has the host of the page, up to letter
case, and the host does not start with a `www.` that is dropped from the domain. -/
theorem run_spares {m : Type → Type} [Monad m] [LawfulMonad m] [World m] (options : RunOptions) :
    (run options : Task m Unit) = (do
      let inputs ← readInputs options
      sayNavigated options (inputs.navigated options)) ∧
    ∀ inputs : RunInputs,
      (inputs.Quiet options ↔
        (inputs.navigated options).outcome.report.blocks = [] ∨
          occursIn ((Url.pageHost? options.url).getD "") options.url = false ∨
          inputs.Lists inputs.config.tables.manual (Url.normalizedDomain options.url) ∨
          inputs.Lists inputs.config.tables.popular (Url.normalizedDomain options.url) ∧
            ∀ b ∈ (inputs.navigated options).outcome.report.blocks,
              (inputs.config.aggressive || b.aggressive) = false) ∧
      ∀ content written, inputs.whitelist = some content →
        Url.host? (trimmed options.url) = some written → written ≠ "" →
        Url.withoutWww (lowerAscii written).toList = (lowerAscii written).toList →
        Listed content written → inputs.Quiet options :=
  ⟨run_eq options, fun inputs => ⟨inputs.quiet_iff options,
    fun _ _ hwhitelist hhost hne hwww hlisted =>
      inputs.quiet_of_listed options hwhitelist hhost hne hwww hlisted⟩⟩

/-- A page whose host is listed with other letters in upper case. -/
theorem listed_spared :
    let options : RunOptions :=
      { database := "db.json", html := "page.html", url := "https://example.com/",
        whitelist := some "list.txt" }
    let inputs : RunInputs :=
      { rules := (buildDatabase [⟨"##body", some false, .scam, none, "1"⟩]).database, config := {},
        whitelist := some "# trusted\n EXAMPLE.com\n", popular := none, html := "<p>x</p>" }
    inputs.Quiet options := by
  intro options inputs
  exact ((run_spares (m := StateM Directory) options).2 inputs).2 "# trusted\n EXAMPLE.com\n"
    "example.com" rfl (by decide +kernel) (by decide) (by decide +kernel) (by decide +kernel)

/-- A host that starts with `www.`: its own line in the whitelist does not spare it. -/
theorem listed_www_not_spared :
    let options : RunOptions :=
      { database := "db.json", html := "page.html", url := "https://www.example.com/",
        whitelist := some "list.txt" }
    let directory : Directory :=
      ⟨[("db.json", "[\x7b\"r\":\"##body\",\"s\":false,\"t\":\"scam\",\"id\":\"1\"\x7d]"),
        ("page.html", "<p>x</p>"), ("list.txt", "www.example.com\n")]⟩
    let inputs : RunInputs :=
      { rules := (buildDatabase [⟨"##body", some false, .scam, none, "1"⟩]).database, config := {},
        whitelist := some "www.example.com\n", popular := none, html := "<p>x</p>" }
    ((readInputs options : Task (StateM Directory) RunInputs).run.run "" directory).1.1.toOption =
        some inputs ∧
      Url.pageHost? options.url = some "www.example.com" ∧
      "www.example.com" ∈ listedLines "www.example.com\n" ∧ ¬ inputs.Quiet options := by
  intro options directory inputs
  have hordinary : ∀ p ∈ inputs.rules.applying "https://www.example.com/",
      p.2.hasOrdinarySelector = true := by decide +kernel
  have hblocks : (inputs.navigated options).outcome.report.blocks =
      inputs.rules.cssCandidates "https://www.example.com/" "<p>x</p>" := by
    rw [RunInputs.navigated, Engine.blocks_navigate]
    dsimp only [options, inputs]
    rw [process_ordinary hordinary]
  refine ⟨by decide +kernel, by decide +kernel, by decide +kernel, fun hquiet => ?_⟩
  rw [RunInputs.quiet_iff, hblocks] at hquiet
  rcases hquiet with hnone | habsent | hlisted | ⟨hpopular, -⟩
  · exact absurd hnone (by decide +kernel)
  · exact absurd habsent (by decide +kernel)
  · exact absurd hlisted (by decide +kernel)
  · exact absurd hpopular (by decide +kernel)

end PageGuard.Command
