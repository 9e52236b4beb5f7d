import PageGuard.Command.Program
import PageGuard.Proofs.Navigation.OrdinaryRules
import PageGuard.Proofs.Navigation.Skipping

/-!
# What a validation says

Validating a database reads one file, and all else follows from what is in it.  It ends well exactly
when every stored entry can be read, also those that no page ever evaluates: entries of the
whitelist and under tokens that are no separator.

* `run_say`, `run_sayAll`: the lines that a command prints.
* `Ending.ofValidation`: the ending of a validation as a function of the content of its file.
* `runArguments_validate`: a validation reads its file and ends in this way.
* `length_invalidEntries`: how many entries it finds fault with.
* `validation_foretells_skips`: how it ends against the entries and against every page.
-/

namespace PageGuard.Command

section Running

variable {m : Type → Type} [Monad m] [LawfulMonad m]

/-! ## Steps of a command -/

omit [LawfulMonad m] in
/-- A command goes on after a result, and ends with an error. -/
theorem run_bind {α β : Type} (task : Task m α) (next : α → Task m β) (out : String) :
    (task >>= next).run.run out = do
      let p ← task.run.run out
      match p.1 with
      | .ok a => (next a).run.run p.2
      | .error e => return (.error e, p.2) := by
  rw [ExceptT.run_bind, StateT.run_bind]
  congr 1
  funext ⟨result, out'⟩
  cases result <;> rfl

/-- The output after some more lines. -/
def said (out : String) (lines : List String) : String :=
  lines.foldl (fun out line => out ++ line ++ "\n") out

theorem run_say (line out : String) :
    (say line : Task m Unit).run.run out = pure (.ok (), out ++ line ++ "\n") := by
  have hlift : (say line : Task m Unit) =
      ExceptT.lift (modify fun out => out ++ line ++ "\n") := rfl
  rw [hlift, ExceptT.run_lift, StateT.run_map, StateT.run_modify, map_pure]

theorem run_sayAll (lines : List String) (out : String) :
    (sayAll lines : Task m Unit).run.run out = pure (.ok (), said out lines) := by
  induction lines generalizing out with
  | nil => rfl
  | cons line rest ih =>
    rw [sayAll, run_bind, run_say, pure_bind]
    exact ih _

omit [LawfulMonad m] in
theorem run_throw {α : Type} (e out : String) :
    (throw e : Task m α).run.run out = pure (.error e, out) := rfl

/-! ## Reading a database -/

/-- What a command asks of the world leaves its output alone. -/
theorem run_lift {α : Type} (x : m α) (out : String) :
    (liftM x : Task m α).run.run out = x >>= fun a => pure (.ok a, out) := by
  have hlift : (liftM x : Task m α) = ExceptT.lift (StateT.lift x) := rfl
  rw [hlift, ExceptT.run_lift, StateT.run_map, StateT.run_lift, map_bind]
  simp only [map_pure]

omit [LawfulMonad m] in
theorem run_check {α : Type} (result : Except String α) (out : String) :
    (check result : Task m α).run.run out = pure (result, out) := by
  cases result <;> rfl

/-- The database in the content of a file, or why there is none. -/
def databaseIn (path : String) : Except String String → Except String Database
  | .error reason => .error ("Failed to read '" ++ path ++ "': " ++ reason)
  | .ok text =>
    match loadDatabase text with
    | .error e => .error ("Invalid database '" ++ path ++ "': " ++ e.message)
    | .ok loaded => .ok loaded.database

/-- Reading a database reads its file and prints nothing. -/
theorem run_readDatabase [World m] (path out : String) :
    (readDatabase path : Task m Database).run.run out =
      World.read path >>= fun content => pure (databaseIn path content, out) := by
  rw [readDatabase, readFile]
  simp only [run_bind, run_lift, run_check, bind_assoc, pure_bind]
  congr 1
  funext content
  cases content with
  | error reason => rfl
  | ok text =>
    cases hload : loadDatabase text with
    | error e => simp [databaseIn, hload, Except.mapError]
    | ok loaded => simp [databaseIn, hload, Except.mapError]

/-! ## Validating -/

/-- The line about an entry that cannot be read. -/
def faultLine (fault : Database.Stored × SelectorError) : String :=
  "  " ++ fault.1.type.name ++ " " ++ fault.1.domain ++ fault.1.token ++ fault.1.entry.selector ++
    ": " ++ fault.2.message

/-- How a validation of a database ends. -/
def Ending.ofDatabase (input : String) (rules : Database) : Ending :=
  let faults := invalidEntries rules
  if faults.isEmpty then
    ⟨0, said "" ["Database '" ++ input ++ "' is valid (" ++ toString rules.entryCount ++
      " selectors)"], ""⟩
  else
    ⟨1, said "" (faults.map faultLine),
      "Error: " ++ (toString faults.length ++ " of " ++ toString rules.entryCount ++
        " selectors in '" ++ input ++ "' do not parse") ++ "\n"⟩

/-- How a validation ends, by the content of its file. -/
def Ending.ofValidation (input : String) (content : Except String String) : Ending :=
  match databaseIn input content with
  | .error e => ⟨1, "", "Error: " ++ e ++ "\n"⟩
  | .ok rules => .ofDatabase input rules

/-- **A validation reads its file once, and its content decides how it ends.** -/
theorem runArguments_validate [World m] {arguments : List String} {input : String}
    (h : Action.ofArguments arguments = .ok (.validate input)) :
    (runArguments arguments : m Ending) =
      World.read input >>= fun content => pure (.ofValidation input content) := by
  rw [runArguments, h]
  dsimp only [Action.perform]
  rw [validate]
  simp only [run_bind, run_readDatabase, run_sayAll, bind_assoc, pure_bind]
  congr 1
  funext content
  rw [Ending.ofValidation]
  cases databaseIn input content with
  | error e => rw [pure_bind]
  | ok rules =>
    dsimp only [Ending.ofDatabase]
    cases hfaults : (invalidEntries rules).isEmpty with
    | true => simp only [List.isEmpty_iff.1 hfaults, if_true, run_say, pure_bind]; rfl
    | false => simp only [Bool.false_eq_true, if_false, run_throw, pure_bind]; rfl

end Running

/-! ## Faults -/

theorem length_invalidEntries (rules : Database) :
    (invalidEntries rules).length = rules.stored.countP fun s => decide (¬ s.entry.Readable) := by
  rw [invalidEntries, List.length_filterMap_eq_countP]
  refine List.countP_congr fun s _ => ?_
  rw [decide_eq_true_iff, Entry.Readable]
  cases parseSelector s.entry.selector <;> simp

/-- There are no faults exactly when every entry that is found under any keys can be read. -/
theorem invalidEntries_isEmpty_iff {rules : Database} :
    (invalidEntries rules).isEmpty = true ↔ ∀ t token domain byDomain es,
      (rules.bucket t).get? token = some byDomain → byDomain.get? domain = some es →
        ∀ e ∈ es, e.Readable := by
  rw [List.isEmpty_iff_length_eq_zero, length_invalidEntries, List.countP_eq_zero]
  simp only [decide_eq_true_iff, not_not]
  constructor
  · intro h t token domain byDomain es htoken hdomain e he
    exact h ⟨t, token, domain, e⟩ (Database.mem_stored_iff.2 ⟨byDomain, es, htoken, hdomain, he⟩)
  · intro h s hs
    obtain ⟨byDomain, es, htoken, hdomain, he⟩ := Database.mem_stored_iff.1 hs
    exact h s.type s.token s.domain byDomain es htoken hdomain s.entry he

/-- **A validation foretells what pages skip.**  Of a text that loads, it ends well exactly when the
selector of every entry can be read, whichever bucket, token and domain pattern it is stored under;
otherwise it tells how many entries cannot be read, and of how many.  No page skips more selectors
than this, whatever the document, the URL and the context are, so none skips any after a validation
that ends well. -/
theorem validation_foretells_skips {text : String} {loaded : Compiled}
    (hload : loadDatabase text = .ok loaded) :
    let rules := loaded.database
    let invalid := rules.stored.countP fun s => decide (¬ s.entry.Readable)
    (∀ {m : Type → Type} [Monad m] [LawfulMonad m] [World m] {arguments : List String}
        {input : String}, Action.ofArguments arguments = .ok (.validate input) →
          (runArguments arguments : m Ending) =
            World.read input >>= fun content => pure (.ofValidation input content)) ∧
      ∀ input : String,
        let ending := Ending.ofValidation input (.ok text)
        (ending.exitCode = 0 ↔ ∀ t token domain byDomain es,
          (rules.bucket t).get? token = some byDomain → byDomain.get? domain = some es →
            ∀ e ∈ es, ∃ chain, parseSelector e.selector = .ok chain) ∧
        (ending.exitCode ≠ 0 → ending.exitCode = 1 ∧ ending.stderr = "Error: " ++
          (toString invalid ++ " of " ++ toString rules.entryCount ++ " selectors in '" ++ input ++
            "' do not parse") ++ "\n") ∧
        (rules.entryCount = (RuleType.all.map fun t => ((rules.bucket t).values.map
          fun byDomain => (byDomain.values.map List.length).sum).sum).sum) ∧
        ∀ {D N : Type} [Document D N] [DecidableEq N] (url : String) (patterns : PatternCache)
          (d : D) (c : Context N),
            let skipped := (process rules url patterns d c).report.skipped
            skipped ≤ invalid ∧ (ending.exitCode = 0 → skipped = 0) := by
  intro rules invalid
  refine ⟨runArguments_validate, fun input => ?_⟩
  intro ending
  have hending : ending = .ofDatabase input rules := by
    simp only [ending, rules, Ending.ofValidation, databaseIn, hload]
  have hlength : (invalidEntries rules).length = invalid := length_invalidEntries rules
  have hexit : ending.exitCode = 0 ↔ (invalidEntries rules).isEmpty = true := by
    rw [hending, Ending.ofDatabase]
    split_ifs with hfaults <;> simp [hfaults]
  refine ⟨hexit.trans invalidEntries_isEmpty_iff, fun hfails => ?_, rules.entryCount_eq,
    fun url patterns d c => ?_⟩
  · rw [ne_eq, hexit] at hfails
    rw [hending, Ending.ofDatabase, if_neg hfails, hlength]
    exact ⟨rfl, rfl⟩
  · intro skipped
    have hskipped : skipped ≤ invalid := by
      rw [show skipped = _ from process_skipped rules url patterns d c]
      refine List.countP_mono_left fun s _ hs => ?_
      exact (Bool.and_eq_true_iff.1 hs).2
    refine ⟨hskipped, fun hvalid => Nat.le_zero.1 (hskipped.trans_eq ?_)⟩
    rw [← hlength, List.isEmpty_iff_length_eq_zero.1 (hexit.1 hvalid)]

/-- A fault in the whitelist, under a token that is no separator: no page comes to it, and the
validation fails. -/
theorem whitelist_fault_foretold :
    let text := "\x7b\"adserver\":\x7b\"##\":\x7b\"*\":[[\"p\"]]\x7d\x7d," ++
      "\"whitelist\":\x7b\"#$#\":\x7b\"a.test\":[[\" \"]]\x7d\x7d\x7d"
    let rules : Database :=
      { adserver := ⟨[("##", ⟨[("*", [Entry.ofSelector "p"])], by decide⟩)], by decide⟩
        whitelist := ⟨[("#$#", ⟨[("a.test", [Entry.ofSelector " "])], by decide⟩)], by decide⟩ }
    let directory : Directory := ⟨[("db.json", text)]⟩
    loadDatabase text = .ok ⟨rules, []⟩ ∧
      ((runArguments ["validate", "--input", "db.json"] : StateM Directory Ending) directory).1 =
        ⟨1, "  whitelist a.test#$# : Empty selector\n",
          "Error: 1 of 2 selectors in 'db.json' do not parse\n"⟩ ∧
      ∀ page : MemoryPage, (process rules "https://a.test/" .empty page
        ({} : Context Handle)).report.skipped ≤ 1 := by
  intro text rules directory
  have hload : loadDatabase text = .ok ⟨rules, []⟩ := by decide +kernel
  have hread : parseSelector "p" = .ok [.css (Text.trimmed "p")] :=
    parseSelector_ordinary (e := Entry.ofSelector "p") (by decide +kernel)
  have hblank : parseSelector " " = .error .empty := by
    rw [parseSelector, readSelector]
    rfl
  have hstored : rules.stored = [⟨.adserver, "##", "*", Entry.ofSelector "p"⟩,
      ⟨.whitelist, "#$#", "a.test", Entry.ofSelector " "⟩] := by decide +kernel
  have hfaults : invalidEntries rules =
      [(⟨.whitelist, "#$#", "a.test", Entry.ofSelector " "⟩, .empty)] := by
    rw [invalidEntries, hstored]
    simp [Entry.ofSelector, hread, hblank]
  obtain ⟨hrun, hending⟩ := validation_foretells_skips hload
  have harguments : Action.ofArguments ["validate", "--input", "db.json"] =
      .ok (.validate "db.json") := by decide +kernel
  have hfile : directory.read "db.json" = .ok text := by decide +kernel
  have hvalidation : Ending.ofValidation "db.json" (.ok text) = .ofDatabase "db.json" rules := by
    rw [Ending.ofValidation, databaseIn, hload]
  refine ⟨hload, ?_, fun page => ?_⟩
  · rw [hrun harguments]
    change Ending.ofValidation "db.json" (directory.read "db.json") = _
    rw [hfile, hvalidation, Ending.ofDatabase, hfaults]
    decide +kernel
  · have hskipped := ((hending "db.json").2.2.2 "https://a.test/" .empty page {}).1
    rwa [← length_invalidEntries, hfaults] at hskipped

end PageGuard.Command
