import PageGuard.Proofs.Navigation.OrdinaryRules
import PageGuard.Rules.Compile

/-!
# What processing a page collects

When no selector of a database acts, every entry can be judged alone, on the page as it was before:
the order of the entries decides only in which order their finds are queued, and an entry that
cannot be read, fails or finds nothing leaves no mark on the others.

* `Database.entriesFor`: the entries of one type that are evaluated on a page.
* `Entry.finds`: what the selector of an entry finds on a document.
* `Database.collected`: a context with what all these entries find added, each item once.
* `process_collects`: processing a page gives this context.
-/

namespace PageGuard

/-! ## Adding new items -/

section Queues

variable {α : Type} [DecidableEq α]

/-- The items of a list that a queue does not hold yet, each once, in the order in which they first
come. -/
def newItems (queue l : List α) : List α := (l.filter fun a => a ∉ queue).eraseDups

theorem newItems_cons_of_mem {queue : List α} {a : α} (h : a ∈ queue) (l : List α) :
    newItems queue (a :: l) = newItems queue l := by
  rw [newItems, List.filter_cons_of_neg, newItems]
  simpa using h

theorem newItems_cons_of_notMem {queue : List α} {a : α} (h : a ∉ queue) (l : List α) :
    newItems queue (a :: l) = a :: newItems (queue ++ [a]) l := by
  have hfilter : (l.filter fun b => b ∉ queue).filter (fun b => !b == a) =
      l.filter fun b => b ∉ queue ++ [a] := by
    rw [List.filter_filter]
    refine List.filter_congr fun b _ => ?_
    by_cases hb : b = a <;> simp [hb]
  rw [newItems, List.filter_cons_of_pos (by simpa using h), List.eraseDups_cons, hfilter, newItems]

/-- Queueing one item after the other adds the new ones at the end. -/
theorem foldl_enqueue_eq (l queue : List α) :
    l.foldl enqueue queue = queue ++ newItems queue l := by
  induction l generalizing queue with
  | nil => exact (List.append_nil queue).symm
  | cons a rest ih =>
    rw [List.foldl_cons, ih, enqueue]
    split_ifs with ha
    · rw [newItems_cons_of_mem ha]
    · rw [newItems_cons_of_notMem ha, List.append_assoc, List.singleton_append]

/-- Erasing duplicates is queueing one item after the other. -/
theorem eraseDups_eq_foldl (l : List α) : l.eraseDups = l.foldl enqueue [] := by
  rw [foldl_enqueue_eq, List.nil_append, newItems]
  simp

end Queues

/-! ## The entries that are evaluated, type by type -/

/-- The entries of a type that are evaluated on a page with this URL, in database order: those under
a known separator whose domain pattern applies. -/
def Database.entriesFor (d : Database) (t : RuleType) (url : String) : List Entry :=
  ((storedIn t (d.bucket t)).filter fun s =>
    (SelectorKind.ofToken? s.token).isSome && domainApplies s.domain url).map Stored.entry

/-- The types whose entries are evaluated, in the order in which they are processed. -/
def RuleType.evaluated : List RuleType := [.adserver, .scam, .phishing]

theorem Database.type_of_mem_storedIn {t : RuleType} {rules : DomainRules} {s : Stored}
    (h : s ∈ storedIn t rules) : s.type = t := by
  obtain ⟨_, -, h⟩ := List.mem_flatMap.1 h
  obtain ⟨_, -, h⟩ := List.mem_flatMap.1 h
  obtain ⟨_, -, rfl⟩ := List.mem_map.1 h
  rfl

theorem Database.filter_storedIn_appliesTo (d : Database) {t : RuleType} (ht : t ≠ .whitelist)
    (url : String) :
    ((storedIn t (d.bucket t)).filter fun s => s.appliesTo url).map (fun s => (s.type, s.entry)) =
      (d.entriesFor t url).map fun e => (t, e) := by
  have hfilter : (storedIn t (d.bucket t)).filter (fun s => s.appliesTo url) =
      (storedIn t (d.bucket t)).filter fun s =>
        (SelectorKind.ofToken? s.token).isSome && domainApplies s.domain url := by
    refine List.filter_congr fun s hs => ?_
    rw [Stored.appliesTo, type_of_mem_storedIn hs]
    simp [ht]
  rw [hfilter, entriesFor, List.map_map]
  refine List.map_congr_left fun s hs => ?_
  rw [type_of_mem_storedIn (List.mem_filter.1 hs).1]
  rfl

/-- The evaluated entries of a database are those of its three evaluated types, one type after the
other. -/
theorem Database.applying_eq (d : Database) (url : String) :
    d.applying url =
      RuleType.evaluated.flatMap fun t => (d.entriesFor t url).map fun e => (t, e) := by
  have hwhitelist :
      (storedIn .whitelist (d.bucket .whitelist)).filter (fun s => s.appliesTo url) = [] := by
    refine List.filter_eq_nil_iff.2 fun s hs => ?_
    rw [Stored.appliesTo, type_of_mem_storedIn hs]
    exact Bool.false_ne_true
  rw [applying, stored, buckets, List.flatMap_map, List.filter_flatMap, List.map_flatMap]
  simp only [RuleType.all, RuleType.evaluated, List.flatMap_cons, List.flatMap_nil, hwhitelist,
    filter_storedIn_appliesTo, ne_eq, reduceCtorEq, not_false_eq_true, List.map_nil,
    List.append_nil]

/-! ## What entries find -/

/-- Whether the selector of an entry acts on the page, at any depth. -/
def Entry.acts (e : Entry) : Bool :=
  match parseSelector e.selector with
  | .ok chain => Stage.anyActs chain
  | .error _ => false

/-- No selector of a database acts. -/
def Database.NeverActs (d : Database) : Prop := ∀ s ∈ d.stored, s.entry.acts = false

/-- Ordinary text acts on nothing. -/
theorem Database.neverActs_of_ordinary {d : Database}
    (h : ∀ s ∈ d.stored, s.entry.hasOrdinarySelector = true) : d.NeverActs := by
  intro s hs
  rw [Entry.acts, parseSelector_ordinary (h s hs)]
  rfl

section Finding

variable {D N : Type} [Document D N] [DecidableEq N]

/-- What the selector of an entry finds on a document; one that cannot be read or that fails finds
nothing. -/
def Entry.finds (e : Entry) (d : D) : List N :=
  match parseSelector e.selector with
  | .error _ => []
  | .ok chain =>
    match (evaluate chain d).1 with
    | .ok found => found
    | .error _ => []

/-- What a trial queues for hiding. -/
def Trial.toHide : Trial N → List N
  | .evaluated type _ (.ok found) => if type.isPageBlock then [] else found
  | _ => []

theorem toHide_tryEntry (t : RuleType) (e : Entry) (d : D) :
    (tryEntry t e d).1.toHide = if t.isPageBlock then [] else (e.finds d : List N) := by
  rw [tryEntry, Entry.finds]
  cases parseSelector e.selector with
  | error _ => exact (ite_self _).symm
  | ok chain =>
    dsimp only [Trial.toHide]
    cases (evaluate chain d).1 with
    | error _ => exact (ite_self _).symm
    | ok found => rfl

theorem candidate?_tryEntry (domain : String) (t : RuleType) (e : Entry) (d : D) :
    (tryEntry t e d).1.candidate? domain =
      if t.isPageBlock && !(e.finds d : List N).isEmpty then some (e.block domain t) else none := by
  rw [tryEntry, Entry.finds]
  cases parseSelector e.selector with
  | error _ => simp [Trial.candidate?]
  | ok chain =>
    cases hfound : (evaluate chain d).1 with
    | error _ => simp [Trial.candidate?, hfound]
    | ok found => simp only [Trial.candidate?, hfound]

/-! ## Merging -/

theorem Context.elements_addElements (c : Context N) (found : List N) :
    (c.addElements found).2.elements = found.foldl enqueue c.elements := by
  induction found generalizing c with
  | nil => rfl
  | cons e rest ih =>
    rw [addElements, List.foldl_cons]
    exact ih _

/-- One trial queues its elements, if it has any. -/
theorem elements_mergeTrial (domain : String) (acc : ProcessReport × Context N) (t : Trial N) :
    (mergeTrial domain acc t).2.elements = t.toHide.foldl enqueue acc.2.elements := by
  obtain ⟨r, c⟩ := acc
  cases t with
  | skipped => rfl
  | evaluated type entry result =>
    cases result with
    | error e => rfl
    | ok found =>
      unfold mergeTrial Trial.toHide
      dsimp only
      cases found with
      | nil => split_ifs <;> rfl
      | cons e rest =>
        rw [List.isEmpty_cons, if_neg Bool.false_ne_true]
        by_cases htype : type.isPageBlock = true
        · rw [if_pos htype, if_pos htype]
          rfl
        · rw [if_neg htype, if_neg htype]
          exact Context.elements_addElements c (e :: rest)

/-- Merging queues the elements of the trials, in order, each once. -/
theorem elements_foldl_mergeTrial (domain : String) (trials : List (Trial N))
    (acc : ProcessReport × Context N) :
    (trials.foldl (mergeTrial domain) acc).2.elements =
      (trials.flatMap Trial.toHide).foldl enqueue acc.2.elements := by
  induction trials generalizing acc with
  | nil => rfl
  | cons t rest ih =>
    rw [List.foldl_cons, ih, elements_mergeTrial, List.flatMap_cons, List.foldl_append]

/-! ## The reference -/

/-- The elements that the adserver entries find on a document, in database order. -/
def Database.elementsFound (rules : Database) (url : String) (d : D) : List N :=
  (rules.entriesFor .adserver url).flatMap fun e => e.finds d

/-- The candidates of the scam and phishing entries that find something on a document, in database
order; they carry the host of the page. -/
def Database.candidates (rules : Database) (url : String) (d : D) : List Block :=
  [RuleType.scam, .phishing].flatMap fun t =>
    ((rules.entriesFor t url).filter fun e => !(e.finds d : List N).isEmpty).map
      (Entry.block ((Url.pageHost? url).getD "") t)

/-- A context with what the entries of a database find on a document added. -/
def Database.collected (rules : Database) (url : String) (d : D) (c : Context N) : Context N where
  elements := c.elements ++ newItems c.elements (rules.elementsFound url d)
  blocks := c.blocks ++ newItems c.blocks (rules.candidates url d)

theorem Database.flatMap_applying (rules : Database) (url : String) (d : D) :
    ((rules.applying url).flatMap fun p => if p.1.isPageBlock then [] else p.2.finds d) =
      (rules.elementsFound url d : List N) := by
  have hnone (entries : List Entry) : (entries.flatMap fun _ => ([] : List N)) = [] :=
    List.flatMap_eq_nil_iff.2 fun _ _ => rfl
  simp only [applying_eq, RuleType.evaluated, List.flatMap_cons, List.flatMap_nil,
    List.flatMap_append, List.flatMap_map, RuleType.isPageBlock, if_true, hnone, List.append_nil]
  rfl

theorem Database.filterMap_applying (rules : Database) (url : String) (d : D) :
    ((rules.applying url).filterMap fun p =>
      if p.1.isPageBlock && !(p.2.finds d : List N).isEmpty then
        some (p.2.block ((Url.pageHost? url).getD "") p.1) else none) =
      rules.candidates url d := by
  have hsome (t : RuleType) (entries : List Entry) :
      (entries.filterMap fun e => if !(e.finds d : List N).isEmpty then
        some (e.block ((Url.pageHost? url).getD "") t) else none) =
          (entries.filter fun e => !(e.finds d : List N).isEmpty).map
            (Entry.block ((Url.pageHost? url).getD "") t) := by
    rw [← List.filterMap_eq_map, List.filterMap_filter]
    rfl
  simp only [applying_eq, RuleType.evaluated, List.flatMap_cons, List.flatMap_nil,
    List.filterMap_append, List.filterMap_map, candidates, List.append_nil, Function.comp_def,
    RuleType.isPageBlock, Bool.false_and, Bool.true_and, Bool.false_eq_true, if_false, hsome,
    List.filterMap_none, List.nil_append]

end Finding

/-! ## Processing -/

section Processing

variable {D N : Type} [Document D N] [SteadyDocument D N] [DecidableEq N]

/-- An entry that does not act is tried alike on documents that are the same, and leaves them the
same. -/
theorem tryEntry_of_same {t : RuleType} {e : Entry} (he : e.acts = false) {d d' : D}
    (h : d' ≈ d) :
    (tryEntry t e d').1 = (tryEntry t e d).1 ∧ (tryEntry t e d').2 ≈ d := by
  unfold Entry.acts at he
  unfold tryEntry
  cases hparse : parseSelector e.selector with
  | error _ => exact ⟨rfl, h⟩
  | ok chain =>
    rw [hparse] at he
    have hreads := evaluate_readsAt he d
    exact ⟨congrArg (Trial.evaluated t e) (hreads.answer d' h), hreads.same d' h⟩

/-- **Entries that do not act are tried each for itself**, and leave the document the same. -/
theorem tryEntries_of_same {entries : List (RuleType × Entry)}
    (hacts : ∀ p ∈ entries, p.2.acts = false) {d d' : D} (h : d' ≈ d) :
    (tryEntries entries d').1 = entries.map (fun p => (tryEntry p.1 p.2 d).1) ∧
      (tryEntries entries d').2 ≈ d := by
  induction entries generalizing d' with
  | nil => exact ⟨rfl, h⟩
  | cons p rest ih =>
    obtain ⟨t, e⟩ := p
    obtain ⟨htrial, hafter⟩ := tryEntry_of_same (t := t) (hacts (t, e) (List.mem_cons_self ..)) h
    obtain ⟨htrials, hlast⟩ := ih (fun p hp => hacts p (List.mem_cons_of_mem _ hp)) hafter
    refine ⟨?_, hlast⟩
    rw [tryEntries, List.map_cons, ← htrials, ← htrial]

theorem Database.acts_of_mem_applying {rules : Database} (h : rules.NeverActs) (url : String) :
    ∀ p ∈ rules.applying url, p.2.acts = false := by
  intro p hp
  obtain ⟨s, hs, rfl⟩ := List.mem_map.1 hp
  exact h s (List.mem_filter.1 hs).1

/-- Processing with a database that never acts leaves the document the same. -/
theorem process_document {rules : Database} (h : rules.NeverActs) (url : String)
    (patterns : PatternCache) (d : D) (c : Context N) :
    (process rules url patterns d c).document ≈ d := by
  have htried := tryEntries_of_same (Database.acts_of_mem_applying h url) (Setoid.refl d)
  rw [← applicable_fst rules url patterns] at htried
  exact htried.2

/-- **What processing a page collects.**  When no selector of the database acts, processing adds to
a context what each evaluated entry finds by itself on the page as it was before: adserver entries
their elements, scam and phishing entries a candidate if they find something.  What the context
holds stays in front, and nothing is added twice. -/
theorem process_collects {rules : Database} (h : rules.NeverActs) (url : String)
    (patterns : PatternCache) (d : D) (c : Context N) :
    (process rules url patterns d c).context = rules.collected url d c := by
  have htrials := (tryEntries_of_same (Database.acts_of_mem_applying h url)
    (Setoid.refl d)).1
  rw [← applicable_fst rules url patterns] at htrials
  have hmerged : (process rules url patterns d c).context =
      ((tryEntries (applicable rules url patterns).1 d).1.foldl
        (mergeTrial ((Url.pageHost? url).getD "")) (({} : ProcessReport), c)).2 := rfl
  rw [htrials, applicable_fst] at hmerged
  have helements : (process rules url patterns d c).context.elements =
      c.elements ++ newItems c.elements (rules.elementsFound url d) := by
    rw [hmerged, elements_foldl_mergeTrial, List.flatMap_map]
    simp only [toHide_tryEntry]
    rw [Database.flatMap_applying, foldl_enqueue_eq]
  have hblocks : (process rules url patterns d c).context.blocks =
      c.blocks ++ newItems c.blocks (rules.candidates url d) := by
    rw [hmerged, blocks_foldl_mergeTrial, List.filterMap_map]
    simp only [Function.comp_def, candidate?_tryEntry]
    rw [Database.filterMap_applying, foldl_enqueue_eq]
  rw [Database.collected, ← helements, ← hblocks]

end Processing

/-- A page on which one entry hides and one blocks, with an element queued before. -/
theorem collects_hidden_and_blocked :
    let rules := (buildDatabase [⟨"##p", none, .adserver, none, ""⟩,
      ⟨"a\\.test##body", none, .scam, some true, "1"⟩]).database
    let page := MemoryPage.ofText "<p>x</p>"
    let queued : Context Handle := { elements := [.element 0] }
    rules.NeverActs ∧
      (process rules "https://a.test/" .empty page queued).context =
        rules.collected "https://a.test/" page queued := by
  intro rules page queued
  have hacts : rules.NeverActs := Database.neverActs_of_ordinary (by decide +kernel)
  exact ⟨hacts, process_collects hacts "https://a.test/" .empty page queued⟩

end PageGuard
