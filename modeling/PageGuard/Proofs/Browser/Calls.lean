import PageGuard.Browser.ContentScript
import PageGuard.Proofs.Navigation.Applicable
import PageGuard.Proofs.Navigation.Candidates
import Mathlib.Data.List.Induction

/-!
# Calls of the content script

The extension drives the content script call by call.  The queue of candidates is all that one page
leaves to the next: processing a page adds to it, a scan and a successful load empty it, and no
other call touches it.  The page of a window may be of any type that a script can call into.

* `Call`, `ContentScript.run`: the calls, and the content script after some of them.
* `ContentScript.loaded_after`: what one call makes of the engine and the queues.
* `ContentScript.queue_after`: what one call makes of the queue.
* `ContentScript.exists_origin`: a queued candidate was put there by a call that processed a page,
  and has been there ever since.
-/

namespace PageGuard

/-- The candidates of the blocking rules that find something on a page, in order. -/
def Database.hits {D N : Type} [Document D N] [DecidableEq N] (rules : Database) (url : String)
    (d : D) : List Block :=
  (tryEntries (rules.applying url) d).1.filterMap
    (Trial.candidate? ((Url.pageHost? url).getD ""))

/-- The hits on a page carry its host. -/
theorem Database.domain_of_mem_hits {D N : Type} [Document D N] [DecidableEq N] {rules : Database}
    {url : String} {d : D} {b : Block} (h : b ∈ rules.hits url d) :
    b.domain = (Url.pageHost? url).getD "" := by
  obtain ⟨t, -, ht⟩ := List.mem_filterMap.1 h
  exact Trial.domain_of_candidate? ht

namespace Browser

/-- A call into the content script, with the window or the host that it meets. -/
inductive Call (W : Type) : Type 1 where
  | startLogging (level : Option String)
  | compileFeed (feed : String)
  | load (database : String) (config : Option String)
  | isLoaded
  | process (url : String) (w : Window W)
  | report
  | scan {H : Type} [Host H] (url : String) (tab : Int) (host : H)
  | navigate {H : Type} [Host H] (url : String) (tab : Int) (w : Window W) (host : H)

/-- The database and the configuration that a call loads; absent if it is no load or fails. -/
def Call.loads? {W : Type} : Call W → Option (Database × Config)
  | .load database config =>
    match ContentScript.readLoad database config with
    | .ok (compiled, config) => some (compiled.database, config)
    | .error _ => none
  | _ => none

variable {W N : Type} [WebPage W N] [DecidableEq N]

/-- What becomes of an engine and its queues by a call that loads no other. -/
def Loaded.after (l : Loaded N) : Call W → Loaded N
  | .process url w =>
    match w.current with
    | .ok page =>
      let (p, engine) := l.engine.process url page l.context
      { engine, context := { p.context with elements := [] } }
    | .error _ => l
  | @Call.scan _ _ _ _ _ _ => { l with context := { l.context with blocks := [] } }
  | @Call.navigate _ _ _ url tab w host =>
    match w.current with
    | .ok page => { l with engine := (l.engine.navigate url tab page host).engine }
    | .error _ => l
  | _ => l

namespace ContentScript

/-- The content script after a call. -/
def after (s : ContentScript N) : Call W → ContentScript N
  | .startLogging level => s.startLogging level
  | .compileFeed _ => s
  | .load database config => (s.load database config).2
  | .isLoaded => s
  | .process url w => (s.processPage url w).2.1
  | .report => s
  | @Call.scan _ _ _ url tab host => (s.scan url tab host).2.1
  | @Call.navigate _ _ _ url tab w host => (s.navigate url tab w host).2.1

/-- A fresh content script after some calls. -/
def run (calls : List (Call W)) : ContentScript N := calls.foldl after {}

theorem run_append (calls more : List (Call W)) :
    run (calls ++ more) = more.foldl after (run calls) :=
  List.foldl_append

theorem run_concat (calls : List (Call W)) (c : Call W) :
    run (calls ++ [c]) = (run calls).after c :=
  run_append calls [c]

/-! ## What a call changes -/

/-- **A call changes the engine and the queues only so**: it loads a database with empty queues, or
else it works on those that are there. -/
theorem loaded_after (s : ContentScript N) (c : Call W) :
    (s.after c).loaded =
      match c.loads? with
      | some (rules, config) => some { engine := { rules, config } }
      | none => s.loaded.map (Loaded.after · c) := by
  obtain ⟨loaded, console⟩ := s
  cases c with
  | startLogging level => cases loaded <;> rfl
  | compileFeed feed => cases loaded <;> rfl
  | isLoaded => cases loaded <;> rfl
  | report => cases loaded <;> rfl
  | load database config =>
    rw [after, load, Call.loads?]
    cases readLoad database config with
    | ok l => rfl
    | error e => cases loaded <;> rfl
  | process url w =>
    change (processPage ⟨loaded, console⟩ url w).2.1.loaded = _
    unfold processPage
    cases hpage : w.current <;> cases loaded <;>
      simp [Call.loads?, Loaded.after, hpage, Context.hide]
  | scan url tab host => cases loaded <;> rfl
  | navigate url tab w host =>
    change (ContentScript.navigate ⟨loaded, console⟩ url tab w host).2.1.loaded = _
    unfold navigate
    cases hpage : w.current <;> cases loaded <;> simp [Call.loads?, Loaded.after, hpage]

/-! ## The queue of candidates -/

/-- The queued candidates. -/
def queue (s : ContentScript N) : List Block :=
  match s.loaded with
  | none => []
  | some l => l.context.blocks

/-- The candidates that processing a page gives, when there are a page and a database. -/
def hits (s : ContentScript N) (url : String) (w : Window W) : List Block :=
  match w.current, s.loaded with
  | .ok page, some l => l.engine.rules.hits url page
  | _, _ => []

/-- The queue after a call. -/
def queueAfter (s : ContentScript N) : Call W → List Block
  | .load database config =>
    match readLoad database config with
    | .ok _ => []
    | .error _ => s.queue
  | .process url w => (s.hits url w).foldl enqueue s.queue
  | @Call.scan _ _ _ _ _ _ => []
  | _ => s.queue

theorem queue_processPage (s : ContentScript N) (url : String) (w : Window W) :
    (s.processPage url w).2.1.queue = (s.hits url w).foldl enqueue s.queue := by
  unfold processPage hits
  cases w.current with
  | error e => rfl
  | ok page =>
    obtain ⟨loaded, console⟩ := s
    cases loaded with
    | none => rfl
    | some l =>
      change (l.engine.process url page l.context).1.context.blocks =
        (l.engine.rules.hits url page).foldl enqueue l.context.blocks
      unfold Database.hits
      rw [← applicable_fst l.engine.rules url l.engine.patterns]
      exact blocks_foldl_mergeTrial _ _ _

/-- **Pages add to the queue, scans and successful loads empty it**, and no other call touches
it. -/
theorem queue_after (s : ContentScript N) (c : Call W) : (s.after c).queue = s.queueAfter c := by
  cases c with
  | startLogging level => rfl
  | compileFeed feed => rfl
  | isLoaded => rfl
  | report => rfl
  | process url w => exact s.queue_processPage url w
  | load database config =>
    rw [after, load, queueAfter]
    cases readLoad database config <;> rfl
  | scan url tab host =>
    obtain ⟨loaded, console⟩ := s
    cases loaded <;> rfl
  | navigate url tab w host =>
    obtain ⟨loaded, console⟩ := s
    change (ContentScript.navigate ⟨loaded, console⟩ url tab w host).2.1.queue =
      queue ⟨loaded, console⟩
    unfold navigate
    cases w.current with
    | error e => rfl
    | ok page => cases loaded <;> rfl

/-- After a call a candidate is queued that was queued before, or else the call processed a page
that gives it. -/
theorem mem_queue_or_hit {s : ContentScript N} {c : Call W} {b : Block}
    (h : b ∈ (s.after c).queue) :
    b ∈ s.queue ∨ ∃ url w, c = .process url w ∧ b ∈ s.hits url w := by
  rw [queue_after] at h
  cases c with
  | process url w =>
    rcases mem_foldl_enqueue.1 h with hold | hhit
    · exact .inl hold
    · exact .inr ⟨url, w, rfl, hhit⟩
  | load database config =>
    rw [queueAfter] at h
    cases hload : readLoad database config with
    | ok _ => rw [hload] at h; exact absurd h List.not_mem_nil
    | error _ => rw [hload] at h; exact .inl h
  | scan url tab host => exact absurd h List.not_mem_nil
  | startLogging level => exact .inl h
  | compileFeed feed => exact .inl h
  | isLoaded => exact .inl h
  | report => exact .inl h
  | navigate url tab w host => exact .inl h

/-! ## Where candidates come from -/

/-- A candidate was queued by a call that processed a page, and stayed in the queue through the
later calls. -/
structure Origin (b : Block) (before : List (Call W)) (url : String) (w : Window W)
    (later : List (Call W)) : Prop where
  new : b ∉ (run before).queue
  hit : b ∈ (run before).hits url w
  stays : ∀ mid, mid <+: later → b ∈ (run (before ++ .process url w :: mid)).queue

/-- A candidate carries the host of the page that it comes from. -/
theorem Origin.domain {b : Block} {before later : List (Call W)} {url : String} {w : Window W}
    (h : Origin b before url w later) : b.domain = (Url.pageHost? url).getD "" := by
  have hhit := h.hit
  unfold hits at hhit
  split at hhit
  · exact Database.domain_of_mem_hits hhit
  · exact absurd hhit List.not_mem_nil

/-- **Every queued candidate has an origin**: a call that processed a page queued it, and no call
after that took it away. -/
theorem exists_origin {calls : List (Call W)} {b : Block} (h : b ∈ (run calls).queue) :
    ∃ before url w later, calls = before ++ .process url w :: later ∧
      Origin b before url w later := by
  induction calls using List.reverseRecOn with
  | nil => exact absurd h List.not_mem_nil
  | append_singleton calls c ih =>
    have hafter := h
    rw [run_concat] at hafter
    by_cases hold : b ∈ (run calls).queue
    · -- It was queued before the last call, which is one more that left it there.
      obtain ⟨before, url, w, later, rfl, horigin⟩ := ih hold
      refine ⟨before, url, w, later ++ [c], by simp, horigin.new, horigin.hit, fun mid hmid => ?_⟩
      rcases List.prefix_concat_iff.1 hmid with rfl | hmid
      · simpa using h
      · exact horigin.stays mid hmid
    · obtain hqueued | ⟨url, w, rfl, hhit⟩ := mem_queue_or_hit hafter
      · exact absurd hqueued hold
      · refine ⟨calls, url, w, [], rfl, hold, hhit, fun mid hmid => ?_⟩
        rw [List.prefix_nil.1 hmid]
        exact h

end ContentScript

end Browser

end PageGuard
