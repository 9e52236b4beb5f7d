import PageGuard.Proofs.Navigation.Applicable
import PageGuard.Proofs.Threat.Watched

/-!
# Engines that have been in use

All that an engine keeps from one page to the next is its cache of domain patterns.  The cache grows
with every page, but what it answers is what compiling the pattern would give, so an engine in use
goes on as a new one.

* `PatternCache.applies_after`: a domain pattern applies to a URL or not, whatever was asked before.
* `Engine.run_keeps`: calls change neither the database nor the configuration.
* `Engine.navigate_run`: after any calls a navigation is the one of a new engine.
-/

namespace PageGuard

/-! ## Caches -/

namespace PatternCache

/-- A use of a cache, with the document and the context that it meets. -/
inductive Call : Type 1 where
  | applies (source url : String)
  | process {D N : Type} [Document D N] [DecidableEq N] (rules : Database) (url : String) (d : D)
      (c : Context N)

/-- The cache after a use. -/
def after (patterns : PatternCache) : Call → PatternCache
  | .applies source url => (patterns.applies source url).2
  | @Call.process _ _ _ _ rules url d c => (PageGuard.process rules url patterns d c).patterns

/-- The cache after some uses. -/
def run (patterns : PatternCache) (calls : List Call) : PatternCache := calls.foldl after patterns

/-- **What was asked before does not count**: a used cache answers as an empty one. -/
theorem applies_run (patterns : PatternCache) (calls : List Call) (source url : String) :
    ((patterns.run calls).applies source url).1 = (empty.applies source url).1 := by
  rw [applies_fst, applies_fst]

end PatternCache

/-! ## Engines -/

namespace Engine

/-- A call of an engine, with the document, the context and the host that it meets. -/
inductive Call : Type 1 where
  | navigate {D N H : Type} [Document D N] [DecidableEq N] [Host H] (url : String) (tab : Int)
      (d : D) (host : H)
  | process {D N : Type} [Document D N] [DecidableEq N] (url : String) (d : D) (c : Context N)
  | scan {H : Type} [Host H] (blocks : List Block) (url : String) (tab : Int) (host : H)

/-- The engine after a call; a scan leaves it alone. -/
def after (e : Engine) : Call → Engine
  | @Call.navigate _ _ _ _ _ _ url tab d host => (e.navigate url tab d host).engine
  | @Call.process _ _ _ _ url d c => (e.process url d c).2
  | @Call.scan _ _ _ _ _ _ => e

/-- The engine after some calls. -/
def run (e : Engine) (calls : List Call) : Engine := calls.foldl after e

/-- A call changes neither the database nor the configuration. -/
theorem after_keeps (e : Engine) (call : Call) :
    (e.after call).rules = e.rules ∧ (e.after call).config = e.config := by
  cases call <;> exact ⟨rfl, rfl⟩

/-- **Calls change neither the database nor the configuration.** -/
theorem run_keeps (e : Engine) (calls : List Call) :
    (e.run calls).rules = e.rules ∧ (e.run calls).config = e.config := by
  induction calls generalizing e with
  | nil => exact ⟨rfl, rfl⟩
  | cons call rest ih =>
    obtain ⟨hrules, hconfig⟩ := e.after_keeps call
    obtain ⟨hrules', hconfig'⟩ := ih (e.after call)
    exact ⟨hrules'.trans hrules, hconfig'.trans hconfig⟩

variable {D N H : Type} [Document D N] [DecidableEq N] [Host H]

/-- **An engine in use goes on as a new one.**  After any calls, on any pages and with any contexts
and hosts, a navigation gives the outcome, the document, the host and the calls of the host that it
gives with a new engine of the same database and configuration; and after any uses of its cache a
domain pattern applies to the URLs to which it applies at the beginning. -/
theorem navigate_run (e : Engine) (calls : List Call) (url : String) (tab : Int) (d : D)
    (host : H) :
    let used := e.run calls
    let fresh : Engine := { rules := e.rules, config := e.config }
    (used.navigate url tab d host).outcome = (fresh.navigate url tab d host).outcome ∧
      (used.navigate url tab d host).document = (fresh.navigate url tab d host).document ∧
      (used.navigate url tab d host).host = (fresh.navigate url tab d host).host ∧
      (used.navigate url tab d (Watched.start host)).host.events =
        (fresh.navigate url tab d (Watched.start host)).host.events ∧
      ∀ (uses : List PatternCache.Call) (source url : String),
        ((used.patterns.run uses).applies source url).1 =
          (PatternCache.empty.applies source url).1 := by
  intro used fresh
  obtain ⟨hrules, hconfig⟩ := e.run_keeps calls
  have happlying : used.rules.applying url = fresh.rules.applying url := by
    rw [hrules]
  have hcongr {G : Type} [Host G] (host : G) :=
    navigate_congr (a := used) (b := fresh) hconfig happlying tab d host
  obtain ⟨houtcome, hdocument, hhost⟩ := hcongr host
  have hevents := congrArg Watched.events (hcongr (Watched.start host)).2.2
  exact ⟨houtcome, hdocument, hhost, hevents, used.patterns.applies_run⟩

end Engine

end PageGuard
