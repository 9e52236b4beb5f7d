import PageGuard.Config
import PageGuard.Navigation.Block
import PageGuard.Threat.Host
import PageGuard.Url

/-!
# Scanning candidates

Every candidate for blocking a page is judged on its own, in order: first whether it is about this
page at all, then whether protection is on, then whether the domain of the page is excluded.  What
remains is acted on.  A call of the host that fails ends the treatment of its candidate only.
-/

namespace PageGuard

/-- Why a candidate is not acted on. -/
inductive SkipReason where
  /-- The URL does not mention the domain of the candidate. -/
  | foreignDomain
  | protectionInactive
  | excluded
deriving DecidableEq, Inhabited

/-- What becomes of a candidate. -/
inductive Verdict where
  /-- The tab went to this URL. -/
  | blocked (redirect : String)
  | skipped (reason : SkipReason)
  | failed (error : HostError)
deriving DecidableEq, Inhabited

/-- The candidates of a scan by what became of them. -/
structure ScanReport where
  /-- The URLs to which the tab was sent. -/
  blocked : List String := []
  skipped : List (Block × SkipReason) := []
  failures : List (Block × HostError) := []
deriving DecidableEq, Inhabited

namespace ScanReport

/-- Adds a candidate. -/
def add (r : ScanReport) (b : Block) : Verdict → ScanReport
  | .blocked redirect => { r with blocked := r.blocked ++ [redirect] }
  | .skipped reason => { r with skipped := r.skipped ++ [(b, reason)] }
  | .failed error => { r with failures := r.failures ++ [(b, error)] }

/-- How many candidates were skipped because their domain is excluded. -/
def excludedCount (r : ScanReport) : Nat := r.skipped.countP fun s => s.2 = .excluded

end ScanReport

/-- What the host is told of a candidate. -/
def Block.scamContext (b : Block) (config : Config) (url domain : String) (tab : Int) :
    ScamContext where
  tab := tab
  tabUrl := url
  url := domain
  type := b.type
  subtype := b.type.name ++ "_heuristic"
  rule := config.threatPrefix ++ b.id.getD "unknown"
  blockMessage :=
    "BTW: (NETWORK_BLOCK) heuristic " ++ b.type.name ++ " domain found on " ++ domain
  silent := b.silent
  databases := if b.type = .scam then some [config.tables.heuristics] else none

variable {H : Type} [Host H]

/-- Whether a domain is excluded from a type of threat: by the curated whitelist, by a pattern, or
by its popularity unless the mode is aggressive. -/
def isExcluded (config : Config) (domain : String) (aggressive : Bool) (threat : RuleType) :
    StateM H Bool := do
  if !threat.isPageBlock then return false
  if ← Host.isListed domain config.tables.manual config.category then return true
  if ← Host.isExempt domain then return true
  if aggressive then return false
  Host.isListed domain config.tables.popular config.category

/-- Acts on a candidate: records the hit, updates the count, asks where the tab goes and sends it
there. -/
def act (config : Config) (b : Block) (url domain : String) (tab : Int) : HostCall H String := do
  Host.recordAll .scam tab domain domain true
  Host.updateBadge tab
  let redirect ← Host.onScam (b.scamContext config url domain tab)
  Host.navigate tab redirect
  return redirect

/-- Judges a candidate, and acts on it unless it is skipped. -/
def judge (config : Config) (url domain : String) (tab : Int) (b : Block) :
    StateM H Verdict := do
  if !Text.occursIn b.domain url then return .skipped .foreignDomain
  if !(← Host.protectionActive config.feature url tab) then return .skipped .protectionInactive
  if ← isExcluded config domain (config.aggressive || b.aggressive) b.type then
    return .skipped .excluded
  match ← (act config b url domain tab).run with
  | .ok redirect => return .blocked redirect
  | .error e => return .failed e

/-- Scans candidates and adds what becomes of them to a report. -/
def scanFrom (config : Config) (url : String) (tab : Int) :
    List Block → ScanReport → StateM H ScanReport
  | [], r => return r
  | b :: rest, r => do
    let verdict ← judge config url (Url.normalizedDomain url) tab b
    scanFrom config url tab rest (r.add b verdict)

/-- Scans the candidates of a page. -/
def scan (config : Config) (blocks : List Block) (url : String) (tab : Int) :
    StateM H ScanReport :=
  scanFrom config url tab blocks {}

end PageGuard
