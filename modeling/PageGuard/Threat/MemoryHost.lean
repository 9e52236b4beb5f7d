import PageGuard.Text.Lowercase
import PageGuard.Text.Search
import PageGuard.Threat.Host

/-!
# Hosts in memory

A host with fixed answers that keeps a log of the effects it was asked for.  Tables know domains in
lower case.  One call can be made to fail, and then it is not logged.
-/

namespace PageGuard

open Text

/-- A logged effect. -/
inductive LoggedCall where
  | recordAll (tab : Int) (source hit : String) (silent : Bool)
  | updateBadge (tab : Int)
  | onScam (context : ScamContext)
  | navigate (tab : Int) (url : String)
deriving DecidableEq, Inhabited

/-- A host in memory. -/
structure MemoryHost where
  active : Bool := true
  /-- Lower-cased domains by the name of their table. -/
  tables : List (String × List String) := []
  /-- Texts that exempt the domains in which they occur. -/
  exemptions : List String := []
  redirectBase : String := "https://block.heurshield.invalid/blocked"
  /-- The call that fails. -/
  failing : Option HostEffect := none
  log : List LoggedCall := []
deriving DecidableEq, Inhabited

namespace MemoryHost

/-- Adds domains to a table. -/
def addTable (h : MemoryHost) (name : String) (domains : List String) : MemoryHost :=
  { h with tables := h.tables ++ [(name, domains.map lowercased)] }

/-- Adds an exemption. -/
def addExemption (h : MemoryHost) (text : String) : MemoryHost :=
  { h with exemptions := h.exemptions ++ [text] }

/-- Whether a table lists a domain. -/
def lists (h : MemoryHost) (domain table : String) : Bool :=
  h.tables.any fun t => t.1 = table && t.2.contains (lowercased domain)

/-- Whether an exemption occurs in a domain. -/
def exempts (h : MemoryHost) (domain : String) : Bool :=
  h.exemptions.any fun text => occursIn text domain

/-- The URL to which the tab of a hit goes. -/
def redirect (h : MemoryHost) (c : ScamContext) : String :=
  h.redirectBase ++ "?url=" ++ c.url ++ "&rule=" ++ c.rule

/-- Logs a call unless it is the failing one. -/
def perform {α : Type} (effect : HostEffect) (call : LoggedCall) (answer : MemoryHost → α) :
    HostCall MemoryHost α := fun h =>
  if h.failing = some effect then (.error ⟨effect, "injected failure"⟩, h)
  else (.ok (answer h), { h with log := h.log ++ [call] })

instance : Host MemoryHost where
  protectionActive _ _ _ := fun h => (h.active, h)
  isListed domain table _ := fun h => (h.lists domain table, h)
  isExempt domain := fun h => (h.exempts domain, h)
  recordAll _ tab source hit silent :=
    perform .recordAll (.recordAll tab source hit silent) fun _ => ()
  updateBadge tab := perform .updateBadge (.updateBadge tab) fun _ => ()
  onScam c := perform .onScam (.onScam c) fun h => h.redirect c
  navigate tab url := perform .navigate (.navigate tab url) fun _ => ()

/-- The tabs that were sent somewhere, and where to. -/
def navigations (h : MemoryHost) : List (Int × String) :=
  h.log.filterMap fun
    | .navigate tab url => some (tab, url)
    | _ => none

end MemoryHost

end PageGuard
