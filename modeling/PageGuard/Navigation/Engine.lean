import PageGuard.Navigation.Processing
import PageGuard.Threat.Scan

/-!
# The engine

An engine holds a database and a configuration.  One navigation processes the page, hides what was
found, reports the candidates and scans them.
-/

namespace PageGuard

/-- A loaded database with its configuration. -/
structure Engine where
  rules : Database
  config : Config
  patterns : PatternCache := .empty

instance : Inhabited Engine := ⟨{ rules := default, config := default }⟩

/-- What a navigation gives. -/
structure NavigationOutcome where
  process : ProcessReport
  /-- How many elements were hidden. -/
  hidden : Nat
  report : Report
  scan : ScanReport
deriving DecidableEq, Inhabited

/-- What there is after a navigation. -/
structure Navigated (D H : Type) where
  outcome : NavigationOutcome
  engine : Engine
  document : D
  host : H

namespace Engine

variable {D N H : Type} [Document D N] [DecidableEq N] [Host H]

/-- Processes a page into a context. -/
def process (e : Engine) (url : String) (d : D) (c : Context N) : Processed D N × Engine :=
  let p := PageGuard.process e.rules url e.patterns d c
  (p, { e with patterns := p.patterns })

/-- Scans candidates. -/
def scan (e : Engine) (blocks : List Block) (url : String) (tab : Int) : StateM H ScanReport :=
  PageGuard.scan e.config blocks url tab

/-- Runs one navigation. -/
def navigate (e : Engine) (url : String) (tab : Int) (d : D) (h : H) : Navigated D H :=
  let (p, e) := e.process url d ({} : Context N)
  let (hidden, d, c) := p.context.hide p.document
  let report := c.report
  let (scan, h) := (e.scan report.blocks url tab).run h
  { outcome := { process := p.report, hidden, report, scan }
    engine := e
    document := d
    host := h }

end Engine

end PageGuard
