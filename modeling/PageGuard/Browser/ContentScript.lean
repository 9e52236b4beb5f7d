import PageGuard.Browser.Console
import PageGuard.Browser.Page
import PageGuard.Browser.ScriptHost
import PageGuard.Navigation.Engine
import PageGuard.Rules.Load

/-!
# The content script

What runs beside a page: the loaded engine and the queues of the page, and the calls with which the
extension drives it.  Hits of a processed page stay queued until they are scanned or another
database is loaded; a complete navigation uses queues of its own.
-/

namespace PageGuard.Browser

open Json

/-- A loaded engine with the queues of the page, whose elements have type `N`. -/
structure Loaded (N : Type) where
  engine : Engine
  context : Context N := {}
deriving Inhabited

/-- The state of the content script. -/
structure ContentScript (N : Type := Handle) where
  loaded : Option (Loaded N) := none
  console : Console := {}
deriving Inhabited

/-- Why a call throws. -/
inductive EntryError where
  | feed
  | database (e : LoadError)
  | config
  | notLoaded
  | document (e : DomError)
deriving DecidableEq

/-- The text that is thrown. -/
def EntryError.message : EntryError → String
  | feed => "Invalid rule feed: "
  | database e => "Failed to load database: " ++ e.message
  | config => "Invalid config JSON: "
  | notLoaded => "Heuristics database not loaded"
  | document e => e.message

/-! ## Answers -/

/-- A compiled feed. -/
structure FeedSummary where
  database : Database
  records : Nat
  compiled : Nat
  skipped : Nat

/-- A loaded database. -/
structure LoadSummary where
  entries : Nat
  issues : Nat
deriving DecidableEq, Inhabited

/-- A processed page. -/
structure PageSummary where
  evaluated : Nat
  skipped : Nat
  matched : Nat
  failures : Nat
  hidden : Nat
  candidates : Nat
deriving DecidableEq, Inhabited

/-- A complete navigation. -/
structure NavigationSummary where
  hidden : Nat
  report : Report
  scan : ScanReport
deriving DecidableEq, Inhabited

/-- The value of a compiled feed. -/
def FeedSummary.toValue (s : FeedSummary) : Value :=
  .object [
    ("database", s.database.toValue), ("records", .ofNat s.records),
    ("compiled", .ofNat s.compiled), ("skipped", .ofNat s.skipped)]

/-- The value of a loaded database. -/
def LoadSummary.toValue (s : LoadSummary) : Value :=
  .object [("entries", .ofNat s.entries), ("issues", .ofNat s.issues)]

/-- The value of a processed page. -/
def PageSummary.toValue (s : PageSummary) : Value :=
  .object [
    ("evaluated", .ofNat s.evaluated), ("skipped", .ofNat s.skipped),
    ("matched", .ofNat s.matched), ("failures", .ofNat s.failures),
    ("hidden", .ofNat s.hidden), ("candidates", .ofNat s.candidates)]

/-- The counts of a scan as a value. -/
def scanSummary (s : ScanReport) : Value :=
  .object [
    ("blocked", .ofStrings s.blocked), ("skipped", .ofNat s.skipped.length),
    ("excluded", .ofNat s.excludedCount), ("failures", .ofNat s.failures.length)]

/-- The value of a navigation. -/
def NavigationSummary.toValue (s : NavigationSummary) : Value :=
  .object [
    ("hidden", .ofNat s.hidden), ("report", s.report.toValue), ("scan", scanSummary s.scan)]

/-- What is sent to the background: a message, or that there is nothing to send. -/
def reportMessage (r : Report) : Value :=
  match r.message? with
  | some m => m.toValue
  | none => .string Report.nothingText

/-! ## Calls -/

namespace ContentScript

/-- Compiles a feed; nothing is loaded. -/
def compileFeed (text : String) : Except EntryError FeedSummary :=
  match feedRecords? text with
  | none => .error .feed
  | some records =>
    let compiled := compile records
    let stats := compiled.stats
    .ok {
      database := compiled.database
      records := stats.records
      compiled := stats.compiled
      skipped := compiled.issues.length }

/-- The configuration that a call gives, or the default one. -/
def readConfig (text : Option String) : Except EntryError Config :=
  match text with
  | none => .ok {}
  | some text =>
    match Config.ofText? text with
    | some config => .ok config
    | none => .error .config

/-- The database and the configuration that a call gives. -/
def readLoad (database : String) (config : Option String) :
    Except EntryError (Compiled × Config) := do
  let compiled ← (loadDatabase database).mapError .database
  return (compiled, ← readConfig config)

section State

variable {W N : Type}

/-- Starts logging, or changes its limit. -/
def startLogging (s : ContentScript N) (level : Option String) : ContentScript N :=
  { s with console := s.console.install (requestedLimit level) }

/-- Loads a database in place of any other, with empty queues. -/
def load (s : ContentScript N) (database : String) (config : Option String) :
    Except EntryError LoadSummary × ContentScript N :=
  match readLoad database config with
  | .error e => (.error e, s)
  | .ok (compiled, config) =>
    (.ok ⟨compiled.database.entryCount, compiled.issues.length⟩,
      { s with loaded := some { engine := { rules := compiled.database, config } } })

/-- Whether a database is loaded. -/
def isLoaded (s : ContentScript N) : Bool := s.loaded.isSome

/-- Processes the page of a window and hides what was found; candidates stay queued. -/
def processPage [WebPage W N] [DecidableEq N] (s : ContentScript N) (url : String)
    (w : Window W) :
    Except EntryError PageSummary × ContentScript N × Window W :=
  match w.current, s.loaded with
  | .error e, _ => (.error (.document e), s, w)
  | .ok _, none => (.error .notLoaded, s, w)
  | .ok page, some l =>
    let (p, engine) := l.engine.process url page l.context
    let (hidden, page, context) := p.context.hide p.document
    (.ok {
        evaluated := p.report.evaluated
        skipped := p.report.skipped
        matched := p.report.matched
        failures := p.report.failures.length
        hidden
        candidates := context.blocks.length },
      { s with loaded := some { engine, context } }, some page)

/-- The report of the queued candidates. -/
def report (s : ContentScript N) : Except EntryError Report :=
  match s.loaded with
  | none => .error .notLoaded
  | some l => .ok l.context.report

/-- Scans the queued candidates and empties their queue. -/
def scan {H : Type} [Host H] (s : ContentScript N) (url : String) (tab : Int) (h : H) :
    Except EntryError ScanReport × ContentScript N × H :=
  match s.loaded with
  | none => (.error .notLoaded, s, h)
  | some l =>
    let (blocks, context) := l.context.drain
    let (report, h) := (l.engine.scan blocks url tab).run h
    (.ok report, { s with loaded := some { l with context } }, h)

/-- Runs a complete navigation on the page of a window. -/
def navigate [WebPage W N] [DecidableEq N] {H : Type} [Host H] (s : ContentScript N)
    (url : String) (tab : Int) (w : Window W) (h : H) :
    Except EntryError NavigationSummary × ContentScript N × Window W × H :=
  match w.current, s.loaded with
  | .error e, _ => (.error (.document e), s, w, h)
  | .ok _, none => (.error .notLoaded, s, w, h)
  | .ok page, some l =>
    let n := l.engine.navigate url tab page h
    (.ok ⟨n.outcome.hidden, n.outcome.report, n.outcome.scan⟩,
      { s with loaded := some { l with engine := n.engine } }, some n.document, n.host)

end State

end ContentScript

end PageGuard.Browser
