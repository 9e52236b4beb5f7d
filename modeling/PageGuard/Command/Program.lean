import PageGuard.Command.Files
import PageGuard.Command.Help
import PageGuard.Navigation.Engine
import PageGuard.Page.Memory
import PageGuard.Rules.Load
import PageGuard.Text.Fixed
import PageGuard.Threat.MemoryHost

/-!
# The command line program

`compile` turns a feed into a database, `validate` checks that every selector of a database can be
read, `info` counts what a database holds and `run` runs one navigation on a saved page.

A command prints lines as it goes and ends well or with an error.
-/

namespace PageGuard.Command

open Text Json

/-- A command on its way: it prints and may fail. -/
abbrev Task (m : Type → Type) := ExceptT String (StateT String m)

section Steps

variable {m : Type → Type} [Monad m]

/-- Prints a line. -/
def say (line : String) : Task m Unit := modify fun out => out ++ line ++ "\n"

/-- Prints lines. -/
def sayAll : List String → Task m Unit
  | [] => return ()
  | line :: rest => do
    say line
    sayAll rest

/-- Goes on with a result, or fails. -/
def check {α : Type} (result : Except String α) : Task m α :=
  match result with
  | .ok a => return a
  | .error e => throw e

variable [World m]

/-- Reads a file. -/
def readFile (path : String) : Task m String := do
  let content ← (World.read path : m _)
  check (content.mapError fun reason => "Failed to read '" ++ path ++ "': " ++ reason)

/-- Reads a database. -/
def readDatabase (path : String) : Task m Database := do
  let content ← readFile path
  let compiled ← check ((loadDatabase content).mapError fun e =>
    "Invalid database '" ++ path ++ "': " ++ e.message)
  return compiled.database

end Steps

/-- The domains of a list, one on a line; blank lines and comments do not count. -/
def domainList (content : String) : List String :=
  ((lines content.toList).map trim).filterMap fun line =>
    match line with
    | [] => none
    | '#' :: _ => none
    | _ => some (.ofList (lowercase line))

/-- A text with blanks after it up to a width. -/
def padded (width : Nat) (s : String) : String :=
  s ++ .ofList (List.replicate (width - s.length) ' ')

/-- A time in milliseconds. -/
def milliseconds (places micros : Nat) : String := fixed places micros 1000 ++ "ms"

/-! ## Compiling -/

/-- What is said about a compilation. -/
def compileLines (input output text : String) (compiled : Compiled) : List String :=
  let stats := compiled.stats
  let bytes := text.utf8ByteSize
  ["Compiled '" ++ input ++ "' to '" ++ output ++ "'",
    "  Records:  " ++ toString stats.records,
    "  Entries:  " ++ toString stats.compiled] ++
  stats.skipped.map (fun (kind, n) => "  Skipped:  " ++ toString n ++ " " ++ kind) ++
  ["  Size:     " ++ toString bytes ++ " bytes (" ++ fixed 1 bytes 1024 ++ " KB)"]

variable {m : Type → Type} [Monad m] [World m]

/-- Compiles a feed into a database file. -/
def compileFeed (input output : String) (verbose : Bool) : Task m Unit := do
  let start ← (World.clock : m Nat)
  let content ← readFile input
  let records ← match feedRecords? content with
    | some records => pure records
    | none => throw ("Invalid rule feed '" ++ input ++ "': ")
  let parsed ← (World.clock : m Nat)
  let compiled := compile records
  let built ← (World.clock : m Nat)
  if verbose then
    sayAll (compiled.issues.map fun i => "  skipped: " ++ i.message)
  let text := compiled.database.toValue.pretty
  let written ← (World.write output text : m _)
  check (written.mapError fun reason => "Failed to write '" ++ output ++ "': " ++ reason)
  let done ← (World.clock : m Nat)
  sayAll (compileLines input output text compiled)
  say ("  Time:     " ++ milliseconds 1 (done - start) ++ " (parse: " ++
    milliseconds 1 (parsed - start) ++ ", build: " ++ milliseconds 1 (built - parsed) ++ ")")

/-! ## Validating -/

/-- The stored entries whose selector cannot be read, with the errors. -/
def invalidEntries (d : Database) : List (Database.Stored × SelectorError) :=
  d.stored.filterMap fun s =>
    match parseSelector s.entry.selector with
    | .ok _ => none
    | .error e => some (s, e)

/-- Checks that every selector of a database can be read. -/
def validate (input : String) : Task m Unit := do
  let rules ← readDatabase input
  let invalid := invalidEntries rules
  sayAll (invalid.map fun (s, e) =>
    "  " ++ s.type.name ++ " " ++ s.domain ++ s.token ++ s.entry.selector ++ ": " ++ e.message)
  if invalid.isEmpty then
    say ("Database '" ++ input ++ "' is valid (" ++ toString rules.entryCount ++ " selectors)")
  else
    throw (toString invalid.length ++ " of " ++ toString rules.entryCount ++ " selectors in '" ++
      input ++ "' do not parse")

/-! ## Counting -/

/-- What is said about a bucket. -/
def bucketLines (type : RuleType) (bucket : DomainRules) : List String :=
  let count (m : SelectorsByDomain) : Nat := m.values.flatten.length
  let domains := (bucket.values.flatMap fun m => m.entries).length
  let entries := (bucket.values.flatMap fun m => m.values.flatten).length
  ("  " ++ padded 10 type.name ++ " " ++ toString domains ++ " domain patterns, " ++
    toString entries ++ " entries") ::
  bucket.entries.map fun (token, m) => "    " ++ padded 4 token ++ " " ++ toString (count m)

/-- Says what a database holds. -/
def info (input : String) : Task m Unit := do
  let rules ← readDatabase input
  sayAll [
    "Database: " ++ input,
    "  Name:        " ++ rules.name,
    "  Clean name:  " ++ rules.cleanName,
    "  Version:     " ++ rules.version,
    "  Entries:     " ++ toString rules.entryCount,
    ""]
  sayAll (rules.buckets.flatMap fun (type, bucket) => bucketLines type bucket)

/-! ## Running -/

/-- The line of a logged call. -/
def callLine : LoggedCall → String
  | .onScam c =>
    "  on_scam: " ++ c.url ++ " (" ++ c.subtype ++ ", rule " ++ c.rule ++ ")"
  | .navigate tab url => "  navigate: tab " ++ toString tab ++ " -> " ++ url
  | .recordAll _ _ hit _ => "  record_all: " ++ hit
  | .updateBadge tab => "  update_badge_count: tab " ++ toString tab

/-- The counts of a navigation. -/
def outcomeLines (url : String) (o : NavigationOutcome) : List String := [
  "Page: " ++ url,
  "  Selectors:   " ++ toString o.process.evaluated ++ " evaluated, " ++
    toString o.process.skipped ++ " skipped, " ++ toString o.process.matched ++ " matched",
  "  Failures:    " ++ toString o.process.failures.length,
  "  Hidden:      " ++ toString o.hidden,
  "  Candidates:  " ++ toString o.report.blocks.length,
  "  Excluded:    " ++ toString o.scan.excludedCount]

/-- The configuration of a run. -/
def readConfig (options : RunOptions) : Task m Config := do
  let config ← match options.config with
    | none => pure ({} : Config)
    | some path => do
      match Config.ofText? (← readFile path) with
      | some config => pure config
      | none => throw ("Invalid config '" ++ path ++ "': Invalid config JSON: ")
  return if options.aggressive then { config with aggressive := true } else config

/-- Adds the domains of a file to a table. -/
def readTable (table : String) (path : Option String) (host : MemoryHost) : Task m MemoryHost := do
  match path with
  | none => return host
  | some path => return host.addTable table (domainList (← readFile path))

/-- Runs a database on a saved page. -/
def run (options : RunOptions) : Task m Unit := do
  let rules ← readDatabase options.database
  let config ← readConfig options
  let host ← readTable config.tables.manual options.whitelist {}
  let host ← readTable config.tables.popular options.popular host
  let page := MemoryPage.ofText (← readFile options.html)
  let engine : Engine := { rules, config }
  let start ← (World.clock : m Nat)
  let after := engine.navigate options.url options.tab page host
  let done ← (World.clock : m Nat)
  sayAll (outcomeLines options.url after.outcome)
  say ("  Time:        " ++ milliseconds 2 (done - start))
  sayAll (after.outcome.process.failures.map fun f =>
    "  failed: " ++ f.type.name ++ " '" ++ f.selector ++ "': " ++ f.error.message)
  sayAll ["", "Report: " ++ after.outcome.report.toValue.pretty]
  sayAll (after.host.log.map callLine)

/-! ## Commands -/

/-- Carries out a command. -/
def Action.perform : Action → Task m Unit
  | .compile input output verbose => compileFeed input output verbose
  | .validate input => PageGuard.Command.validate input
  | .info input => PageGuard.Command.info input
  | .run options => PageGuard.Command.run options

/-- How a command line ends. -/
structure Ending where
  exitCode : Nat
  stdout : String
  /-- What goes to the error output. -/
  stderr : String
deriving DecidableEq, Inhabited

/-- Carries out a command line. -/
def runArguments (arguments : List String) : m Ending := do
  match Action.ofArguments arguments with
  | .error .wrong => return ⟨2, "", "error: wrong usage, see --help\n"⟩
  | .error (.help topic) =>
    return ⟨0, String.join (topic.helpLines.map (· ++ "\n")), ""⟩
  | .ok action =>
    let (result, stdout) ← (action.perform : Task m Unit).run.run ""
    match result with
    | .ok () => return ⟨0, stdout, ""⟩
    | .error e => return ⟨1, stdout, "Error: " ++ e ++ "\n"⟩

end PageGuard.Command
