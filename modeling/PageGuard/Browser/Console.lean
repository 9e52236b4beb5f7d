import PageGuard.Text.Ascii

/-!
# The console logger

Records go to the console of the browser unless their level is beyond the one that was set.  The
logger is installed once; installing it again only sets the level, and says so at the level before.
-/

namespace PageGuard.Browser

/-- The level of a record. -/
inductive LogLevel where
  | error
  | warn
  | info
  | debug
  | trace
deriving DecidableEq, Inhabited

namespace LogLevel

/-- The name of a level. -/
def name : LogLevel → String
  | error => "error"
  | warn => "warn"
  | info => "info"
  | debug => "debug"
  | trace => "trace"

/-- All levels, the gravest first. -/
def all : List LogLevel := [error, warn, info, debug, trace]

/-- How far a level is from the gravest one, counted from one. -/
def rank : LogLevel → Nat
  | error => 1
  | warn => 2
  | info => 3
  | debug => 4
  | trace => 5

/-- The level of a name, up to the case of letters. -/
def ofName? (s : String) : Option LogLevel := all.find? fun l => l.name = Text.lowerAscii s

/-- The method of the console that writes a record. -/
def consoleMethod : LogLevel → String
  | trace => debug.name
  | l => l.name

end LogLevel

/-- The limit that a text names: a level, or nothing for no records at all. -/
def limit? (s : String) : Option (Option LogLevel) :=
  if Text.lowerAscii s = "off" then some none else (LogLevel.ofName? s).map some

/-- The limit that a text asks for; without a known name it is that of warnings. -/
def requestedLimit (s : Option String) : Option LogLevel :=
  (s.bind limit?).getD (some .warn)

/-- The console with its logger. -/
structure Console where
  installed : Bool := false
  /-- The last level that is written. -/
  limit : Option LogLevel := none
  /-- What was written: the method and the text. -/
  lines : List (String × String) := []
deriving DecidableEq, Inhabited

namespace Console

/-- Whether records of a level are written. -/
def accepts (c : Console) (l : LogLevel) : Bool :=
  match c.limit with
  | some limit => l.rank ≤ limit.rank
  | none => false

/-- Writes a record. -/
def log (c : Console) (level : LogLevel) (target message : String) : Console :=
  if c.accepts level then
    let line := "[heurshield] " ++ target ++ ": " ++ message
    { c with lines := c.lines ++ [(level.consoleMethod, line)] }
  else c

/-- Installs the logger, or only sets its limit. -/
def install (c : Console) (limit : Option LogLevel) : Console :=
  let c :=
    if c.installed then c.log .debug "hs_wasm::logger" "Console logger already installed" else c
  { c with installed := true, limit }

end Console

end PageGuard.Browser
