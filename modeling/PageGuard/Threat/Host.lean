import PageGuard.Rules.Codec

/-!
# The protection host

Whitelists, protection toggles, metrics and the navigation of tabs belong to the surrounding
extension.  A host is a state machine: every call gives an answer and the host after it.  Questions
always get an answer, and the calls with an effect may fail.
-/

namespace PageGuard

open Json

/-- What is recorded. -/
inductive RecordType where
  | scam
deriving DecidableEq, Inhabited

/-- The name of a kind of record. -/
def RecordType.name : RecordType → String
  | .scam => "SCAM"

/-- The calls with an effect. -/
inductive HostEffect where
  | recordAll
  | updateBadge
  | onScam
  | navigate
deriving DecidableEq, Inhabited

namespace HostEffect

/-- The name of a call. -/
def name : HostEffect → String
  | recordAll => "record_all"
  | updateBadge => "update_badge_count"
  | onScam => "on_scam"
  | navigate => "navigate"

/-- All calls with an effect. -/
def all : List HostEffect := [recordAll, updateBadge, onScam, navigate]

/-- The call with this name. -/
def ofName? (s : String) : Option HostEffect := all.find? fun e => e.name = s

end HostEffect

/-- A call that failed. -/
structure HostError where
  call : HostEffect
  reason : String
deriving DecidableEq, Inhabited

/-- The text of an error. -/
def HostError.message (e : HostError) : String :=
  "Host call '" ++ e.call.name ++ "' failed: " ++ e.reason

/-- What the host is told of a hit, to decide where the tab goes. -/
structure ScamContext where
  tab : Int
  tabUrl : String
  /-- The domain of the page. -/
  url : String
  type : RuleType
  subtype : String
  rule : String
  blockMessage : String
  silent : Bool
  /-- The databases that found the hit, named for scam hits only. -/
  databases : Option (List String)
deriving DecidableEq, Inhabited

/-- The value of what the host is told. -/
def ScamContext.toValue (c : ScamContext) : Value :=
  .object ([
    ("tabId", .number (.int c.tab)),
    ("tabURL", .string c.tabUrl),
    ("url", .string c.url),
    ("type", c.type.toValue),
    ("subtype", .string c.subtype),
    ("rule", .string c.rule),
    ("blockMessage", .string c.blockMessage),
    ("isSilent", .bool c.silent)] ++
  (c.databases.map fun names => ("selectedCheckedDbs", Value.ofStrings names)).toList)

/-- A call of a host that may fail. -/
abbrev HostCall (H α : Type) := ExceptT HostError (StateM H) α

/-- A type of hosts. -/
class Host (H : Type) where
  /-- Whether a protection feature is on for a tab. -/
  protectionActive (feature url : String) (tab : Int) : StateM H Bool
  /-- Whether a table lists a domain. -/
  isListed (domain table category : String) : StateM H Bool
  /-- Whether a pattern exempts a domain. -/
  isExempt (domain : String) : StateM H Bool
  /-- Records a hit. -/
  recordAll (type : RecordType) (tab : Int) (source hit : String) (silent : Bool) :
    HostCall H Unit
  /-- Updates the count that a tab shows. -/
  updateBadge (tab : Int) : HostCall H Unit
  /-- Decides where a tab goes. -/
  onScam (context : ScamContext) : HostCall H String
  /-- Sends a tab to a URL. -/
  navigate (tab : Int) (url : String) : HostCall H Unit

end PageGuard
