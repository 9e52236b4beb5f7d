import PageGuard.Json.Field
import PageGuard.Json.Reader

/-!
# Engine configuration

Every field has a default, so that a configuration text names only what it changes.
-/

namespace PageGuard

open Json

/-- Names of the lookup tables of the host. -/
structure TableNames where
  /-- Manually curated scam whitelist. -/
  manual : String := "whitelist_scams_manual"
  /-- Popularity list, ignored in aggressive mode. -/
  popular : String := "top1m"
  /-- The rule database itself, named to the host on scam hits. -/
  heuristics : String := "heuristics"
deriving DecidableEq, Inhabited

/-- Configuration of the engine. -/
structure Config where
  /-- Global aggressive mode; the flag of a rule also turns it on. -/
  aggressive : Bool := false
  /-- Protection feature that is checked before acting on a candidate. -/
  feature : String := "EXCLUSION_ADS"
  /-- Start of the rule identifier that is reported to the host. -/
  threatPrefix : String := "heuristic_"
  /-- Whitelist category of table lookups. -/
  category : String := "Scams"
  tables : TableNames := {}
deriving DecidableEq, Inhabited

namespace TableNames

/-- The names of the fields of the table names. -/
def fieldNames : List String := ["whitelist_scams_manual", "top1m", "heuristics"]

/-- The table names that a value writes. -/
def ofValue? (v : Value) : Option TableNames := do
  match ← fieldValues? fieldNames v with
  | [manual, popular, heuristics] =>
    let blank : TableNames := {}
    return {
      manual := ← withDefault? blank.manual Value.string? manual
      popular := ← withDefault? blank.popular Value.string? popular
      heuristics := ← withDefault? blank.heuristics Value.string? heuristics }
  | _ => none

/-- The value of table names. -/
def toValue (t : TableNames) : Value :=
  .object [
    ("whitelist_scams_manual", .string t.manual),
    ("top1m", .string t.popular),
    ("heuristics", .string t.heuristics)]

end TableNames

namespace Config

/-- The names of the fields of a configuration. -/
def fieldNames : List String :=
  ["aggressive_mode", "protection_feature", "threat_prefix", "whitelist_category", "databases"]

/-- The configuration that a value writes. -/
def ofValue? (v : Value) : Option Config := do
  match ← fieldValues? fieldNames v with
  | [aggressive, feature, threatPrefix, category, tables] =>
    let blank : Config := {}
    return {
      aggressive := ← withDefault? blank.aggressive Value.bool? aggressive
      feature := ← withDefault? blank.feature Value.string? feature
      threatPrefix := ← withDefault? blank.threatPrefix Value.string? threatPrefix
      category := ← withDefault? blank.category Value.string? category
      tables := ← withDefault? {} TableNames.ofValue? tables }
  | _ => none

/-- The value of a configuration. -/
def toValue (c : Config) : Value :=
  .object [
    ("aggressive_mode", .bool c.aggressive),
    ("protection_feature", .string c.feature),
    ("threat_prefix", .string c.threatPrefix),
    ("whitelist_category", .string c.category),
    ("databases", c.tables.toValue)]

/-- A configuration text without the members that it may not mean. -/
def knownMembers : Tree → Tree :=
  let tables := Tree.restrict (TableNames.fieldNames.map fun n => (n, id))
  Tree.restrict (fieldNames.map fun n => (n, if n = "databases" then tables else id))

/-- The configuration that a text writes. -/
def ofText? (text : String) : Option Config := do
  let t ← Tree.ofText? text
  let v ← (knownMembers t).value?
  ofValue? v

end Config

end PageGuard
