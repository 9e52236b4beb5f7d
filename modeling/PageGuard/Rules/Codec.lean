import PageGuard.Json.Field
import PageGuard.Json.Writer
import PageGuard.Rules.Basic

/-!
# Rules and databases in JSON

Each type has a value that writes it and a function that reads it back.
-/

namespace PageGuard

open Json

/-- The type that a value names: its name, or an object whose one member has this name and a null
value. -/
def RuleType.ofValue? : Value → Option RuleType
  | .string s => RuleType.ofName? s
  | .object [(k, .null)] => RuleType.ofName? k
  | _ => none

/-- The value of a type. -/
def RuleType.toValue (t : RuleType) : Value := .string t.name

/-- The value of a rule of the feed. -/
def Rule.toValue (r : Rule) : Value :=
  objectOf [
    ("r", some (.string r.text)),
    ("s", some (Value.ofOption (r.silent.map .bool))),
    ("t", some r.type.toValue),
    ("a", r.aggressive.map .bool),
    ("id", some (.string r.id))]

namespace Entry

/-- The names of the fields of an entry. -/
def fieldNames : List String := ["selector", "isSilent", "isAggressiveMode", "id"]

/-- The value of an entry; absent fields are left out. -/
def toValue (e : Entry) : Value :=
  objectOf [
    ("selector", some (.string e.selector)),
    ("isSilent", e.silent.map .bool),
    ("isAggressiveMode", e.aggressive.map .bool),
    ("id", e.id.map .string)]

/-- The entry that a value writes. -/
def ofValue? (v : Value) : Option Entry := do
  match ← fieldValues? fieldNames v with
  | [selector, silent, aggressive, id] =>
    return {
      selector := ← required? Value.string? selector
      silent := ← withDefault? none (nullable? Value.bool?) silent
      aggressive := ← withDefault? none (nullable? Value.bool?) aggressive
      id := ← withDefault? none (nullable? Value.string?) id }
  | _ => none

end Entry

/-- The value of entries by domain pattern. -/
def SelectorsByDomain.toValue (m : SelectorsByDomain) : Value :=
  .object (m.entries.map fun (k, es) => (k, .array (es.map Entry.toValue)))

/-- The entries by domain pattern that a value writes. -/
def SelectorsByDomain.ofValue? (v : Value) : Option SelectorsByDomain :=
  (membersOf? (listOf? Entry.ofValue?) v).map OrderedMap.ofList

/-- The value of the rules of a type. -/
def DomainRules.toValue (m : DomainRules) : Value :=
  .object (m.entries.map fun (k, byDomain) => (k, SelectorsByDomain.toValue byDomain))

/-- The rules of a type that a value writes. -/
def DomainRules.ofValue? (v : Value) : Option DomainRules :=
  (membersOf? SelectorsByDomain.ofValue? v).map OrderedMap.ofList

namespace Database

/-- The names of the fields of a database. -/
def fieldNames : List String :=
  ["adserver", "whitelist", "scam", "phishing", "action", "title", "description", "cleanName",
    "version", "name"]

/-- The value of a database. -/
def toValue (d : Database) : Value :=
  .object [
    ("adserver", DomainRules.toValue d.adserver),
    ("whitelist", DomainRules.toValue d.whitelist),
    ("scam", DomainRules.toValue d.scam),
    ("phishing", DomainRules.toValue d.phishing),
    ("action", .array d.action),
    ("title", .array d.title),
    ("description", .array d.description),
    ("cleanName", .string d.cleanName),
    ("version", .string d.version),
    ("name", .string d.name)]

/-- The database that a value writes; absent fields have the values of the empty database. -/
def ofValue? (v : Value) : Option Database := do
  match ← fieldValues? fieldNames v with
  | [adserver, whitelist, scam, phishing, action, title, description, cleanName, version, name] =>
    let blank : Database := {}
    return {
      adserver := ← withDefault? .empty DomainRules.ofValue? adserver
      whitelist := ← withDefault? .empty DomainRules.ofValue? whitelist
      scam := ← withDefault? .empty DomainRules.ofValue? scam
      phishing := ← withDefault? .empty DomainRules.ofValue? phishing
      action := ← withDefault? [] Value.items? action
      title := ← withDefault? [] Value.items? title
      description := ← withDefault? [] Value.items? description
      cleanName := ← withDefault? blank.cleanName Value.string? cleanName
      version := ← withDefault? blank.version Value.string? version
      name := ← withDefault? blank.name Value.string? name }
  | _ => none

/-- The text of a database. -/
def toText (d : Database) : String := d.toValue.compact

end Database

end PageGuard
