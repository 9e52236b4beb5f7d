import PageGuard.Rules.Codec
import PageGuard.Rules.Split

/-!
# Compiling the rule feed

Records of the feed are checked, cut at their separators and stored in a database.  A record that
fails adds an issue and nothing else; issues of the check come before issues of the cut.

`decompile` writes a database back as rules, and `Compiled.stats` counts what became of the
records.
-/

namespace PageGuard

open Json

/-! ## Records -/

/-- The issue of a record that is no rule. -/
def invalidRecord (record : Value) (why : String) : RuleIssue :=
  .invalidRecord (why ++ ": " ++ record.compact)

/-- The silent flag of a record: a boolean, or null, which is also the value of an absent one. -/
def silentFlag? : Option Value → Option (Option Bool)
  | none => some none
  | some .null => some none
  | some (.bool b) => some (some b)
  | some _ => none

/-- The id of a record: a string, the text of a number, or the empty string. -/
def recordId : Option Value → String
  | some (.string s) => s
  | some (.number n) => .ofList n.render
  | _ => ""

/-- The rule text of a record. -/
def recordText? : Option Value → Option String
  | some (.string s) => if s.isEmpty then none else some s
  | _ => none

/-- The rule that a record of the feed states. -/
def parseRecord (record : Value) : Except RuleIssue Rule :=
  let invalid := invalidRecord record
  match record with
  | .object members =>
    match recordText? (lookup? "r" members) with
    | none => .error (invalid "'r' must be a non-empty string")
    | some text =>
      match silentFlag? (lookup? "s" members) with
      | none => .error (invalid "'s' must be a boolean or null")
      | some silent =>
        match ((lookup? "t" members).bind Value.string?).bind RuleType.compilable? with
        | none => .error (invalid "'t' must be adserver, scam or phishing")
        | some type => .ok {
            text, silent, type
            aggressive := (lookup? "a" members).bind Value.bool?
            id := recordId (lookup? "id" members) }
  | _ => .error (invalid "not an object")

/-! ## Compiling -/

/-- A database and the issues of the records that were dropped. -/
structure Compiled where
  database : Database
  issues : List RuleIssue
deriving DecidableEq, Inhabited

/-- The entry of a rule with this selector.  Hiding rules keep the selector only. -/
def Rule.entry (r : Rule) (selector : String) : Entry :=
  match r.type with
  | .adserver => .ofSelector selector
  | _ => {
      selector
      silent := r.silent
      aggressive := some (r.aggressive.getD false)
      id := some r.id }

/-- A rule as it is stored. -/
def Rule.stored (r : Rule) : Except RuleIssue Database.Stored := do
  let parts ← splitRule r.text
  return {
    type := r.type
    token := parts.kind.token
    domain := parts.domain
    entry := r.entry parts.selector }

/-- Adds a rule to a database, or an issue to the issues. -/
def Compiled.add (c : Compiled) (r : Rule) : Compiled :=
  match r.stored with
  | .ok s => { c with database := c.database.add s }
  | .error issue => { c with issues := c.issues ++ [issue] }

/-- The database of checked rules. -/
def buildDatabase (rules : List Rule) : Compiled :=
  rules.foldl Compiled.add ⟨{}, []⟩

/-- The successes of a list of results, in order. -/
def successes {ε α : Type} : List (Except ε α) → List α
  | [] => []
  | .ok a :: rest => a :: successes rest
  | .error _ :: rest => successes rest

/-- The failures of a list of results, in order. -/
def failures {ε α : Type} : List (Except ε α) → List ε
  | [] => []
  | .ok _ :: rest => failures rest
  | .error e :: rest => e :: failures rest

/-- The database of records of the feed. -/
def compile (records : List Value) : Compiled :=
  let results := records.map parseRecord
  let built := buildDatabase (successes results)
  { built with issues := failures results ++ built.issues }

/-! ## Counts -/

/-- What became of the records. -/
structure CompileStats where
  records : Nat
  compiled : Nat
  /-- The dropped records by kind of issue, sorted by its name. -/
  skipped : List (String × Nat)
deriving DecidableEq

/-- Counts one more issue of a kind.  The counts are sorted by the names of the kinds. -/
def countKind (kind : String) : List (String × Nat) → List (String × Nat)
  | [] => [(kind, 1)]
  | (k, n) :: rest =>
    if kind < k then (kind, 1) :: (k, n) :: rest
    else if kind = k then (k, n + 1) :: rest
    else (k, n) :: countKind kind rest

/-- The counts of a compilation. -/
def Compiled.stats (c : Compiled) : CompileStats :=
  let compiled := c.database.entryCount
  { records := compiled + c.issues.length
    compiled
    skipped := c.issues.foldl (fun counts issue => countKind issue.kind counts) [] }

/-! ## Writing rules back -/

/-- The rule that a stored entry comes from; absent for whitelist entries and unknown
separators. -/
def Database.Stored.rule? (s : Database.Stored) : Option Rule :=
  if s.type = .whitelist then none
  else (SelectorKind.ofToken? s.token).map fun kind => {
    text := (if s.domain = "*" then "" else s.domain) ++ kind.token ++ s.entry.selector
    silent := s.entry.silent
    type := s.type
    aggressive := s.entry.aggressive
    id := s.entry.id.getD "" }

/-- The rules of a database, in the order of its entries. -/
def decompile (d : Database) : List Rule := d.stored.filterMap Database.Stored.rule?

end PageGuard
