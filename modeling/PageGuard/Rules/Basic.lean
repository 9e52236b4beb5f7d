import PageGuard.Json.Basic

/-!
# Rules

A rule names a type, a domain pattern, a separator and a selector.  A database holds the
selectors of its rules by type, separator token and domain pattern, in the order in which each of
them was first used.
-/

namespace PageGuard

/-- What a rule is for. -/
inductive RuleType where
  /-- Matched elements are hidden. -/
  | adserver
  /-- Matched pages are blocked as scams. -/
  | scam
  /-- Matched pages are blocked as phishing. -/
  | phishing
  /-- Whitelist entries, which are kept and never evaluated. -/
  | whitelist
deriving DecidableEq, Inhabited

namespace RuleType

/-- The name of a type in JSON and in messages. -/
def name : RuleType → String
  | .adserver => "adserver"
  | .scam => "scam"
  | .phishing => "phishing"
  | .whitelist => "whitelist"

/-- All types in the order in which a database is processed. -/
def all : List RuleType := [.adserver, .scam, .phishing, .whitelist]

/-- The type of this name. -/
def ofName? (s : String) : Option RuleType := all.find? fun t => t.name = s

/-- The type of this name, if rules of the feed may have it. -/
def compilable? (s : String) : Option RuleType := (ofName? s).filter (· ≠ .whitelist)

/-- Scam and phishing hits block the page instead of hiding elements. -/
def isPageBlock : RuleType → Bool
  | .scam | .phishing => true
  | _ => false

end RuleType

/-- The separator between the domain pattern and the selector of a rule. -/
inductive SelectorKind where
  /-- Simple hiding. -/
  | hide
  /-- Extended, with procedural operators. -/
  | extended
deriving DecidableEq, Inhabited

namespace SelectorKind

/-- The text of a separator. -/
def token : SelectorKind → String
  | .hide => "##"
  | .extended => "#?#"

/-- The separator of this text. -/
def ofToken? (s : String) : Option SelectorKind :=
  [hide, extended].find? fun k => k.token = s

end SelectorKind

/-- A rule of the feed. -/
structure Rule where
  /-- Domain pattern, separator and selector. -/
  text : String
  silent : Option Bool
  type : RuleType
  aggressive : Option Bool
  id : String
deriving DecidableEq, Inhabited

/-- A selector stored in a database. -/
structure Entry where
  selector : String
  silent : Option Bool
  aggressive : Option Bool
  id : Option String
deriving DecidableEq, Inhabited

/-- An entry that is a selector and nothing else. -/
def Entry.ofSelector (selector : String) : Entry := ⟨selector, none, none, none⟩

/-! ## Ordered maps -/

/-- A map from strings that keeps its keys in the order of their insertion. -/
structure OrderedMap (α : Type) where
  entries : List (String × α)
  nodup : (entries.map Prod.fst).Nodup
deriving DecidableEq

namespace OrderedMap

variable {α : Type}

/-- The map without keys. -/
def empty : OrderedMap α := ⟨[], .nil⟩

instance : Inhabited (OrderedMap α) := ⟨empty⟩

/-- The keys, in order. -/
def keys (m : OrderedMap α) : List String := m.entries.map Prod.fst

/-- The values, in the order of their keys. -/
def values (m : OrderedMap α) : List α := m.entries.map Prod.snd

/-- Whether the map has no key. -/
def isEmpty (m : OrderedMap α) : Bool := m.entries.isEmpty

/-- The value of a key among entries. -/
def find? (key : String) : List (String × α) → Option α
  | [] => none
  | (k, v) :: rest => if k = key then some v else find? key rest

/-- The value of a key. -/
def get? (m : OrderedMap α) (key : String) : Option α := find? key m.entries

/-- Sets the value of a key to `f` of its value, or of `fallback` for a new key, which goes to the
end. -/
def upsert (key : String) (fallback : α) (f : α → α) : List (String × α) → List (String × α)
  | [] => [(key, f fallback)]
  | (k, v) :: rest =>
    if k = key then (k, f v) :: rest else (k, v) :: upsert key fallback f rest

theorem mem_keys_upsert {key : String} {fallback : α} {f : α → α} {k : String} :
    ∀ {l : List (String × α)},
      k ∈ (upsert key fallback f l).map Prod.fst ↔ k = key ∨ k ∈ l.map Prod.fst
  | [] => by simp [upsert]
  | (k', v) :: rest => by
    by_cases h : k' = key
    · subst h; simp [upsert]
    · have ih : k ∈ (upsert key fallback f rest).map Prod.fst ↔
          k = key ∨ k ∈ rest.map Prod.fst := mem_keys_upsert
      simp only [upsert, if_neg h, List.map_cons, List.mem_cons, ih]
      exact or_left_comm

theorem nodup_upsert {key : String} {fallback : α} {f : α → α} :
    ∀ {l : List (String × α)}, (l.map Prod.fst).Nodup →
      ((upsert key fallback f l).map Prod.fst).Nodup
  | [], _ => by simp [upsert]
  | (k', v) :: rest, h => by
    rw [List.map_cons, List.nodup_cons] at h
    by_cases hk : k' = key
    · simpa [upsert, hk] using h
    · simp only [upsert, if_neg hk, List.map_cons, List.nodup_cons]
      refine ⟨fun hm => ?_, nodup_upsert h.2⟩
      rcases mem_keys_upsert.1 hm with rfl | hm
      · exact hk rfl
      · exact h.1 hm

/-- The map with the value of a key changed by `f`; a new key starts from `fallback` at the end. -/
def alter (m : OrderedMap α) (key : String) (fallback : α) (f : α → α) : OrderedMap α :=
  ⟨upsert key fallback f m.entries, nodup_upsert m.nodup⟩

/-- The map with a key set; the key keeps its place if it has one. -/
def insert (m : OrderedMap α) (key : String) (value : α) : OrderedMap α :=
  m.alter key value fun _ => value

/-- The map that a list of pairs gives, one after the other. -/
def ofList (l : List (String × α)) : OrderedMap α :=
  l.foldl (fun m p => m.insert p.1 p.2) empty

/-- Equality of contents, whatever the order of the keys. -/
def sameContent (same : α → α → Bool) (m n : OrderedMap α) : Bool :=
  m.entries.length == n.entries.length &&
    m.entries.all fun (k, v) => match n.get? k with
      | some w => same v w
      | none => false

end OrderedMap

/-! ## Databases -/

/-- Entries by domain pattern. -/
abbrev SelectorsByDomain := OrderedMap (List Entry)

/-- Entries by separator token and domain pattern.  Tokens stay texts, so that a database with
separators from newer feeds is still read. -/
abbrev DomainRules := OrderedMap SelectorsByDomain

/-- A compiled database. -/
structure Database where
  adserver : DomainRules := .empty
  whitelist : DomainRules := .empty
  scam : DomainRules := .empty
  phishing : DomainRules := .empty
  action : List Json.Value := []
  title : List Json.Value := []
  description : List Json.Value := []
  cleanName : String := "heuristics"
  version : String := "3.0.0"
  name : String := "mbgc.db.heuristics.json.2"
deriving DecidableEq, Inhabited

namespace Database

/-- The rules of a type. -/
def bucket (d : Database) : RuleType → DomainRules
  | .adserver => d.adserver
  | .scam => d.scam
  | .phishing => d.phishing
  | .whitelist => d.whitelist

/-- The database with the rules of a type changed. -/
def mapBucket (d : Database) (t : RuleType) (f : DomainRules → DomainRules) : Database :=
  match t with
  | .adserver => { d with adserver := f d.adserver }
  | .scam => { d with scam := f d.scam }
  | .phishing => { d with phishing := f d.phishing }
  | .whitelist => { d with whitelist := f d.whitelist }

/-- The rules of all types, in the order in which they are processed. -/
def buckets (d : Database) : List (RuleType × DomainRules) :=
  RuleType.all.map fun t => (t, d.bucket t)

/-- An entry with the keys under which it is stored. -/
structure Stored where
  type : RuleType
  token : String
  domain : String
  entry : Entry
deriving DecidableEq

/-- The stored entries of one bucket, in order. -/
def storedIn (t : RuleType) (rules : DomainRules) : List Stored :=
  rules.entries.flatMap fun (token, byDomain) =>
    byDomain.entries.flatMap fun (domain, es) => es.map fun e => ⟨t, token, domain, e⟩

/-- All stored entries, in the order in which they are processed. -/
def stored (d : Database) : List Stored :=
  d.buckets.flatMap fun (t, rules) => storedIn t rules

/-- The number of stored entries. -/
def entryCount (d : Database) : Nat := d.stored.length

/-- Adds an entry at the end of its list. -/
def add (d : Database) (s : Stored) : Database :=
  d.mapBucket s.type fun rules =>
    rules.alter s.token .empty fun byDomain =>
      byDomain.alter s.domain [] fun es => es ++ [s.entry]

/-- Equality of contents: lists in order, maps whatever the order of their keys. -/
def sameContent (a b : Database) : Bool :=
  (RuleType.all.all fun t =>
    (a.bucket t).sameContent (fun x y => x.sameContent (fun u v => u == v) y) (b.bucket t)) &&
  a.action == b.action && a.title == b.title && a.description == b.description &&
  a.cleanName == b.cleanName && a.version == b.version && a.name == b.name

end Database

end PageGuard
