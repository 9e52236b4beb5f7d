import PageGuard.Navigation.Engine
import Mathlib.Data.List.Basic
import Mathlib.Tactic.SplitIfs

/-!
# The entries a navigation looks at

The entries that apply to a URL are collected bucket by bucket through a cache of domain patterns.
Neither the cache nor the nesting of the database counts: they are the stored entries whose type is
evaluated, whose token is a separator and whose domain pattern applies, in database order.

* `Database.applying`: these entries as one filter.
* `applicable_fst`: they are what a navigation collects, whatever was cached before.
* `navigate_congr`: a navigation sees nothing of a database but these entries.
-/

namespace PageGuard

/-- Whether a stored entry is evaluated on a page with this URL. -/
def Database.Stored.appliesTo (url : String) (s : Database.Stored) : Bool :=
  s.type ≠ .whitelist && (SelectorKind.ofToken? s.token).isSome && domainApplies s.domain url

/-- The entries that are evaluated on a page with this URL, in database order. -/
def Database.applying (d : Database) (url : String) : List (RuleType × Entry) :=
  (d.stored.filter fun s => s.appliesTo url).map fun s => (s.type, s.entry)

/-! ## Collecting through the cache -/

theorem applicableEntries_fst (url : String) :
    ∀ (l : List (String × List Entry)) (c : PatternCache),
      (applicableEntries url l c).1 =
        l.flatMap fun p => if domainApplies p.1 url then p.2 else []
  | [], _ => rfl
  | (pattern, es) :: rest, c => by
    rw [applicableEntries, List.flatMap_cons]
    by_cases hes : es.isEmpty = true
    · rw [if_pos hes, applicableEntries_fst url rest c, List.isEmpty_iff.1 hes]
      split_ifs <;> rfl
    · rw [if_neg hes]
      dsimp only
      rw [applicableEntries_fst url rest, PatternCache.applies_fst]
      split_ifs <;> rfl

theorem applicableInBucket_fst (url : String) :
    ∀ (l : List (String × SelectorsByDomain)) (c : PatternCache),
      (applicableInBucket url l c).1 =
        l.flatMap fun p => if (SelectorKind.ofToken? p.1).isSome then
          p.2.entries.flatMap fun q => if domainApplies q.1 url then q.2 else [] else []
  | [], _ => rfl
  | (token, byDomain) :: rest, c => by
    rw [applicableInBucket, List.flatMap_cons]
    cases htoken : SelectorKind.ofToken? token with
    | none =>
      rw [Option.isNone_none, if_pos rfl, applicableInBucket_fst url rest c]
      rfl
    | some k =>
      rw [Option.isNone_some, if_neg Bool.false_ne_true]
      dsimp only
      rw [applicableInBucket_fst url rest, applicableEntries_fst]
      rfl

/-- The entries of one bucket as a filter of its stored entries. -/
theorem filter_storedIn (url : String) {t : RuleType} (ht : t ≠ .whitelist)
    (rules : DomainRules) :
    ((Database.storedIn t rules).filter fun s => s.appliesTo url).map
        (fun s => (s.type, s.entry)) =
      (rules.entries.flatMap fun p => if (SelectorKind.ofToken? p.1).isSome then
        p.2.entries.flatMap fun q => if domainApplies q.1 url then q.2 else [] else []).map
          fun e => (t, e) := by
  have hentries (token domain : String) (es : List Entry) :
      ((es.map fun e => (⟨t, token, domain, e⟩ : Database.Stored)).filter
        fun s => s.appliesTo url).map (fun s => (s.type, s.entry)) =
          (if (SelectorKind.ofToken? token).isSome then
            if domainApplies domain url then es else [] else []).map fun e => (t, e) := by
    induction es with
    | nil => split_ifs <;> rfl
    | cons e es ih =>
      rw [List.map_cons, List.filter_cons]
      by_cases htoken : (SelectorKind.ofToken? token).isSome = true <;>
        by_cases hdomain : domainApplies domain url = true <;>
          simp_all [Database.Stored.appliesTo]
  simp only [Database.storedIn, List.filter_flatMap, List.map_flatMap, hentries]
  refine List.flatMap_congr fun p _ => ?_
  split_ifs
  · simp only [List.map_flatMap]
  · exact List.flatMap_eq_nil_iff.2 fun q _ => rfl

theorem applicableInBuckets_fst (url : String) :
    ∀ (l : List (RuleType × DomainRules)) (c : PatternCache),
      (applicableInBuckets url l c).1 =
        ((l.flatMap fun p => Database.storedIn p.1 p.2).filter fun s => s.appliesTo url).map
          fun s => (s.type, s.entry)
  | [], _ => rfl
  | (t, rules) :: rest, c => by
    rw [applicableInBuckets, List.flatMap_cons, List.filter_append, List.map_append]
    by_cases ht : t = .whitelist
    · subst ht
      have hnone : (Database.storedIn .whitelist rules).filter (fun s => s.appliesTo url) = [] := by
        refine List.filter_eq_nil_iff.2 fun s hs => ?_
        obtain ⟨p, -, hs⟩ := List.mem_flatMap.1 hs
        obtain ⟨q, -, hs⟩ := List.mem_flatMap.1 hs
        obtain ⟨e, -, rfl⟩ := List.mem_map.1 hs
        exact Bool.false_ne_true
      rw [if_pos rfl, applicableInBuckets_fst url rest c, hnone]
      rfl
    · rw [if_neg ht]
      dsimp only
      rw [applicableInBuckets_fst url rest, applicableInBucket_fst, filter_storedIn url ht]

/-- **A navigation collects the entries that apply, whatever was cached before.** -/
theorem applicable_fst (d : Database) (url : String) (c : PatternCache) :
    (applicable d url c).1 = d.applying url :=
  applicableInBuckets_fst url d.buckets c

/-! ## What a navigation sees of a database -/

namespace Engine

variable {D N H : Type} [Document D N] [DecidableEq N] [Host H]

/-- **Databases with the same entries that apply to a URL give the same navigation**: the same
reports, the same document and the same host after it. -/
theorem navigate_congr {a b : Engine} (hconfig : a.config = b.config) {url : String}
    (h : a.rules.applying url = b.rules.applying url) (tab : Int) (d : D) (host : H) :
    (a.navigate url tab d host).outcome = (b.navigate url tab d host).outcome ∧
      (a.navigate url tab d host).document = (b.navigate url tab d host).document ∧
      (a.navigate url tab d host).host = (b.navigate url tab d host).host := by
  have hentries : (applicable a.rules url a.patterns).1 = (applicable b.rules url b.patterns).1 := by
    rw [applicable_fst, applicable_fst, h]
  simp only [navigate, process, PageGuard.process, Engine.scan, hentries, hconfig]
  exact ⟨rfl, rfl, rfl⟩

end Engine

end PageGuard
