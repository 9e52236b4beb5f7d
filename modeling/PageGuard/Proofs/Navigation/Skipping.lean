import PageGuard.Proofs.Navigation.Applicable
import PageGuard.Proofs.Rules.KeyOrder
import Mathlib.Algebra.GroupWithZero.Nat

/-!
# Selectors that are skipped

Processing a page skips an entry exactly when the entry applies to the URL and its selector cannot
be read.  What the entries before it have done to the page does not count, so the number of skipped
selectors can be told from the database and the URL.

* `Database.mem_stored_iff`: the stored entries are those found by token and domain pattern.
* `Database.entryCount_eq`: there are as many as all lists of the four buckets have together.
* `Entry.Readable`: entries whose selector can be read.
* `process_skipped`: the selectors that processing a page skips.
-/

namespace PageGuard

/-! ## Stored entries -/

namespace Database

/-- **The stored entries are those that are found by type, token and domain pattern.** -/
theorem mem_stored_iff {d : Database} {s : Stored} :
    s ∈ d.stored ↔ ∃ byDomain es, (d.bucket s.type).get? s.token = some byDomain ∧
      byDomain.get? s.domain = some es ∧ s.entry ∈ es := by
  simp only [stored, buckets, storedIn, List.mem_flatMap, List.mem_map, OrderedMap.get?_eq_some_iff]
  constructor
  · rintro ⟨_, ⟨t, -, rfl⟩, ⟨token, byDomain⟩, htoken, ⟨domain, es⟩, hdomain, e, he, rfl⟩
    exact ⟨byDomain, es, htoken, hdomain, he⟩
  · rintro ⟨byDomain, es, htoken, hdomain, he⟩
    have hall : s.type ∈ RuleType.all := by cases s.type <;> decide
    exact ⟨_, ⟨s.type, hall, rfl⟩, _, htoken, _, hdomain, s.entry, he, rfl⟩

/-- The number of entries is that of all lists together. -/
theorem entryCount_eq (d : Database) :
    d.entryCount = (RuleType.all.map fun t =>
      ((d.bucket t).values.map fun byDomain => (byDomain.values.map List.length).sum).sum).sum := by
  simp only [entryCount, stored, buckets, storedIn, OrderedMap.values, List.length_flatMap,
    List.map_map, List.length_map, Function.comp_def]

end Database

/-! ## Skipping -/

/-- The selector of an entry can be read. -/
def Entry.Readable (e : Entry) : Prop := ∃ chain, parseSelector e.selector = .ok chain

instance (e : Entry) : Decidable e.Readable :=
  match h : parseSelector e.selector with
  | .ok chain => isTrue ⟨chain, h⟩
  | .error _ => isFalse fun ⟨_, hchain⟩ => by rw [h] at hchain; cases hchain

/-- Whether a trial found its selector unreadable. -/
def Trial.isSkipped {N : Type} : Trial N → Bool
  | .skipped => true
  | .evaluated .. => false

section Skipping

variable {D N : Type} [Document D N] [DecidableEq N]

/-- An entry is skipped exactly when its selector cannot be read, whatever the page is. -/
theorem isSkipped_tryEntry (t : RuleType) (e : Entry) (d : D) :
    (tryEntry t e d).1.isSkipped = decide (¬ e.Readable) := by
  rw [tryEntry]
  cases hparse : parseSelector e.selector with
  | error _ =>
    have hunreadable : ¬ e.Readable := by
      rintro ⟨chain, hchain⟩
      rw [hparse] at hchain
      cases hchain
    exact (decide_eq_true hunreadable).symm
  | ok chain => exact (decide_eq_false (not_not_intro ⟨chain, hparse⟩)).symm

theorem countP_isSkipped_tryEntries (entries : List (RuleType × Entry)) (d : D) :
    (tryEntries entries d).1.countP Trial.isSkipped =
      entries.countP fun p => decide (¬ p.2.Readable) := by
  induction entries generalizing d with
  | nil => rfl
  | cons p rest ih =>
    obtain ⟨t, e⟩ := p
    rw [tryEntries, List.countP_cons, List.countP_cons, ih, isSkipped_tryEntry]

omit [Document D N] in
/-- One trial is counted as skipped when it was. -/
theorem skipped_mergeTrial (domain : String) (acc : ProcessReport × Context N) (t : Trial N) :
    (mergeTrial domain acc t).1.skipped = acc.1.skipped + if t.isSkipped then 1 else 0 := by
  obtain ⟨r, c⟩ := acc
  cases t with
  | skipped => rfl
  | evaluated type entry result =>
    cases result with
    | error e => rfl
    | ok found =>
      change (mergeTrial domain (r, c) (.evaluated type entry (.ok found))).1.skipped = r.skipped
      unfold mergeTrial
      dsimp only
      split_ifs <;> rfl

omit [Document D N] in
theorem skipped_foldl_mergeTrial (domain : String) (trials : List (Trial N))
    (acc : ProcessReport × Context N) :
    (trials.foldl (mergeTrial domain) acc).1.skipped =
      acc.1.skipped + trials.countP Trial.isSkipped := by
  induction trials generalizing acc with
  | nil => rfl
  | cons t rest ih =>
    rw [List.foldl_cons, ih, skipped_mergeTrial, List.countP_cons, Nat.add_assoc,
      Nat.add_comm (rest.countP _)]

/-- **Processing a page skips the entries that apply to its URL and cannot be read**, whatever the
page is, whatever the context held and whatever was cached. -/
theorem process_skipped (rules : Database) (url : String) (patterns : PatternCache) (d : D)
    (c : Context N) :
    (process rules url patterns d c).report.skipped =
      rules.stored.countP fun s => s.appliesTo url && decide (¬ s.entry.Readable) := by
  have hskipped : (process rules url patterns d c).report.skipped =
      0 + (tryEntries (applicable rules url patterns).1 d).1.countP Trial.isSkipped :=
    skipped_foldl_mergeTrial _ _ _
  rw [hskipped, countP_isSkipped_tryEntries, applicable_fst, Database.applying, List.countP_map,
    List.countP_filter, Nat.zero_add]
  exact List.countP_congr fun s _ => by rw [Bool.and_comm]; rfl

end Skipping

end PageGuard
