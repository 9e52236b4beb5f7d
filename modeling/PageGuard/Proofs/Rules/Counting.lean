import PageGuard.Proofs.Rules.Grouping
import PageGuard.Proofs.Rules.Separators

/-!
# What becomes of the records

Compiling does not count the records that it reads.  Their number is put together afterwards, from
the entries that are found in the database and the issues of both stages, and the kinds of these
issues are counted one issue after the other.

* `Tallies`: what a count of kinds says about them; `countKind` keeps it.
* `Kept`, `Rejection`: a record is kept, or it is rejected for one of three reasons.
* `issues_compile_perm`: compiling reports one issue for each record that is rejected.
* `stats_compile`: every record is counted, in one place only.
-/

namespace PageGuard

open Json

/-! ## Counts of kinds -/

/-- How often a kind was counted. -/
def countOf (kind : String) (counts : List (String × Nat)) : Nat :=
  (OrderedMap.itemsUnder kind counts).sum

theorem countOf_cons (kind : String) (p : String × Nat) (counts : List (String × Nat)) :
    countOf kind (p :: counts) = (if p.1 = kind then p.2 else 0) + countOf kind counts := by
  rw [countOf, countOf, OrderedMap.itemsUnder, List.filter_cons]
  by_cases hkind : p.1 = kind
  · rw [if_pos (decide_eq_true hkind), if_pos hkind]
    rfl
  · rw [if_neg (by simpa using hkind), if_neg hkind, Nat.zero_add]
    rfl

/-- Among distinct kinds, each was counted as often as its entry says. -/
theorem countOf_of_mem {kind : String} {n : Nat} :
    ∀ {counts : List (String × Nat)}, (counts.map Prod.fst).Pairwise (· < ·) →
      (kind, n) ∈ counts → countOf kind counts = n
  | p :: counts, h, hmem => by
    rw [List.map_cons, List.pairwise_cons] at h
    rw [countOf_cons]
    rcases List.mem_cons.1 hmem with rfl | hmem
    · have hnone : kind ∉ counts.map Prod.fst := fun hkind => lt_irrefl kind (h.1 kind hkind)
      rw [if_pos rfl, countOf, OrderedMap.itemsUnder_eq_nil hnone]
      rfl
    · have hne : p.1 ≠ kind := ne_of_lt (h.1 kind (List.mem_map_of_mem hmem))
      rw [if_neg hne, countOf_of_mem h.2 hmem, Nat.zero_add]

/-- A kind that was counted has an entry. -/
theorem mem_keys_of_countOf_pos {kind : String} {counts : List (String × Nat)}
    (h : 0 < countOf kind counts) : kind ∈ counts.map Prod.fst := by
  by_contra hnone
  rw [countOf, OrderedMap.itemsUnder_eq_nil hnone] at h
  exact lt_irrefl 0 h

/-! ## One more of a kind -/

/-- Counting a kind places it among the others. -/
theorem keys_countKind (kind : String) :
    ∀ counts : List (String × Nat),
      (countKind kind counts).map Prod.fst = OrderedMap.placeKey kind (counts.map Prod.fst)
  | [] => rfl
  | (m, n) :: counts => by
    rw [countKind, List.map_cons, OrderedMap.placeKey]
    split_ifs
    · rfl
    · rfl
    · rw [List.map_cons, keys_countKind kind counts]

theorem pos_countKind (kind : String) :
    ∀ {counts : List (String × Nat)}, (∀ p ∈ counts, 0 < p.2) →
      ∀ p ∈ countKind kind counts, 0 < p.2
  | [], _ => List.forall_mem_singleton.2 Nat.one_pos
  | (m, n) :: counts, h => by
    rw [List.forall_mem_cons] at h
    rw [countKind]
    split_ifs
    · exact List.forall_mem_cons.2 ⟨Nat.one_pos, List.forall_mem_cons.2 h⟩
    · exact List.forall_mem_cons.2 ⟨Nat.succ_pos n, h.2⟩
    · exact List.forall_mem_cons.2 ⟨h.1, pos_countKind kind h.2⟩

/-- The kind is counted once more, and no other one is. -/
theorem countOf_countKind (kind k : String) :
    ∀ counts : List (String × Nat),
      countOf k (countKind kind counts) = countOf k counts + if kind = k then 1 else 0
  | [] => by rw [countKind, countOf_cons, Nat.add_comm]
  | (m, n) :: counts => by
    have ih := countOf_countKind kind k counts
    rw [countKind]
    split_ifs with hlt heq hkind
    all_goals simp only [countOf_cons, ih]
    all_goals grind

theorem sum_countKind (kind : String) :
    ∀ counts : List (String × Nat),
      ((countKind kind counts).map Prod.snd).sum = (counts.map Prod.snd).sum + 1
  | [] => rfl
  | (m, n) :: counts => by
    have ih := sum_countKind kind counts
    rw [countKind]
    split_ifs
    all_goals simp only [List.map_cons, List.sum_cons, ih]
    all_goals omega

/-- The counts of a list of kinds.  The kinds stand in the order of their names, each with the
number of times that it occurs, and all of them are counted. -/
structure Tallies (kinds : List String) (counts : List (String × Nat)) : Prop where
  ascending : (counts.map Prod.fst).Pairwise (· < ·)
  pos : ∀ p ∈ counts, 0 < p.2
  countOf_eq : ∀ kind, countOf kind counts = kinds.count kind
  sum_eq : (counts.map Prod.snd).sum = kinds.length

namespace Tallies

variable {kinds : List String} {counts : List (String × Nat)}

theorem nil : Tallies [] [] where
  ascending := List.Pairwise.nil
  pos := List.forall_mem_nil _
  countOf_eq _ := rfl
  sum_eq := rfl

/-- One more kind is counted. -/
theorem concat (h : Tallies kinds counts) (kind : String) :
    Tallies (kinds ++ [kind]) (countKind kind counts) where
  ascending := by
    rw [keys_countKind]
    exact OrderedMap.ascending_placeKey h.ascending
  pos := pos_countKind kind h.pos
  countOf_eq k := by
    rw [countOf_countKind, h.countOf_eq, List.count_append, List.count_singleton]
    simp only [beq_iff_eq]
  sum_eq := by rw [sum_countKind, h.sum_eq, List.length_append, List.length_singleton]

/-- A kind that occurs has the number of its occurrences, and no other kind has an entry. -/
theorem mem_iff (h : Tallies kinds counts) {kind : String} {n : Nat} :
    (kind, n) ∈ counts ↔ 0 < n ∧ kinds.count kind = n := by
  rw [← h.countOf_eq]
  constructor
  · exact fun hmem => ⟨h.pos _ hmem, countOf_of_mem h.ascending hmem⟩
  · rintro ⟨hpos, rfl⟩
    obtain ⟨⟨k, m⟩, hmem, rfl⟩ := List.mem_map.1 (mem_keys_of_countOf_pos hpos)
    rwa [countOf_of_mem h.ascending hmem]

/-- The kinds determine their counts. -/
theorem unique {counts' : List (String × Nat)} (h : Tallies kinds counts)
    (h' : (counts'.map Prod.fst).Pairwise (· < ·))
    (hmem : ∀ kind n, (kind, n) ∈ counts' ↔ 0 < n ∧ kinds.count kind = n) : counts = counts' := by
  have hnodup {l : List (String × Nat)} (hl : (l.map Prod.fst).Pairwise (· < ·)) : l.Nodup :=
    List.Nodup.of_map Prod.fst (hl.imp fun hlt => ne_of_lt hlt)
  refine OrderedMap.eq_of_perm_of_ascending ?_ h.ascending h'
  refine (List.perm_ext_iff_of_nodup (hnodup h.ascending) (hnodup h')).2 fun p => ?_
  rw [h.mem_iff, hmem]

end Tallies

/-- **Counting the issues one after the other counts their kinds.** -/
theorem tallies_issues (issues : List RuleIssue) :
    Tallies (issues.map RuleIssue.kind)
      (issues.foldl (fun counts issue => countKind issue.kind counts) []) := by
  induction issues using List.reverseRecOn with
  | nil => exact .nil
  | append_singleton issues issue ih =>
    rw [List.map_append, List.foldl_append]
    exact ih.concat issue.kind

/-! ## Kept and rejected records -/

/-- A record is kept when it states a rule whose text can be split. -/
def Kept (record : Value) : Prop :=
  ∃ rule parts, parseRecord record = .ok rule ∧ splitRule rule.text = .ok parts

/-- Why a record is rejected. -/
inductive Rejection where
  | emptySelector
  | invalidRecord
  | noSeparator
deriving DecidableEq

namespace Rejection

/-- The name under which it is counted. -/
def kind : Rejection → String
  | emptySelector => "empty_selector"
  | invalidRecord => "invalid_record"
  | noSeparator => "no_separator"

/-- All reasons, in the order of their names. -/
def all : List Rejection := [emptySelector, invalidRecord, noSeparator]

/-- A record is rejected for a reason: it states no rule, or the text of its rule has no separator,
or nothing stands behind the separator. -/
def Of : Rejection → Value → Prop
  | invalidRecord, record => ∃ issue, parseRecord record = .error issue
  | noSeparator, record =>
    ∃ rule, parseRecord record = .ok rule ∧ splitRule rule.text = .error (.noSeparator rule.text)
  | emptySelector, record =>
    ∃ rule, parseRecord record = .ok rule ∧ splitRule rule.text = .error (.emptySelector rule.text)

end Rejection

/-- The reason that an issue reports. -/
def RuleIssue.rejection : RuleIssue → Rejection
  | .invalidRecord _ => .invalidRecord
  | .noSeparator _ => .noSeparator
  | .emptySelector _ => .emptySelector

theorem RuleIssue.kind_rejection (issue : RuleIssue) : issue.rejection.kind = issue.kind := by
  cases issue <;> rfl

theorem Rejection.kind_injective : Function.Injective Rejection.kind := by
  intro r r' h
  cases r <;> cases r' <;> first | rfl | simp [kind] at h

/-- The issue of a record that is not kept. -/
def RecordFate.issue? : RecordFate → Option RuleIssue
  | kept _ => none
  | refused issue => some issue
  | uncut issue => some issue

/-- The reason for which a record is rejected. -/
def rejection? (record : Value) : Option Rejection :=
  (RecordFate.of record).issue?.map RuleIssue.rejection

/-- The check of a record reports invalid records only. -/
theorem parseRecord_eq_error {record : Value} {issue : RuleIssue}
    (h : parseRecord record = .error issue) : issue.rejection = .invalidRecord := by
  cases record with
  | object ms =>
    rw [parseRecord] at h
    split at h
    · rw [← Except.error.inj h]
      rfl
    · split at h
      · rw [← Except.error.inj h]
        rfl
      · split at h
        · rw [← Except.error.inj h]
          rfl
        · cases h
  | _ =>
    rw [← Except.error.inj h]
    rfl

/-- A record is kept when there is no reason to reject it. -/
theorem rejection?_eq_none_iff {record : Value} : rejection? record = none ↔ Kept record := by
  rw [rejection?, RecordFate.of, Kept]
  cases parseRecord record with
  | error issue => simp [RecordFate.issue?]
  | ok rule =>
    cases hsplit : splitRule rule.text with
    | error issue => simp [RecordFate.issue?, hsplit]
    | ok parts => simp [RecordFate.issue?, hsplit]

/-- The reason to reject a record is the only one. -/
theorem rejection?_eq_some_iff {record : Value} {reason : Rejection} :
    rejection? record = some reason ↔ reason.Of record := by
  rw [rejection?, RecordFate.of]
  cases hparse : parseRecord record with
  | error issue =>
    have hreason := parseRecord_eq_error hparse
    cases reason <;> simp [RecordFate.issue?, Rejection.Of, hparse, hreason]
  | ok rule =>
    cases hsplit : splitRule rule.text with
    | error issue =>
      rcases splitRule_eq_error hsplit with rfl | rfl
      all_goals
        cases reason <;> simp [RecordFate.issue?, RuleIssue.rejection, Rejection.Of, hparse, hsplit]
    | ok parts => cases reason <;> simp [RecordFate.issue?, Rejection.Of, hparse, hsplit]

instance : DecidablePred Kept := fun _ => decidable_of_iff _ rejection?_eq_none_iff

instance (reason : Rejection) : DecidablePred reason.Of :=
  fun _ => decidable_of_iff _ rejection?_eq_some_iff

/-! ## Issues and entries -/

theorem filterMap_issue?_perm (fates : List RecordFate) :
    (fates.filterMap RecordFate.refused? ++ fates.filterMap RecordFate.uncut?).Perm
      (fates.filterMap RecordFate.issue?) := by
  induction fates with
  | nil => exact .refl _
  | cons fate fates ih =>
    cases fate with
    | kept k => exact ih
    | refused issue => exact ih.cons issue
    | uncut issue => exact List.perm_middle.trans (ih.cons issue)

/-- **Compiling reports one issue for each record that is not kept.** -/
theorem issues_compile_perm (records : List Value) :
    (compile records).issues.Perm
      (records.filterMap fun record => (RecordFate.of record).issue?) := by
  obtain ⟨-, hrefused, huncut⟩ := stored_and_failures records
  have hperm := filterMap_issue?_perm (records.map RecordFate.of)
  rw [compile_eq, hrefused, huncut]
  simpa only [List.filterMap_map, Function.comp_def] using hperm

/-- A kind of issue is reported as often as records are rejected for its reason. -/
theorem count_kinds_compile (records : List Value) (reason : Rejection) :
    ((compile records).issues.map RuleIssue.kind).count reason.kind =
      records.countP (reason.Of ·) := by
  rw [((issues_compile_perm records).map RuleIssue.kind).count_eq, List.count, List.countP_map,
    List.countP_filterMap]
  refine List.countP_congr fun record _ => ?_
  rw [decide_eq_true_iff, ← rejection?_eq_some_iff, rejection?]
  cases (RecordFate.of record).issue? with
  | none => simp
  | some issue => simp [← RuleIssue.kind_rejection, Rejection.kind_injective.eq_iff]

/-- Compiling stores one entry for each record that is kept. -/
theorem entryCount_compile (records : List Value) :
    (compile records).database.entryCount = records.countP (Kept ·) := by
  obtain ⟨hstored, -, -⟩ := stored_and_failures records
  rw [Database.entryCount, (stored_compile_perm records).length_eq, hstored, List.length_map,
    keptRules, List.length_filterMap_eq_countP]
  refine List.countP_congr fun record _ => ?_
  rw [decide_eq_true_iff, ← rejection?_eq_none_iff, rejection?]
  cases RecordFate.of record <;> simp [RecordFate.kept?, RecordFate.issue?]

/-- There are as many issues as records that are not kept. -/
theorem length_issues_compile (records : List Value) :
    (compile records).issues.length = records.countP (¬ Kept ·) := by
  rw [(issues_compile_perm records).length_eq, List.length_filterMap_eq_countP]
  refine List.countP_congr fun record _ => ?_
  rw [decide_eq_true_iff, ← rejection?_eq_none_iff, rejection?]
  cases (RecordFate.of record).issue? <;> simp

/-! ## The statistics -/

/-- The rejected records, counted by the reasons.  A reason for which no record is rejected is left
out. -/
def rejectionCounts (records : List Value) : List (String × Nat) :=
  (Rejection.all.map fun reason => (reason.kind, records.countP (reason.Of ·))).filter (0 < ·.2)

theorem ascending_rejectionCounts (records : List Value) :
    ((rejectionCounts records).map Prod.fst).Pairwise (· < ·) := by
  have hall : (Rejection.all.map Rejection.kind).Pairwise (· < ·) := by decide
  have hkinds :
      (Rejection.all.map fun reason => (reason.kind, records.countP (reason.Of ·))).map Prod.fst =
        Rejection.all.map Rejection.kind := List.map_map
  exact (hkinds ▸ hall).sublist (List.filter_sublist.map Prod.fst)

theorem mem_rejectionCounts_iff {records : List Value} {kind : String} {n : Nat} :
    (kind, n) ∈ rejectionCounts records ↔
      0 < n ∧ ((compile records).issues.map RuleIssue.kind).count kind = n := by
  rw [rejectionCounts, List.mem_filter, decide_eq_true_iff, and_comm]
  refine and_congr_right fun hpos => ?_
  constructor
  · intro hmem
    obtain ⟨reason, -, heq⟩ := List.mem_map.1 hmem
    obtain ⟨rfl, rfl⟩ := Prod.mk.inj heq
    exact count_kinds_compile records reason
  · rintro rfl
    obtain ⟨issue, -, rfl⟩ := List.mem_map.1 (List.count_pos_iff.1 hpos)
    refine List.mem_map.2 ⟨issue.rejection, ?_, ?_⟩
    · cases issue.rejection <;> decide
    · rw [← count_kinds_compile, RuleIssue.kind_rejection]

/-- **Every record is counted once.**  The total that is put together from the entries and the
issues is the number of records.  As many are compiled as are kept, and the skipped ones are the
issues.  They are counted by the reasons for which records are rejected, in the order of their
names: a reason for which no record is rejected is left out, and each other one has the positive
number of the records that are rejected for it.  A record that is kept is rejected for no reason,
and any other one for exactly one. -/
theorem stats_compile (records : List Value) :
    let stats := (compile records).stats
    stats.records = records.length ∧
      stats.compiled = records.countP (Kept ·) ∧
      (stats.skipped.map Prod.snd).sum = (compile records).issues.length ∧
      stats.compiled + (stats.skipped.map Prod.snd).sum = records.length ∧
      (∀ p ∈ stats.skipped, 0 < p.2) ∧
      stats.skipped = rejectionCounts records ∧
      ∀ record, (Kept record ∧ ∀ reason : Rejection, ¬ reason.Of record) ∨
        (¬ Kept record ∧ ∃! reason : Rejection, reason.Of record) := by
  intro stats
  have htallies := tallies_issues (compile records).issues
  have hsum : (stats.skipped.map Prod.snd).sum = (compile records).issues.length := by
    rw [← List.length_map (f := RuleIssue.kind)]
    exact htallies.sum_eq
  have hcompiled : stats.compiled = records.countP (Kept ·) := entryCount_compile records
  have htotal : stats.compiled + (compile records).issues.length = records.length := by
    rw [hcompiled, length_issues_compile]
    simpa using (List.length_eq_countP_add_countP (Kept ·) (l := records)).symm
  refine ⟨htotal, hcompiled, hsum, hsum ▸ htotal, htallies.pos, ?_, fun record => ?_⟩
  · exact htallies.unique (ascending_rejectionCounts records) fun _ _ => mem_rejectionCounts_iff
  · cases hreason : rejection? record with
    | none =>
      refine Or.inl ⟨rejection?_eq_none_iff.1 hreason, fun reason hof => ?_⟩
      cases hreason.symm.trans (rejection?_eq_some_iff.2 hof)
    | some reason =>
      refine Or.inr ⟨fun hkept => ?_, reason, rejection?_eq_some_iff.1 hreason, fun r hr => ?_⟩
      · cases hreason.symm.trans (rejection?_eq_none_iff.2 hkept)
      · exact Option.some.inj ((rejection?_eq_some_iff.2 hr).symm.trans hreason)

end PageGuard
