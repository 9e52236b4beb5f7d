import PageGuard.Proofs.Rules.Decompile
import Mathlib.Data.List.Induction

/-!
# A compiled database, read off its records

Compiling inserts one rule after the other into maps inside maps.  What it leaves behind can be said
without an insertion: the rules that are kept, grouped by token and under each token by domain
pattern, every key at the place of its first use.

* `OrderedMap.grouped`: items grouped by their keys.
* `OrderedMap.foldl_alter_eq_grouped`: inserting items one after the other groups them.
* `keptRules`, `groupedDatabase`: the records that are kept, and what they make together.
* `compile_groups`: compiling gives this database, with the issues of the other records in order.
-/

namespace PageGuard

open Json

/-! ## Keys in the order of their first use -/

theorem eraseDups_concat {α : Type} [DecidableEq α] (l : List α) (a : α) :
    (l ++ [a]).eraseDups = if a ∈ l then l.eraseDups else l.eraseDups ++ [a] := by
  rw [List.eraseDups_append, List.cons_removeAll, List.nil_removeAll]
  by_cases ha : a ∈ l
  · simp [ha]
  · simp [ha, List.eraseDups_cons]

theorem nodup_eraseDups {α : Type} [DecidableEq α] (l : List α) : l.eraseDups.Nodup := by
  induction l using List.reverseRecOn with
  | nil => exact List.nodup_nil
  | append_singleton l a ih =>
    rw [eraseDups_concat]
    split_ifs with ha
    · exact ih
    · have hnew : a ∉ l.eraseDups := fun hmem => ha (List.mem_eraseDups.1 hmem)
      refine List.nodup_append.2 ⟨ih, List.nodup_singleton a, fun b hb c hc => ?_⟩
      rw [List.mem_singleton.1 hc]
      rintro rfl
      exact hnew hb

namespace OrderedMap

variable {α β : Type}

/-- The items that stand under a key, in order. -/
def itemsUnder (key : String) (l : List (String × β)) : List β :=
  (l.filter fun p => p.1 = key).map Prod.snd

theorem itemsUnder_concat (key : String) (l : List (String × β)) (p : String × β) :
    itemsUnder key (l ++ [p]) =
      if p.1 = key then itemsUnder key l ++ [p.2] else itemsUnder key l := by
  rw [itemsUnder, List.filter_append, List.map_append, List.filter_singleton]
  split_ifs with hkey <;> simp [hkey, itemsUnder]

theorem itemsUnder_eq_nil {key : String} {l : List (String × β)} (h : key ∉ l.map Prod.fst) :
    itemsUnder key l = [] := by
  have hnone : l.filter (fun p => p.1 = key) = [] := by
    refine List.filter_eq_nil_iff.2 fun p hp hkey => h ?_
    rw [← of_decide_eq_true hkey]
    exact List.mem_map_of_mem hp
  rw [itemsUnder, hnone, List.map_nil]

/-- Items grouped by their keys.  The keys stand in the order of their first use, each with what
`f` makes of its items in their order. -/
def grouped (f : List β → α) (l : List (String × β)) : OrderedMap α where
  entries := (l.map Prod.fst).eraseDups.map fun key => (key, f (itemsUnder key l))
  nodup := by
    rw [List.map_map]
    exact (List.map_id _).symm ▸ nodup_eraseDups _

/-- Changing the value of a key among entries that are given key by key. -/
theorem upsert_map {key : String} {fallback : α} {f : α → α} {value : String → α} :
    ∀ {keys : List String}, keys.Nodup → key ∈ keys →
      upsert key fallback f (keys.map fun k => (k, value k)) =
        keys.map fun k => (k, if k = key then f (value k) else value k)
  | [], _, hmem => absurd hmem List.not_mem_nil
  | k :: keys, hnodup, hmem => by
    obtain ⟨hk, hnodup⟩ := List.nodup_cons.1 hnodup
    rw [List.map_cons, List.map_cons, upsert]
    by_cases heq : k = key
    · subst heq
      have hrest : (keys.map fun j => (j, if j = k then f (value j) else value j)) =
          keys.map fun j => (j, value j) := by
        refine List.map_congr_left fun j hj => ?_
        have hne : j ≠ k := fun h => hk (h ▸ hj)
        rw [if_neg hne]
      rw [if_pos rfl, if_pos rfl, hrest]
    · have htail : key ∈ keys := (List.mem_cons.1 hmem).resolve_left (Ne.symm heq)
      rw [if_neg heq, if_neg heq, upsert_map hnodup htail]

section Grouping

variable (f : List β → α) (fallback : α) (add : β → α → α)

/-- One more item goes to the end of its group, or opens a group at the end. -/
theorem grouped_concat (hnil : f [] = fallback) (hadd : ∀ bs b, f (bs ++ [b]) = add b (f bs))
    (l : List (String × β)) (p : String × β) :
    grouped f (l ++ [p]) = (grouped f l).alter p.1 fallback (add p.2) := by
  obtain ⟨key, b⟩ := p
  refine ext_entries ?_
  have hvalue (k : String) : f (itemsUnder k (l ++ [(key, b)])) =
      if k = key then add b (f (itemsUnder k l)) else f (itemsUnder k l) := by
    rw [itemsUnder_concat]
    by_cases hk : key = k
    · rw [if_pos hk, if_pos hk.symm, hadd]
    · rw [if_neg hk, if_neg (Ne.symm hk)]
  simp only [grouped, alter, List.map_append, List.map_singleton, eraseDups_concat, hvalue]
  by_cases hkey : key ∈ l.map Prod.fst
  · rw [if_pos hkey, upsert_map (nodup_eraseDups _) (List.mem_eraseDups.2 hkey)]
  · have hkeys : key ∉ (l.map Prod.fst).eraseDups := fun h => hkey (List.mem_eraseDups.1 h)
    have hold : ((l.map Prod.fst).eraseDups.map fun k =>
        (k, if k = key then add b (f (itemsUnder k l)) else f (itemsUnder k l))) =
          (l.map Prod.fst).eraseDups.map fun k => (k, f (itemsUnder k l)) := by
      refine List.map_congr_left fun k hk => ?_
      have hne : k ≠ key := fun h => hkeys (h ▸ hk)
      rw [if_neg hne]
    have hnew : key ∉ ((l.map Prod.fst).eraseDups.map fun k => (k, f (itemsUnder k l))).map
        Prod.fst := by
      rw [List.map_map]
      exact (List.map_id (l.map Prod.fst).eraseDups).symm ▸ hkeys
    rw [if_neg hkey, List.map_append, hold, upsert_of_notMem hnew, List.map_singleton, if_pos rfl,
      itemsUnder_eq_nil hkey, hnil]

/-- **Inserting items one after the other groups them.** -/
theorem foldl_alter_eq_grouped (hnil : f [] = fallback)
    (hadd : ∀ bs b, f (bs ++ [b]) = add b (f bs)) (l : List (String × β)) :
    l.foldl (fun m p => m.alter p.1 fallback (add p.2)) empty = grouped f l := by
  induction l using List.reverseRecOn with
  | nil => rfl
  | append_singleton l p ih =>
    rw [List.foldl_append, ih, grouped_concat f fallback add hnil hadd]
    rfl

end Grouping

end OrderedMap

/-! ## Records that are kept -/

/-- A record that is kept: the rule that it states and the parts of the text of this rule. -/
structure KeptRule where
  rule : Rule
  parts : RuleParts

/-- What a record comes to: it is kept, or it fails the check, or its text cannot be cut. -/
inductive RecordFate where
  | kept (k : KeptRule)
  | refused (issue : RuleIssue)
  | uncut (issue : RuleIssue)

namespace RecordFate

/-- What becomes of a record. -/
def of (record : Value) : RecordFate :=
  match parseRecord record with
  | .error issue => .refused issue
  | .ok rule =>
    match splitRule rule.text with
    | .error issue => .uncut issue
    | .ok parts => .kept ⟨rule, parts⟩

/-- The rule that is kept. -/
def kept? : RecordFate → Option KeptRule
  | kept k => some k
  | _ => none

/-- The issue of the check. -/
def refused? : RecordFate → Option RuleIssue
  | refused issue => some issue
  | _ => none

/-- The issue of the cut. -/
def uncut? : RecordFate → Option RuleIssue
  | uncut issue => some issue
  | _ => none

end RecordFate

/-- The records that are kept, in order. -/
def keptRules (records : List Value) : List KeptRule :=
  records.filterMap fun record => (RecordFate.of record).kept?

/-- The entry of a kept rule.  A hiding rule keeps its selector only; a blocking rule also keeps its
silent flag as it is, its aggressive flag, or false, and its id. -/
def KeptRule.entry (k : KeptRule) : Entry :=
  if k.rule.type = .adserver then
    { selector := k.parts.selector, silent := none, aggressive := none, id := none }
  else
    { selector := k.parts.selector
      silent := k.rule.silent
      aggressive := some (k.rule.aggressive.getD false)
      id := some k.rule.id }

/-- The kept rules of a type, grouped by their tokens and under each token by their domain
patterns. -/
def groupedRules (kept : List KeptRule) (t : RuleType) : DomainRules :=
  .grouped (.grouped id) ((kept.filter fun k => k.rule.type = t).map fun k =>
    (k.parts.kind.token, (k.parts.domain, k.entry)))

/-- The database of the kept rules; all but their three buckets is as in the empty one. -/
def groupedDatabase (kept : List KeptRule) : Database where
  adserver := groupedRules kept .adserver
  scam := groupedRules kept .scam
  phishing := groupedRules kept .phishing

/-! ## What is stored -/

/-- A kept rule with the keys under which it is stored. -/
def KeptRule.stored (k : KeptRule) : Database.Stored :=
  ⟨k.rule.type, k.parts.kind.token, k.parts.domain, k.entry⟩

/-- The entry of a rule that is cut is the one that is kept. -/
theorem KeptRule.entry_eq (k : KeptRule) : k.entry = k.rule.entry k.parts.selector := by
  rw [entry, Rule.entry]
  cases k.rule.type <;> rfl

theorem Rule.stored_of_splitRule {r : Rule} {p : RuleParts} (h : splitRule r.text = .ok p) :
    r.stored = .ok (KeptRule.mk r p).stored := by
  rw [Rule.stored, h, KeptRule.stored, KeptRule.entry_eq]
  rfl

theorem Rule.stored_of_error {r : Rule} {issue : RuleIssue} (h : splitRule r.text = .error issue) :
    r.stored = .error issue := by
  rw [Rule.stored, h]
  rfl

/-- Compiling stores the records that are kept, and reports the others: first those that fail the
check, then those that cannot be cut. -/
theorem stored_and_failures (records : List Value) :
    storedOf records = (keptRules records).map KeptRule.stored ∧
      failures (records.map parseRecord) =
        records.filterMap (fun record => (RecordFate.of record).refused?) ∧
      failures ((checkedRules records).map Rule.stored) =
        records.filterMap fun record => (RecordFate.of record).uncut? := by
  induction records with
  | nil => exact ⟨rfl, rfl, rfl⟩
  | cons record rest ih =>
    obtain ⟨hstored, hrefused, huncut⟩ := ih
    rw [storedOf, checkedRules] at hstored
    rw [checkedRules] at huncut
    simp only [storedOf, checkedRules, keptRules, List.map_cons, List.filterMap_cons]
    cases hparse : parseRecord record with
    | error issue =>
      simp only [RecordFate.of, hparse, RecordFate.kept?, RecordFate.refused?, RecordFate.uncut?,
        successes, failures]
      exact ⟨hstored, congrArg (issue :: ·) hrefused, huncut⟩
    | ok rule =>
      cases hsplit : splitRule rule.text with
      | error issue =>
        simp only [RecordFate.of, hparse, hsplit, RecordFate.kept?, RecordFate.refused?,
          RecordFate.uncut?, successes, failures, List.map_cons, Rule.stored_of_error hsplit]
        exact ⟨hstored, hrefused, congrArg (issue :: ·) huncut⟩
      | ok parts =>
        simp only [RecordFate.of, hparse, hsplit, RecordFate.kept?, RecordFate.refused?,
          RecordFate.uncut?, successes, failures, List.map_cons, Rule.stored_of_splitRule hsplit]
        exact ⟨congrArg (KeptRule.stored ⟨rule, parts⟩ :: ·) hstored, hrefused, huncut⟩

namespace Database

/-- The rules of a type after some additions: those of the type are added to them. -/
theorem bucket_foldl_add (t : RuleType) (l : List Stored) (d : Database) :
    (l.foldl add d).bucket t = (l.filter fun s => s.type = t).foldl
      (fun (rules : DomainRules) s => rules.alter s.token .empty (addEntry (s.domain, s.entry)))
      (d.bucket t) := by
  induction l generalizing d with
  | nil => rfl
  | cons s l ih =>
    rw [List.foldl_cons, ih]
    by_cases ht : s.type = t
    · subst ht
      have hkept : (s :: l).filter (fun u => u.type = s.type) =
          s :: l.filter fun u => u.type = s.type :=
        List.filter_cons_of_pos (decide_eq_true rfl)
      rw [add, bucket_mapBucket_self, hkept, List.foldl_cons]
      rfl
    · rw [add, bucket_mapBucket_of_ne d (Ne.symm ht), List.filter_cons_of_neg]
      simpa using ht

end Database

/-- The bucket of a type after adding kept rules to the empty database. -/
theorem bucket_foldl_stored (kept : List KeptRule) (t : RuleType) :
    ((kept.map KeptRule.stored).foldl Database.add {}).bucket t = groupedRules kept t := by
  have hempty : ({} : Database).bucket t = .empty := by cases t <;> rfl
  have hdomains (ps : List (String × Entry)) (p : String × Entry) :
      OrderedMap.grouped id (ps ++ [p]) = Database.addEntry p (OrderedMap.grouped id ps) :=
    OrderedMap.grouped_concat id [] (fun e es => es ++ [e]) rfl (fun _ _ => rfl) ps p
  have hfold := OrderedMap.foldl_alter_eq_grouped (OrderedMap.grouped id) OrderedMap.empty
    Database.addEntry rfl hdomains
    ((kept.filter fun k => k.rule.type = t).map fun k =>
      (k.parts.kind.token, (k.parts.domain, k.entry)))
  rw [Database.bucket_foldl_add, hempty, List.filter_map, List.foldl_map, groupedRules, ← hfold,
    List.foldl_map]
  rfl

/-- A rule that is kept is the checked rule of a record, with the parts of its text. -/
theorem parse_and_split_of_mem_keptRules {records : List Value} {k : KeptRule}
    (h : k ∈ keptRules records) :
    (∃ record ∈ records, parseRecord record = .ok k.rule) ∧ splitRule k.rule.text = .ok k.parts := by
  obtain ⟨record, hrecord, hkept⟩ := List.mem_filterMap.1 h
  unfold RecordFate.of at hkept
  cases hparse : parseRecord record with
  | error issue => rw [hparse] at hkept; cases hkept
  | ok rule =>
    cases hsplit : splitRule rule.text with
    | error issue => simp only [hparse, hsplit] at hkept; cases hkept
    | ok parts =>
      simp only [hparse, hsplit] at hkept
      obtain rfl := Option.some.inj hkept
      exact ⟨⟨record, hrecord, hparse⟩, hsplit⟩

/-- No kept rule has an empty selector. -/
theorem KeptRule.selector_ne_empty {records : List Value} {k : KeptRule}
    (h : k ∈ keptRules records) : k.parts.selector ≠ "" := by
  obtain ⟨-, before, rest, -, hrest, hselector, -⟩ :=
    splitRule_eq_ok (parse_and_split_of_mem_keptRules h).2
  intro hempty
  have hlist := congrArg String.toList (hselector.symm.trans hempty)
  rw [String.toList_ofList] at hlist
  exact hrest hlist

/-- No kept rule is for the whitelist. -/
theorem groupedRules_whitelist (records : List Value) :
    groupedRules (keptRules records) .whitelist = .empty := by
  have hnone : (keptRules records).filter (fun k => k.rule.type = .whitelist) = [] := by
    refine List.filter_eq_nil_iff.2 fun k hk htype => ?_
    obtain ⟨record, hrecord, hparse⟩ := (parse_and_split_of_mem_keptRules hk).1
    have hchecked : k.rule ∈ checkedRules records :=
      mem_successes.2 (hparse ▸ List.mem_map_of_mem hrecord)
    exact type_ne_whitelist_of_checked hchecked (of_decide_eq_true htype)
  rw [groupedRules, hnone]
  rfl

/-! ## The database -/

/-- **What compiling gives.**  The database holds the records that are kept, grouped by type, token
and domain pattern, with every key where it is first used and the entries under it in the order of
their records; there are as many entries as kept records.  The bucket of the whitelist and all other
fields are as in the empty database, no key is without an entry, and no entry without a selector.
The issues are those of the check and after them those of the cut, each in the order of the
records. -/
theorem compile_groups (records : List Value) :
    compile records =
        { database := groupedDatabase (keptRules records)
          issues := records.filterMap (fun record => (RecordFate.of record).refused?) ++
            records.filterMap (fun record => (RecordFate.of record).uncut?) } ∧
      (compile records).database.entryCount = (keptRules records).length ∧
      (compile records).database.whitelist = .empty ∧
      (compile records).database.frame = ({} : Database) ∧
      (compile records).database.Filled ∧
      ∀ s ∈ (compile records).database.stored, s.entry.selector ≠ "" := by
  obtain ⟨hstored, hrefused, huncut⟩ := stored_and_failures records
  have hdatabase : (compile records).database = groupedDatabase (keptRules records) := by
    refine Database.ext_buckets ((frame_compile records).trans rfl) fun t => ?_
    rw [database_compile, hstored, bucket_foldl_stored]
    cases t with
    | whitelist => exact groupedRules_whitelist records
    | _ => rfl
  have hissues : (compile records).issues =
      records.filterMap (fun record => (RecordFate.of record).refused?) ++
        records.filterMap (fun record => (RecordFate.of record).uncut?) := by
    rw [compile_eq, hrefused, huncut]
  have hperm := stored_compile_perm records
  rw [hstored] at hperm
  refine ⟨?_, ?_, ?_, frame_compile records, filled_compile records, ?_⟩
  · rw [← hdatabase, ← hissues]
  · rw [Database.entryCount, hperm.length_eq, List.length_map]
  · rw [hdatabase]
    rfl
  · intro s hs
    obtain ⟨k, hk, rfl⟩ := List.mem_map.1 (hperm.mem_iff.1 hs)
    have hselector : k.stored.entry.selector = k.parts.selector := by
      rw [KeptRule.stored, KeptRule.entry]
      split_ifs <;> rfl
    rw [hselector]
    exact KeptRule.selector_ne_empty hk

end PageGuard
