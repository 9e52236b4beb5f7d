import PageGuard.Proofs.Json.Layout
import PageGuard.Proofs.Json.SortedMembers
import PageGuard.Proofs.Navigation.OrdinaryRules
import PageGuard.Proofs.Rules.Compiling
import PageGuard.Rules.Load
import PageGuard.Threat.MemoryHost
import Mathlib.Data.List.Perm.Basic

/-!
# Writing a database and loading it again

A compiled database goes to a file as a JSON object and comes back through a reader that sorts the
members of every object.

* `Database.ofValue?_sorted`: what comes back is `Database.sorted`, the same entries under the same
  keys, with the separator tokens and the domain patterns in ascending order.
* `reload_compiled`: so the order of a compiled feed survives exactly when its keys ascend, and a
  navigation is the same whenever the entries that apply to its URL come in the same order.
-/

namespace PageGuard

open Json

/-! ## Databases in the order of their keys -/

namespace Database

/-- The database with its tokens and its domain patterns in ascending order. -/
def sorted (d : Database) : Database :=
  let sortBucket (rules : DomainRules) : DomainRules :=
    (rules.mapValues OrderedMap.sortedByKey).sortedByKey
  { d with
    adserver := sortBucket d.adserver
    whitelist := sortBucket d.whitelist
    scam := sortBucket d.scam
    phishing := sortBucket d.phishing }

/-- The database with every value of its other lists changed. -/
def mapExtras (f : Value → Value) (d : Database) : Database :=
  { d with
    action := d.action.map f
    title := d.title.map f
    description := d.description.map f }

/-- The tokens ascend, and so do the domain patterns under each token. -/
def KeysAscending (d : Database) : Prop :=
  ∀ t, (d.bucket t).KeysAscending ∧ ∀ m ∈ (d.bucket t).values, m.KeysAscending

theorem bucket_sorted (d : Database) (t : RuleType) :
    d.sorted.bucket t = ((d.bucket t).mapValues OrderedMap.sortedByKey).sortedByKey := by
  cases t <;> rfl

end Database

/-- The rules of a type stay as they are exactly when their keys ascend. -/
theorem DomainRules.sorted_eq_self_iff (rules : DomainRules) :
    (rules.mapValues OrderedMap.sortedByKey).sortedByKey = rules ↔
      rules.KeysAscending ∧ ∀ m ∈ rules.values, m.KeysAscending := by
  have hinner : (∀ m ∈ rules.values, m.KeysAscending) ↔
      rules.mapValues OrderedMap.sortedByKey = rules := by
    rw [OrderedMap.mapValues_eq_self_iff]
    exact forall₂_congr fun m _ => (m.sortedByKey_eq_self_iff).symm
  rw [hinner]
  constructor
  · intro h
    have hkeys : rules.KeysAscending := by
      rw [← h]
      exact OrderedMap.keysAscending_sortedByKey _
    have hmap : (rules.mapValues OrderedMap.sortedByKey).KeysAscending := by
      rwa [OrderedMap.KeysAscending, OrderedMap.keys_mapValues]
    rw [(OrderedMap.sortedByKey_eq_self_iff _).2 hmap] at h
    exact ⟨hkeys, h⟩
  · rintro ⟨hkeys, hmap⟩
    rw [hmap]
    exact (OrderedMap.sortedByKey_eq_self_iff rules).2 hkeys

/-- **Sorting leaves a database as it is exactly when its keys ascend.** -/
theorem Database.sorted_eq_self_iff (d : Database) : d.sorted = d ↔ d.KeysAscending := by
  have hbucket (t : RuleType) : d.sorted.bucket t = d.bucket t ↔
      (d.bucket t).KeysAscending ∧ ∀ m ∈ (d.bucket t).values, m.KeysAscending := by
    rw [bucket_sorted]
    exact DomainRules.sorted_eq_self_iff (d.bucket t)
  constructor
  · intro h t
    rw [← hbucket, h]
  · intro h
    exact Database.ext_buckets rfl fun t => (hbucket t).2 (h t)

/-! ## The entries of a sorted database -/

/-- Sorting moves entries and loses none. -/
theorem storedIn_sorted_perm (t : RuleType) (rules : DomainRules) :
    (Database.storedIn t (rules.mapValues OrderedMap.sortedByKey).sortedByKey).Perm
      (Database.storedIn t rules) := by
  rw [OrderedMap.sortedByKey_mapValues]
  simp only [Database.storedIn, OrderedMap.mapValues, List.flatMap_map]
  refine List.Perm.flatMap (OrderedMap.sortEntries_perm rules.entries) fun p _ => ?_
  exact (OrderedMap.sortEntries_perm p.2.entries).flatMap_right _

theorem Database.stored_sorted_perm (d : Database) : d.sorted.stored.Perm d.stored := by
  rw [stored_eq, stored_eq]
  exact (storedIn_sorted_perm .adserver d.adserver).append
    ((storedIn_sorted_perm .scam d.scam).append
      ((storedIn_sorted_perm .phishing d.phishing).append
        (storedIn_sorted_perm .whitelist d.whitelist)))

/-- The same entries apply to a URL, in another order. -/
theorem Database.applying_sorted_perm (d : Database) (url : String) :
    (d.sorted.applying url).Perm (d.applying url) :=
  (d.stored_sorted_perm.filter _).map _

/-! ## Reading sorted values -/

section Reading

variable {α β γ : Type}

theorem mapM_map_eq_some {g : α → β} {decode : β → Option γ} {f : α → γ} :
    ∀ {l : List α}, (∀ a ∈ l, decode (g a) = some (f a)) → (l.map g).mapM decode = some (l.map f)
  | [], _ => rfl
  | a :: l, h => by
    rw [List.map_cons, List.mapM_cons, h a (List.mem_cons_self ..),
      mapM_map_eq_some fun b hb => h b (List.mem_cons_of_mem _ hb)]
    rfl

/-- A map that is written member by member is read back in the order of its keys. -/
theorem membersOf?_sorted {encode : α → Value} {decode : Value → Option β} {f : α → β}
    {m : OrderedMap α} (h : ∀ v ∈ m.values, decode (encode v).sorted = some (f v)) :
    (membersOf? decode (Value.object (m.entries.map fun p => (p.1, encode p.2))).sorted).map
      OrderedMap.ofList = some (m.mapValues f).sortedByKey := by
  have hread : membersOf? decode
      (Value.object (m.entries.map fun p => (p.1, encode p.2))).sorted =
        some (m.sortedByKey.mapValues f).entries := by
    rw [Value.sorted, sortedMembers_map, membersOf?]
    refine mapM_map_eq_some fun p hp => ?_
    have hv : p.2 ∈ m.values :=
      OrderedMap.mem_values_sortedByKey.1 (List.mem_map_of_mem hp)
    dsimp only
    rw [h p.2 hv, Option.map_some]
  rw [hread, Option.map_some, OrderedMap.ofList_eq, OrderedMap.sortedByKey_mapValues]

/-- Items that are written one after the other are read back in their order. -/
theorem listOf?_sorted {encode : α → Value} {decode : Value → Option α} {l : List α}
    (h : ∀ a ∈ l, decode (encode a).sorted = some a) :
    listOf? decode (Value.array (l.map encode)).sorted = some l := by
  rw [Value.sorted, sortedItems_eq_map, List.map_map, listOf?]
  exact (mapM_map_eq_some (f := id) h).trans (congrArg some (List.map_id l))

end Reading

/-- An entry is read back from its sorted members. -/
theorem Entry.ofValue?_sorted (e : Entry) : Entry.ofValue? e.toValue.sorted = some e := by
  obtain ⟨selector, silent, aggressive, id⟩ := e
  cases silent <;> cases aggressive <;> cases id <;>
    · rw [Entry.ofValue?, Entry.toValue, objectOf, fieldValues?_sorted (by simp)]
      rfl

/-- The entries by domain pattern are read back in the order of the patterns. -/
theorem SelectorsByDomain.ofValue?_sorted (m : SelectorsByDomain) :
    SelectorsByDomain.ofValue? (SelectorsByDomain.toValue m).sorted = some m.sortedByKey := by
  have h : ∀ es ∈ m.values,
      listOf? Entry.ofValue? (Value.array (es.map Entry.toValue)).sorted = some (id es) :=
    fun es _ => listOf?_sorted fun e _ => e.ofValue?_sorted
  have hid : m.mapValues id = m := (OrderedMap.mapValues_eq_self_iff id m).2 fun _ _ => rfl
  rw [SelectorsByDomain.ofValue?, SelectorsByDomain.toValue, membersOf?_sorted h, hid]

/-- The rules of a type are read back in the order of the tokens and of the patterns. -/
theorem DomainRules.ofValue?_sorted (rules : DomainRules) :
    DomainRules.ofValue? (DomainRules.toValue rules).sorted =
      some (rules.mapValues OrderedMap.sortedByKey).sortedByKey :=
  membersOf?_sorted fun m _ => SelectorsByDomain.ofValue?_sorted m

/-- **A database is read back in the order of its keys**, with sorted values in its other lists. -/
theorem Database.ofValue?_toValue_sorted (d : Database) :
    Database.ofValue? d.toValue.sorted = some (d.sorted.mapExtras Value.sorted) := by
  have hbucket (rules : DomainRules) := DomainRules.ofValue?_sorted rules
  rw [Database.ofValue?, Database.toValue, fieldValues?_sorted (by simp)]
  simp [fieldNames, lookup?, withDefault?, hbucket, Value.sorted, sortedItems_eq_map, Value.items?,
    Value.string?, sorted, mapExtras]

/-- Empty lists stay empty. -/
theorem Database.ofValue?_sorted {d : Database} (haction : d.action = []) (htitle : d.title = [])
    (hdescription : d.description = []) :
    Database.ofValue? d.toValue.sorted = some d.sorted := by
  rw [ofValue?_toValue_sorted]
  simp [mapExtras, sorted, haction, htitle, hdescription]

/-! ## Loading what was written -/

theorem Entry.readable_toValue (e : Entry) : e.toValue.Readable 1 := by
  obtain ⟨selector, silent, aggressive, id⟩ := e
  refine Value.Readable.object fun p hp => ?_
  obtain ⟨⟨k, field⟩, hfield, hvalue⟩ := List.mem_filterMap.1 hp
  obtain ⟨v, hv, rfl⟩ := Option.map_eq_some_iff.1 hvalue
  simp only [List.mem_cons, List.not_mem_nil, or_false, Prod.mk.injEq] at hfield
  rcases hfield with ⟨-, rfl⟩ | ⟨-, rfl⟩ | ⟨-, rfl⟩ | ⟨-, rfl⟩
  · obtain rfl := Option.some.inj hv
    exact .string selector
  · obtain ⟨b, -, rfl⟩ := Option.map_eq_some_iff.1 hv
    exact .bool b
  · obtain ⟨b, -, rfl⟩ := Option.map_eq_some_iff.1 hv
    exact .bool b
  · obtain ⟨s, -, rfl⟩ := Option.map_eq_some_iff.1 hv
    exact .string s

theorem DomainRules.readable_toValue (rules : DomainRules) :
    (DomainRules.toValue rules).Readable 4 := by
  refine Value.Readable.object fun p hp => ?_
  obtain ⟨q, -, rfl⟩ := List.mem_map.1 hp
  refine Value.Readable.object fun p hp => ?_
  obtain ⟨q, -, rfl⟩ := List.mem_map.1 hp
  refine Value.Readable.array fun v hv => ?_
  obtain ⟨e, -, rfl⟩ := List.mem_map.1 hv
  exact e.readable_toValue

/-- A database whose other lists are empty holds no number and is not too deep to be read. -/
theorem Database.readable_toValue {d : Database} (haction : d.action = []) (htitle : d.title = [])
    (hdescription : d.description = []) : d.toValue.Readable maxDepth := by
  have hempty : (Value.array []).Readable 4 := Value.Readable.array (List.forall_mem_nil _)
  have hstring (s : String) : (Value.string s).Readable 4 := .string s
  refine (Value.Readable.object (n := 4) fun p hp => ?_).mono (by decide)
  rw [haction, htitle, hdescription] at hp
  simp only [List.mem_cons, List.not_mem_nil, or_false] at hp
  rcases hp with rfl | rfl | rfl | rfl | rfl | rfl | rfl | rfl | rfl | rfl
  iterate 4 exact DomainRules.readable_toValue _
  iterate 3 exact hempty
  iterate 3 exact hstring _

/-- The text of a compiled database, written in either way, is read back. -/
theorem Database.ofText?_written {d : Database} (haction : d.action = []) (htitle : d.title = [])
    (hdescription : d.description = []) {text : String}
    (htext : text = d.toText ∨ text = d.toValue.pretty) : Value.ofText? text = some d.toValue := by
  obtain ⟨hnumberless, hdepth⟩ := Database.readable_toValue haction htitle hdescription
  rcases htext with rfl | rfl
  · exact ofText?_compact hnumberless hdepth
  · exact ofText?_pretty hnumberless hdepth

/-- A text of a database loads as its value with the members of every object sorted. -/
theorem loadDatabase_of_ofText? {d : Database} {text : String}
    (hread : Value.ofText? text = some d.toValue) :
    loadDatabase text = loadValue d.toValue.sorted := by
  rw [loadDatabase, Value.sortedOfText?, hread, Option.map_some]

/-- A text of a database loads as the sorted database. -/
theorem loadDatabase_eq_ok {d : Database} {text : String}
    (hread : Value.ofText? text = some d.toValue) :
    loadDatabase text = .ok ⟨d.sorted.mapExtras Value.sorted, []⟩ := by
  have hvalue := Database.ofValue?_toValue_sorted d
  rw [loadDatabase_of_ofText? hread]
  rw [Database.toValue, Value.sorted] at hvalue ⊢
  dsimp only [loadValue]
  rw [hvalue]

/-- The text of a compiled database, written in either way, loads as its value with the members of
every object sorted. -/
theorem loadDatabase_text {d : Database} (haction : d.action = []) (htitle : d.title = [])
    (hdescription : d.description = []) {text : String}
    (htext : text = d.toText ∨ text = d.toValue.pretty) :
    loadDatabase text = loadValue d.toValue.sorted :=
  loadDatabase_of_ofText? (Database.ofText?_written haction htitle hdescription htext)

/-- The text of a compiled database loads as the sorted database. -/
theorem loadDatabase_written {d : Database} (haction : d.action = []) (htitle : d.title = [])
    (hdescription : d.description = []) {text : String}
    (htext : text = d.toText ∨ text = d.toValue.pretty) :
    loadDatabase text = .ok ⟨d.sorted, []⟩ := by
  rw [loadDatabase_eq_ok (Database.ofText?_written haction htitle hdescription htext)]
  simp [Database.mapExtras, Database.sorted, haction, htitle, hdescription]

/-! ## Navigations with a reloaded database -/

/-- Two orders of the same items with the same values under an injective function are equal. -/
theorem eq_of_perm_of_map_eq {α β : Type} {f : α → β} {l l' : List α} (hperm : l.Perm l')
    (hmap : l.map f = l'.map f) (hnodup : (l'.map f).Nodup) : l = l' := by
  refine List.ext_getElem hperm.length_eq fun i hi hi' => ?_
  have hvalues : f l[i] = f l'[i] := by
    have hget := List.getElem_of_eq hmap (by rwa [List.length_map])
    rwa [List.getElem_map, List.getElem_map] at hget
  exact List.inj_on_of_nodup_map hnodup (hperm.mem_iff.1 (List.getElem_mem hi))
    (List.getElem_mem hi') hvalues

/-- Whether a page tells the rules apart does not depend on their order. -/
theorem Database.Distinguishes.sorted {d : Database} {url html : String}
    (h : d.Distinguishes url html) : d.sorted.Distinguishes url html where
  ordinary p hp := h.ordinary p ((d.applying_sorted_perm url).mem_iff.1 hp)
  matched p hp := h.matched p ((d.applying_sorted_perm url).mem_iff.1 hp)
  distinct := ((d.applying_sorted_perm url).map _).nodup_iff.2 h.distinct

/-- A database and its sorted form give the same navigation on a page to which their entries apply
in the same order. -/
theorem navigate_sorted {D N H : Type} [Document D N] [DecidableEq N] [Host H] {d : Database}
    {url : String} (happly : d.sorted.applying url = d.applying url) (config : Config) (tab : Int)
    (page : D) (host : H) :
    let written := (Engine.mk d config .empty).navigate url tab page host
    let reloaded := (Engine.mk d.sorted config .empty).navigate url tab page host
    reloaded.outcome = written.outcome ∧ reloaded.document = written.document ∧
      reloaded.host = written.host :=
  Engine.navigate_congr (a := ⟨d.sorted, config, .empty⟩) (b := ⟨d, config, .empty⟩) rfl happly tab
    page host

/-- On a page that tells the rules apart, the sorted database reports the same candidates in the
same order only when the rules apply in the same order. -/
theorem applying_of_report_eq {H : Type} [Host H] {d : Database} {url html : String}
    (h : d.Distinguishes url html) {config : Config} {tab : Int} {host : H}
    (hreport : ((Engine.mk d.sorted config .empty).navigate url tab (MemoryPage.ofText html)
        host).outcome.report =
      ((Engine.mk d config .empty).navigate url tab (MemoryPage.ofText html)
        host).outcome.report) :
    d.sorted.applying url = d.applying url := by
  have hblocks := congrArg Report.blocks hreport
  rw [Engine.blocks_navigate, Engine.blocks_navigate, h.sorted.process_blocks, h.process_blocks]
    at hblocks
  exact eq_of_perm_of_map_eq (d.applying_sorted_perm url) hblocks h.distinct

/-- **A compiled feed that is written and loaded again is the same database exactly when its keys
ascend.**  In every case its tokens and domain patterns come back in ascending order, with the
same entries under them.  A navigation is the same on every page whose URL finds its entries in the
same order; and on a page that tells these entries apart, it is the same only then. -/
theorem reload_compiled {feed : String} {records : List Value}
    (hfeed : feedRecords? feed = some records) :
    let a := compile records
    loadDatabase feed = .ok a ∧
      (∀ text, text = a.database.toText ∨ text = a.database.toValue.pretty →
        loadDatabase text = .ok ⟨a.database.sorted, []⟩) ∧
      (a.database.sorted = a.database ↔ a.database.KeysAscending) ∧
      (∀ url, (a.database.sorted.applying url).Perm (a.database.applying url)) ∧
      (∀ {D N H : Type} [Document D N] [DecidableEq N] [Host H] (config : Config) (url : String),
        a.database.sorted.applying url = a.database.applying url →
        ∀ (tab : Int) (d : D) (host : H),
          let written := (Engine.mk a.database config .empty).navigate url tab d host
          let reloaded := (Engine.mk a.database.sorted config .empty).navigate url tab d host
          reloaded.outcome = written.outcome ∧ reloaded.document = written.document ∧
            reloaded.host = written.host) ∧
      ∀ {H : Type} [Host H] (config : Config) (url html : String),
        a.database.Distinguishes url html → ∀ (tab : Int) (host : H),
          let page := MemoryPage.ofText html
          let written := (Engine.mk a.database config .empty).navigate url tab page host
          let reloaded := (Engine.mk a.database.sorted config .empty).navigate url tab page host
          reloaded.outcome = written.outcome ↔
            a.database.sorted.applying url = a.database.applying url := by
  have hframe := frame_compile records
  have haction : (compile records).database.action = [] := congrArg Database.action hframe
  have htitle : (compile records).database.title = [] := congrArg Database.title hframe
  have hdescription : (compile records).database.description = [] :=
    congrArg Database.description hframe
  refine ⟨?_, ?_, ?_, ?_, ?_, ?_⟩
  · rw [feedRecords?] at hfeed
    rw [loadDatabase]
    split at hfeed
    · rename_i records' hvalue
      obtain rfl := Option.some.inj hfeed
      rw [hvalue]
      rfl
    · cases hfeed
  · exact fun text htext => loadDatabase_written haction htitle hdescription htext
  · exact Database.sorted_eq_self_iff _
  · exact Database.applying_sorted_perm _
  · intro D N H _ _ _ config url happly tab d host
    exact navigate_sorted happly config tab d host
  · intro H _ config url html hdistinguishes tab host page written reloaded
    constructor
    · intro houtcome
      exact applying_of_report_eq hdistinguishes (congrArg NavigationOutcome.report houtcome)
    · intro happly
      exact (navigate_sorted happly config tab page host).1

/-- A feed whose rules keep their order. -/
theorem reload_one_rule :
    let feed := "[\x7b\"r\":\"##body\",\"s\":false,\"t\":\"scam\",\"id\":\"1\"\x7d]"
    ∃ records, feedRecords? feed = some records ∧ loadDatabase feed = .ok (compile records) ∧
      loadDatabase (compile records).database.toText =
        .ok ⟨(compile records).database.sorted, []⟩ := by
  intro feed
  have hsome : (feedRecords? feed).isSome = true := by decide +kernel
  obtain ⟨records, hrecords⟩ := Option.isSome_iff_exists.1 hsome
  obtain ⟨hload, hwritten, -⟩ := reload_compiled hrecords
  exact ⟨records, hrecords, hload, hwritten _ (Or.inl rfl)⟩

/-- A rule for one domain and after it a rule for all of them: a reload reports their candidates in
the other order. -/
theorem reload_reordered :
    let feed := "[\x7b\"r\":\"zeta.test##body\",\"s\":false,\"t\":\"scam\",\"id\":\"1\"\x7d," ++
      "\x7b\"r\":\"##body\",\"s\":false,\"t\":\"scam\",\"id\":\"2\"\x7d]"
    let zeta : Rule := ⟨"zeta.test##body", some false, .scam, none, "1"⟩
    let every : Rule := ⟨"##body", some false, .scam, none, "2"⟩
    let report (rules : List Rule) : Report :=
      ((Engine.mk (buildDatabase rules).database {} .empty).navigate "https://zeta.test/" 1
        (MemoryPage.ofText "<p>x</p>") ({} : MemoryHost)).outcome.report
    loadDatabase feed = .ok (buildDatabase [zeta, every]) ∧
      loadDatabase (buildDatabase [zeta, every]).database.toText =
        .ok (buildDatabase [every, zeta]) ∧
      report [every, zeta] ≠ report [zeta, every] := by
  intro feed zeta every report
  refine ⟨by decide +kernel, ?_, ?_⟩
  · rw [loadDatabase_text (by decide +kernel) (by decide +kernel) (by decide +kernel) (Or.inl rfl)]
    decide +kernel
  · have hblocks {rules : List Rule} (hordinary : ∀ p ∈
        (buildDatabase rules).database.applying "https://zeta.test/",
          p.2.hasOrdinarySelector = true) : (report rules).blocks =
            (buildDatabase rules).database.cssCandidates "https://zeta.test/" "<p>x</p>" := by
      rw [Engine.blocks_navigate]
      dsimp only
      rw [process_ordinary hordinary]
    intro hsame
    have hcandidates := congrArg Report.blocks hsame
    rw [hblocks (by decide +kernel), hblocks (by decide +kernel)] at hcandidates
    exact absurd hcandidates (by decide +kernel)

end PageGuard
