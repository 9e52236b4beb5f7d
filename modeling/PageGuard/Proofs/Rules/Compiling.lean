import PageGuard.Proofs.Rules.KeyOrder
import PageGuard.Rules.Compile
import Mathlib.Data.List.Flatten

/-!
# What compiling stores

Compiling adds one stored entry after the other to the empty database.  Here is what one addition
does and what a whole compilation leaves behind.

* `compile_eq`: compiling is a fold of `Database.add` over the rules that can be cut.
* `stored_compile_perm`: the stored entries are those of the rules, none lost and none twice.
* `filled_compile`: no token is without a domain pattern, and no domain pattern without an entry.
* `foldl_add_stored`: a database whose keys all hold something is rebuilt from its entries.
-/

namespace PageGuard

open Json

/-! ## Databases by their buckets -/

namespace Database

/-- The database without its rules. -/
def frame (d : Database) : Database :=
  { d with adserver := .empty, whitelist := .empty, scam := .empty, phishing := .empty }

/-- Databases with the same buckets and the same other fields are equal. -/
theorem ext_buckets {a b : Database} (hframe : a.frame = b.frame)
    (hbucket : ∀ t, a.bucket t = b.bucket t) : a = b := by
  have hadserver := hbucket .adserver
  have hscam := hbucket .scam
  have hphishing := hbucket .phishing
  have hwhitelist := hbucket .whitelist
  cases a
  cases b
  simp only [frame, bucket, Database.mk.injEq, true_and] at *
  exact ⟨hadserver, hwhitelist, hscam, hphishing, hframe⟩

@[simp] theorem bucket_mapBucket_self (d : Database) (t : RuleType)
    (f : DomainRules → DomainRules) : (d.mapBucket t f).bucket t = f (d.bucket t) := by
  cases t <;> rfl

/-- Changing the rules of one type leaves those of the others alone. -/
theorem bucket_mapBucket_of_ne (d : Database) {t u : RuleType} (h : u ≠ t)
    (f : DomainRules → DomainRules) : (d.mapBucket t f).bucket u = d.bucket u := by
  cases t <;> cases u <;> first | rfl | exact absurd rfl h

@[simp] theorem frame_mapBucket (d : Database) (t : RuleType) (f : DomainRules → DomainRules) :
    (d.mapBucket t f).frame = d.frame := by
  cases t <;> rfl

@[simp] theorem frame_add (d : Database) (s : Stored) : (d.add s).frame = d.frame :=
  frame_mapBucket d s.type _

/-- Adding entries changes the rules only. -/
theorem frame_foldl_add (l : List Stored) (d : Database) : (l.foldl add d).frame = d.frame := by
  induction l generalizing d with
  | nil => rfl
  | cons s l ih => rw [List.foldl_cons, ih, frame_add]

end Database

/-! ## Compiling as a fold -/

/-- Adding rules one after the other adds the entries of those that can be cut. -/
theorem foldl_add_rules (rules : List Rule) (c : Compiled) :
    rules.foldl Compiled.add c =
      ⟨(successes (rules.map Rule.stored)).foldl Database.add c.database,
        c.issues ++ failures (rules.map Rule.stored)⟩ := by
  induction rules generalizing c with
  | nil =>
    rw [List.map_nil, failures, List.append_nil]
    rfl
  | cons r rules ih =>
    rw [List.foldl_cons, ih, Compiled.add, List.map_cons]
    cases r.stored with
    | ok s => rw [successes, failures, List.foldl_cons]
    | error issue => rw [successes, failures, List.append_assoc, List.singleton_append]

/-- The checked rules of records. -/
def checkedRules (records : List Value) : List Rule := successes (records.map parseRecord)

/-- **Compiling is a fold over the rules that can be cut.** -/
theorem compile_eq (records : List Value) :
    compile records =
      ⟨(successes ((checkedRules records).map Rule.stored)).foldl Database.add {},
        failures (records.map parseRecord) ++
          failures ((checkedRules records).map Rule.stored)⟩ := by
  rw [compile, buildDatabase, foldl_add_rules, checkedRules, List.nil_append]

/-- The entries that compiling stores, in the order of their rules. -/
def storedOf (records : List Value) : List Database.Stored :=
  successes ((checkedRules records).map Rule.stored)

theorem database_compile (records : List Value) :
    (compile records).database = (storedOf records).foldl Database.add {} := by
  rw [compile_eq, storedOf]

/-- Compiling changes the rules of the empty database only. -/
theorem frame_compile (records : List Value) :
    (compile records).database.frame = ({} : Database) := by
  rw [database_compile, Database.frame_foldl_add]
  rfl

theorem mem_successes {ε α : Type} {a : α} :
    ∀ {l : List (Except ε α)}, a ∈ successes l ↔ .ok a ∈ l
  | [] => by simp [successes]
  | .ok b :: l => by simp [successes, mem_successes (l := l)]
  | .error e :: l => by simp [successes, mem_successes (l := l)]

/-- Results that are all successes. -/
theorem successes_map_ok {ε α β : Type} {g : β → Except ε α} {f : β → α} :
    ∀ {l : List β}, (∀ b ∈ l, g b = .ok (f b)) →
      successes (l.map g) = l.map f ∧ failures (l.map g) = []
  | [], _ => ⟨rfl, rfl⟩
  | b :: l, h => by
    have ih := successes_map_ok fun c hc => h c (List.mem_cons_of_mem b hc)
    rw [List.map_cons, h b (List.mem_cons_self ..), successes, failures, ih.1, ih.2]
    exact ⟨rfl, rfl⟩

/-! ## What an addition stores -/

namespace OrderedMap

variable {α β : Type}

/-- What the entries of a map hold gains what the changed entry gains. -/
theorem flatMap_upsert_perm {key : String} {fallback : α} {f : α → α} {g : String × α → List β}
    {gain : List β} (hnew : g (key, fallback) = [])
    (hgain : ∀ v, (g (key, f v)).Perm (g (key, v) ++ gain)) :
    ∀ l : List (String × α), ((upsert key fallback f l).flatMap g).Perm (l.flatMap g ++ gain)
  | [] => by
    have h := hgain fallback
    rw [hnew] at h
    rw [upsert, List.flatMap_singleton, List.flatMap_nil]
    exact h
  | (k, v) :: rest => by
    rw [upsert]
    split_ifs with hk
    · subst hk
      rw [List.flatMap_cons, List.flatMap_cons, List.append_assoc]
      refine ((hgain v).append_right _).trans ?_
      rw [List.append_assoc]
      exact (List.perm_append_comm).append_left _
    · rw [List.flatMap_cons, List.flatMap_cons, List.append_assoc]
      exact (flatMap_upsert_perm hnew hgain rest).append_left _

/-- The values of a changed map: those there were, or the changed value. -/
theorem mem_values_upsert {key : String} {fallback : α} {f : α → α} {v : α} :
    ∀ {l : List (String × α)}, v ∈ (upsert key fallback f l).map Prod.snd →
      v ∈ l.map Prod.snd ∨ ∃ w, (w = fallback ∨ w ∈ l.map Prod.snd) ∧ v = f w
  | [], h => by
    rw [upsert, List.map_singleton, List.mem_singleton] at h
    exact Or.inr ⟨fallback, Or.inl rfl, h⟩
  | (k, w) :: rest, h => by
    rw [upsert] at h
    split_ifs at h with hk
    · rw [List.map_cons, List.mem_cons] at h
      rcases h with rfl | h
      · exact Or.inr ⟨w, Or.inr (List.mem_cons_self ..), rfl⟩
      · exact Or.inl (List.mem_cons_of_mem _ h)
    · rw [List.map_cons, List.mem_cons] at h
      rcases h with rfl | h
      · exact Or.inl (List.mem_cons_self ..)
      · rcases mem_values_upsert h with h | ⟨u, hu, rfl⟩
        · exact Or.inl (List.mem_cons_of_mem _ h)
        · exact Or.inr ⟨u, hu.imp_right (List.mem_cons_of_mem _), rfl⟩

end OrderedMap

namespace Database

theorem storedIn_alter_perm (t : RuleType) (rules : DomainRules) (token domain : String)
    (e : Entry) :
    (storedIn t (rules.alter token .empty fun byDomain =>
      byDomain.alter domain [] fun es => es ++ [e])).Perm
        (storedIn t rules ++ [⟨t, token, domain, e⟩]) := by
  refine OrderedMap.flatMap_upsert_perm rfl (fun byDomain => ?_) rules.entries
  refine OrderedMap.flatMap_upsert_perm rfl (fun es => ?_) byDomain.entries
  dsimp only
  rw [List.map_append, List.map_singleton]

theorem stored_eq (d : Database) :
    d.stored = storedIn .adserver d.adserver ++ (storedIn .scam d.scam ++
      (storedIn .phishing d.phishing ++ storedIn .whitelist d.whitelist)) := by
  simp [stored, buckets, RuleType.all, bucket]

/-- **An addition stores its entry and nothing else.** -/
theorem stored_add_perm (d : Database) (s : Stored) : (d.add s).stored.Perm (d.stored ++ [s]) := by
  obtain ⟨t, token, domain, e⟩ := s
  have h := storedIn_alter_perm t (d.bucket t) token domain e
  rw [stored_eq, stored_eq]
  cases t with
  | adserver =>
    refine (h.append_right _).trans ?_
    rw [List.append_assoc, List.append_assoc]
    exact List.perm_append_comm.append_left _
  | scam =>
    rw [List.append_assoc]
    refine List.Perm.append_left _ ((h.append_right _).trans ?_)
    rw [List.append_assoc, List.append_assoc]
    exact List.perm_append_comm.append_left _
  | phishing =>
    rw [List.append_assoc, List.append_assoc]
    refine List.Perm.append_left _ (List.Perm.append_left _ ((h.append_right _).trans ?_))
    rw [List.append_assoc, List.append_assoc]
    exact List.perm_append_comm.append_left _
  | whitelist =>
    rw [List.append_assoc, List.append_assoc, List.append_assoc]
    exact List.Perm.append_left _ (List.Perm.append_left _ (List.Perm.append_left _ h))

theorem stored_foldl_add_perm (l : List Stored) (d : Database) :
    (l.foldl add d).stored.Perm (d.stored ++ l) := by
  induction l generalizing d with
  | nil => rw [List.foldl_nil, List.append_nil]
  | cons s l ih =>
    rw [List.foldl_cons]
    refine (ih (d.add s)).trans ?_
    rw [← List.singleton_append, ← List.append_assoc]
    exact (stored_add_perm d s).append_right l

end Database

/-- **The stored entries are those of the rules that can be cut.** -/
theorem stored_compile_perm (records : List Value) :
    (compile records).database.stored.Perm (storedOf records) := by
  rw [database_compile]
  exact Database.stored_foldl_add_perm (storedOf records) {}

/-- A stored entry comes from a checked rule. -/
theorem exists_rule_of_mem_stored {records : List Value} {s : Database.Stored}
    (hs : s ∈ (compile records).database.stored) :
    ∃ r ∈ checkedRules records, r.stored = .ok s := by
  have hmem := (stored_compile_perm records).mem_iff.1 hs
  rw [storedOf, mem_successes] at hmem
  exact List.mem_map.1 hmem

/-! ## Every key holds something -/

namespace Database

/-- No domain pattern is without an entry. -/
def FilledDomains (byDomain : SelectorsByDomain) : Prop :=
  ∀ es ∈ byDomain.values, es ≠ []

/-- No token is without a domain pattern and no domain pattern without an entry. -/
def FilledRules (rules : DomainRules) : Prop :=
  ∀ byDomain ∈ rules.values, byDomain.entries ≠ [] ∧ FilledDomains byDomain

/-- Every key of a database holds something. -/
def Filled (d : Database) : Prop := ∀ t, FilledRules (d.bucket t)

theorem filledRules_empty : FilledRules .empty := fun _ h => absurd h (List.not_mem_nil)

theorem filledDomains_alter {byDomain : SelectorsByDomain} (h : FilledDomains byDomain)
    (domain : String) (e : Entry) :
    FilledDomains (byDomain.alter domain [] fun es => es ++ [e]) := by
  intro es hes
  rcases OrderedMap.mem_values_upsert hes with hes | ⟨w, -, rfl⟩
  · exact h es hes
  · exact List.append_ne_nil_of_right_ne_nil _ (List.cons_ne_nil _ _)

theorem filledRules_alter {rules : DomainRules} (h : FilledRules rules) (token domain : String)
    (e : Entry) :
    FilledRules (rules.alter token .empty fun byDomain =>
      byDomain.alter domain [] fun es => es ++ [e]) := by
  intro byDomain hb
  rcases OrderedMap.mem_values_upsert hb with hb | ⟨w, hw, rfl⟩
  · exact h byDomain hb
  · constructor
    · intro hnil
      have hkey : domain ∈ ([] : List (String × List Entry)).map Prod.fst := by
        rw [← hnil]
        exact OrderedMap.mem_keys_upsert.2 (Or.inl rfl)
      exact absurd hkey List.not_mem_nil
    · refine filledDomains_alter ?_ domain e
      rcases hw with rfl | hw
      · exact fun es hes => absurd hes List.not_mem_nil
      · exact (h w hw).2

/-- An addition leaves no key empty. -/
theorem Filled.add {d : Database} (h : d.Filled) (s : Stored) : (d.add s).Filled := by
  intro t
  by_cases ht : t = s.type
  · subst ht
    rw [Database.add, bucket_mapBucket_self]
    exact filledRules_alter (h s.type) s.token s.domain s.entry
  · rw [Database.add, bucket_mapBucket_of_ne d ht]
    exact h t

theorem Filled.foldl_add {d : Database} (h : d.Filled) (l : List Stored) :
    (l.foldl Database.add d).Filled := by
  induction l generalizing d with
  | nil => exact h
  | cons s l ih => exact ih (h.add s)

end Database

/-- **Compiling leaves no key empty.** -/
theorem filled_compile (records : List Value) : (compile records).database.Filled := by
  rw [database_compile]
  refine Database.Filled.foldl_add (fun t => ?_) _
  cases t <;> exact Database.filledRules_empty

/-! ## Rebuilding a database from its entries -/

namespace OrderedMap

variable {α β : Type}

/-- Two changes of the same key are one. -/
theorem upsert_upsert (key : String) (fallback : α) (f g : α → α) :
    ∀ l : List (String × α),
      upsert key fallback g (upsert key fallback f l) = upsert key fallback (fun v => g (f v)) l
  | [] => if_pos rfl
  | (k, v) :: rest => by
    by_cases hk : k = key
    · simp only [upsert, if_pos hk]
    · simp only [upsert, if_neg hk, upsert_upsert key fallback f g rest]

/-- A run of changes of the same key is one. -/
theorem foldl_upsert (key : String) (fallback : α) (f : β → α → α) (b : β) :
    ∀ (bs : List β) (l : List (String × α)),
      (b :: bs).foldl (fun l b => upsert key fallback (f b) l) l =
        upsert key fallback (fun v => (b :: bs).foldl (fun v b => f b v) v) l
  | [], l => rfl
  | c :: bs, l => by
    rw [List.foldl_cons, foldl_upsert key fallback f c bs, upsert_upsert]
    rfl

/-- Items grouped by keys of their own, added one after the other, make one entry for each
group. -/
theorem entries_foldl_groups {fallback : α} {f : β → α → α} :
    ∀ {groups : List (String × List β)} {m : OrderedMap α},
      ((m.entries.map Prod.fst) ++ groups.map Prod.fst).Nodup → (∀ g ∈ groups, g.2 ≠ []) →
      ((groups.flatMap fun g => g.2.map fun b => (g.1, b)).foldl
        (fun m p => m.alter p.1 fallback (f p.2)) m).entries =
          m.entries ++ groups.map fun g => (g.1, g.2.foldl (fun v b => f b v) fallback)
  | [], m, _, _ => by rw [List.flatMap_nil, List.foldl_nil, List.map_nil, List.append_nil]
  | (key, bs) :: groups, m, hnodup, hne => by
    obtain ⟨b, bs, rfl⟩ := List.exists_cons_of_ne_nil (hne _ (List.mem_cons_self ..))
    have hfold (l : List β) (m : OrderedMap α) :
        ((l.map fun b => (key, b)).foldl (fun m p => m.alter p.1 fallback (f p.2)) m).entries =
          l.foldl (fun l b => upsert key fallback (f b) l) m.entries := by
      induction l generalizing m with
      | nil => rfl
      | cons c l ih => exact ih _
    have hkey : key ∉ m.entries.map Prod.fst := by
      intro hmem
      exact (List.nodup_append.1 hnodup).2.2 key hmem key (List.mem_cons_self ..) rfl
    have hfirst := hfold (b :: bs) m
    rw [foldl_upsert, upsert_of_notMem hkey] at hfirst
    have hnodup' : ((((b :: bs).map fun b => (key, b)).foldl
        (fun m p => m.alter p.1 fallback (f p.2)) m).entries.map Prod.fst ++
          groups.map Prod.fst).Nodup := by
      rw [hfirst, List.map_append, List.map_singleton, List.append_assoc, List.singleton_append]
      exact hnodup
    rw [List.flatMap_cons, List.foldl_append,
      entries_foldl_groups hnodup' fun g hg => hne g (List.mem_cons_of_mem _ hg), hfirst,
      List.append_assoc, List.singleton_append, List.map_cons]

/-- Items grouped under distinct keys, added to the empty map. -/
theorem entries_foldl_groups_empty {fallback : α} {f : β → α → α}
    {groups : List (String × List β)} (hnodup : (groups.map Prod.fst).Nodup)
    (hne : ∀ g ∈ groups, g.2 ≠ []) :
    ((groups.flatMap fun g => g.2.map fun b => (g.1, b)).foldl
      (fun m p => m.alter p.1 fallback (f p.2)) empty).entries =
        groups.map fun g => (g.1, g.2.foldl (fun v b => f b v) fallback) :=
  entries_foldl_groups (m := empty) hnodup hne

end OrderedMap

namespace Database

/-- Adds an entry under a domain pattern. -/
def addEntry (p : String × Entry) (byDomain : SelectorsByDomain) : SelectorsByDomain :=
  byDomain.alter p.1 [] fun es => es ++ [p.2]

/-- The entries under a token, each with its domain pattern. -/
def entriesOf (byDomain : SelectorsByDomain) : List (String × Entry) :=
  byDomain.entries.flatMap fun g => g.2.map fun e => (g.1, e)

/-- The entries under a token make the map that holds them. -/
theorem foldl_addEntry {byDomain : SelectorsByDomain} (h : FilledDomains byDomain) :
    (entriesOf byDomain).foldl (fun m p => addEntry p m) .empty = byDomain := by
  have hlist (es done : List Entry) : es.foldl (fun v e => v ++ [e]) done = done ++ es := by
    induction es generalizing done with
    | nil => rw [List.foldl_nil, List.append_nil]
    | cons e es ih => rw [List.foldl_cons, ih, List.append_assoc, List.singleton_append]
  refine OrderedMap.ext_entries ?_
  refine (OrderedMap.entries_foldl_groups_empty (f := fun e es => es ++ [e]) byDomain.nodup
    fun g hg => h g.2 (List.mem_map_of_mem hg)).trans ?_
  simp only [hlist, List.nil_append, List.map_id']

/-- The entries of a bucket make the bucket. -/
theorem foldl_alter_rules {rules : DomainRules} (h : FilledRules rules) :
    ((rules.entries.flatMap fun g => (entriesOf g.2).map fun p => (g.1, p)).foldl
      (fun (m : DomainRules) q => m.alter q.1 .empty (addEntry q.2)) .empty) = rules := by
  have hgroups : (rules.entries.flatMap fun g => (entriesOf g.2).map fun p => (g.1, p)) =
      (rules.entries.map fun g => (g.1, entriesOf g.2)).flatMap
        fun g => g.2.map fun p => (g.1, p) := by
    rw [List.flatMap_map]
  have hnodup : ((rules.entries.map fun g => (g.1, entriesOf g.2)).map Prod.fst).Nodup := by
    rw [List.map_map]
    exact rules.nodup
  refine OrderedMap.ext_entries ?_
  rw [hgroups]
  refine (OrderedMap.entries_foldl_groups_empty hnodup fun g hg => ?_).trans ?_
  · obtain ⟨p, hp, rfl⟩ := List.mem_map.1 hg
    obtain ⟨hentries, hfilled⟩ := h p.2 (List.mem_map_of_mem hp)
    obtain ⟨q, hq⟩ := List.exists_mem_of_ne_nil _ hentries
    obtain ⟨e, he⟩ := List.exists_mem_of_ne_nil _ (hfilled q.2 (List.mem_map_of_mem hq))
    exact List.ne_nil_of_mem (List.mem_flatMap.2 ⟨q, hq, List.mem_map_of_mem he⟩)
  · rw [List.map_map]
    refine (List.map_congr_left fun p hp => ?_).trans (List.map_id _)
    exact Prod.ext rfl (foldl_addEntry (h p.2 (List.mem_map_of_mem hp)).2)

theorem storedIn_eq (t : RuleType) (rules : DomainRules) :
    storedIn t rules =
      (rules.entries.flatMap fun g => (entriesOf g.2).map fun p => (g.1, p)).map
        fun q => ⟨t, q.1, q.2.1, q.2.2⟩ := by
  simp only [storedIn, entriesOf, List.map_flatMap, List.map_map, Function.comp_def]

/-- Entries of one type are added in the rules of this type. -/
theorem foldl_add_of_type (t : RuleType) (l : List (String × (String × Entry))) (d : Database) :
    (l.map fun q => (⟨t, q.1, q.2.1, q.2.2⟩ : Stored)).foldl add d =
      d.mapBucket t fun rules =>
        l.foldl (fun (m : DomainRules) q => m.alter q.1 .empty (addEntry q.2)) rules := by
  induction l generalizing d with
  | nil => cases t <;> rfl
  | cons q l ih =>
    rw [List.map_cons, List.foldl_cons, ih]
    cases t <;> rfl

/-- The stored entries of a type, added to a database without rules of the type. -/
theorem foldl_add_storedIn {d : Database} {t : RuleType} (hempty : d.bucket t = .empty)
    {rules : DomainRules} (h : FilledRules rules) :
    (storedIn t rules).foldl add d = d.mapBucket t fun _ => rules := by
  rw [storedIn_eq, foldl_add_of_type]
  cases t <;>
    · rw [bucket] at hempty
      rw [mapBucket, hempty, foldl_alter_rules h, mapBucket]

/-- **A database whose keys all hold something is rebuilt from its entries.** -/
theorem foldl_add_stored {d : Database} (h : d.Filled) : d.stored.foldl add d.frame = d := by
  rw [stored_eq, List.foldl_append, List.foldl_append, List.foldl_append]
  have hadserver : FilledRules d.adserver := h .adserver
  have hscam : FilledRules d.scam := h .scam
  have hphishing : FilledRules d.phishing := h .phishing
  have hwhitelist : FilledRules d.whitelist := h .whitelist
  rw [foldl_add_storedIn rfl hadserver, foldl_add_storedIn rfl hscam,
    foldl_add_storedIn rfl hphishing, foldl_add_storedIn rfl hwhitelist]
  rfl

end Database

end PageGuard
