import PageGuard.Proofs.Json.ReadValues
import PageGuard.Proofs.Rules.Reload

/-!
# A database survives being written

A database is written as one JSON text and loaded from it.  The order of its keys may change on the
way, and what was loaded once does not change any more.

* `Database.ofText?_toText`: the text of a database is read back when the numbers in its other
  lists are.
* `Database.sameContent_reread`: what is loaded has the same content.
* `Database.Settled`: the databases whose keys ascend, with sorted values in their other lists.
* `Database.settled_of_ofValue?`: what a sorted value writes is settled.
* `Database.persists`: the two directions together.
-/

namespace PageGuard

open Json

/-! ## Maps with the same content -/

namespace OrderedMap

variable {α : Type}

/-- A map has the content of its sorted form, up to what is done to the values. -/
theorem sameContent_sortedByKey (same : α → α → Bool) (f : α → α) (m : OrderedMap α)
    (h : ∀ v ∈ m.values, same (f v) v = true) :
    (m.mapValues f).sortedByKey.sameContent same m = true := by
  have hperm := sortEntries_perm (m.mapValues f).entries
  rw [sameContent, Bool.and_eq_true, beq_iff_eq, List.all_eq_true]
  refine ⟨hperm.length_eq.trans (List.length_map _), fun p hp => ?_⟩
  obtain ⟨q, hq, rfl⟩ := List.mem_map.1 (hperm.mem_iff.1 hp)
  have hfind : m.get? q.1 = some q.2 := get?_eq_some_iff.2 hq
  simp only [hfind]
  exact h q.2 (List.mem_map_of_mem hq)

end OrderedMap

/-! ## What is loaded has the same content -/

namespace Database

/-- The values of the lists that hold no rules. -/
def extras (d : Database) : List Value := d.action ++ d.title ++ d.description

theorem forall_extras {d : Database} {Q : Value → Prop} :
    (∀ v ∈ d.extras, Q v) ↔
      (∀ v ∈ d.action, Q v) ∧ (∀ v ∈ d.title, Q v) ∧ ∀ v ∈ d.description, Q v := by
  rw [extras, List.forall_mem_append, List.forall_mem_append, and_assoc]

theorem mapExtras_eq_self {d : Database} {f : Value → Value} (h : ∀ v ∈ d.extras, f v = v) :
    d.mapExtras f = d := by
  have hmap {l : List Value} (hl : ∀ v ∈ l, f v = v) : l.map f = l :=
    (List.map_congr_left hl).trans (List.map_id l)
  obtain ⟨haction, htitle, hdescription⟩ := forall_extras.1 h
  rw [mapExtras, hmap haction, hmap htitle, hmap hdescription]

/-- The order of the keys does not count for the content of a database. -/
theorem sameContent_sorted (d : Database) : d.sorted.sameContent d = true := by
  have hbucket (t : RuleType) : (d.sorted.bucket t).sameContent
      (fun x y => x.sameContent (fun u v => u == v) y) (d.bucket t) = true := by
    rw [bucket_sorted]
    refine OrderedMap.sameContent_sortedByKey _ _ _ fun m _ => ?_
    have hinner := OrderedMap.sameContent_sortedByKey (fun u v => u == v) id m
      fun es _ => beq_self_eq_true es
    rwa [(OrderedMap.mapValues_eq_self_iff id m).2 fun _ _ => rfl] at hinner
  have hall := List.all_eq_true.2 fun t (_ : t ∈ RuleType.all) => hbucket t
  rw [sameContent, hall]
  simp [sorted]

/-- What is read back has the content of the database with sorted values. -/
theorem sameContent_reread (d : Database) (f : Value → Value) :
    (d.sorted.mapExtras f).sameContent (d.mapExtras f) = true :=
  (d.mapExtras f).sameContent_sorted

end Database

/-! ## What is loaded is settled -/

/-- The rules of a type that are read from a sorted value have ascending keys. -/
theorem DomainRules.keysAscending_of_sorted {w : Value} {rules : DomainRules} (hw : w.sorted = w)
    (h : DomainRules.ofValue? w = some rules) :
    rules.KeysAscending ∧ ∀ m ∈ rules.values, m.KeysAscending := by
  obtain ⟨hkeys, hvalues⟩ := ofList_of_sorted hw h
  refine ⟨hkeys, fun m hm => ?_⟩
  obtain ⟨u, hu, hread⟩ := hvalues m hm
  exact (ofList_of_sorted hu hread).1

namespace Database

/-- What each part of a database is read from. -/
theorem parts_of_ofValue? {members : List (String × Value)} {d : Database}
    (h : Database.ofValue? (.object members) = some d) :
    (∀ t, d.bucket t = .empty ∨ ∃ p ∈ members, DomainRules.ofValue? p.2 = some (d.bucket t)) ∧
      ∀ l ∈ [d.action, d.title, d.description], l = [] ∨ ∃ p ∈ members, p.2 = .array l := by
  obtain ⟨fields, hfields, h⟩ := Option.bind_eq_some_iff.1 h
  rw [fieldValues?] at hfields
  split_ifs at hfields
  obtain rfl := Option.some.inj hfields
  have hrules {n : String} {rules : DomainRules}
      (hread : withDefault? .empty DomainRules.ofValue? (lookup? n members) = some rules) :
      rules = .empty ∨ ∃ p ∈ members, DomainRules.ofValue? p.2 = some rules := by
    rcases withDefault?_eq_some hread with hempty | ⟨w, hw, hvalue⟩
    · exact .inl hempty
    · exact .inr ⟨(n, w), mem_of_lookup?_eq_some hw, hvalue⟩
  have hlist {n : String} {l : List Value}
      (hread : withDefault? [] Value.items? (lookup? n members) = some l) :
      l = [] ∨ ∃ p ∈ members, p.2 = .array l := by
    rcases withDefault?_eq_some hread with hempty | ⟨w, hw, hvalue⟩
    · exact .inl hempty
    · exact .inr ⟨(n, w), mem_of_lookup?_eq_some hw, Value.items?_eq_some hvalue⟩
  simp only [fieldNames, List.map_cons, List.map_nil, Option.bind_eq_bind,
    Option.bind_eq_some_iff] at h
  obtain ⟨adserver, hadserver, whitelist, hwhitelist, scam, hscam, phishing, hphishing, action,
    haction, title, htitle, description, hdescription, cleanName, -, version, -, name, -, heq⟩ := h
  obtain rfl := Option.some.inj heq
  constructor
  · intro t
    cases t with
    | adserver => exact hrules hadserver
    | scam => exact hrules hscam
    | phishing => exact hrules hphishing
    | whitelist => exact hrules hwhitelist
  · rw [List.forall_mem_cons, List.forall_mem_cons, List.forall_mem_singleton]
    exact ⟨hlist haction, hlist htitle, hlist hdescription⟩

/-- Every value in the other lists of a database is an item of a list it is read from. -/
theorem extras_of_ofValue? {members : List (String × Value)} {d : Database}
    (h : Database.ofValue? (.object members) = some d) {v : Value} (hv : v ∈ d.extras) :
    ∃ p ∈ members, ∃ l, p.2 = .array l ∧ v ∈ l := by
  obtain ⟨-, hlists⟩ := parts_of_ofValue? h
  have hlist : ∃ l ∈ [d.action, d.title, d.description], v ∈ l := by
    rw [extras, List.mem_append, List.mem_append] at hv
    simpa [or_assoc] using hv
  obtain ⟨l, hl, hmem⟩ := hlist
  rcases hlists l hl with rfl | ⟨p, hp, hvalue⟩
  · cases hmem
  · exact ⟨p, hp, l, hvalue, hmem⟩

/-- Databases whose keys ascend, with sorted values in their other lists. -/
structure Settled (d : Database) : Prop where
  keys : d.KeysAscending
  extras : ∀ v ∈ d.extras, v.sorted = v

/-- A settled database is read back as it is. -/
theorem Settled.reread {d : Database} (h : d.Settled) : d.sorted.mapExtras Value.sorted = d := by
  rw [d.sorted_eq_self_iff.2 h.keys, mapExtras_eq_self h.extras]

/-- **A database that is read from a sorted value is settled.** -/
theorem settled_of_ofValue? {members : List (String × Value)} {d : Database}
    (hsorted : (Value.object members).sorted = .object members)
    (h : Database.ofValue? (.object members) = some d) : d.Settled where
  keys t := by
    rcases (parts_of_ofValue? h).1 t with hempty | ⟨p, hp, hread⟩
    · rw [hempty]
      exact ⟨List.Pairwise.nil, List.forall_mem_nil _⟩
    · exact DomainRules.keysAscending_of_sorted ((sorted_object_iff.1 hsorted).2 p hp) hread
  extras v hv := by
    obtain ⟨p, hp, l, hvalue, hmem⟩ := extras_of_ofValue? h hv
    have hp := (sorted_object_iff.1 hsorted).2 p hp
    rw [hvalue] at hp
    exact sorted_array_iff.1 hp v hmem

/-! ## The text of a database is read back -/

variable {P : Number → Prop} {n : Nat}

/-- The values in the other lists of a database are two levels below the value it is read from. -/
theorem within_extras {members : List (String × Value)} {d : Database}
    (hwithin : (Value.object members).Within P (n + 2))
    (h : Database.ofValue? (.object members) = some d) : ∀ v ∈ d.extras, v.Within P n := by
  intro v hv
  obtain ⟨p, hp, l, hvalue, hmem⟩ := extras_of_ofValue? h hv
  have hp := Value.within_object.1 hwithin p hp
  rw [hvalue] at hp
  exact Value.within_array.1 hp v hmem

/-- The value of a database is two levels above those in its other lists. -/
theorem within_toValue {d : Database} (hn : 3 ≤ n) (h : ∀ v ∈ d.extras, v.Within P n) :
    d.toValue.Within P (n + 2) := by
  have hrules (rules : DomainRules) : (DomainRules.toValue rules).Within P (n + 1) :=
    (DomainRules.readable_toValue rules).within.mono (by omega)
  have hlist {l : List Value} (hl : ∀ v ∈ l, v.Within P n) : (Value.array l).Within P (n + 1) :=
    Value.within_array.2 hl
  have hstring (s : String) : (Value.string s).Within P (n + 1) := Value.within_leaf rfl rfl
  obtain ⟨haction, htitle, hdescription⟩ := forall_extras.1 h
  refine Value.within_object.2 fun p hp => ?_
  simp only [List.mem_cons, List.not_mem_nil, or_false] at hp
  rcases hp with rfl | rfl | rfl | rfl | rfl | rfl | rfl | rfl | rfl | rfl
  iterate 4 exact hrules _
  · exact hlist haction
  · exact hlist htitle
  · exact hlist hdescription
  iterate 3 exact hstring _

/-- **The text of a database is read back when the numbers in its other lists are.** -/
theorem ofText?_toText {d : Database}
    (h : ∀ v ∈ d.extras, v.Within Number.ReadsBack (maxDepth - 2)) :
    Value.ofText? d.toText = some d.toValue := by
  have hwithin := within_toValue (by decide) h
  rw [toText, Value.compact, chars_eq_laid 0]
  exact ofText?_laid .compact hwithin.1 hwithin.2

/-- Whole numbers are read back. -/
theorem ofText?_toText_of_whole {d : Database}
    (h : ∀ v ∈ d.extras, v.Within Number.Whole (maxDepth - 2)) :
    Value.ofText? d.toText = some d.toValue :=
  ofText?_toText fun v hv => ⟨fun n hn => ((h v hv).1 n hn).readsBack, (h v hv).2⟩

/-! ## Both directions -/

/-- The text of a database loads without issues, and what is loaded has the same content. -/
def LoadsBack (d : Database) : Prop :=
  ∃ d', loadDatabase d.toText = .ok ⟨d', []⟩ ∧ d'.sameContent (d.mapExtras Value.sorted) = true ∧
    ((∀ v ∈ d.extras, v.sorted = v) → d'.sameContent d = true)

theorem loadsBack_of_ofText? {d : Database} (h : Value.ofText? d.toText = some d.toValue) :
    d.LoadsBack := by
  refine ⟨_, loadDatabase_eq_ok h, d.sameContent_reread _, fun hextras => ?_⟩
  have hsame := d.sameContent_reread Value.sorted
  rwa [mapExtras_eq_self hextras] at hsame

/-- The database of an object is read from its sorted value, and there are no issues. -/
theorem ofValue?_of_loadDatabase {text : String} {members : List (String × Value)} {c : Compiled}
    (htext : Value.ofText? text = some (.object members)) (hload : loadDatabase text = .ok c) :
    c.issues = [] ∧ Database.ofValue? (Value.object members).sorted = some c.database := by
  rw [loadDatabase, Value.sortedOfText?, htext, Option.map_some] at hload
  rw [Value.sorted] at hload ⊢
  dsimp only [loadValue] at hload
  split at hload
  · rename_i d hread
    obtain rfl := Except.ok.inj hload
    exact ⟨rfl, hread⟩
  · cases hload

/-- **A database survives being written.**  Its text loads without issues and with the same content,
whatever its keys are, when the values in its other lists hold whole numbers only and are not too
deep, and in any case when the text is read back as the value that was written.  What was loaded
from an object comes back as it is, the order of its keys included, when its fractional numbers are
read back. -/
theorem persists :
    (∀ d : Database, (∀ v ∈ d.extras, v.Within Number.Whole (maxDepth - 2)) → d.LoadsBack) ∧
      (∀ d : Database, Value.ofText? d.toText = some d.toValue → d.LoadsBack) ∧
      ∀ (text : String) (members : List (String × Value)) (c : Compiled),
        Value.ofText? text = some (.object members) → loadDatabase text = .ok c →
        (∀ v ∈ c.database.extras, ∀ x, Number.double x ∈ v.numbers →
          (Number.double x).ReadsBack) →
        c.issues = [] ∧ loadDatabase c.database.toText = .ok c := by
  refine ⟨fun d h => loadsBack_of_ofText? (ofText?_toText_of_whole h),
    fun d h => loadsBack_of_ofText? h, ?_⟩
  intro text members c htext hload hdoubles
  obtain ⟨hissues, hread⟩ := ofValue?_of_loadDatabase htext hload
  have hsorted := sorted_sorted (.object members)
  have hwithin := within_sorted _ (within_of_ofText? htext)
  rw [Value.sorted] at hread hsorted hwithin
  have hextras : ∀ v ∈ c.database.extras, v.Within Number.ReadsBack (maxDepth - 2) := by
    intro v hv
    obtain ⟨hmade, hdepth⟩ := within_extras hwithin hread v hv
    refine ⟨fun n hn => ?_, hdepth⟩
    rcases hmade n hn with hwhole | ⟨x, rfl⟩
    · exact hwhole.readsBack
    · exact hdoubles v hv x hn
  have hback := loadDatabase_eq_ok (ofText?_toText hextras)
  rw [(settled_of_ofValue? hsorted hread).reread] at hback
  refine ⟨hissues, hback.trans ?_⟩
  rw [← hissues]

/-- A database with a token of its own, written as it is, and one loaded from a text whose keys
descend. -/
theorem own_token_persists :
    let d : Database :=
      { scam := ⟨[("#$#", ⟨[("b.test", [⟨"p", none, some true, none⟩]), ("", [])], by decide⟩)],
          by decide⟩
        action := [.number (.int 7), .object [("k", .null)]] }
    let text := "\x7b\"title\":[-1],\"scam\":\x7b\"##\":\x7b\"b.test\":[[\"p\"]],\"a.test\":[]\x7d\x7d\x7d"
    let loaded : Database :=
      { scam := ⟨[("##", ⟨[("a.test", []), ("b.test", [Entry.ofSelector "p"])], by decide⟩)],
          by decide⟩
        title := [.number (.int (-1))] }
    d.LoadsBack ∧ Value.ofText? d.toText = some d.toValue ∧ loadDatabase text = .ok ⟨loaded, []⟩ ∧
      loadDatabase loaded.toText = .ok ⟨loaded, []⟩ := by
  intro d text loaded
  have hwhole : ∀ v ∈ d.extras, v.Within Number.Whole (maxDepth - 2) := by
    simp [d, extras, Value.Within, Value.numbers, Value.memberNumbers, Value.depth,
      Value.memberDepth, Number.Whole, maxDepth]
  have hread : Value.ofText? d.toText = some d.toValue := ofText?_toText_of_whole hwhole
  have hload : loadDatabase text = .ok ⟨loaded, []⟩ := by decide +kernel
  have hmembers : ∃ members, Value.ofText? text = some (.object members) := by
    refine ⟨[("title", .array [.number (.int (-1))]), ("scam", .object [("##", .object
      [("b.test", .array [.array [.string "p"]]), ("a.test", .array [])])])], ?_⟩
    decide +kernel
  obtain ⟨members, hmembers⟩ := hmembers
  have hdoubles : ∀ v ∈ loaded.extras, ∀ x, Number.double x ∈ v.numbers →
      (Number.double x).ReadsBack := by
    simp [loaded, extras, Value.numbers]
  exact ⟨persists.1 d hwhole, hread, hload,
    (persists.2.2 text members ⟨loaded, []⟩ hmembers hload hdoubles).2⟩

end Database

end PageGuard
