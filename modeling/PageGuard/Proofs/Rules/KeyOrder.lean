import PageGuard.Rules.Basic
import Mathlib.Data.String.Basic

/-!
# The order of keys

An ordered map keeps its keys in the order of their insertion, and looks each one up in its one
entry.  Here is the map with its keys sorted, and the condition under which sorting changes nothing.

* `OrderedMap.get?_eq_some_iff`: the value of a key is that of its entry.
* `OrderedMap.sortedByKey`: the same entries in the order of their keys.
* `OrderedMap.sortedByKey_eq_self_iff`: a map is its sorted form exactly when its keys ascend.
* `OrderedMap.placeKey`: a key put among ascending ones.
* `OrderedMap.ofList_eq`: entries with distinct keys, inserted one after the other, stay in order.
-/

namespace PageGuard.OrderedMap

variable {α β : Type}

/-- Maps with the same entries in the same order are equal. -/
theorem ext_entries {m n : OrderedMap α} (h : m.entries = n.entries) : m = n := by
  obtain ⟨l, hl⟩ := m
  obtain ⟨l', hl'⟩ := n
  obtain rfl : l = l' := h
  rfl

/-! ## Looking up -/

theorem find?_eq_some_of_mem {k : String} {v : α} :
    ∀ {l : List (String × α)}, (l.map Prod.fst).Nodup → (k, v) ∈ l → find? k l = some v
  | (k', w) :: rest, hnodup, hmem => by
    rw [List.map_cons, List.nodup_cons] at hnodup
    rw [find?]
    rcases List.mem_cons.1 hmem with heq | hmem
    · obtain ⟨rfl, rfl⟩ := Prod.mk.inj heq
      rw [if_pos rfl]
    · have hne : k' ≠ k := by
        rintro rfl
        exact hnodup.1 (List.mem_map.2 ⟨_, hmem, rfl⟩)
      rw [if_neg hne, find?_eq_some_of_mem hnodup.2 hmem]

theorem mem_of_find?_eq_some {k : String} {v : α} :
    ∀ {l : List (String × α)}, find? k l = some v → (k, v) ∈ l
  | (k', w) :: rest, h => by
    rw [find?] at h
    split_ifs at h with hkey
    · rw [← hkey, Option.some.inj h]
      exact List.mem_cons_self ..
    · exact List.mem_cons_of_mem _ (mem_of_find?_eq_some h)

/-- A key has one value, that of its entry. -/
theorem get?_eq_some_iff {m : OrderedMap α} {k : String} {v : α} :
    m.get? k = some v ↔ (k, v) ∈ m.entries :=
  ⟨mem_of_find?_eq_some, find?_eq_some_of_mem m.nodup⟩

/-! ## Sorting -/

/-- Entries in the order of their keys. -/
def sortEntries (l : List (String × α)) : List (String × α) :=
  l.mergeSort fun a b => a.1 ≤ b.1

theorem sortEntries_perm (l : List (String × α)) : (sortEntries l).Perm l :=
  List.mergeSort_perm l _

theorem pairwise_sortEntries (l : List (String × α)) :
    (sortEntries l).Pairwise fun a b => a.1 ≤ b.1 := by
  have htrans (a b c : String × α) (hab : decide (a.1 ≤ b.1) = true)
      (hbc : decide (b.1 ≤ c.1) = true) : decide (a.1 ≤ c.1) = true :=
    decide_eq_true ((of_decide_eq_true hab).trans (of_decide_eq_true hbc))
  have htotal (a b : String × α) : (decide (a.1 ≤ b.1) || decide (b.1 ≤ a.1)) = true := by
    rw [Bool.or_eq_true, decide_eq_true_iff, decide_eq_true_iff]
    exact le_total a.1 b.1
  exact (List.pairwise_mergeSort htrans htotal l).imp fun h => of_decide_eq_true h

/-- Entries with distinct keys are sorted to ascending keys. -/
theorem ascending_sortEntries {l : List (String × α)} (h : (l.map Prod.fst).Nodup) :
    ((sortEntries l).map Prod.fst).Pairwise (· < ·) := by
  have hnodup : ((sortEntries l).map Prod.fst).Nodup :=
    ((sortEntries_perm l).map Prod.fst).nodup_iff.2 h
  rw [List.pairwise_map]
  rw [List.Nodup, List.pairwise_map] at hnodup
  exact ((pairwise_sortEntries l).and hnodup).imp fun hab => lt_of_le_of_ne hab.1 hab.2

/-- Two lists of the same entries with ascending keys are equal. -/
theorem eq_of_perm_of_ascending {l l' : List (String × α)} (h : l.Perm l')
    (hl : (l.map Prod.fst).Pairwise (· < ·)) (hl' : (l'.map Prod.fst).Pairwise (· < ·)) :
    l = l' := by
  rw [List.pairwise_map] at hl hl'
  refine h.eq_of_pairwise (fun a b _ _ hab hba => ?_) hl hl'
  exact absurd hba (lt_asymm hab)

/-- The map with its keys in ascending order. -/
def sortedByKey (m : OrderedMap α) : OrderedMap α :=
  ⟨sortEntries m.entries, ((sortEntries_perm m.entries).map Prod.fst).nodup_iff.2 m.nodup⟩

/-- The keys ascend. -/
def KeysAscending (m : OrderedMap α) : Prop := m.keys.Pairwise (· < ·)

theorem keysAscending_sortedByKey (m : OrderedMap α) : m.sortedByKey.KeysAscending :=
  ascending_sortEntries m.nodup

/-- **Sorting changes nothing exactly when the keys ascend.** -/
theorem sortedByKey_eq_self_iff (m : OrderedMap α) : m.sortedByKey = m ↔ m.KeysAscending := by
  constructor
  · intro h
    rw [← h]
    exact keysAscending_sortedByKey m
  · intro h
    exact ext_entries
      (eq_of_perm_of_ascending (sortEntries_perm m.entries) (keysAscending_sortedByKey m) h)

/-! ## Changing the values -/

/-- The map with every value changed. -/
def mapValues (f : α → β) (m : OrderedMap α) : OrderedMap β :=
  ⟨m.entries.map fun p => (p.1, f p.2), by
    rw [List.map_map]
    exact m.nodup⟩

/-- The map stays as it is exactly when each of its values does. -/
theorem mapValues_eq_self_iff (f : α → α) (m : OrderedMap α) :
    m.mapValues f = m ↔ ∀ v ∈ m.values, f v = v := by
  constructor
  · intro h v hv
    obtain ⟨⟨k, w⟩, hw, rfl⟩ := List.mem_map.1 hv
    have hmap : m.entries.map (fun p => (p.1, f p.2)) = m.entries.map id := by
      rw [List.map_id]
      exact congrArg entries h
    exact (Prod.mk.inj (List.map_inj_left.1 hmap _ hw)).2
  · intro h
    refine ext_entries ((List.map_congr_left fun p hp => ?_).trans (List.map_id _))
    exact Prod.ext rfl (h p.2 (List.mem_map_of_mem hp))

/-- The keys do not depend on the values. -/
@[simp] theorem keys_mapValues (f : α → β) (m : OrderedMap α) : (m.mapValues f).keys = m.keys := by
  simp [keys, mapValues, Function.comp_def]

/-- Sorting looks at the keys only. -/
theorem sortedByKey_mapValues (f : α → β) (m : OrderedMap α) :
    (m.mapValues f).sortedByKey = m.sortedByKey.mapValues f := by
  refine ext_entries (eq_of_perm_of_ascending ?_ (keysAscending_sortedByKey _) ?_)
  · exact (sortEntries_perm _).trans ((sortEntries_perm m.entries).symm.map _)
  · have h := keysAscending_sortedByKey m
    rwa [KeysAscending, ← keys_mapValues f] at h

/-- Sorting keeps the values. -/
theorem mem_values_sortedByKey {m : OrderedMap α} {v : α} :
    v ∈ m.sortedByKey.values ↔ v ∈ m.values :=
  ((sortEntries_perm m.entries).map Prod.snd).mem_iff

/-! ## Placing a key -/

/-- Puts a key among ascending ones, unless it stands there already. -/
def placeKey (key : String) : List String → List String
  | [] => [key]
  | k :: keys =>
    if key < k then key :: k :: keys
    else if key = k then k :: keys
    else k :: placeKey key keys

theorem mem_placeKey {key k : String} :
    ∀ {keys : List String}, k ∈ placeKey key keys ↔ k = key ∨ k ∈ keys
  | [] => List.mem_singleton.trans (or_iff_left List.not_mem_nil).symm
  | l :: keys => by
    have ih : k ∈ placeKey key keys ↔ k = key ∨ k ∈ keys := mem_placeKey
    rw [placeKey]
    split_ifs with hlt heq
    · exact List.mem_cons
    · rw [heq, List.mem_cons]
      exact or_self_left.symm
    · rw [List.mem_cons, ih, List.mem_cons]
      exact or_left_comm

/-- Placing keeps keys in ascending order. -/
theorem ascending_placeKey {key : String} :
    ∀ {keys : List String}, keys.Pairwise (· < ·) → (placeKey key keys).Pairwise (· < ·)
  | [], _ => List.pairwise_singleton _ key
  | l :: keys, h => by
    obtain ⟨hfirst, hrest⟩ := List.pairwise_cons.1 h
    rw [placeKey]
    split_ifs with hlt heq
    · refine List.pairwise_cons.2 ⟨fun k hk => ?_, h⟩
      rcases List.mem_cons.1 hk with rfl | hk
      · exact hlt
      · exact hlt.trans (hfirst k hk)
    · exact h
    · have hgt : l < key := lt_of_le_of_ne (not_lt.1 hlt) (Ne.symm heq)
      refine List.pairwise_cons.2 ⟨fun k hk => ?_, ascending_placeKey hrest⟩
      rcases mem_placeKey.1 hk with rfl | hk
      · exact hgt
      · exact hfirst k hk

/-! ## Inserting one entry after the other -/

/-- A new key goes to the end. -/
theorem upsert_of_notMem {key : String} {fallback : α} {f : α → α} :
    ∀ {l : List (String × α)}, key ∉ l.map Prod.fst →
      upsert key fallback f l = l ++ [(key, f fallback)]
  | [], _ => rfl
  | (k, v) :: rest, h => by
    rw [List.map_cons, List.mem_cons, not_or] at h
    rw [upsert, if_neg (Ne.symm h.1), upsert_of_notMem h.2, List.cons_append]

/-- The entries of a map under construction, followed by entries with keys of their own. -/
theorem entries_foldl_insert :
    ∀ (l : List (String × α)) (m : OrderedMap α), ((m.entries ++ l).map Prod.fst).Nodup →
      (l.foldl (fun m p => m.insert p.1 p.2) m).entries = m.entries ++ l
  | [], m, _ => by rw [List.foldl_nil, List.append_nil]
  | p :: l, m, h => by
    have hkey : p.1 ∉ m.entries.map Prod.fst := by
      intro hmem
      rw [List.map_append, List.map_cons, List.nodup_append] at h
      exact h.2.2 _ hmem _ (List.mem_cons_self ..) rfl
    have hinsert : (m.insert p.1 p.2).entries = m.entries ++ [p] := upsert_of_notMem hkey
    rw [List.foldl_cons, entries_foldl_insert l _ (by rwa [hinsert, List.append_assoc]), hinsert,
      List.append_assoc, List.singleton_append]

/-- Entries with distinct keys make the map that holds them in their order. -/
theorem ofList_eq (m : OrderedMap α) : ofList m.entries = m :=
  ext_entries (entries_foldl_insert m.entries empty m.nodup)

end PageGuard.OrderedMap
