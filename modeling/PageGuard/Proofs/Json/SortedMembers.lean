import PageGuard.Json.Field
import PageGuard.Proofs.Json.Values
import PageGuard.Proofs.Rules.KeyOrder
import Mathlib.Data.List.Nodup

/-!
# Objects with sorted members

`Value.sorted` puts the members of an object in the order of their names.  An object whose names
are distinct loses no member, and the fields of a structure are the same.

* `sorted_sorted`: sorting again changes nothing.
* `sortedMembers_map`: the members of a map come out in the order of its sorted keys.
* `fieldValues?_sorted`: a structure reads the same fields, each with its own members sorted.
-/

namespace PageGuard.Json

open OrderedMap

variable {α : Type}

/-! ## Placing a member -/

/-- Placing a member places its name. -/
theorem keys_placeMember (k : String) (v : Value) :
    ∀ l : List (String × Value), (placeMember k v l).map Prod.fst = placeKey k (l.map Prod.fst)
  | [] => rfl
  | (m, w) :: rest => by
    rw [placeMember, List.map_cons, placeKey]
    split_ifs with hlt heq
    · rfl
    · rw [heq]
      rfl
    · rw [List.map_cons, keys_placeMember k v rest]

/-- Placing keeps the names in ascending order. -/
theorem ascending_placeMember {k : String} {v : Value} {l : List (String × Value)}
    (h : (l.map Prod.fst).Pairwise (· < ·)) :
    ((placeMember k v l).map Prod.fst).Pairwise (· < ·) := by
  rw [keys_placeMember]
  exact ascending_placeKey h

/-- Placing a member with a new name adds it. -/
theorem placeMember_perm {k : String} {v : Value} :
    ∀ {l : List (String × Value)}, k ∉ l.map Prod.fst →
      (placeMember k v l).Perm ((k, v) :: l)
  | [], _ => List.Perm.refl _
  | (m, w) :: rest, h => by
    rw [List.map_cons, List.mem_cons, not_or] at h
    rw [placeMember]
    split_ifs with hlt heq
    · exact List.Perm.refl _
    · exact absurd heq h.1
    · exact ((placeMember_perm h.2).cons _).trans (List.Perm.swap ..)

/-! ## Placing all members -/

theorem ascending_sortedMembers :
    ∀ {ms done : List (String × Value)}, (done.map Prod.fst).Pairwise (· < ·) →
      ((Value.sortedMembers ms done).map Prod.fst).Pairwise (· < ·)
  | [], _, h => by rwa [Value.sortedMembers]
  | (k, v) :: rest, _, h => by
    rw [Value.sortedMembers]
    exact ascending_sortedMembers (ascending_placeMember h)

/-- Members with distinct names all stay, each with its own members sorted. -/
theorem sortedMembers_perm :
    ∀ {ms done : List (String × Value)}, ((ms ++ done).map Prod.fst).Nodup →
      (Value.sortedMembers ms done).Perm (ms.map (fun p => (p.1, p.2.sorted)) ++ done)
  | [], _, _ => by
    rw [Value.sortedMembers]
    exact List.Perm.refl _
  | (k, v) :: rest, done, h => by
    rw [List.cons_append, List.map_cons, List.nodup_cons, List.map_append, List.mem_append,
      not_or] at h
    have hplace := placeMember_perm (v := v.sorted) h.1.2
    have hnodup : ((rest ++ placeMember k v.sorted done).map Prod.fst).Nodup := by
      rw [((hplace.append_left rest).map Prod.fst).nodup_iff,
        (List.perm_middle.map Prod.fst).nodup_iff, List.map_cons, List.nodup_cons,
        List.map_append, List.mem_append, not_or]
      exact h
    rw [Value.sortedMembers]
    refine (sortedMembers_perm hnodup).trans ?_
    exact (hplace.append_left _).trans List.perm_middle

/-- **The members of a map come out in the order of its sorted keys.** -/
theorem sortedMembers_map (f : α → Value) (m : OrderedMap α) :
    Value.sortedMembers (m.entries.map fun p => (p.1, f p.2)) [] =
      m.sortedByKey.entries.map fun p => (p.1, (f p.2).sorted) := by
  have hnodup :
      ((m.entries.map (fun p : String × α => (p.1, f p.2)) ++ []).map Prod.fst).Nodup := by
    rw [List.append_nil, List.map_map]
    exact m.nodup
  have hperm := sortedMembers_perm hnodup
  rw [List.append_nil, List.map_map] at hperm
  refine eq_of_perm_of_ascending
    (hperm.trans ((sortEntries_perm m.entries).symm.map fun p : String × α =>
      (p.1, (f p.2).sorted))) ?_ ?_
  · exact ascending_sortedMembers List.Pairwise.nil
  · rw [List.map_map]
    exact keysAscending_sortedByKey m

/-- Items are sorted one by one. -/
theorem sortedItems_eq_map : ∀ vs : List Value, Value.sortedItems vs = vs.map Value.sorted
  | [] => rfl
  | v :: vs => by rw [Value.sortedItems, sortedItems_eq_map vs, List.map_cons]

/-- Ascending members stay in place, each with its own members sorted. -/
theorem sortedMembers_of_ascending {ms : List (String × Value)}
    (h : (ms.map Prod.fst).Pairwise (· < ·)) :
    Value.sortedMembers ms [] = ms.map fun p => (p.1, p.2.sorted) := by
  let m : OrderedMap Value := ⟨ms, h.imp fun hlt => ne_of_lt hlt⟩
  have hmap := sortedMembers_map id m
  rw [m.sortedByKey_eq_self_iff.2 h] at hmap
  exact (congrArg (Value.sortedMembers · []) (List.map_id ms).symm).trans hmap

/-! ## Sorted values -/

theorem mem_placeMember {k : String} {v : Value} {p : String × Value} :
    ∀ {l : List (String × Value)}, p ∈ placeMember k v l → p = (k, v) ∨ p ∈ l
  | [], h => Or.inl (List.mem_singleton.1 h)
  | (m, w) :: rest, h => by
    rw [placeMember] at h
    split_ifs at h
    · exact List.mem_cons.1 h
    · exact (List.mem_cons.1 h).imp_right (List.mem_cons_of_mem _)
    · rcases List.mem_cons.1 h with rfl | h
      · exact Or.inr (List.mem_cons_self ..)
      · exact (mem_placeMember h).imp_right (List.mem_cons_of_mem _)

/-- A member of a sorted object is a sorted member of the object. -/
theorem mem_sortedMembers {p : String × Value} :
    ∀ {ms done : List (String × Value)}, p ∈ Value.sortedMembers ms done →
      (∃ q ∈ ms, p.2 = q.2.sorted) ∨ p ∈ done
  | [], _, h => Or.inr (by rwa [Value.sortedMembers] at h)
  | (k, v) :: rest, done, h => by
    rw [Value.sortedMembers] at h
    rcases mem_sortedMembers h with ⟨q, hq, hvalue⟩ | h
    · exact Or.inl ⟨q, List.mem_cons_of_mem _ hq, hvalue⟩
    · rcases mem_placeMember h with rfl | h
      · exact Or.inl ⟨(k, v), List.mem_cons_self .., rfl⟩
      · exact Or.inr h

/-- A list is sorted when its items are. -/
theorem sorted_array_iff {vs : List Value} :
    (Value.array vs).sorted = .array vs ↔ ∀ v ∈ vs, v.sorted = v := by
  rw [Value.sorted, sortedItems_eq_map, Value.array.injEq]
  exact (List.map_inj_left (g := id)).symm.trans (by rw [List.map_id]) |>.symm

/-- An object is sorted when its names ascend and its members are sorted. -/
theorem sorted_object_iff {ms : List (String × Value)} :
    (Value.object ms).sorted = .object ms ↔
      (ms.map Prod.fst).Pairwise (· < ·) ∧ ∀ p ∈ ms, p.2.sorted = p.2 := by
  rw [Value.sorted, Value.object.injEq]
  constructor
  · intro h
    have hascending : (ms.map Prod.fst).Pairwise (· < ·) := by
      rw [← h]
      exact ascending_sortedMembers List.Pairwise.nil
    refine ⟨hascending, fun p hp => ?_⟩
    rw [sortedMembers_of_ascending hascending] at h
    exact (Prod.mk.inj (List.map_inj_left.1 (h.trans (List.map_id ms).symm) p hp)).2
  · rintro ⟨hascending, hsorted⟩
    rw [sortedMembers_of_ascending hascending]
    have hmap : ms.map (fun p => (p.1, p.2.sorted)) = ms.map id :=
      List.map_congr_left fun p hp => Prod.ext rfl (hsorted p hp)
    rw [hmap, List.map_id]

/-- **Sorting again changes nothing.** -/
theorem sorted_sorted (v : Value) : v.sorted.sorted = v.sorted := by
  induction v using Value.induct with
  | array vs ih =>
    rw [Value.sorted, sorted_array_iff, sortedItems_eq_map]
    exact List.forall_mem_map.2 ih
  | object ms ih =>
    rw [Value.sorted, sorted_object_iff]
    refine ⟨ascending_sortedMembers List.Pairwise.nil, fun p hp => ?_⟩
    rcases mem_sortedMembers hp with ⟨q, hq, hvalue⟩ | hp
    · rw [hvalue, ih q hq]
    · cases hp
  | null => rfl
  | bool b => rfl
  | number n => rfl
  | string s => rfl

/-- Sorting stays within the same bounds. -/
theorem within_sorted {P : Number → Prop} (v : Value) :
    ∀ {n : Nat}, v.Within P n → v.sorted.Within P n := by
  induction v using Value.induct with
  | array vs ih =>
    intro n h
    obtain ⟨k, rfl, hitems⟩ := h.of_array
    rw [Value.sorted, Value.within_array, sortedItems_eq_map]
    exact List.forall_mem_map.2 fun v hv => ih v hv (hitems v hv)
  | object ms ih =>
    intro n h
    obtain ⟨k, rfl, hmembers⟩ := h.of_object
    rw [Value.sorted, Value.within_object]
    intro p hp
    rcases mem_sortedMembers hp with ⟨q, hq, hvalue⟩ | hp
    · rw [hvalue]
      exact ih q hq (hmembers q hq)
    · cases hp
  | null => exact id
  | bool b => exact id
  | number n => exact id
  | string s => exact id

/-! ## Reading fields -/

/-- A name is looked up among distinct names as the member that has it. -/
theorem lookup?_eq_some_iff {n : String} {v : Value} :
    ∀ {l : List (String × Value)}, (l.map Prod.fst).Nodup →
      (lookup? n l = some v ↔ (n, v) ∈ l)
  | [], _ => by simp [lookup?]
  | (k, w) :: rest, h => by
    rw [List.map_cons, List.nodup_cons] at h
    rw [lookup?]
    split_ifs with hk
    · subst hk
      rw [Option.some.injEq, List.mem_cons, Prod.mk.injEq]
      refine ⟨fun hw => Or.inl ⟨rfl, hw.symm⟩, fun hmem => ?_⟩
      rcases hmem with ⟨-, hw⟩ | hmem
      · exact hw.symm
      · exact absurd (List.mem_map_of_mem hmem) h.1
    · rw [lookup?_eq_some_iff h.2, List.mem_cons, Prod.mk.injEq, or_iff_right]
      exact fun hn => hk hn.1.symm

/-- The order of distinct names does not count for looking one up. -/
theorem lookup?_perm {l l' : List (String × Value)} (h : l.Perm l')
    (hl : (l.map Prod.fst).Nodup) (n : String) : lookup? n l = lookup? n l' := by
  refine Option.ext fun v => ?_
  rw [lookup?_eq_some_iff hl, lookup?_eq_some_iff ((h.map Prod.fst).nodup_iff.1 hl)]
  exact h.mem_iff

theorem lookup?_map (f : Value → Value) (n : String) :
    ∀ l : List (String × Value),
      lookup? n (l.map fun p => (p.1, f p.2)) = (lookup? n l).map f
  | [] => rfl
  | (k, v) :: rest => by
    rw [List.map_cons, lookup?, lookup?, lookup?_map f n rest]
    split_ifs <;> rfl

/-- Of distinct names none is repeated. -/
theorem repeated_eq_false {l : List (String × Value)} (h : (l.map Prod.fst).Nodup) (n : String) :
    repeated n l = false := by
  have hcount : (l.filter fun m => m.1 = n).length = (l.map Prod.fst).count n := by
    rw [← List.countP_eq_length_filter, List.count, List.countP_map]
    rfl
  rw [repeated, decide_eq_false_iff_not, hcount]
  exact not_lt.2 (List.nodup_iff_count_le_one.1 h n)

/-- The fields of an object with distinct names. -/
theorem fieldValues?_object {names : List String} {l : List (String × Value)}
    (h : (l.map Prod.fst).Nodup) :
    fieldValues? names (.object l) = some (names.map fun n => lookup? n l) := by
  rw [fieldValues?, if_neg]
  rw [List.any_eq_true]
  rintro ⟨n, -, hn⟩
  rw [repeated_eq_false h n] at hn
  exact Bool.false_ne_true hn

/-- A name is looked up in a sorted object as in the object. -/
theorem lookup?_sortedMembers {l : List (String × Value)} (h : (l.map Prod.fst).Nodup)
    (n : String) : lookup? n (Value.sortedMembers l []) = (lookup? n l).map Value.sorted := by
  have hperm : (Value.sortedMembers l []).Perm (l.map (fun p => (p.1, p.2.sorted)) ++ []) :=
    sortedMembers_perm (by rwa [List.append_nil])
  rw [List.append_nil] at hperm
  have hsorted : ((Value.sortedMembers l []).map Prod.fst).Nodup := by
    rw [(hperm.map Prod.fst).nodup_iff, List.map_map]
    exact h
  rw [lookup?_perm hperm hsorted, lookup?_map]

/-- **A structure reads the same fields from sorted members.** -/
theorem fieldValues?_sorted {names : List String} {l : List (String × Value)}
    (h : (l.map Prod.fst).Nodup) :
    fieldValues? names (Value.object l).sorted =
      some (names.map fun n => (lookup? n l).map Value.sorted) := by
  have hsorted : ((Value.sortedMembers l []).map Prod.fst).Nodup :=
    (ascending_sortedMembers List.Pairwise.nil).imp fun hlt => ne_of_lt hlt
  rw [Value.sorted, fieldValues?_object hsorted]
  exact congrArg some (List.map_congr_left fun n _ => lookup?_sortedMembers h n)

/-! ## Decoded fields -/

/-- Members that are decoded one by one keep their names. -/
theorem keys_of_mapM_eq_some {decode : Value → Option α} :
    ∀ {ms : List (String × Value)} {l : List (String × α)},
      ms.mapM (fun p => (decode p.2).map (p.1, ·)) = some l →
        l.map Prod.fst = ms.map Prod.fst ∧ ∀ q ∈ l, ∃ p ∈ ms, decode p.2 = some q.2
  | [], _, h => by
    rw [← Option.some.inj h]
    exact ⟨rfl, List.forall_mem_nil _⟩
  | p :: ms, _, h => by
    simp only [List.mapM_cons, Option.bind_eq_bind, Option.bind_eq_some_iff] at h
    obtain ⟨q, hq, l, hl, heq⟩ := h
    obtain ⟨v, hv, rfl⟩ := Option.map_eq_some_iff.1 hq
    obtain ⟨hkeys, hvalues⟩ := keys_of_mapM_eq_some hl
    rw [← Option.some.inj heq, List.map_cons, List.map_cons, hkeys, List.forall_mem_cons]
    refine ⟨rfl, ⟨p, List.mem_cons_self .., hv⟩, fun q hq => ?_⟩
    obtain ⟨p', hp', hvalue⟩ := hvalues q hq
    exact ⟨p', List.mem_cons_of_mem p hp', hvalue⟩

/-- A map that is read from sorted members has ascending keys, and each of its values is read from
a sorted one. -/
theorem ofList_of_sorted {decode : Value → Option α} {w : Value} {m : OrderedMap α}
    (hw : w.sorted = w) (h : (membersOf? decode w).map ofList = some m) :
    m.KeysAscending ∧ ∀ v ∈ m.values, ∃ u : Value, u.sorted = u ∧ decode u = some v := by
  obtain ⟨l, hl, rfl⟩ := Option.map_eq_some_iff.1 h
  cases w with
  | object ms =>
    obtain ⟨hascending, hsorted⟩ := sorted_object_iff.1 hw
    obtain ⟨hkeys, hvalues⟩ := keys_of_mapM_eq_some hl
    rw [← hkeys] at hascending
    have hmap := ofList_eq ⟨l, hascending.imp fun hlt => ne_of_lt hlt⟩
    rw [hmap]
    refine ⟨hascending, fun v hv => ?_⟩
    obtain ⟨q, hq, rfl⟩ := List.mem_map.1 hv
    obtain ⟨p, hp, hvalue⟩ := hvalues q hq
    exact ⟨p.2, hsorted p hp, hvalue⟩
  | _ => cases hl

/-- A field that is absent or decoded. -/
theorem withDefault?_eq_some {fallback : α} {decode : Value → Option α} {field : Option Value}
    {a : α} (h : withDefault? fallback decode field = some a) :
    a = fallback ∨ ∃ w, field = some w ∧ decode w = some a := by
  cases field with
  | none => exact Or.inl (Option.some.inj h).symm
  | some w => exact Or.inr ⟨w, rfl, h⟩

theorem Value.items?_eq_some {w : Value} {l : List Value} (h : w.items? = some l) :
    w = .array l := by
  cases w with
  | array items => rw [Option.some.inj h]
  | _ => cases h

theorem mem_of_lookup?_eq_some {n : String} {w : Value} :
    ∀ {l : List (String × Value)}, lookup? n l = some w → (n, w) ∈ l
  | (k, v) :: rest, h => by
    rw [lookup?] at h
    split_ifs at h with hk
    · rw [← hk, Option.some.inj h]
      exact List.mem_cons_self ..
    · exact List.mem_cons_of_mem _ (mem_of_lookup?_eq_some h)

end PageGuard.Json
