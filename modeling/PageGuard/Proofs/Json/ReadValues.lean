import PageGuard.Proofs.Json.Numerals
import PageGuard.Proofs.Json.Values

/-!
# Values that were read

A text has a value only when it is not nested too deep, and a number of such a value is one that
the reader makes.

* `Tree.Gives`: the trees whose value, if they have one, holds numbers of a kind only.
* `gives_of_readTree?`: the reader makes such trees.
* `within_of_ofText?`: the value of a text is not too deep, and its numbers are whole ones of 64
  bits or binary64 values.
-/

namespace PageGuard.Json

/-! ## The values of trees -/

/-- Trees whose value within any depth is within this depth, with numbers of a kind. -/
def Tree.Gives (P : Number → Prop) (t : Tree) : Prop :=
  ∀ d v, t.valueWithin? d = some v → v.Within P d

theorem mem_of_itemsWithin? {d : Nat} :
    ∀ {ts : List Tree} {vs : List Value}, Tree.itemsWithin? d ts = some vs →
      ∀ v ∈ vs, ∃ t ∈ ts, t.valueWithin? d = some v
  | [], _, h => by
    rw [← Option.some.inj h]
    exact List.forall_mem_nil _
  | t :: ts, _, h => by
    simp only [Tree.itemsWithin?, Option.bind_eq_bind, Option.bind_eq_some_iff] at h
    obtain ⟨v, hv, vs, hvs, heq⟩ := h
    rw [← Option.some.inj heq, List.forall_mem_cons]
    refine ⟨⟨t, List.mem_cons_self .., hv⟩, fun w hw => ?_⟩
    obtain ⟨u, hu, hvalue⟩ := mem_of_itemsWithin? hvs w hw
    exact ⟨u, List.mem_cons_of_mem t hu, hvalue⟩

theorem mem_of_membersWithin? {d : Nat} :
    ∀ {ms : List (Option String × Tree)} {vs : List (String × Value)},
      Tree.membersWithin? d ms = some vs → ∀ p ∈ vs, ∃ m ∈ ms, m.2.valueWithin? d = some p.2
  | [], _, h => by
    rw [← Option.some.inj h]
    exact List.forall_mem_nil _
  | (name, t) :: ms, _, h => by
    simp only [Tree.membersWithin?, Option.bind_eq_bind, Option.bind_eq_some_iff] at h
    obtain ⟨k, -, v, hv, vs, hvs, heq⟩ := h
    rw [← Option.some.inj heq, List.forall_mem_cons]
    refine ⟨⟨(name, t), List.mem_cons_self .., hv⟩, fun p hp => ?_⟩
    obtain ⟨m, hm, hvalue⟩ := mem_of_membersWithin? hvs p hp
    exact ⟨m, List.mem_cons_of_mem _ hm, hvalue⟩

namespace Tree

variable {P : Number → Prop}

theorem gives_null : Tree.null.Gives P := by
  intro d v h
  rw [valueWithin?] at h
  obtain rfl := Option.some.inj h
  exact Value.within_leaf rfl rfl

theorem gives_bool (b : Bool) : (Tree.bool b).Gives P := by
  intro d v h
  rw [valueWithin?] at h
  obtain rfl := Option.some.inj h
  exact Value.within_leaf rfl rfl

theorem gives_string (s : Option String) : (Tree.string s).Gives P := by
  intro d v h
  rw [valueWithin?] at h
  obtain ⟨s, -, rfl⟩ := Option.map_eq_some_iff.1 h
  exact Value.within_leaf rfl rfl

theorem gives_number {n : Option Number} (hn : ∀ m, n = some m → P m) : (Tree.number n).Gives P := by
  intro d v h
  rw [valueWithin?] at h
  obtain ⟨m, hm, rfl⟩ := Option.map_eq_some_iff.1 h
  exact ⟨List.forall_mem_singleton.2 (hn m hm), Nat.zero_le d⟩

theorem gives_array {items : List Tree} (hitems : ∀ t ∈ items, t.Gives P) :
    (Tree.array items).Gives P := by
  intro d v h
  cases d with
  | zero =>
    rw [valueWithin?] at h
    cases h
  | succ d =>
    rw [valueWithin?] at h
    obtain ⟨vs, hvs, rfl⟩ := Option.map_eq_some_iff.1 h
    refine Value.within_array.2 fun v hv => ?_
    obtain ⟨t, ht, hvalue⟩ := mem_of_itemsWithin? hvs v hv
    exact hitems t ht d v hvalue

theorem gives_object {members : List (Option String × Tree)}
    (hmembers : ∀ m ∈ members, m.2.Gives P) : (Tree.object members).Gives P := by
  intro d v h
  cases d with
  | zero =>
    rw [valueWithin?] at h
    cases h
  | succ d =>
    rw [valueWithin?] at h
    obtain ⟨vs, hvs, rfl⟩ := Option.map_eq_some_iff.1 h
    refine Value.within_object.2 fun p hp => ?_
    obtain ⟨m, hm, hvalue⟩ := mem_of_membersWithin? hvs p hp
    exact hmembers m hm d p.2 hvalue

end Tree

/-! ## Reading -/

/-- The numbers that the reader makes. -/
def Number.Made (n : Number) : Prop := n.Whole ∨ ∃ d, n = .double d

theorem gives_of_readWord? {word : List Char} {t u : Tree} {cs rest : List Char}
    (ht : t.Gives Number.Made) (h : readWord? word t cs = some (u, rest)) :
    u.Gives Number.Made := by
  rw [readWord?] at h
  split_ifs at h
  rwa [← (Prod.mk.inj (Option.some.inj h)).1]

mutual

/-- **The reader makes numbers of its kinds only.** -/
theorem gives_of_readTree? : ∀ {fuel : Nat} {cs : List Char} {t : Tree} {rest : List Char},
    readTree? fuel cs = some (t, rest) → t.Gives Number.Made
  | 0, _, _, _, h => by cases h
  | _ + 1, [], _, _, h => by cases h
  | fuel + 1, c :: cs, t, rest, h => by
    rw [readTree?] at h
    split_ifs at h
    · obtain ⟨⟨s, r⟩, -, heq⟩ := Option.bind_eq_some_iff.1 h
      obtain ⟨rfl, -⟩ := Prod.mk.inj (Option.some.inj heq)
      exact Tree.gives_string s
    · split at h
      · obtain ⟨rfl, -⟩ := Prod.mk.inj (Option.some.inj h)
        exact Tree.gives_array (List.forall_mem_nil _)
      · obtain ⟨⟨items, r⟩, hitems, heq⟩ := Option.bind_eq_some_iff.1 h
        obtain ⟨rfl, -⟩ := Prod.mk.inj (Option.some.inj heq)
        exact Tree.gives_array (gives_of_readItems? hitems)
    · split at h
      · obtain ⟨rfl, -⟩ := Prod.mk.inj (Option.some.inj h)
        exact Tree.gives_object (List.forall_mem_nil _)
      · obtain ⟨⟨members, r⟩, hmembers, heq⟩ := Option.bind_eq_some_iff.1 h
        obtain ⟨rfl, -⟩ := Prod.mk.inj (Option.some.inj heq)
        exact Tree.gives_object (gives_of_readMembers? hmembers)
    · exact gives_of_readWord? (Tree.gives_bool true) h
    · exact gives_of_readWord? (Tree.gives_bool false) h
    · exact gives_of_readWord? Tree.gives_null h
    · obtain ⟨⟨n, r⟩, -, heq⟩ := Option.bind_eq_some_iff.1 h
      obtain ⟨rfl, -⟩ := Prod.mk.inj (Option.some.inj heq)
      exact Tree.gives_number fun m hm => Number.whole_of_number? hm

theorem gives_of_readItems? :
    ∀ {fuel : Nat} {cs : List Char} {items : List Tree} {rest : List Char},
      readItems? fuel cs = some (items, rest) → ∀ t ∈ items, t.Gives Number.Made
  | 0, _, _, _, h => by cases h
  | fuel + 1, cs, items, rest, h => by
    rw [readItems?] at h
    obtain ⟨⟨item, r⟩, hitem, h⟩ := Option.bind_eq_some_iff.1 h
    have hfirst := gives_of_readTree? hitem
    dsimp only at h
    split at h
    · obtain ⟨rfl, -⟩ := Prod.mk.inj (Option.some.inj h)
      exact List.forall_mem_singleton.2 hfirst
    · obtain ⟨⟨others, r⟩, hothers, heq⟩ := Option.bind_eq_some_iff.1 h
      obtain ⟨rfl, -⟩ := Prod.mk.inj (Option.some.inj heq)
      exact List.forall_mem_cons.2 ⟨hfirst, gives_of_readItems? hothers⟩
    · cases h

theorem gives_of_readMembers? :
    ∀ {fuel : Nat} {cs : List Char} {members : List (Option String × Tree)} {rest : List Char},
      readMembers? fuel cs = some (members, rest) → ∀ m ∈ members, m.2.Gives Number.Made
  | 0, _, _, _, h => by cases h
  | fuel + 1, cs, members, rest, h => by
    unfold readMembers? at h
    split at h
    · obtain ⟨⟨name, r⟩, -, h⟩ := Option.bind_eq_some_iff.1 h
      dsimp only at h
      split at h
      · obtain ⟨⟨item, r⟩, hitem, h⟩ := Option.bind_eq_some_iff.1 h
        have hfirst := gives_of_readTree? hitem
        dsimp only at h
        split at h
        · obtain ⟨rfl, -⟩ := Prod.mk.inj (Option.some.inj h)
          exact List.forall_mem_singleton.2 hfirst
        · obtain ⟨⟨others, r⟩, hothers, heq⟩ := Option.bind_eq_some_iff.1 h
          obtain ⟨rfl, -⟩ := Prod.mk.inj (Option.some.inj heq)
          exact List.forall_mem_cons.2 ⟨hfirst, gives_of_readMembers? hothers⟩
        · cases h
      · cases h
    · cases h

end

/-- **The value of a text is not too deep, and its numbers are those that the reader makes.** -/
theorem within_of_ofText? {text : String} {v : Value} (h : Value.ofText? text = some v) :
    v.Within Number.Made maxDepth := by
  obtain ⟨t, ht, hvalue⟩ := Option.bind_eq_some_iff.1 h
  rw [Tree.ofText?] at ht
  split at ht
  · rename_i hread
    split_ifs at ht
    obtain rfl := Option.some.inj ht
    exact gives_of_readTree? hread maxDepth v hvalue
  · cases ht

end PageGuard.Json
