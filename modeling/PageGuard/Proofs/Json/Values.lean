import PageGuard.Json.Basic
import Mathlib.Order.Lattice

/-!
# What a JSON value holds

A value is a tree of lists and objects, with numbers among its leaves.  Reading and writing it
depends on how deep it is and on these numbers.

* `Value.induct`: induction on values, with one case for the items of a list and one for the
  members of an object.
* `Value.Within`: the values whose numbers all have a property and that are nested at most so deep.
* `Value.within_array`, `Value.within_object`: a list or an object adds one level.
-/

namespace PageGuard.Json

/-! ## Induction on values -/

/-- **Induction on values.** -/
@[elab_as_elim]
theorem Value.induct {motive : Value → Prop} (null : motive .null) (bool : ∀ b, motive (.bool b))
    (number : ∀ n, motive (.number n)) (string : ∀ s, motive (.string s))
    (array : ∀ vs, (∀ v ∈ vs, motive v) → motive (.array vs))
    (object : ∀ ms, (∀ p ∈ ms, motive p.2) → motive (.object ms)) (v : Value) : motive v :=
  @Value.rec motive (fun vs => ∀ v ∈ vs, motive v) (fun ms => ∀ p ∈ ms, motive p.2)
    (fun p => motive p.2) null bool number string array object
    (List.forall_mem_nil _) (fun _ _ hv hvs => List.forall_mem_cons.2 ⟨hv, hvs⟩)
    (List.forall_mem_nil _) (fun _ _ hp hms => List.forall_mem_cons.2 ⟨hp, hms⟩)
    (fun _ _ hv => hv) v

/-! ## Depth and numbers -/

mutual

/-- How deep arrays and objects are nested in a value. -/
def Value.depth : Value → Nat
  | .array items => Value.depthOf items + 1
  | .object members => Value.memberDepth members + 1
  | _ => 0

/-- The depth of the deepest item. -/
def Value.depthOf : List Value → Nat
  | [] => 0
  | v :: rest => max v.depth (Value.depthOf rest)

/-- The depth of the deepest member. -/
def Value.memberDepth : List (String × Value) → Nat
  | [] => 0
  | (_, v) :: rest => max v.depth (Value.memberDepth rest)

end

mutual

/-- Whether a value holds no number at any depth. -/
def Value.numberless : Value → Bool
  | .number _ => false
  | .array items => Value.allNumberless items
  | .object members => Value.membersNumberless members
  | _ => true

/-- Whether items hold no number at any depth. -/
def Value.allNumberless : List Value → Bool
  | [] => true
  | v :: rest => v.numberless && Value.allNumberless rest

/-- Whether members hold no number at any depth. -/
def Value.membersNumberless : List (String × Value) → Bool
  | [] => true
  | (_, v) :: rest => v.numberless && Value.membersNumberless rest

end

mutual

/-- The numbers in a value, in the order in which they are written. -/
def Value.numbers : Value → List Number
  | .number n => [n]
  | .array items => Value.numbersOf items
  | .object members => Value.memberNumbers members
  | _ => []

/-- The numbers in items. -/
def Value.numbersOf : List Value → List Number
  | [] => []
  | v :: rest => v.numbers ++ Value.numbersOf rest

/-- The numbers in members. -/
def Value.memberNumbers : List (String × Value) → List Number
  | [] => []
  | (_, v) :: rest => v.numbers ++ Value.memberNumbers rest

end

theorem Value.depthOf_le_iff {n : Nat} :
    ∀ {vs : List Value}, Value.depthOf vs ≤ n ↔ ∀ v ∈ vs, v.depth ≤ n
  | [] => iff_of_true (Nat.zero_le n) (List.forall_mem_nil _)
  | v :: vs => by rw [depthOf, Nat.max_le, depthOf_le_iff, List.forall_mem_cons]

theorem Value.memberDepth_le_iff {n : Nat} :
    ∀ {ms : List (String × Value)}, Value.memberDepth ms ≤ n ↔ ∀ p ∈ ms, p.2.depth ≤ n
  | [] => iff_of_true (Nat.zero_le n) (List.forall_mem_nil _)
  | (_, v) :: ms => by rw [memberDepth, Nat.max_le, memberDepth_le_iff, List.forall_mem_cons]

theorem Value.forall_numbersOf {P : Number → Prop} :
    ∀ {vs : List Value}, (∀ n ∈ Value.numbersOf vs, P n) ↔ ∀ v ∈ vs, ∀ n ∈ v.numbers, P n
  | [] => iff_of_true (List.forall_mem_nil _) (List.forall_mem_nil _)
  | v :: vs => by rw [numbersOf, List.forall_mem_append, forall_numbersOf, List.forall_mem_cons]

theorem Value.forall_memberNumbers {P : Number → Prop} :
    ∀ {ms : List (String × Value)},
      (∀ n ∈ Value.memberNumbers ms, P n) ↔ ∀ p ∈ ms, ∀ n ∈ p.2.numbers, P n
  | [] => iff_of_true (List.forall_mem_nil _) (List.forall_mem_nil _)
  | (_, v) :: ms => by
    rw [memberNumbers, List.forall_mem_append, forall_memberNumbers, List.forall_mem_cons]

/-! ## Bounded values -/

/-- Values whose numbers all have a property, nested at most `n` deep. -/
def Value.Within (P : Number → Prop) (n : Nat) (v : Value) : Prop :=
  (∀ m ∈ v.numbers, P m) ∧ v.depth ≤ n

variable {P : Number → Prop} {n : Nat}

namespace Value

/-- A list adds one level to its items. -/
theorem within_array {vs : List Value} :
    (Value.array vs).Within P (n + 1) ↔ ∀ v ∈ vs, v.Within P n := by
  rw [Within, numbers, depth, Nat.add_le_add_iff_right, forall_numbersOf, depthOf_le_iff]
  exact forall₂_and.symm

/-- An object adds one level to its members. -/
theorem within_object {ms : List (String × Value)} :
    (Value.object ms).Within P (n + 1) ↔ ∀ p ∈ ms, p.2.Within P n := by
  rw [Within, numbers, depth, Nat.add_le_add_iff_right, forall_memberNumbers, memberDepth_le_iff]
  exact forall₂_and.symm

/-- A value that is no list, no object and no number is within any bounds. -/
theorem within_leaf {v : Value} (hnumbers : v.numbers = []) (hdepth : v.depth = 0) :
    v.Within P n := by
  rw [Within, hnumbers, hdepth]
  exact ⟨List.forall_mem_nil _, Nat.zero_le n⟩

theorem Within.mono {m : Nat} (h : n ≤ m) {v : Value} (hv : v.Within P n) : v.Within P m :=
  ⟨hv.1, hv.2.trans h⟩

/-- A list is deeper than its items. -/
theorem Within.of_array {vs : List Value} (h : (Value.array vs).Within P n) :
    ∃ k, n = k + 1 ∧ ∀ v ∈ vs, v.Within P k := by
  obtain ⟨k, rfl⟩ := Nat.exists_eq_add_of_le' (Nat.one_le_of_lt h.2)
  exact ⟨k, rfl, within_array.1 h⟩

/-- An object is deeper than its members. -/
theorem Within.of_object {ms : List (String × Value)} (h : (Value.object ms).Within P n) :
    ∃ k, n = k + 1 ∧ ∀ p ∈ ms, p.2.Within P k := by
  obtain ⟨k, rfl⟩ := Nat.exists_eq_add_of_le' (Nat.one_le_of_lt h.2)
  exact ⟨k, rfl, within_object.1 h⟩

end Value

/-! ## Values without numbers -/

/-- Values without numbers, nested at most `n` deep. -/
def Value.Readable (n : Nat) (v : Value) : Prop := v.numberless = true ∧ v.depth ≤ n

theorem Value.allNumberless_iff :
    ∀ {vs : List Value}, Value.allNumberless vs = true ↔ ∀ v ∈ vs, v.numberless = true
  | [] => iff_of_true rfl (List.forall_mem_nil _)
  | v :: vs => by
    rw [allNumberless, Bool.and_eq_true, allNumberless_iff, List.forall_mem_cons]

theorem Value.membersNumberless_iff :
    ∀ {ms : List (String × Value)},
      Value.membersNumberless ms = true ↔ ∀ p ∈ ms, p.2.numberless = true
  | [] => iff_of_true rfl (List.forall_mem_nil _)
  | (_, v) :: ms => by
    rw [membersNumberless, Bool.and_eq_true, membersNumberless_iff, List.forall_mem_cons]

/-- A value without numbers is one of whose numbers nothing is asked. -/
theorem Value.numberless_iff (v : Value) :
    v.numberless = true ↔ ∀ n ∈ v.numbers, False := by
  induction v using Value.induct with
  | null => exact iff_of_true rfl (List.forall_mem_nil _)
  | bool b => exact iff_of_true rfl (List.forall_mem_nil _)
  | number n => exact iff_of_false Bool.false_ne_true fun h => h n (List.mem_singleton_self n)
  | string s => exact iff_of_true rfl (List.forall_mem_nil _)
  | array vs ih =>
    rw [numberless, numbers, allNumberless_iff, forall_numbersOf]
    exact forall₂_congr ih
  | object ms ih =>
    rw [numberless, numbers, membersNumberless_iff, forall_memberNumbers]
    exact forall₂_congr ih

theorem Value.readable_iff {v : Value} : v.Readable n ↔ v.Within (fun _ => False) n :=
  and_congr_left' v.numberless_iff

theorem Value.Readable.within {v : Value} (h : v.Readable n) : v.Within P n :=
  ⟨fun m hm => (v.numberless_iff.1 h.1 m hm).elim, h.2⟩

namespace Value.Readable

theorem mono {m : Nat} (h : n ≤ m) {v : Value} (hv : v.Readable n) : v.Readable m :=
  ⟨hv.1, Nat.le_trans hv.2 h⟩

theorem null : Value.null.Readable n := ⟨rfl, Nat.zero_le n⟩

theorem bool (b : Bool) : (Value.bool b).Readable n := ⟨rfl, Nat.zero_le n⟩

theorem string (s : String) : (Value.string s).Readable n := ⟨rfl, Nat.zero_le n⟩

/-- A list adds one level to its items. -/
theorem array {vs : List Value} (h : ∀ v ∈ vs, v.Readable n) : (Value.array vs).Readable (n + 1) :=
  readable_iff.2 (within_array.2 fun v hv => readable_iff.1 (h v hv))

/-- An object adds one level to its members. -/
theorem object {ms : List (String × Value)} (h : ∀ p ∈ ms, p.2.Readable n) :
    (Value.object ms).Readable (n + 1) :=
  readable_iff.2 (within_object.2 fun p hp => readable_iff.1 (h p hp))

end Value.Readable

end PageGuard.Json
