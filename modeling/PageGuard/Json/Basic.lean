import PageGuard.Json.Double

/-!
# JSON values

`Value` is a JSON value whose object members stand in a list, in order.  `Value.sorted` is the
form in which members are ordered by name and a later member replaces an earlier one of the same
name.

`Tree` is a JSON text that is known to be well formed but not yet to have a value: a number may
be too large and a string may hold half of a surrogate pair.  `Tree.value?` gives the value.
-/

namespace PageGuard.Json

/-- A number: a whole number of 64 bits, or a binary64 value. -/
inductive Number where
  | int (n : Int)
  | double (d : Double)
deriving DecidableEq

/-- A JSON value. -/
inductive Value where
  | null
  | bool (b : Bool)
  | number (n : Number)
  | string (s : String)
  | array (items : List Value)
  | object (members : List (String × Value))
deriving Inhabited

/-- A well-formed JSON text.  A number is absent when it is out of range, a string when it holds
half of a surrogate pair. -/
inductive Tree where
  | null
  | bool (b : Bool)
  | number (n : Option Number)
  | string (s : Option String)
  | array (items : List Tree)
  | object (members : List (Option String × Tree))
deriving Inhabited

/-! ## Equality of values -/

mutual

/-- Equality test on values. -/
def Value.same : Value → Value → Bool
  | .null, .null => true
  | .bool a, .bool b => a == b
  | .number a, .number b => a == b
  | .string a, .string b => a == b
  | .array a, .array b => Value.sameItems a b
  | .object a, .object b => Value.sameMembers a b
  | _, _ => false

/-- Equality test on items. -/
def Value.sameItems : List Value → List Value → Bool
  | [], [] => true
  | a :: as, b :: bs => Value.same a b && Value.sameItems as bs
  | _, _ => false

/-- Equality test on members. -/
def Value.sameMembers : List (String × Value) → List (String × Value) → Bool
  | [], [] => true
  | (k, a) :: as, (l, b) :: bs => k == l && (Value.same a b && Value.sameMembers as bs)
  | _, _ => false

end

mutual

theorem Value.same_iff : ∀ a b : Value, Value.same a b = true ↔ a = b
  | .null, b => by cases b <;> simp [Value.same]
  | .bool a, b => by cases b <;> simp [Value.same]
  | .number a, b => by cases b <;> simp [Value.same]
  | .string a, b => by cases b <;> simp [Value.same]
  | .array a, b => by
    cases b with
    | array b => simp [Value.same, Value.sameItems_iff a b]
    | _ => simp [Value.same]
  | .object a, b => by
    cases b with
    | object b => simp [Value.same, Value.sameMembers_iff a b]
    | _ => simp [Value.same]

theorem Value.sameItems_iff : ∀ a b : List Value, Value.sameItems a b = true ↔ a = b
  | [], b => by cases b <;> simp [Value.sameItems]
  | a :: as, b => by
    cases b with
    | nil => simp [Value.sameItems]
    | cons b bs => simp [Value.sameItems, Value.same_iff a b, Value.sameItems_iff as bs]

theorem Value.sameMembers_iff :
    ∀ a b : List (String × Value), Value.sameMembers a b = true ↔ a = b
  | [], b => by cases b <;> simp [Value.sameMembers]
  | (k, a) :: as, b => by
    cases b with
    | nil => simp [Value.sameMembers]
    | cons b bs =>
      obtain ⟨l, b⟩ := b
      simp [Value.sameMembers, Value.same_iff a b, Value.sameMembers_iff as bs, and_assoc]

end

instance : DecidableEq Value := fun a b => decidable_of_iff _ (Value.same_iff a b)

/-! ## Members -/

/-- The value of the first member of this name. -/
def lookup? (name : String) : List (String × Value) → Option Value
  | [] => none
  | (k, v) :: rest => if k = name then some v else lookup? name rest

/-- The member of this name in an object. -/
def Value.get? (name : String) : Value → Option Value
  | .object members => lookup? name members
  | _ => none

/-- The text of a string value. -/
def Value.string? : Value → Option String
  | .string s => some s
  | _ => none

/-- The truth value of a boolean. -/
def Value.bool? : Value → Option Bool
  | .bool b => some b
  | _ => none

/-- The items of an array. -/
def Value.items? : Value → Option (List Value)
  | .array items => some items
  | _ => none

/-! ## Sorted objects -/

/-- Places a member by its name among sorted members; a member of the same name is replaced. -/
def placeMember (k : String) (v : Value) : List (String × Value) → List (String × Value)
  | [] => [(k, v)]
  | (l, w) :: rest =>
    if k < l then (k, v) :: (l, w) :: rest
    else if k = l then (k, v) :: rest
    else (l, w) :: placeMember k v rest

mutual

/-- A value with the members of each object sorted by name, the last of each name kept. -/
def Value.sorted : Value → Value
  | .array items => .array (Value.sortedItems items)
  | .object members => .object (Value.sortedMembers members [])
  | v => v

/-- The items of an array, each sorted. -/
def Value.sortedItems : List Value → List Value
  | [] => []
  | v :: rest => v.sorted :: Value.sortedItems rest

/-- Places members one after the other into sorted ones. -/
def Value.sortedMembers : List (String × Value) → List (String × Value) → List (String × Value)
  | [], done => done
  | (k, v) :: rest, done => Value.sortedMembers rest (placeMember k v.sorted done)

end

/-! ## The value of a text -/

/-- The deepest nesting of arrays and objects that has a value. -/
def maxDepth : Nat := 127

mutual

/-- The value of a tree nested at most `depth` deep. -/
def Tree.valueWithin? (depth : Nat) : Tree → Option Value
  | .null => some .null
  | .bool b => some (.bool b)
  | .number n => n.map .number
  | .string s => s.map .string
  | .array items =>
    match depth with
    | 0 => none
    | d + 1 => (Tree.itemsWithin? d items).map .array
  | .object members =>
    match depth with
    | 0 => none
    | d + 1 => (Tree.membersWithin? d members).map .object

/-- The values of all items. -/
def Tree.itemsWithin? (depth : Nat) : List Tree → Option (List Value)
  | [] => some []
  | t :: rest => do
    let v ← Tree.valueWithin? depth t
    let vs ← Tree.itemsWithin? depth rest
    return v :: vs

/-- The values of all members. -/
def Tree.membersWithin? (depth : Nat) :
    List (Option String × Tree) → Option (List (String × Value))
  | [] => some []
  | (name, t) :: rest => do
    let k ← name
    let v ← Tree.valueWithin? depth t
    let vs ← Tree.membersWithin? depth rest
    return (k, v) :: vs

end

/-- The value of a text whose numbers are in range, whose strings are whole and whose nesting is
at most `maxDepth` deep. -/
def Tree.value? (t : Tree) : Option Value := t.valueWithin? maxDepth

end PageGuard.Json
