import PageGuard.Json.Basic

/-!
# Structures in JSON

A structure is written as an object, or as the array of its fields in their declared order, of
which the last may be left out.  `fieldValues?` gives the values of the fields in either form; a
field that is given twice is an error, and a member with another name is ignored.
-/

namespace PageGuard.Json

/-- Whether a name is the name of two or more members. -/
def repeated (name : String) (members : List (String × Value)) : Bool :=
  (members.filter fun m => m.1 = name).length > 1

/-- The values of the named fields, each absent when it is not given. -/
def fieldValues? (names : List String) : Value → Option (List (Option Value))
  | .object members =>
    if names.any fun n => repeated n members then none
    else some (names.map fun n => lookup? n members)
  | .array items =>
    if items.length ≤ names.length then
      some (items.map some ++ List.replicate (names.length - items.length) none)
    else none
  | _ => none

/-- A required field. -/
def required? {α : Type} (decode : Value → Option α) (field : Option Value) : Option α :=
  field.bind decode

/-- A field with a value for its absence. -/
def withDefault? {α : Type} (fallback : α) (decode : Value → Option α) :
    Option Value → Option α
  | none => some fallback
  | some v => decode v

/-- A value that may be null. -/
def nullable? {α : Type} (decode : Value → Option α) : Value → Option (Option α)
  | .null => some none
  | v => (decode v).map some

/-- All items of an array, each decoded. -/
def listOf? {α : Type} (decode : Value → Option α) : Value → Option (List α)
  | .array items => items.mapM decode
  | _ => none

/-- All members of an object, each decoded. -/
def membersOf? {α : Type} (decode : Value → Option α) : Value → Option (List (String × α))
  | .object members => members.mapM fun (k, v) => (decode v).map (k, ·)
  | _ => none

/-- The members that are present. -/
def objectOf (members : List (String × Option Value)) : Value :=
  .object (members.filterMap fun (k, v) => v.map (k, ·))

/-! ## Ignored members

A member that a structure ignores may hold what has no value: a number out of range, half of a
surrogate pair, or a nesting of any depth.  Dropping such members from a text comes before taking
its value. -/

/-- An object without the members of other names, or an array, with the field of each name
changed. -/
def Tree.restrict (fields : List (String × (Tree → Tree))) : Tree → Tree
  | .object members =>
    .object <| members.filterMap fun (name, t) =>
      match name with
      | none => some (name, t)
      | some k => (fields.find? fun f => f.1 = k).map fun f => (name, f.2 t)
  | .array items =>
    .array (items.zipIdx.map fun (t, i) => (fields[i]?.map fun f => f.2 t).getD t)
  | t => t

end PageGuard.Json
